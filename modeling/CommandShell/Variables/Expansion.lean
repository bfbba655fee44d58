import CommandShell.Text.Alphanumeric
import CommandShell.Variables

/-!
# Expanding references in a line

The line is expanded before it is read as tokens, quotes or not. Every `$?` is replaced first by the
last status. Then `$$` is a dollar sign, `$NAME` takes the longest name that follows, and the braces of
a braced reference may give a default after `:-`. A reference to a name that is not defined stays as
it is written, and what was inserted is not read again.
-/

set_option autoImplicit false

namespace CommandShell

def Text.isReferenceChar (c : Char) : Bool := Text.isAlphanumeric c || c == '_'

namespace Variables

def insertStatus (status : List Char) : List Char → List Char
  | '$' :: '?' :: rest => status ++ insertStatus status rest
  | c :: rest => c :: insertStatus status rest
  | [] => []

/-- The text between braces, cut into a name and a default. The default follows the first `:-`, unless
that stands at the very beginning. -/
def cutDefault : List Char → List Char × Option (List Char)
  | ':' :: '-' :: rest => (':' :: '-' :: rest, none)
  | body => go [] body
where
  go (name : List Char) : List Char → List Char × Option (List Char)
    | ':' :: '-' :: rest => (name.reverse, some rest)
    | c :: rest => go (c :: name) rest
    | [] => (name.reverse, none)

def expandBraced (lookup : String → Option String) (body : List Char) : List Char :=
  let (name, fallback) := cutDefault body
  match lookup (String.ofList name), fallback with
  | some value, _ => value.toList
  | none, some text => text
  | none, none => ['$', '{'] ++ body ++ ['}']

def expandNamed (lookup : String → Option String) (name : List Char) : List Char :=
  match lookup (String.ofList name) with
  | some value => value.toList
  | none => '$' :: name

def expandFrom (lookup : String → Option String) : List Char → List Char
  | [] => []
  | '$' :: '$' :: rest => '$' :: expandFrom lookup rest
  | '$' :: '{' :: rest =>
    if rest.contains '}' then
      expandBraced lookup (rest.takeWhile (· != '}'))
        ++ expandFrom lookup ((rest.dropWhile (· != '}')).drop 1)
    else '$' :: '{' :: expandFrom lookup rest
  | '$' :: rest =>
    match rest.takeWhile Text.isReferenceChar with
    | [] => '$' :: expandFrom lookup rest
    | name => expandNamed lookup name ++ expandFrom lookup (rest.dropWhile Text.isReferenceChar)
  | c :: rest => c :: expandFrom lookup rest
termination_by line => line.length
decreasing_by
  all_goals simp only [List.length_cons, List.length_drop]
  · omega
  · have := (List.dropWhile_sublist (fun c : Char => c != '}') (l := rest)).length_le
    omega
  · omega
  · omega
  · have := (List.dropWhile_sublist Text.isReferenceChar (l := rest)).length_le
    omega
  · omega

def expand (vars : Variables) (line : String) : String :=
  String.ofList (expandFrom vars.get? (insertStatus (toString vars.status).toList line.toList))

/-- A path whose leading `~` stands for the home directory. A `~` that begins a longer name does not. -/
def expandTilde (home : Option String) (path : String) : String :=
  match path.toList, home with
  | ['~'], some home => home
  | '~' :: '/' :: rest, some home => home ++ String.ofList ('/' :: rest)
  | _, _ => path

end Variables

end CommandShell
