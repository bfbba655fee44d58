import CommandShell.Text.Blank
import CommandShell.Text.Utf8

/-!
# The history of lines

The last hundred lines that were entered, oldest first. A line that begins with a blank is private and
is not kept, and neither is one that repeats the line before it. The file starts with a version mark,
and a backslash or a line end inside a line is written with a backslash; a file without the mark holds
its lines as they are.
-/

set_option autoImplicit false

namespace CommandShell

structure History where
  lines : List String := []
  /-- How many of the lines are newer than the file. -/
  fresh : Nat := 0
  deriving DecidableEq, Repr

namespace History

def capacity : Nat := 100

def ignores (history : History) (line : String) : Bool :=
  (line.toList.head?.all Text.isBlank) || history.lines.getLast? == some line

def add (history : History) (line : String) : History :=
  if history.ignores line then history
  else
    let kept := history.lines.drop (history.lines.length + 1 - capacity)
    let lines := kept ++ [line]
    { lines, fresh := min (history.fresh + 1) lines.length }

def versionMark : String := "#V2"

def escape : List Char → List Char
  | [] => []
  | '\\' :: rest => '\\' :: '\\' :: escape rest
  | '\n' :: rest => '\\' :: 'n' :: escape rest
  | c :: rest => c :: escape rest

/-- Undoes the escapes; a backslash that begins none makes the line unreadable. -/
def unescape? : List Char → Option (List Char)
  | [] => some []
  | '\\' :: '\\' :: rest => (unescape? rest).map ('\\' :: ·)
  | '\\' :: 'n' :: rest => (unescape? rest).map ('\n' :: ·)
  | c :: rest => if c = '\\' then none else (unescape? rest).map (c :: ·)

def text (history : History) : String :=
  versionMark ++ "\n" ++
    String.join (history.lines.map fun line => String.ofList (escape line.toList) ++ "\n")

/-- Adds a line of a marked file. A line with a bad escape is kept as it is, and told. -/
def addEscaped (history : History) (line : String) : History × List String :=
  if line.isEmpty then (history, [])
  else match unescape? line.toList with
    | some chars => (history.add (String.ofList chars), [])
    | none => (history.add line, [line])

def ofLines : List String → History × List String
  | [] => ({}, [])
  | first :: rest =>
    if first = versionMark then
      rest.foldl (fun (history, bad) line =>
        let (history, more) := history.addEscaped line
        (history, bad ++ more)) ({}, [])
    else ((first :: rest).foldl add {}, [])

end History

end CommandShell
