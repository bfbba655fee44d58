import CommandShell.Program

/-!
# Tools

A tool is a program that the machine brings. It is started with its arguments, its own name first, and
with an environment, and leaves with a status.
-/

set_option autoImplicit false

namespace CommandShell

structure Invocation where
  name : String
  arguments : List String
  environment : Variables

abbrev Tool := Invocation → Program Unit

namespace Program

def leave {α : Type} (status : Int) : Program α := call (.exit status) nofun

end Program

namespace Invocation

def complain (inv : Invocation) (text : String) : Program Unit :=
  Program.remark (inv.name ++ ": " ++ text)

def fail (inv : Invocation) (text : String) (status : Int) : Program Unit := do
  inv.complain text
  Program.leave status

def hint (inv : Invocation) : Program Unit :=
  Program.remark ("Try '" ++ inv.name ++ " --help' for more information.")

def misuse (inv : Invocation) (text : String) (status : Int) : Program Unit := do
  inv.complain text
  inv.hint
  Program.leave status

def invalidOption (inv : Invocation) (option : Char) (status : Int) : Program Unit :=
  inv.misuse ("invalid option -- '" ++ option.toString ++ "'") status

def putOr (refused : Errno → Program Unit) (bytes : ByteArray) : Program Unit := do
  if bytes.isEmpty then return
  match ← Program.perform (.write 1 bytes) with
  | .ok () => return
  | .error e => refused e

def put (inv : Invocation) (bytes : ByteArray) (status : Int := 1) : Program Unit :=
  putOr (fun e => inv.fail ("write error: " ++ e.systemText) status) bytes

def putText (inv : Invocation) (text : String) (status : Int := 1) : Program Unit :=
  inv.put text.toUTF8 status

/-- The size of a block that is written at once; shorter output waits until the tool leaves. -/
def blockSize : Nat := 4096

/-- Writes a part of an input: what fills a block fails under the name of the output. -/
def putPart (inv : Invocation) (bytes : ByteArray) : Program Unit :=
  putOr (fun e =>
    let what := if bytes.size < blockSize then "write error: " else "error writing 'standard output': "
    inv.fail (what ++ e.systemText) 1) bytes

/-- The content of each input, in order, with whether all could be read. Without a name, and for a
dash, the standard input is read. -/
def readInputs (inv : Invocation) (describe : String → Errno → String) :
    List String → Program (List (String × ByteArray) × Bool)
  | [] => return ([], true)
  | name :: rest => do
    let content ← if name = "-" then Program.perform (.gather 0 .all) else Program.readFile name
    match content with
    | .ok content =>
      let (contents, fine) ← readInputs inv describe rest
      return ((name, content) :: contents, fine)
    | .error e =>
      inv.complain (describe name e)
      let (contents, _) ← readInputs inv describe rest
      return (contents, false)

end Invocation

/-- Options of one letter, cut off from the operands after them. An option whose letter is in
`valued` takes the rest of its word, or the next word, as its value. -/
structure Options where
  flags : List (Char × Option String) := []
  operands : List String := []
  deriving DecidableEq, Repr

namespace Options

def has (o : Options) (flag : Char) : Bool := o.flags.any fun f => f.1 == flag

def value? (o : Options) (flag : Char) : Option String :=
  ((o.flags.reverse.find? fun f => f.1 == flag).bind (·.2))

/-- The options in one word, after its dash; `none` asks for the next word as a value. -/
def ofWord (plain valued : List Char) :
    List Char → Except Char (List (Char × Option String) × Option Char)
  | [] => .ok ([], none)
  | c :: rest =>
    if valued.contains c then
      if rest.isEmpty then .ok ([], some c) else .ok ([(c, some (String.ofList rest))], none)
    else if plain.contains c then
      (ofWord plain valued rest).map fun (flags, pending) => ((c, none) :: flags, pending)
    else .error c

def parse (plain valued : List Char) : List String → Except Char Options
  | [] => .ok {}
  | word :: rest =>
    if word = "--" then .ok { operands := rest }
    else match word.toList with
      | '-' :: c :: letters =>
        match ofWord plain valued (c :: letters) with
        | .error c => .error c
        | .ok (flags, none) =>
          (parse plain valued rest).map fun o => { o with flags := flags ++ o.flags }
        | .ok (flags, some c) =>
          match rest with
          | [] => .ok { flags := flags ++ [(c, none)] }
          | value :: rest =>
            (parse plain valued rest).map fun o =>
              { o with flags := flags ++ (c, some value) :: o.flags }
      | _ => (parse plain valued rest).map fun o => { o with operands := word :: o.operands }

end Options

end CommandShell
