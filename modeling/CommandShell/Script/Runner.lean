import CommandShell.Script
import CommandShell.Text.Decimal
import CommandShell.Tool

/-!
# The shell of a running script

A script runs in the process of its shell, which holds the variables, the arguments, the functions, the
status of the last command, the children in the background and the actions for signals. A variable that
came with the environment, or was exported, is handed on to programs.
-/

set_option autoImplicit false

namespace CommandShell.Script

/-- Commands that are passed over: to the end of some loops, which then go on or not, or to the end of a
function. -/
inductive Skip where
  | loops (count : Nat) (goesOn : Bool)
  | function
  deriving DecidableEq, Repr

structure Runner where
  /-- What the script was called by, for `$0` and for complaints. -/
  name : String
  arguments : List String := []
  vars : Variables := {}
  exported : List String := []
  fixed : List String := []
  functions : List (String × Script) := []
  /-- The options that are on, by their letters. -/
  options : List Char := []
  status : Int := 0
  /-- The status of the last command in a word of the command that is being run. -/
  substituted : Option Int := none
  /-- The process that `$$` names. -/
  process : Int
  jobs : List Int := []
  /-- The statuses of children that have been waited for. -/
  waited : List (Int × Int) := []
  /-- The actions for signals by number. The action for 0 is done when the script leaves, and a signal
  with an empty action is ignored. -/
  actions : List (Nat × String) := []
  /-- Signals that were found to be ignored from the start. -/
  deaf : List Signal := []
  skip : Option Skip := none
  /-- How many loops the command is in. -/
  loops : Nat := 0
  /-- For each function that is being run, what its own variables were before. -/
  hidden : List (List (String × Option String)) := []
  /-- How many descriptors are kept while redirections are in force. -/
  kept : Nat := 0
  /-- What the branches are about that are being tried. -/
  subject : String := ""

abbrev Task := StateT Runner Program

def perform (c : Call) : Task c.Reply := StateT.lift (Program.perform c)

def setStatus (status : Int) : Task Unit := modify fun r => { r with status }

def complain (line : Nat) (text : String) : Task Unit := do
  StateT.lift (Program.remark ((← get).name ++ ": " ++ toString line ++ ": " ++ text))

/-- What else a script does: after each command, before its process leaves, and for the commands in a
script, whose status may be only asked about, or in a text, which may be the last thing that its process
does. -/
structure Hooks where
  after : Task Unit := pure ()
  leaving : Task Unit := pure ()
  run : Bool → Script → Task Unit := fun _ _ => pure ()
  runText : Bool → String → Task Unit := fun _ _ => pure ()

namespace Hooks

def leave {α : Type} (hooks : Hooks) : Task α := do
  let status := (← get).status
  hooks.leaving
  StateT.lift (Program.leave status)

def fail {α : Type} (hooks : Hooks) (line : Nat) (text : String) : Task α := do
  complain line text
  setStatus 2
  hooks.leave

def setVariable (hooks : Hooks) (line : Nat) (name value : String) : Task Unit := do
  if (← get).fixed.contains name then hooks.fail line (name ++ ": is read only")
  else modify fun r => { r with
    vars := r.vars.set name value
    exported := if r.options.contains 'a' then name :: r.exported else r.exported }

end Hooks

namespace Runner

def environment (r : Runner) : Variables :=
  ⟨r.vars.entries.filter fun entry => r.exported.contains entry.1⟩

def isOn (r : Runner) (option : Char) : Bool := r.options.contains option

def value? (r : Runner) (name : String) : Option String :=
  match name with
  | "?" => some (toString r.status)
  | "$" => some (toString r.process)
  | "#" => some (toString r.arguments.length)
  | "!" => r.jobs.getLast?.map toString
  | "-" => some (String.ofList r.options)
  | "@" | "*" => if r.arguments.isEmpty then none else some (" ".intercalate r.arguments)
  | "0" => some r.name
  | name =>
    match Text.natural? name.toList with
    | some n => r.arguments[n - 1]?
    | none => r.vars.get? name

def separators (r : Runner) : List Char := ((r.vars.get? "IFS").getD " \t\n").toList

def function? (r : Runner) (name : String) : Option Script := r.functions.lookup name

end Runner

end CommandShell.Script
