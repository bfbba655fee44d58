import CommandShell.Script.Runner

/-!
# Signals of scripts

Scripts name signals by number or name, send them, and set actions for those that come. What was ignored
when the script began stays ignored.
-/

set_option autoImplicit false

namespace CommandShell.Script

def firstSpare : Nat := 34
def lastSpare : Nat := 64

/-- The name of a signal number in scripts; 0 stands for the end of the script. Some signals have no
name here but their number. -/
def signalName (n : Nat) : String :=
  if n = 0 then "EXIT"
  else if n = 16 || n = 32 || n = 33 then toString n
  else if n ≤ 31 then Signal.names.getD (n - 1) ""
  else if n = firstSpare then "RTMIN"
  else if n < 50 then "RTMIN+" ++ toString (n - firstSpare)
  else if n < lastSpare then "RTMAX-" ++ toString (lastSpare - n)
  else "RTMAX"

def signalNumber? (text : String) : Option Nat :=
  match Text.natural? text.toList with
  | some n => if n ≤ 31 then some n else none
  | none => (List.range 32).find? fun n => n ≠ 16 && signalName n == text.toUpper

inductive KillRequest where
  /-- Signal 0 only asks whether a process is there. -/
  | send (signal : Nat) (targets : List String)
  | list (numbers : List String)
  deriving DecidableEq, Repr

namespace KillRequest

def usage : String :=
  "Usage: kill [-s sigspec | -signum | -sigspec] [pid | job]... or\nkill -l [exitstatus]"

def sendTo (signal : Nat) (targets : List String) : Except String KillRequest :=
  if targets.isEmpty then .error usage else .ok (.send signal targets)

def ofOptions (signal : Nat) : List String → Except String KillRequest
  | [] => sendTo signal []
  | ["-s"] => .error "No arg for -s option"
  | "--" :: targets => sendTo signal targets
  | "-l" :: numbers => .ok (.list numbers)
  | "-s" :: name :: rest =>
    match signalNumber? name with
    | some signal => ofOptions signal rest
    | none => .error ("invalid signal number or name: " ++ name)
  | word :: rest =>
    match word.toList with
    | '-' :: 's' :: name =>
      match signalNumber? (String.ofList name) with
      | some signal => ofOptions signal rest
      | none => .error ("invalid signal number or name: " ++ String.ofList name)
    | '-' :: c :: _ => .error ("Illegal option -" ++ c.toString)
    | _ => sendTo signal (word :: rest)

def ofWords (words : List String) : Except String KillRequest :=
  let usual := Signal.terminate.number
  match words with
  | [] => .error usage
  | first :: rest =>
    if !first.startsWith "-" then .ok (.send usual words)
    else match (signalNumber? (first.drop 1).toString).filter fun n => n ≠ 0 || first == "-0" with
      | some signal => sendTo signal rest
      | none => ofOptions usual words

end KillRequest

def jobOf? (r : Runner) (number : List Char) : Option Int :=
  let there (child : Int) : Bool := (r.waited.lookup child).isNone
  match number with
  | [] | ['%'] | ['+'] => (r.jobs.filter there).getLast?
  | digits => (Text.natural? digits).bind fun n => (r.jobs[n - 1]?).filter there

def processNumber? (r : Runner) (word : String) : Except String Int :=
  match word.toList with
  | '%' :: number =>
    match jobOf? r number with
    | some child => .ok child
    | none =>
      .error (if number.isEmpty || number = ['%'] || number = ['+'] then "No current job"
        else "No such job: " ++ word)
  | '-' :: digits =>
    match Text.natural? digits with
    | some n => .ok (-n)
    | none => .error ("Illegal number: " ++ String.ofList digits)
  | digits =>
    match Text.natural? digits with
    | some n => .ok n
    | none => .error ("Illegal number: " ++ word)

/-- Sends a signal to processes in turn, up to a word that names none. A job is a group of processes, and
the children of a script are in no group of their own. -/
def sendSignal (line : Nat) (signal : Option Signal) : List String → Task Unit
  | [] => return
  | word :: rest => do
    match processNumber? (← get) word with
    | .error text =>
      complain line ("kill: " ++ text)
      setStatus 2
    | .ok process =>
      let target := if word.startsWith "%" then -process else process
      if let .error e := ← perform (.kill target signal) then
        complain line ("kill: " ++ e.systemText ++ "\n")
        setStatus 1
      sendSignal line signal rest

def listedName? (word : String) : Except String String :=
  match Text.natural? word.toList with
  | none => .error ("Illegal number: " ++ word)
  | some n =>
    let number := if n > 128 then n - 128 else n
    if 0 < number && number ≤ lastSpare then .ok (signalName number)
    else .error ("invalid signal number or exit status: " ++ word)

def Runner.action? (r : Runner) (signal : Nat) : Option String := r.actions.lookup signal

def Runner.setAction (r : Runner) (signal : Nat) (action : Option String) : Runner :=
  let others := r.actions.filter fun entry => entry.1 != signal
  { r with actions := match action with
    | none => others
    | some text => (signal, text) :: others }

def Runner.hasActions (r : Runner) : Bool := r.actions.any fun entry => entry.2 != ""

def inQuotes (text : String) : String :=
  "'" ++ String.join (text.toList.map fun c => if c = '\'' then "'\"'\"'" else c.toString) ++ "'"

def Runner.actionsText (r : Runner) : String :=
  String.join ((List.range 32).filterMap fun n =>
    (r.action? n).map fun text => "trap -- " ++ inQuotes text ++ " " ++ signalName n ++ "\n")

def isDeafTo (signal : Signal) : Task Bool := do
  let r ← get
  if r.deaf.contains signal then return true
  let deaf := (← perform (.disposition signal)) = .ignored && r.action? signal.number ≠ some ""
  if deaf then modify fun r => { r with deaf := signal :: r.deaf }
  return deaf

def setAction (signal : Nat) (action : Option String) : Task Unit := do
  if let some s := Signal.ofNumber? signal then
    if !(← isDeafTo s) then
      perform (.setDisposition [s] (match action with
        | none => .usual
        | some "" => .ignored
        | some _ => .caught))
  modify fun r => r.setAction signal action

def setActions (action : Option String) : List String → Task Unit
  | [] => setStatus 0
  | word :: rest =>
    match signalNumber? word with
    | none => do
      StateT.lift (Program.remark ("trap: " ++ word ++ ": bad trap"))
      setStatus 1
    | some signal => do
      setAction signal action
      setActions action rest

def forgetActions : Task Unit := do
  let r ← get
  let done := r.actions.filter fun entry => entry.2 != ""
  done.forM fun (signal, _) => setAction signal none

end CommandShell.Script
