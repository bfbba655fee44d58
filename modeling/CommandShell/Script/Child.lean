import CommandShell.Script.Signals
import CommandShell.Text.Utf8

/-!
# Children of scripts

Pipes, subshells and programs run in children of the script's process. A child leaves with the status
that its commands come to.
-/

set_option autoImplicit false

namespace CommandShell.Script

def signalText? (signal : Signal) : Option String :=
  ([(1, "Hangup"), (3, "Quit"), (4, "Illegal instruction"), (5, "Trace/breakpoint trap"),
      (6, "Aborted"), (7, "Bus error"), (8, "Floating point exception"), (9, "Killed"),
      (10, "User defined signal 1"), (11, "Segmentation fault"), (12, "User defined signal 2"),
      (14, "Alarm clock"), (15, "Terminated"), (16, "Stack fault"), (24, "CPU time limit exceeded"),
      (25, "File size limit exceeded"), (26, "Virtual timer expired"),
      (27, "Profiling timer expired"), (29, "I/O possible"), (30, "Power failure"),
      (31, "Bad system call")] : List (Nat × String)).lookup signal.number

def await (shown : Bool) (child : Int) : Task Unit := do
  match (← perform (.wait child)).outcome with
  | .error _ => setStatus (((← get).waited.lookup child).getD 127)
  | .ok ending =>
    if let .signaled signal _ := ending then
      if let some text := (signalText? signal).filter fun _ => shown then
        StateT.lift (Program.remark text)
    modify fun r => { r with waited := (child, ending.status) :: r.waited }
    setStatus ending.status

def spawn (hooks : Hooks) (body : Task Unit) : Task (Option Int) := do
  match ← perform .fork with
  | .error e =>
    complain 0 ("Cannot fork: " ++ e.systemText)
    setStatus 2
    return none
  | .ok (.parent child) => return some child
  | .ok .child =>
    forgetActions
    modify fun r => { r with jobs := [], loops := 0 }
    body
    hooks.leave

def inChild (hooks : Hooks) (body : Task Unit) : Task Unit := do
  match ← spawn hooks body with
  | none => return
  | some child => await true child

/-- In a child in the background: the keys of the terminal are not for it, nor is the input. -/
def enterBackground : Task Unit := do
  perform (.setDisposition Signal.ofKeys .ignored)
  let _ ← perform (.close 0)
  let _ ← perform (.openFile "/dev/null" .read)

def place (descriptor target : Nat) : Task Unit := do
  if descriptor ≠ target then
    let _ ← perform (.duplicate descriptor target)
    let _ ← perform (.close descriptor)

def runPipe (hooks : Hooks) (left right : Task Unit) : Task Unit := do
  match ← perform .pipe with
  | .error e =>
    complain 0 ("Pipe call failed: " ++ e.systemText)
    setStatus 2
  | .ok (reader, writer) =>
    let leftChild ← spawn hooks do
      let _ ← perform (.close reader)
      place writer 1
      left
    let rightChild ← spawn hooks do
      let _ ← perform (.close writer)
      place reader 0
      right
    let _ ← perform (.close reader)
    let _ ← perform (.close writer)
    leftChild.toList.forM (await true)
    rightChild.toList.forM (await true)

/-- What the commands in a text write, without the newlines at its end. Their status counts only for a
command that comes to nothing else. -/
def outputOf (hooks : Hooks) (text : String) : Task String := do
  let before := (← get).status
  match ← perform .pipe with
  | .error e =>
    complain 0 ("Pipe call failed: " ++ e.systemText)
    modify fun r => { r with substituted := some 2 }
    return ""
  | .ok (reader, writer) =>
    let child ← spawn hooks do
      let _ ← perform (.close reader)
      place writer 1
      hooks.runText true text
    let _ ← perform (.close writer)
    let bytes ← perform (.gather reader .all)
    let _ ← perform (.close reader)
    child.toList.forM (await true)
    modify fun r => { r with status := before, substituted := some r.status }
    let written := match bytes with
      | .ok bytes => (Text.decode bytes).toList.filter (· != '\x00')
      | .error _ => []
    return String.ofList (written.reverse.dropWhile (· == '\n')).reverse

def become (line : Nat) (label : String) (argv : List String) (environment : Variables) :
    Task Unit := do
  let program := argv.head?.getD ""
  let e ← perform (.exec program argv environment)
  let missing := e = .noSuchFile || e = .notDirectory
  complain line (label ++ program ++ ": " ++ if missing then "not found" else e.systemText)
  setStatus (if missing || e = .nameTooLong || e = .tooManyLinks then 127 else 126)

end CommandShell.Script
