import CommandShell.Command.Printer
import CommandShell.Shell.Descriptors
import CommandShell.Variables.Expansion

/-!
# Evaluating commands

Evaluating a command gives its status. The sides of a pipe, the body of a subshell and a background job
are evaluated in children; `cd` and `wait` work in the process that comes to them. In a chain of `&&`
and `||` a side that is not wanted is skipped, and the status that skipped it is carried on, so that it
still decides about the next side.
-/

set_option autoImplicit false

namespace CommandShell

namespace Shell

def assign (locals : List Assignment) (vars : Variables) : Variables :=
  locals.foldl (fun vars a => vars.set a.name a.value) vars

/-- The environment takes a name that is not empty and has neither an equals sign nor a zero byte, with
a value that has no zero byte. -/
def isSettable (a : Assignment) : Bool :=
  !a.name.isEmpty && !a.name.toList.contains '=' && !a.name.toList.contains '\x00' &&
    !a.value.toList.contains '\x00'

/-- In a child: an assignment that the environment does not take is a crash. -/
def requireSettable (locals : List Assignment) : Task Unit := do
  if locals.all isSettable then return else StateT.lift Program.crash

def zeroByte? (text : String) : Option Nat :=
  if text.toList.contains '\x00' then
    some (String.ofList (text.toList.takeWhile (· != '\x00'))).utf8ByteSize
  else none

def runProgram (c : SimpleCommand) : Task Int := do
  match ← (redirect c.parts).run with
  | .error e =>
    report e.message
    return 1
  | .ok () =>
    requireSettable c.parts.locals
    modify fun shell => { shell with environment := assign c.parts.locals shell.environment }
    match c.argv.findSome? zeroByte? with
    | some position =>
      report (c.program ++ ": nul byte found in provided data at position: " ++ toString position)
      return 1
    | none =>
      let e ← perform (.exec c.program c.argv (← get).environment)
      if e = .noSuchFile then
        report (c.program ++ ": command not found")
        return 127
      else
        report (c.program ++ ": " ++ e.description)
        return 126

def runBody (parts : StageParts) (body : Action Int) : Task Int := do
  match ← (redirect parts).run with
  | .error e =>
    report e.message
    return 1
  | .ok () =>
    requireSettable parts.locals
    modify fun shell => { shell with
      environment := assign parts.locals shell.environment
      vars := assign parts.locals shell.vars }
    orReport body

def runSide (used target unused : Nat) (side : Action Int) : Task Int := do
  match ← (connect used target unused).run with
  | .error e =>
    report e.message
    return 1
  | .ok () => orReport side

def changeDirectory (arguments : List String) : Task Int := do
  let home := (← get).vars.get? "HOME"
  match arguments, home with
  | _ :: _ :: _, _ =>
    report "cd: too many arguments"
    return 1
  | [], none =>
    report "cd: HOME not set"
    return 1
  | [], some home => enter home
  | [directory], _ => enter (Variables.expandTilde home directory)
where
  enter (target : String) : Task Int := do
    match ← perform (.changeDirectory target) with
    | .ok () => return 0
    | .error e =>
      report ("cd: " ++ target ++ ": " ++ e.description)
      return e.number

def waitForJobs (arguments : List String) : Task Int := do
  if arguments.isEmpty then
    let _ ← awaitJobs
    return 0
  else
    report "wait: usage: wait"
    return 1

def builtin? (program : String) : Option (List String → Task Int) :=
  if program = "cd" then some changeDirectory
  else if program = "wait" then some waitForJobs
  else none

def evaluateSimple (c : SimpleCommand) : Action Int := do
  match builtin? c.program with
  | some run => run c.arguments
  | none => await (← spawn (runProgram c))

def evaluateSubshell (parts : StageParts) (body : Action Int) : Action Int := do
  await (← spawn (runBody parts body))

/-- Waits for both sides of a pipe, the left one first. The right one may not have been started. -/
def awaitSides (leftChild : Int) (rightChild : Except ShellError Int) : Action Int := do
  if let .error e ← outcome (await leftChild) then
    let logger := (← get).logger
    Logger.warn logger ("等待管道左侧 " ++ toString leftChild ++ " 失败: " ++ e.message)
  match rightChild with
  | .error e => throw e
  | .ok child => await child

/-- Evaluates both sides in children; the right one's status counts. The parent gives up both ends of
the pipe, for only then does the reader see the end of what is written. -/
def evaluatePipe (left right : Action Int) : Action Int := do
  let (reader, writer) ← attempt "pipe" (Program.perform .pipe)
  match ← outcome (spawn (runSide writer standardOutput reader left)) with
  | .error e =>
    let _ ← perform (.close writer)
    let _ ← perform (.close reader)
    throw e
  | .ok leftChild =>
    let rightChild ← outcome (spawn (runSide reader standardInput writer right))
    let _ ← perform (.close reader)
    let _ ← perform (.close writer)
    awaitSides leftChild rightChild

def startJob (job : Command) (body : Action Int) : Action Unit := do
  let child ← spawn (orReport body)
  (StateT.lift (Program.reportLine (backgroundedMessage child)) : Task Unit)
  modify fun shell => { shell with jobs := (shell.jobs.add child job.text).1 }

end Shell

namespace Command

open Shell

/-- The status of a command. A command to the right of a connective may be carried a status instead
of being evaluated; a chain then goes on with that status. -/
def evaluateFrom : Command → Option Int → Action Int
  | andOr op left right, carried => do
    let status ← match carried with
      | some status => pure status
      | none => left.evaluateFrom none
    right.evaluateFrom (if op.proceeds status then none else some status)
  | _, some status => pure status
  | simple c, none => evaluateSimple c
  | subshell parts body, none => evaluateSubshell parts (body.evaluateFrom none)
  | pipe left right, none => evaluatePipe (left.evaluateFrom none) (right.evaluateFrom none)
  | ended .sequence left, none => left.evaluateFrom none
  | ended .background left, none => do
    startJob left (left.evaluateFrom none)
    return 0
  | list .sequence left right, none => do
    let _ ← left.evaluateFrom none
    right.evaluateFrom none
  | list .background left right, none => do
    startJob left (left.evaluateFrom none)
    right.evaluateFrom none

def evaluate (c : Command) : Action Int := c.evaluateFrom none

end Command

/-- Evaluates a whole command tree: ended jobs are collected first, and the status is kept for `$?`,
where an abandoned tree counts as 1. -/
def Shell.run (c : Command) : Task (Except ShellError Int) := do
  let _ ← Shell.reap
  let result ← c.evaluate.run
  let status := match result with
    | .ok status => status
    | .error _ => 1
  modify fun shell => { shell with vars := shell.vars.setStatus status }
  return result

end CommandShell
