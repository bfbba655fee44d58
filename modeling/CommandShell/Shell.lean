import CommandShell.Command.Parser
import CommandShell.Jobs

/-!
# The shell of a process

A process that evaluates commands has its variables, the environment that it hands to programs, its
table of background jobs and its log. An action works on such a shell and may fail: then the command
tree that it belongs to is abandoned, and what it had changed in the shell stays.
-/

set_option autoImplicit false

namespace CommandShell

inductive ShellError where
  | parse (error : ParseError)
  | system (operation : String) (error : Errno)
  | redirect (path : String) (error : Errno)
  deriving DecidableEq, Repr

def ShellError.message : ShellError → String
  | parse error => "syntax error: " ++ error.message
  | system operation error => operation ++ ": " ++ error.text
  | redirect path error => path ++ ": " ++ error.text

structure Shell where
  vars : Variables := {}
  environment : Variables := {}
  jobs : JobTable := {}
  logger : Option Logger := none
  deriving DecidableEq, Repr

namespace Shell

def ofEnvironment (environment : Variables) (logger : Option Logger) : Shell :=
  { vars := environment.setStatus 0, environment, logger }

abbrev Task := StateT Shell Program

abbrev Action := ExceptT ShellError Task

def perform (c : Call) : Task c.Reply := StateT.lift (Program.perform c)

def attempt {α : Type} (operation : String) (call : Program (Except Errno α)) : Action α := do
  match ← (StateT.lift call : Task (Except Errno α)) with
  | .ok a => return a
  | .error e => throw (.system operation e)

def outcome {α : Type} (action : Action α) : Action (Except ShellError α) :=
  ExceptT.lift action.run

def report (text : String) : Task Unit := StateT.lift (Program.reportLine ("bsh: " ++ text))

/-- The action's status; where it fails, the error is shown and the status is 1. -/
def orReport (action : Action Int) : Task Int := do
  match ← action.run with
  | .ok status => return status
  | .error e =>
    report e.message
    return 1

def reap : Task (List Completion) := do
  let shell ← get
  let (completed, jobs) ← StateT.lift (shell.jobs.reap shell.logger)
  modify fun shell => { shell with jobs }
  return completed

def awaitJobs : Task (List Completion) := do
  let shell ← get
  let (completed, jobs) ← StateT.lift (shell.jobs.awaitAll shell.logger)
  modify fun shell => { shell with jobs }
  return completed

/-- Forks. The child starts with the default signals and without jobs, and leaves with the status of
the body; the result is for the parent, and is the child's process number. -/
def spawn (body : Task Int) : Action Int := do
  match ← attempt "fork" (Program.perform .fork) with
  | .parent child => return child
  | .child =>
    let _ ← perform (.setDisposition Signal.ofKeys .usual)
    modify fun shell => { shell with jobs := {} }
    let status ← body
    nomatch ← perform (.exit status)

def await (child : Int) : Action Int := do
  return (← attempt "waitpid" (Program.waitFor child)).status

end Shell

end CommandShell
