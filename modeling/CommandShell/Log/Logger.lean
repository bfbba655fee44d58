import CommandShell.Log
import CommandShell.Program

/-!
# The log of a running shell

A line goes to the standard error and then to the log file; when the first refuses it, the second does
not get it. A shell without a logger logs nothing.
-/

set_option autoImplicit false

namespace CommandShell

structure Logger where
  /-- How much the shell logs of what it does itself. -/
  level : LogLevel
  /-- The descriptor of the log file. -/
  file : Nat
  deriving DecidableEq, Repr

namespace Logger

def always (logger : Option Logger) (level : LogLevel) (text : String) : Program Unit := do
  match logger with
  | none => return
  | some logger =>
    let process ← Program.perform .self
    let seconds ← Program.perform .now
    let line := (logLine process level (.ofSeconds seconds) text).toUTF8
    match ← Program.perform (.write 2 line) with
    | .error _ => return
    | .ok () =>
      let _ ← Program.perform (.write logger.file line)

def log (logger : Option Logger) (level : LogLevel) (text : String) : Program Unit :=
  if (logger.any fun logger => level.rank ≤ logger.level.rank) then always logger level text
  else pure ()

def warn (logger : Option Logger) (text : String) : Program Unit := log logger .warn text

def error (logger : Option Logger) (text : String) : Program Unit := log logger .error text

end Logger

end CommandShell
