import CommandShell.Shell

/-!
# Wiring descriptors

A child puts its redirections and its end of a pipe on the standard descriptors before it does anything
else. The input is opened before the output, so an output file is not touched when the input cannot be
opened.
-/

set_option autoImplicit false

namespace CommandShell

def standardInput : Nat := 0
def standardOutput : Nat := 1

/-- How the target of an output is opened; whatever is no append starts the file anew. -/
def RedirectOp.outputAccess : RedirectOp → Access
  | .append => .append
  | _ => .truncate

namespace Shell

def move (source target : Nat) : Action Unit := do
  attempt "dup2" (Program.perform (.duplicate source target))
  attempt "close" (Program.perform (.close source))

def openOn (r : Redirection) (access : Access) (target : Nat) : Action Unit := do
  match ← (perform (.openFile r.filename access) : Task _) with
  | .error e => throw (.redirect r.filename e)
  | .ok descriptor => if descriptor ≠ target then move descriptor target

def redirect (parts : StageParts) : Action Unit := do
  if let some r := parts.input then openOn r .read standardInput
  if let some r := parts.output then openOn r r.operator.outputAccess standardOutput

/-- Puts one end of a pipe on the target descriptor, and gives up the other end. -/
def connect (used target unused : Nat) : Action Unit := do
  move used target
  attempt "close" (Program.perform (.close unused))

end Shell

end CommandShell
