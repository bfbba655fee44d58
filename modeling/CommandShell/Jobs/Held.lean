import CommandShell.Program

/-!
# Held children

A held child runs a script once its input, which is a pipe, is closed. So it does not end before it is
let go.
-/

set_option autoImplicit false

namespace CommandShell

structure HeldChild where
  process : Int
  holder : Nat
  held : Bool := true
  deriving DecidableEq, Repr

namespace HeldChild

/-- In the child: takes a broken pipe as usual, puts the pipe on the standard input, and runs the
script after a line of it. -/
def runScript (reader writer : Nat) (script : String) (environment : Variables) : Program Empty := do
  Program.perform (.setDisposition [.brokenPipe] .usual)
  let _ ← Program.perform (.duplicate reader 0)
  let _ ← Program.perform (.close reader)
  let _ ← Program.perform (.close writer)
  let _ ← Program.perform (.exec "/bin/sh" ["/bin/sh", "-c", "read x; " ++ script] environment)
  Program.perform (.exit 127)

def start (script : String) (environment : Variables) : Program (Except Errno HeldChild) := do
  match ← Program.perform .pipe with
  | .error e => return .error e
  | .ok (reader, writer) =>
    let _ ← Program.perform (.closeOnExec writer)
    match ← Program.perform .fork with
    | .error e => return .error e
    | .ok .child => nomatch ← runScript reader writer script environment
    | .ok (.parent process) =>
      let _ ← Program.perform (.close reader)
      return .ok { process, holder := writer }

def release (child : HeldChild) : Program HeldChild := do
  if child.held then
    let _ ← Program.perform (.close child.holder)
  return { child with held := false }

end HeldChild

end CommandShell
