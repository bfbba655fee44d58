import CommandShell.Script.Run
import CommandShell.Shell.Console
import CommandShell.Tool.Control
import CommandShell.Tool.Files
import CommandShell.Tool.Filter
import CommandShell.Tool.Output

/-!
# The programs by name

Beside the tools there is the shell itself, which no directory holds: it can be started anew by a
process that knows another one that runs it.
-/

set_option autoImplicit false

namespace CommandShell.Tool

def all : List (String × Tool) :=
  [("sh", sh), ("dash", sh), ("true", succeed), ("false", refuse), ("echo", echo),
    ("printf", printf), ("yes", yes), ("seq", seq), ("pwd", pwd), ("printenv", printenv),
    ("basename", basename), ("dirname", dirname), ("cat", cat), ("tee", tee), ("head", head),
    ("tail", tail), ("wc", wc), ("sort", sort), ("uniq", uniq), ("tr", tr), ("touch", touch),
    ("mkfifo", mkfifo), ("mkdir", mkdir), ("rmdir", rmdir), ("rm", rm), ("ls", ls), ("stat", stat),
    ("sleep", sleep), ("env", env), ("kill", kill), ("test", test), ("[", test)]

def lineLimit : Nat := 1000000

/-- The shell as a program. What it does with signals at its start, programs that it starts find ignored
or usual. -/
def shell : Tool := fun inv => do
  let _ ← Program.perform (.setDisposition [.brokenPipe] .ignored)
  let _ ← Program.perform (.setDisposition Signal.ofMemory .outlived)
  Program.leave (← Console.program inv.environment lineLimit)

def shellName : String := "bsh"

def program? (name : String) : Option Tool := ((shellName, shell) :: all).lookup name

end CommandShell.Tool
