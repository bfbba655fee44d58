import CommandShell.History
import CommandShell.Config
import CommandShell.Shell.Evaluation
import CommandShell.Theme
import CommandShell.Token.Lexer

/-!
# Entering lines

A session is a shell together with how it looks, what was entered and how many commands have been
read. A line is remembered, expanded, cut into tokens and read as a command; a line that is no command
is reported and changes nothing else.
-/

set_option autoImplicit false

namespace CommandShell

structure Session where
  shell : Shell
  look : Appearance
  dumpsTokens : Bool := false
  /-- The number of the next command. -/
  number : Nat := 1
  history : History := {}
  deriving DecidableEq, Repr

namespace Session

abbrev Task := StateT Session Program

def start (config : Config) (environment : Variables) (coloured : Bool)
    (logger : Option Logger) : Session :=
  { shell := .ofEnvironment environment logger
    look := { theme := .named config.theme, coloured }
    dumpsTokens := config.dumpsTokens }

def onShell {α : Type} (task : Shell.Task α) : Task α := fun session => do
  let (result, shell) ← task session.shell
  return (result, { session with shell })

/-- The prompt: a symbol for the last status, and the number of the next command. -/
def prompt (session : Session) : String :=
  let look := session.look
  let symbol :=
    if session.shell.vars.status = 0 then look.success (look.message "success_symbol")
    else look.error (look.message "error_symbol")
  symbol ++ " " ++ look.prompt ("(" ++ toString session.number ++ ")" ++ look.message "prompt")

def reportError (e : ShellError) : Task Unit := do
  let session ← get
  let look := session.look
  Logger.error session.shell.logger e.message
  Program.reportLine (look.error (look.message "error_symbol") ++ " " ++
    look.error ("bsh: " ++ e.message))

def runTokens (tokens : List Token) : Task Unit := do
  match Command.parse tokens with
  | .error e => reportError (.parse e)
  | .ok command =>
    modify fun session => { session with number := session.number + 1 }
    if let .error e ← onShell (Shell.run command) then
      reportError e

def enterLine (line : String) : Task Unit := do
  if Text.isBlankLine line then return
  modify fun session => { session with history := session.history.add line }
  let session ← get
  let tokens := Token.lex (session.shell.vars.expand line)
  if tokens.isEmpty then return
  if session.dumpsTokens then
    Program.printLine (Token.listing tokens)
  runTokens tokens

end Session

end CommandShell
