import CommandShell.Text.Path
import CommandShell.Log

/-!
# Configuration

Settings come from the environment. The shell keeps its files in a directory below the home directory,
or in `tmp` when there is no home; the history file and the log directory may be moved elsewhere.
-/

set_option autoImplicit false

namespace CommandShell

inductive EditMode where
  | emacs
  | vi
  deriving DecidableEq, Repr

def EditMode.name : EditMode → String
  | .emacs => "Emacs"
  | .vi => "Vi"

/-- The mode of a name in any case; a name that is no mode's means the first one. -/
def EditMode.ofName (name : String) : EditMode := if name.toLower = "vi" then .vi else .emacs

structure Config where
  name : String := "bsh"
  directory : String
  theme : String
  historyFile : String
  editorMode : String
  logLevel : String
  logDirectory : String
  /-- Whether the token list of each line is printed. -/
  dumpsTokens : Bool
  deriving DecidableEq, Repr

namespace Config

def directoryIn : Option String → String
  | some home => Path.join home ".config/bsh"
  | none => "tmp"

def ofEnvironment (lookup : String → Option String) : Config :=
  let directory := directoryIn (lookup "HOME")
  { directory
    theme := (lookup "BSH_THEME").getD "default"
    historyFile := (lookup "BSH_HISTORY").getD (Path.join directory ".bsh_history")
    editorMode := (lookup "BSH_EDITOR").getD "emacs"
    logLevel := (lookup "BSH_LOG_LEVEL").getD "warn"
    logDirectory := (lookup "BSH_LOG_DIR").getD (Path.join directory "logs")
    dumpsTokens := (lookup "DUMP_LIST").isSome }

def editMode (config : Config) : EditMode := .ofName config.editorMode

end Config

def wantsColour (lookup : String → Option String) : Bool :=
  match lookup "CLICOLOR_FORCE" with
  | some value => value != "0"
  | none => false

end CommandShell
