/-!
# Themes

A theme has a colour for each of four uses and a wording for each message of the shell. A colour is a
number in an escape sequence; styled text starts with the colour's sequence and ends with the reset.
-/

set_option autoImplicit false

namespace CommandShell

structure Colour where
  code : Nat
  deriving DecidableEq, Repr

namespace Colour

def red : Colour := ⟨31⟩
def yellow : Colour := ⟨33⟩
def magenta : Colour := ⟨35⟩
def brightRed : Colour := ⟨91⟩
def brightBlue : Colour := ⟨94⟩
def brightMagenta : Colour := ⟨95⟩
def brightCyan : Colour := ⟨96⟩

def reset : String := "\x1b[0m"

def start (colour : Colour) : String := "\x1b[" ++ toString colour.code ++ "m"

/-- The text in the colour. After a reset inside the text the colour starts again. -/
def paint (colour : Colour) (text : String) : String :=
  colour.start ++ text.replace reset (reset ++ colour.start) ++ reset

end Colour

structure Theme where
  promptColour : Colour := .brightCyan
  successColour : Colour := .brightMagenta
  errorColour : Colour := .brightRed
  warningColour : Colour := .yellow
  /-- The wording of each message; the first entry of a key counts. -/
  messages : List (String × String)
  deriving DecidableEq, Repr

namespace Theme

def defaultMessages : List (String × String) :=
  [("welcome", "欢迎使用 bsh"),
    ("help", "输入 exit 或按 Ctrl-D 退出"),
    ("exit", "再见"),
    ("eof_signal", "收到 EOF，退出 bsh"),
    ("interrupt_signal", "输入 exit 或按 Ctrl-D 退出"),
    ("error", "错误"),
    ("prompt", "$ "),
    ("success_symbol", "✓"),
    ("error_symbol", "✗")]

def standard : Theme where
  messages := defaultMessages

def dark : Theme where
  promptColour := .brightMagenta
  successColour := .magenta
  errorColour := .red
  warningColour := .brightBlue
  messages := ("prompt", "➤ ") :: ("welcome", "欢迎使用 bsh (dark)") :: defaultMessages

def named (name : String) : Theme := if name = "dark" then dark else standard

/-- The wording of a message; a message that the theme does not know is shown as its key. -/
def message (theme : Theme) (key : String) : String := (theme.messages.lookup key).getD key

end Theme

structure Appearance where
  theme : Theme
  coloured : Bool
  deriving DecidableEq, Repr

namespace Appearance

def paint (look : Appearance) (colour : Colour) (text : String) : String :=
  if look.coloured then colour.paint text else text

def prompt (look : Appearance) (text : String) : String := look.paint look.theme.promptColour text
def success (look : Appearance) (text : String) : String := look.paint look.theme.successColour text
def error (look : Appearance) (text : String) : String := look.paint look.theme.errorColour text
def warning (look : Appearance) (text : String) : String := look.paint look.theme.warningColour text

def message (look : Appearance) (key : String) : String := look.theme.message key

end Appearance

end CommandShell
