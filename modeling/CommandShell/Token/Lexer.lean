import CommandShell.Text.Blank
import CommandShell.Token

/-!
# Reading a line as tokens

One pass from left to right, a step for each character. Outside quotes, blanks and operator
characters end a word, and `|`, `&` and `>` may double. A quote anywhere in a word opens a section
that only the same quote closes or the end of the line; inside it a backslash takes the next
character literally and is itself dropped. Outside quotes a backslash is an ordinary character.
-/

set_option autoImplicit false

namespace CommandShell

def TokenKind.ofChar? (c : Char) : Option TokenKind :=
  match c with
  | '<' => some .redirectIn
  | '>' => some .redirectOut
  | '|' => some .pipe
  | ';' => some .semicolon
  | '&' => some .ampersand
  | '(' => some .leftParen
  | ')' => some .rightParen
  | _ => none

def TokenKind.doubled? : TokenKind → Option TokenKind
  | .redirectOut => some .redirectAppend
  | .pipe => some .disjunction
  | .ampersand => some .conjunction
  | _ => none

def Text.isQuote (c : Char) : Bool := c == '"' || c == '\''

namespace Token

/-- Where the reader stands: outside quotes, with the word begun if there is one; after an operator
that may still double; inside a quoted section; or inside one, just after a backslash. -/
inductive Mode where
  | bare (begun : Option String)
  | half (kind : TokenKind)
  | quoted (text : String) (quote : Char)
  | escaped (text : String) (quote : Char)
  deriving DecidableEq, Repr

namespace Mode

def flush : Mode → List Token
  | bare none => []
  | bare (some text) => [.word text]
  | half kind => [.operator kind]
  | quoted text _ => [.word text]
  | escaped text _ => [.word text]

def stepBare (begun : Option String) (c : Char) : List Token × Mode :=
  if Text.isBlank c then ((bare begun).flush, bare none)
  else if Text.isQuote c then ([], quoted (begun.getD "") c)
  else match TokenKind.ofChar? c with
    | none => ([], bare (some ((begun.getD "").push c)))
    | some kind =>
      if kind.doubled?.isSome then ((bare begun).flush, half kind)
      else ((bare begun).flush ++ [.operator kind], bare none)

def step : Mode → Char → List Token × Mode
  | bare begun, c => stepBare begun c
  | half kind, c =>
    match kind.doubled? with
    | some double =>
      if TokenKind.ofChar? c = some kind then ([.operator double], bare none)
      else (.operator kind :: (stepBare none c).1, (stepBare none c).2)
    | none => (.operator kind :: (stepBare none c).1, (stepBare none c).2)
  | quoted text quote, c =>
    if c = '\\' then ([], escaped text quote)
    else if c = quote then ([], bare (some text))
    else ([], quoted (text.push c) quote)
  | escaped text quote, c => ([], quoted (text.push c) quote)

def after : Mode → List Char → Mode
  | mode, [] => mode
  | mode, c :: rest => after (mode.step c).2 rest

end Mode

def lexFrom : Mode → List Char → List Token
  | mode, [] => mode.flush
  | mode, c :: rest => (mode.step c).1 ++ lexFrom (mode.step c).2 rest

def lex (line : String) : List Token := lexFrom (.bare none) line.toList

def emitted : Mode → List Char → List Token
  | _, [] => []
  | mode, c :: rest => (mode.step c).1 ++ emitted (mode.step c).2 rest

theorem lexFrom_append (mode : Mode) (s t : List Char) :
    lexFrom mode (s ++ t) = emitted mode s ++ lexFrom (mode.after s) t := by
  induction s generalizing mode with
  | nil => rfl
  | cons c s ih => simp [lexFrom, emitted, Mode.after, ih]

theorem lexFrom_eq (mode : Mode) (s : List Char) :
    lexFrom mode s = emitted mode s ++ (mode.after s).flush := by
  simpa [lexFrom] using lexFrom_append mode s []

end Token

end CommandShell
