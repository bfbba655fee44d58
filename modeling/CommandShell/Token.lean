/-!
# Tokens

A line is read as a list of tokens: words and operators. A token keeps its text beside its kind.
The text of an operator that was read from a line is the spelling of its kind, and nothing in the
rest of the library looks at the text of an operator to decide what it does.
-/

set_option autoImplicit false

namespace CommandShell

inductive TokenKind where
  | word
  | redirectIn
  | redirectOut
  | redirectAppend
  | pipe
  | conjunction
  | disjunction
  | semicolon
  | ampersand
  | leftParen
  | rightParen
  deriving DecidableEq, Repr

/-- How an operator is written; a word has a name instead. -/
def TokenKind.spelling : TokenKind → String
  | .word => "word"
  | .redirectIn => "<"
  | .redirectOut => ">"
  | .redirectAppend => ">>"
  | .pipe => "|"
  | .conjunction => "&&"
  | .disjunction => "||"
  | .semicolon => ";"
  | .ampersand => "&"
  | .leftParen => "("
  | .rightParen => ")"

def TokenKind.all : List TokenKind :=
  [.word, .redirectIn, .redirectOut, .redirectAppend, .pipe, .conjunction, .disjunction,
    .semicolon, .ampersand, .leftParen, .rightParen]

def TokenKind.ofSpelling? (s : String) : Option TokenKind :=
  TokenKind.all.find? fun kind => kind.spelling == s

structure Token where
  kind : TokenKind
  text : String
  deriving DecidableEq, Repr

namespace Token

def word (text : String) : Token := ⟨.word, text⟩

def operator (kind : TokenKind) : Token := ⟨kind, kind.spelling⟩

def listing (tokens : List Token) : String :=
  " ".intercalate (tokens.map fun token => token.text ++ ":" ++ token.kind.spelling)

end Token

end CommandShell
