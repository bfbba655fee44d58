import CommandShell.Command
import CommandShell.Token

/-!
# Reading tokens as a command

The parser takes one token at a time and keeps what is still open: the stage that is being read, the
pipeline, the chain and the list that it stands in, and one such row for each parenthesis that is
still open. A token list is refused at the first token that cannot continue it, or at its end.
-/

set_option autoImplicit false

namespace CommandShell

inductive Stream where
  | input
  | output
  deriving DecidableEq, Repr

inductive ParseError where
  | unexpectedToken (text : String)
  | unexpectedEnd
  | missingRedirectTarget (operator : String)
  | duplicateRedirection (stream : Stream)
  | missingCommand
  | unbalancedParen
  | emptySubshell
  deriving DecidableEq, Repr

def Stream.name : Stream → String
  | .input => "input"
  | .output => "output"

def ParseError.message : ParseError → String
  | .unexpectedToken text => "unexpected token `" ++ text ++ "`"
  | .unexpectedEnd => "unexpected end of input"
  | .missingRedirectTarget op => "expected filename after `" ++ op ++ "`"
  | .duplicateRedirection stream => "duplicate " ++ stream.name ++ " redirection"
  | .missingCommand => "missing command"
  | .unbalancedParen => "unbalanced parenthesis"
  | .emptySubshell => "empty subshell"

def isNameStart (c : Char) : Bool := c.isAlpha || c == '_'

def isNameChar (c : Char) : Bool := c.isAlphanum || c == '_'

def isName : List Char → Bool
  | [] => false
  | c :: rest => isNameStart c && rest.all isNameChar

def Assignment.ofWord? (word : String) : Option Assignment :=
  let chars := word.toList
  let name := chars.takeWhile (· != '=')
  match chars.dropWhile (· != '=') with
  | [] => none
  | _ :: value => if isName name then some ⟨String.ofList name, String.ofList value⟩ else none

def RedirectOp.ofKind? : TokenKind → Option RedirectOp
  | .redirectIn => some .input
  | .redirectOut => some .output
  | .redirectAppend => some .append
  | _ => none

def RedirectOp.stream : RedirectOp → Stream
  | .input => .input
  | .output => .output
  | .append => .output

def Connective.ofKind? : TokenKind → Option Connective
  | .conjunction => some .and
  | .disjunction => some .or
  | _ => none

def Separator.ofKind? : TokenKind → Option Separator
  | .semicolon => some .sequence
  | .ampersand => some .background
  | _ => none

namespace StageParts

def isEmpty (parts : StageParts) : Bool :=
  parts.locals.isEmpty && parts.input.isNone && parts.output.isNone

def assign (parts : StageParts) (a : Assignment) : StageParts :=
  { parts with locals := parts.locals ++ [a] }

/-- Each stream is redirected at most once. -/
def redirect (parts : StageParts) (r : Redirection) : Except ParseError StageParts :=
  match r.operator.stream with
  | .input =>
    if parts.input.isSome then .error (.duplicateRedirection .input)
    else .ok { parts with input := some r }
  | .output =>
    if parts.output.isSome then .error (.duplicateRedirection .output)
    else .ok { parts with output := some r }

end StageParts

namespace Command

/-- The stage that is being read: before its first word or parenthesis, after its program's name, or
after its closing parenthesis. -/
inductive Stage where
  | opening (parts : StageParts)
  | simple (command : SimpleCommand)
  | closed (parts : StageParts) (body : Command)
  deriving DecidableEq, Repr

/-- What stands to the left of the stage between the same parentheses, nearest first: stages that a
`|` follows, pipelines that a connective follows, items that a separator follows. -/
structure Row where
  pipes : List Command := []
  chain : List (Command × Connective) := []
  items : List (Command × Separator) := []
  deriving DecidableEq, Repr

/-- What is open while a token list is read. `outer` holds, innermost first, the row around each open
parenthesis and the parts of the subshell that it opens; `target` is a redirection operator that waits
for its filename. -/
structure Parser where
  outer : List (Row × StageParts) := []
  row : Row := {}
  stage : Stage := .opening {}
  target : Option (RedirectOp × String) := none
  deriving DecidableEq, Repr

namespace Stage

def redirect (r : Redirection) : Stage → Except ParseError Stage
  | opening parts => opening <$> parts.redirect r
  | simple c => (fun parts => simple { c with parts }) <$> c.parts.redirect r
  | closed parts body => (closed · body) <$> parts.redirect r

def command? : Stage → Option Command
  | opening _ => none
  | simple c => some (.simple c)
  | closed parts body => some (.subshell parts body)

end Stage

namespace Row

def pipeline (row : Row) (stage : Command) : Command :=
  row.pipes.foldl (fun right left => .pipe left right) stage

def chained (row : Row) (stage : Command) : Command :=
  row.chain.foldl (fun right (left, op) => .andOr op left right) (row.pipeline stage)

def prepend (items : List (Command × Separator)) (last : Command) : Command :=
  items.foldl (fun right (left, sep) => .list sep left right) last

def listed (row : Row) (stage : Command) : Command :=
  prepend row.items (row.chained stage)

def ended? (row : Row) : Option Command :=
  match row.pipes, row.chain, row.items with
  | [], [], (last, sep) :: items => some (prepend items (.ended sep last))
  | _, _, _ => none

def isFresh (row : Row) : Bool :=
  row.pipes.isEmpty && row.chain.isEmpty && row.items.isEmpty

end Row

namespace Parser

/-- Leaves the innermost parenthesis, whose list is `body`. -/
def close (p : Parser) (body : Command) : Except ParseError Parser :=
  match p.outer with
  | [] => .error .unbalancedParen
  | (row, parts) :: outer => .ok { outer, row, stage := .closed parts body }

def feedOpening (p : Parser) (parts : StageParts) (token : Token) : Except ParseError Parser :=
  if token.kind = .leftParen then .ok { outer := (p.row, parts) :: p.outer }
  else if !parts.isEmpty then .error .missingCommand
  else if token.kind = .rightParen then
    if p.row.isFresh && !p.outer.isEmpty then .error .emptySubshell
    else match p.row.ended? with
      | some body => p.close body
      | none => .error .unbalancedParen
  else .error (.unexpectedToken token.text)

def feedComplete (p : Parser) (stage : Command) (token : Token) : Except ParseError Parser :=
  if token.kind = .rightParen then p.close (p.row.listed stage)
  else if token.kind = .pipe then
    .ok { p with row := { p.row with pipes := stage :: p.row.pipes }, stage := .opening {} }
  else match Connective.ofKind? token.kind with
    | some op =>
      .ok { p with
        row := { p.row with pipes := [], chain := (p.row.pipeline stage, op) :: p.row.chain }
        stage := .opening {} }
    | none =>
      match Separator.ofKind? token.kind with
      | some sep =>
        .ok { p with
          row := { items := (p.row.chained stage, sep) :: p.row.items }
          stage := .opening {} }
      | none => .error (.unexpectedToken token.text)

/-- A word that is no filename. -/
def feedWord (p : Parser) (text : String) : Except ParseError Parser :=
  match p.stage with
  | .opening parts =>
    match Assignment.ofWord? text with
    | some a => .ok { p with stage := .opening (parts.assign a) }
    | none => .ok { p with stage := .simple { parts, program := text } }
  | .simple c => .ok { p with stage := .simple { c with arguments := c.arguments ++ [text] } }
  | .closed _ _ => .error (.unexpectedToken text)

def feed (p : Parser) (token : Token) : Except ParseError Parser :=
  match p.target with
  | some (op, text) =>
    if token.kind = .word then
      (fun stage => { p with stage, target := none }) <$> p.stage.redirect ⟨op, token.text⟩
    else .error (.missingRedirectTarget text)
  | none =>
    if token.kind = .word then p.feedWord token.text
    else match RedirectOp.ofKind? token.kind with
      | some op => .ok { p with target := some (op, token.text) }
      | none =>
        match p.stage with
        | .opening parts => p.feedOpening parts token
        | .simple c => p.feedComplete (.simple c) token
        | .closed parts body => p.feedComplete (.subshell parts body) token

def feedAll : Parser → List Token → Except ParseError Parser
  | p, [] => .ok p
  | p, token :: rest => (p.feed token).bind fun p => p.feedAll rest

def finish (p : Parser) : Except ParseError Command :=
  match p.target with
  | some (_, text) => .error (.missingRedirectTarget text)
  | none =>
    match p.stage with
    | .opening parts =>
      if !parts.isEmpty then .error .missingCommand
      else match p.row.ended? with
        | some body => if p.outer.isEmpty then .ok body else .error .unbalancedParen
        | none => .error .unexpectedEnd
    | .simple c =>
      if p.outer.isEmpty then .ok (p.row.listed (.simple c)) else .error .unbalancedParen
    | .closed parts body =>
      if p.outer.isEmpty then .ok (p.row.listed (.subshell parts body)) else .error .unbalancedParen

theorem feedAll_append (p : Parser) (s t : List Token) :
    p.feedAll (s ++ t) = (p.feedAll s).bind fun p => p.feedAll t := by
  induction s generalizing p with
  | nil => rfl
  | cons token s ih =>
    simp only [List.cons_append, feedAll]
    cases p.feed token with
    | error e => rfl
    | ok p => exact ih p

end Parser

/-- The command that a token list spells. -/
def parse (tokens : List Token) : Except ParseError Command :=
  (Parser.feedAll {} tokens).bind Parser.finish

end Command

end CommandShell
