import CommandShell.Proofs.Command.Completion

/-!
# Words under other names

The parser looks at the text of a word only to tell assignment words from others. So a change of
words that respects this difference changes the commands and errors that it gives in the same way,
and nothing else: what a word holds never acts as syntax. The parser's states are changed along with
the tokens that they have read; a step keeps this, and so does a run.
-/

set_option autoImplicit false

namespace CommandShell

/-- A change of words that keeps the assignment words and makes no others. -/
structure Renaming where
  apply : String → String
  keeps : ∀ word a, Grammar.Assigns word a → apply word = word
  avoids : ∀ word, (∀ a, ¬Grammar.Assigns word a) → ∀ a, ¬Grammar.Assigns (apply word) a

/-- Operators keep their text, whatever it is. -/
def Token.rename (f : Renaming) (token : Token) : Token :=
  if token.kind = .word then { token with text := f.apply token.text } else token

def Redirection.rename (f : Renaming) (r : Redirection) : Redirection :=
  { r with filename := f.apply r.filename }

def StageParts.rename (f : Renaming) (parts : StageParts) : StageParts :=
  { parts with
    input := parts.input.map (Redirection.rename f)
    output := parts.output.map (Redirection.rename f) }

def SimpleCommand.rename (f : Renaming) (c : SimpleCommand) : SimpleCommand :=
  ⟨c.parts.rename f, f.apply c.program, c.arguments.map f.apply⟩

def ParseError.rename (f : Renaming) (token : Token) : ParseError → ParseError
  | .unexpectedToken _ => .unexpectedToken (token.rename f).text
  | e => e

namespace Command
open Grammar

def rename (f : Renaming) : Command → Command
  | simple c => simple (c.rename f)
  | subshell parts body => subshell (parts.rename f) (body.rename f)
  | pipe left right => pipe (left.rename f) (right.rename f)
  | andOr op left right => andOr op (left.rename f) (right.rename f)
  | ended sep left => ended sep (left.rename f)
  | list sep left right => list sep (left.rename f) (right.rename f)

def Stage.rename (f : Renaming) : Stage → Stage
  | opening parts => opening (parts.rename f)
  | simple c => simple (c.rename f)
  | closed parts body => closed (parts.rename f) (body.rename f)

def Row.rename (f : Renaming) (row : Row) : Row where
  pipes := row.pipes.map (Command.rename f)
  chain := row.chain.map (Prod.map (Command.rename f) id)
  items := row.items.map (Prod.map (Command.rename f) id)

def Parser.rename (f : Renaming) (p : Parser) : Parser where
  outer := p.outer.map (Prod.map (Row.rename f) (StageParts.rename f))
  row := p.row.rename f
  stage := p.stage.rename f
  target := p.target

variable (f : Renaming)

theorem ofWord?_apply (word : String) :
    Assignment.ofWord? (f.apply word) = Assignment.ofWord? word := by
  cases cut : Assignment.ofWord? word with
  | some a => rw [f.keeps word a ((Grammar.ofWord?_eq_some_iff word a).mp cut), cut]
  | none =>
    have plain := (Grammar.ofWord?_eq_none_iff word).mp cut
    exact (Grammar.ofWord?_eq_none_iff _).mpr (f.avoids word plain)

theorem rename_of_ne {token : Token} (other : token.kind ≠ .word) : token.rename f = token :=
  if_neg other

theorem text_rename {token : Token} (word : token.kind = .word) :
    (token.rename f).text = f.apply token.text := by
  rw [Token.rename, if_pos word]

/-! ## Parts, stages and rows -/

@[simp] theorem isEmpty_rename (parts : StageParts) :
    (parts.rename f).isEmpty = parts.isEmpty := by
  simp [StageParts.isEmpty, StageParts.rename]

theorem redirect_rename (parts : StageParts) (r : Redirection) :
    (parts.rename f).redirect (r.rename f) = (parts.redirect r).map (StageParts.rename f) := by
  have input : (parts.rename f).input.isSome = parts.input.isSome := Option.isSome_map
  have output : (parts.rename f).output.isSome = parts.output.isSome := Option.isSome_map
  unfold StageParts.redirect
  rw [input, output]
  cases stream : r.operator.stream with
  | input => cases parts.input <;> simp [Redirection.rename, stream, StageParts.rename, Except.map]
  | output => cases parts.output <;> simp [Redirection.rename, stream, StageParts.rename, Except.map]

theorem stageRedirect_rename (stage : Stage) (r : Redirection) :
    (stage.rename f).redirect (r.rename f) = (stage.redirect r).map (Stage.rename f) := by
  cases stage with
  | opening parts =>
    simp only [Stage.rename, Stage.redirect, redirect_rename]
    cases parts.redirect r <;> rfl
  | simple c =>
    simp only [Stage.rename, Stage.redirect, SimpleCommand.rename, redirect_rename]
    cases c.parts.redirect r <;> rfl
  | closed parts body =>
    simp only [Stage.rename, Stage.redirect, redirect_rename]
    cases parts.redirect r <;> rfl

@[simp] theorem isFresh_rename (row : Row) : (row.rename f).isFresh = row.isFresh := by
  simp [Row.isFresh, Row.rename]

theorem pipeline_rename (row : Row) (stage : Command) :
    (row.rename f).pipeline (stage.rename f) = (row.pipeline stage).rename f := by
  rw [Row.pipeline, Row.rename, List.foldl_map]
  exact List.foldl_hom (rename f) fun right left => rfl

theorem chained_rename (row : Row) (stage : Command) :
    (row.rename f).chained (stage.rename f) = (row.chained stage).rename f := by
  rw [Row.chained, pipeline_rename, Row.rename, List.foldl_map]
  exact List.foldl_hom (rename f) fun right left => rfl

theorem prepend_rename (items : List (Command × Separator)) (last : Command) :
    Row.prepend (items.map (Prod.map (rename f) id)) (last.rename f) =
      (Row.prepend items last).rename f := by
  rw [Row.prepend, List.foldl_map]
  exact List.foldl_hom (rename f) fun right left => rfl

theorem listed_rename (row : Row) (stage : Command) :
    (row.rename f).listed (stage.rename f) = (row.listed stage).rename f := by
  rw [Row.listed, chained_rename, Row.listed, ← prepend_rename]
  rfl

theorem ended?_rename (row : Row) :
    (row.rename f).ended? = row.ended?.map (rename f) := by
  obtain ⟨pipes, chain, items⟩ := row
  cases pipes with
  | cons => rfl
  | nil =>
    cases chain with
    | cons => rfl
    | nil =>
      cases items with
      | nil => rfl
      | cons item items => exact congrArg some (prepend_rename f items (.ended item.2 item.1))

/-! ## Steps -/

variable (p : Parser)

@[simp] theorem row_rename : (p.rename f).row = p.row.rename f := rfl

@[simp] theorem stage_rename : (p.rename f).stage = p.stage.rename f := rfl

@[simp] theorem target_rename : (p.rename f).target = p.target := rfl

@[simp] theorem isEmpty_outer_rename : (p.rename f).outer.isEmpty = p.outer.isEmpty := by
  simp [Parser.rename]

theorem close_rename (body : Command) :
    (p.rename f).close (body.rename f) = (p.close body).map (Parser.rename f) := by
  obtain ⟨outer, row, stage, target⟩ := p
  cases outer <;> rfl

theorem feedOpening_rename (parts : StageParts) (token : Token) :
    (p.rename f).feedOpening (parts.rename f) token =
      (p.feedOpening parts token).map (Parser.rename f) := by
  unfold Parser.feedOpening
  rw [isEmpty_rename, isEmpty_outer_rename, row_rename, isFresh_rename, ended?_rename]
  split
  · rfl
  split
  · rfl
  split
  · split
    · rfl
    · cases p.row.ended? with
      | none => rfl
      | some body => exact close_rename f p body
  · rfl

theorem feedComplete_rename (stage : Command) (token : Token) :
    (p.rename f).feedComplete (stage.rename f) token =
      (p.feedComplete stage token).map (Parser.rename f) := by
  unfold Parser.feedComplete
  rw [row_rename, listed_rename, pipeline_rename, chained_rename]
  split
  · exact close_rename f p _
  split
  · rfl
  split
  · rfl
  split
  · rfl
  · rfl

theorem feedWord_rename (text : String) :
    (p.rename f).feedWord (f.apply text) =
      ((p.feedWord text).map (Parser.rename f)).mapError (ParseError.rename f (.word text)) := by
  obtain ⟨outer, row, stage, target⟩ := p
  cases stage with
  | opening parts =>
    simp only [Parser.feedWord, Parser.rename, Stage.rename, ofWord?_apply]
    cases Assignment.ofWord? text <;> rfl
  | simple c =>
    have arguments : (c.arguments ++ [text]).map f.apply =
        c.arguments.map f.apply ++ [f.apply text] := List.map_append
    simp only [Parser.feedWord, Parser.rename, Stage.rename, SimpleCommand.rename, ← arguments]
    rfl
  | closed parts body => rfl

theorem feed_rename_word (text : String) :
    (p.rename f).feed (.word (f.apply text)) =
      ((p.feed (.word text)).map (Parser.rename f)).mapError (ParseError.rename f (.word text)) := by
  cases waiting : p.target with
  | some target =>
    obtain ⟨op, operator⟩ := target
    have filename : (p.rename f).stage.redirect ⟨op, f.apply text⟩ =
        (p.stage.redirect ⟨op, text⟩).map (Stage.rename f) :=
      stageRedirect_rename f p.stage ⟨op, text⟩
    simp only [Parser.feed, target_rename, waiting, Token.word, if_pos, filename]
    cases redirected : p.stage.redirect ⟨op, text⟩ with
    | ok stage => rfl
    | error e =>
      obtain ⟨stream, rfl⟩ := stageRedirect_eq_error redirected
      rfl
  | none =>
    simp only [Parser.feed, target_rename, waiting, Token.word, if_pos]
    exact feedWord_rename f p text

theorem feed_rename_operator {token : Token} (other : token.kind ≠ .word) :
    (p.rename f).feed token = (p.feed token).map (Parser.rename f) := by
  unfold Parser.feed
  rw [target_rename, stage_rename]
  split
  · rw [if_neg other, if_neg other]
    rfl
  rw [if_neg other, if_neg other]
  split
  · rfl
  cases p.stage with
  | opening parts => exact feedOpening_rename f p parts token
  | simple c => exact feedComplete_rename f p (.simple c) token
  | closed parts body => exact feedComplete_rename f p (.subshell parts body) token

theorem feed_rename (token : Token) :
    (p.rename f).feed (token.rename f) =
      ((p.feed token).map (Parser.rename f)).mapError (ParseError.rename f token) := by
  by_cases word : token.kind = .word
  · obtain ⟨kind, text⟩ := token
    obtain rfl : kind = .word := word
    exact feed_rename_word f p text
  rw [rename_of_ne f word, feed_rename_operator f p word]
  cases fed : p.feed token with
  | ok q => rfl
  | error e =>
    cases feed_eq_error fed with
    | unexpected =>
      have same := congrArg (fun token => ParseError.unexpectedToken token.text) (rename_of_ne f word)
      exact congrArg Except.error same.symm
    | _ => rfl

theorem finish_rename : (p.rename f).finish = p.finish.map (rename f) := by
  unfold Parser.finish
  rw [isEmpty_outer_rename, target_rename, row_rename, stage_rename]
  split
  · rfl
  cases p.stage with
  | opening parts =>
    simp only [Stage.rename, isEmpty_rename, ended?_rename]
    split
    · rfl
    cases p.row.ended? with
    | none => rfl
    | some body =>
      simp only [Option.map_some]
      split <;> rfl
  | simple c =>
    simp only [Stage.rename]
    split
    · exact congrArg Except.ok (listed_rename f p.row (.simple c))
    · rfl
  | closed parts body =>
    simp only [Stage.rename]
    split
    · exact congrArg Except.ok (listed_rename f p.row (.subshell parts body))
    · rfl

/-! ## Runs -/

section
variable {f : Renaming} {q : Parser} {tokens : List Token} {e : ParseError}

theorem feedAll_rename {p : Parser} (read : p.feedAll tokens = .ok q) :
    (p.rename f).feedAll (tokens.map (Token.rename f)) = .ok (q.rename f) := by
  induction tokens generalizing p with
  | nil =>
    cases read
    rfl
  | cons token tokens ih =>
    rw [← List.singleton_append] at read
    obtain ⟨next, first, rest⟩ := feedAll_split read
    have step : (p.rename f).feed (token.rename f) = .ok (next.rename f) := by
      rw [feed_rename, feed_of_feedAll first]
      rfl
    rw [List.map_cons, feedAll_cons step]
    exact ih rest

theorem read_rename (read : Parser.feedAll {} tokens = .ok q) :
    Parser.feedAll {} (tokens.map (Token.rename f)) = .ok (q.rename f) :=
  feedAll_rename read

theorem parse_rename_of_read (read : Parser.feedAll {} tokens = .ok q) :
    parse (tokens.map (Token.rename f)) = q.finish.map (rename f) := by
  rw [parse, read_rename read]
  exact finish_rename f q

theorem parse_rename_of_refused {before after : List Token} {token : Token}
    (read : Parser.feedAll {} before = .ok q) (refused : q.feed token = .error e) :
    parse ((before ++ token :: after).map (Token.rename f)) = .error (e.rename f token) := by
  rw [List.map_append, List.map_cons]
  apply parse_of_feed_error (read_rename read)
  rw [feed_rename, refused]
  rfl

end

/-- Word contents never act as syntax. -/
theorem parse_rename (f : Renaming) (tokens : List Token) :
    (∀ c, parse tokens = .ok c → parse (tokens.map (Token.rename f)) = .ok (c.rename f)) ∧
    (∀ e, (∀ text, e ≠ .unexpectedToken text) → parse tokens = .error e →
      parse (tokens.map (Token.rename f)) = .error e) ∧
    ∀ text, parse tokens = .error (.unexpectedToken text) →
      ∃ before token after, tokens = before ++ token :: after ∧ token.text = text ∧
        Completable before ∧ ¬Completable (before ++ [token]) ∧
        parse (tokens.map (Token.rename f)) = .error (.unexpectedToken
          (if token.kind = .word then f.apply text else text)) := by
  refine ⟨?_, ?_, ?_⟩
  · intro c parsed
    obtain ⟨q, read, finished⟩ := read_of_parse parsed
    rw [parse_rename_of_read read, finished]
    rfl
  · intro e other failed
    obtain ⟨q, read, finished⟩ | ⟨before, token, after, q, rfl, read, refused⟩ :=
      parse_eq_error failed
    -- An error at the end of a list names no word.
    · rw [parse_rename_of_read read, finished]
      rfl
    · have same : e.rename f token = e := by
        cases e with
        | unexpectedToken text => exact absurd rfl (other text)
        | _ => rfl
      rw [parse_rename_of_refused read refused, same]
  · intro text failed
    obtain ⟨q, read, finished⟩ | ⟨before, token, after, q, rfl, read, refused⟩ :=
      parse_eq_error failed
    · exact absurd trivial (finish_eq_error finished).1
    · cases feed_eq_error refused with
      | unexpected free =>
        refine ⟨before, token, after, rfl, rfl, completable_of_feedAll read free,
          not_completable_of_feed_error read refused, ?_⟩
        rw [parse_rename_of_refused read refused]
        by_cases word : token.kind = .word
        · rw [if_pos word, ParseError.rename, text_rename f word]
        · rw [if_neg word, ParseError.rename, rename_of_ne f word]

/-- All words but the assignment words become the text of a connective. -/
def connectives : Renaming where
  apply word := if (Assignment.ofWord? word).isSome then word else "&&"
  keeps word a assigns := by
    rw [(ofWord?_eq_some_iff word a).mpr assigns, Option.isSome_some, if_pos rfl]
  avoids word other := by
    rw [(ofWord?_eq_none_iff word).mpr other]
    exact (ofWord?_eq_none_iff "&&").mp (by decide)

/-- The words of `X=1 ls X=2 > out`, of `(ls) b`, where `b` is refused, and of `ls <`. -/
theorem parse_rename_connectives :
    let line : List Token :=
      [.word "X=1", .word "ls", .word "X=2", .operator .redirectOut, .word "out"]
    let parts : StageParts := { locals := [⟨"X", "1"⟩], output := some ⟨.output, "out"⟩ }
    let parts' : StageParts := { locals := [⟨"X", "1"⟩], output := some ⟨.output, "&&"⟩ }
    let behind : List Token :=
      [.operator .leftParen, .word "ls", .operator .rightParen, .word "b"]
    let short : List Token := [.word "ls", .operator .redirectIn]
    (parse line = .ok (.simple ⟨parts, "ls", ["X=2"]⟩) ∧
      parse (line.map (Token.rename connectives)) = .ok (.simple ⟨parts', "&&", ["X=2"]⟩)) ∧
    (parse behind = .error (.unexpectedToken "b") ∧
      ∃ before token after, behind = before ++ token :: after ∧ token.text = "b" ∧
        Completable before ∧ ¬Completable (before ++ [token]) ∧
        parse (behind.map (Token.rename connectives)) = .error (.unexpectedToken
          (if token.kind = .word then connectives.apply "b" else "b"))) ∧
    (parse short = .error (.missingRedirectTarget "<") ∧
      parse (short.map (Token.rename connectives)) = .error (.missingRedirectTarget "<")) := by
  intro line parts parts' behind short
  have parsed : parse line = .ok (.simple ⟨parts, "ls", ["X=2"]⟩) := rfl
  have refused : parse behind = .error (.unexpectedToken "b") := rfl
  have failed : parse short = .error (.missingRedirectTarget "<") := rfl
  have words : connectives.apply "ls" = "&&" ∧ connectives.apply "out" = "&&" ∧
      connectives.apply "X=2" = "X=2" := by decide
  have changed : (simple ⟨parts, "ls", ["X=2"]⟩).rename connectives =
      .simple ⟨parts', "&&", ["X=2"]⟩ := by
    simp [rename, SimpleCommand.rename, StageParts.rename, Redirection.rename, words, parts, parts']
  have renamed := (parse_rename connectives line).1 _ parsed
  rw [changed] at renamed
  exact ⟨⟨parsed, renamed⟩, ⟨refused, (parse_rename connectives behind).2.2 "b" refused⟩,
    failed, (parse_rename connectives short).2.1 _ nofun failed⟩

end Command

end CommandShell
