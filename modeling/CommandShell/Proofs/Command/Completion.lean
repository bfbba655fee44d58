import CommandShell.Proofs.Command.Completeness

/-!
# Where a token list becomes hopeless

A token list can be completed when some tokens behind it make it a command. Unless a redirection
waits for its filename, what the parser has open can always be finished: by a word where a stage has
not begun, and then by a closing parenthesis for each one that is open. So a token that the parser
does not expect is the first one after which nothing helps. The parser decides on the tokens that it
has read, and what it refuses it refuses whatever comes behind.
-/

set_option autoImplicit false

namespace CommandShell

/-- The errors that no token behind can avert. The others may also be met at the end of a list that
goes on well. -/
def ParseError.IsRefusal : ParseError → Prop
  | .unexpectedToken _ | .duplicateRedirection _ | .emptySubshell => True
  | .unexpectedEnd | .missingRedirectTarget _ | .missingCommand | .unbalancedParen => False

namespace Command
open Grammar

/-- Some tokens behind these make them a command. -/
def Completable (tokens : List Token) : Prop := ∃ more c, parse (tokens ++ more) = .ok c

section
variable {p : Parser} {token : Token} {e : ParseError}

/-! ## Where errors come from -/

theorem redirect_eq_error {parts : StageParts} {r : Redirection} (h : parts.redirect r = .error e) :
    ∃ stream, e = .duplicateRedirection stream := by
  unfold StageParts.redirect at h
  split at h
  all_goals
    split at h
    · cases h
      exact ⟨_, rfl⟩
    · cases h

theorem eq_error_of_map_eq_error {α β : Type} {f : α → β} {x : Except ParseError α}
    (h : f <$> x = .error e) : x = .error e := by
  cases x with
  | error other => exact congrArg Except.error (Except.error.inj h)
  | ok a => nomatch h

theorem stageRedirect_eq_error {stage : Stage} {r : Redirection} (h : stage.redirect r = .error e) :
    ∃ stream, e = .duplicateRedirection stream := by
  cases stage with
  | opening | simple | closed => exact redirect_eq_error (eq_error_of_map_eq_error h)

theorem close_eq_error {body : Command} (h : p.close body = .error e) : e = .unbalancedParen := by
  unfold Parser.close at h
  split at h <;> cases h
  rfl

inductive Refused (p : Parser) (token : Token) : ParseError → Prop
  | unexpected : p.target = none → Refused p token (.unexpectedToken token.text)
  | duplicate (stream : Stream) : Refused p token (.duplicateRedirection stream)
  | target (operator : String) : Refused p token (.missingRedirectTarget operator)
  | command : Refused p token .missingCommand
  | paren : Refused p token .unbalancedParen
  | empty : Refused p token .emptySubshell

theorem feedOpening_eq_error {parts : StageParts} (free : p.target = none)
    (h : p.feedOpening parts token = .error e) : Refused p token e := by
  unfold Parser.feedOpening at h
  split at h
  · cases h
  split at h
  · cases h
    exact .command
  split at h
  · split at h
    · cases h
      exact .empty
    split at h
    · rw [close_eq_error h]
      exact .paren
    · cases h
      exact .paren
  · cases h
    exact .unexpected free

theorem feedComplete_eq_error {c : Command} (free : p.target = none)
    (h : p.feedComplete c token = .error e) : Refused p token e := by
  unfold Parser.feedComplete at h
  split at h
  · rw [close_eq_error h]
    exact .paren
  split at h
  · cases h
  split at h
  · cases h
  split at h
  · cases h
  · cases h
    exact .unexpected free

theorem feedWord_eq_error (free : p.target = none) (h : p.feedWord token.text = .error e) :
    Refused p token e := by
  unfold Parser.feedWord at h
  split at h
  · split at h <;> cases h
  · cases h
  · cases h
    exact .unexpected free

theorem feed_eq_error (h : p.feed token = .error e) : Refused p token e := by
  unfold Parser.feed at h
  cases waiting : p.target with
  | some target =>
    obtain ⟨operator, text⟩ := target
    simp only [waiting] at h
    split at h
    · obtain ⟨stream, rfl⟩ := stageRedirect_eq_error (eq_error_of_map_eq_error h)
      exact .duplicate stream
    · cases h
      exact .target text
  | none =>
    simp only [waiting] at h
    split at h
    · exact feedWord_eq_error waiting h
    split at h
    · cases h
    split at h
    · exact feedOpening_eq_error waiting h
    · exact feedComplete_eq_error waiting h
    · exact feedComplete_eq_error waiting h

theorem finish_eq_error (h : p.finish = .error e) :
    ¬e.IsRefusal ∧ (e = .unexpectedEnd → p.target = none) := by
  unfold Parser.finish at h
  cases waiting : p.target with
  | some target =>
    simp only [waiting] at h
    cases h
    exact ⟨id, nofun⟩
  | none =>
    refine ⟨?_, fun _ => rfl⟩
    simp only [waiting] at h
    -- Every way to the end either gives a command or an error of a list that is cut off.
    repeat' split at h
    all_goals
      cases h
      try exact id

theorem feedAll_eq_error {tokens : List Token} (h : p.feedAll tokens = .error e) :
    ∃ before token after q, tokens = before ++ token :: after ∧ p.feedAll before = .ok q ∧
      q.feed token = .error e := by
  induction tokens generalizing p with
  | nil => cases h
  | cons token tokens ih =>
    rw [Parser.feedAll] at h
    cases fed : p.feed token with
    | error other =>
      rw [fed] at h
      cases h
      exact ⟨[], token, tokens, p, rfl, rfl, fed⟩
    | ok q =>
      rw [fed] at h
      obtain ⟨before, last, after, r, rfl, read, refused⟩ := ih h
      exact ⟨token :: before, last, after, r, rfl, by rw [feedAll_cons fed, read], refused⟩

end

section
variable {tokens before after : List Token} {token : Token} {p q : Parser} {e : ParseError}

/-! ## Runs -/

theorem feedAll_split (h : p.feedAll (before ++ after) = .ok q) :
    ∃ r, p.feedAll before = .ok r ∧ r.feedAll after = .ok q := by
  rw [Parser.feedAll_append] at h
  cases first : p.feedAll before with
  | error e =>
    rw [first] at h
    cases h
  | ok r =>
    rw [first] at h
    exact ⟨r, rfl, h⟩

theorem feed_of_feedAll (h : p.feedAll [token] = .ok q) : p.feed token = .ok q := by
  rw [Parser.feedAll] at h
  cases fed : p.feed token with
  | error e =>
    rw [fed] at h
    cases h
  | ok r =>
    rw [fed] at h
    exact h

theorem read_of_parse {c : Command} (parsed : parse tokens = .ok c) :
    ∃ p, Parser.feedAll {} tokens = .ok p ∧ p.finish = .ok c := by
  cases read : Parser.feedAll {} tokens with
  | error e =>
    rw [parse, read] at parsed
    cases parsed
  | ok p =>
    rw [parse, read] at parsed
    exact ⟨p, rfl, parsed⟩

theorem parse_append_of_feedAll (read : Parser.feedAll {} before = .ok p) (after : List Token) :
    parse (before ++ after) = (p.feedAll after).bind Parser.finish := by
  rw [parse, feedAll_ok_append read]

theorem parse_of_feed_error (read : Parser.feedAll {} before = .ok p)
    (refused : p.feed token = .error e) (after : List Token) :
    parse (before ++ token :: after) = .error e := by
  rw [parse_append_of_feedAll read, Parser.feedAll, refused]
  rfl

theorem parse_eq_error (h : parse tokens = .error e) :
    (∃ p, Parser.feedAll {} tokens = .ok p ∧ p.finish = .error e) ∨
      ∃ before token after p, tokens = before ++ token :: after ∧
        Parser.feedAll {} before = .ok p ∧ p.feed token = .error e := by
  cases read : Parser.feedAll {} tokens with
  | ok p =>
    rw [parse, read] at h
    exact .inl ⟨p, rfl, h⟩
  | error other =>
    rw [parse, read] at h
    cases h
    exact .inr (feedAll_eq_error read)

theorem parse_append_of_refusal (refusal : e.IsRefusal) (h : parse tokens = .error e)
    (more : List Token) : parse (tokens ++ more) = .error e := by
  obtain ⟨p, -, finished⟩ | ⟨before, token, after, p, rfl, read, refused⟩ := parse_eq_error h
  · exact absurd refusal (finish_eq_error finished).1
  · rw [List.append_assoc]
    exact parse_of_feed_error read refused (after ++ more)

/-! ## Completing what is open -/

def Parser.completion (p : Parser) : List Token :=
  (match p.stage with
    | .opening _ => [.word "true"]
    | .simple _ | .closed _ _ => []) ++
    List.replicate p.outer.length (.operator .rightParen)

theorem listed_command {stage : Stage} {c : Command} (complete : stage.command? = some c)
    (row : Row) : Listed [] (row.listed c) row stage :=
  .complete row.items complete (List.append_nil _).symm rfl

/-- A stage with its command ends the list, and each parenthesis that closes makes one more stage
with a command. -/
theorem exists_finish_closed (outer : List (Row × StageParts)) {row : Row} {stage : Stage}
    {c : Command} (complete : stage.command? = some c) :
    ∃ c', (Parser.feedAll ⟨outer, row, stage, none⟩
      (List.replicate outer.length (.operator .rightParen))).bind Parser.finish = .ok c' := by
  induction outer generalizing row stage c with
  | nil => exact ⟨_, finish_listed (listed_command complete row)⟩
  | cons around outer ih =>
    -- The parenthesis makes the row so far a subshell, which is the next stage of the row around.
    obtain ⟨around, parts⟩ := around
    have closes : Parser.feed ⟨(around, parts) :: outer, row, stage, none⟩ (.operator .rightParen) =
        .ok ⟨outer, around, .closed parts (row.listed c), none⟩ :=
      feed_rightParen rfl (listed_command complete row)
    rw [List.length_cons, List.replicate_succ, feedAll_cons closes]
    exact ih rfl

theorem exists_finish_completion (free : p.target = none) :
    ∃ c, (p.feedAll p.completion).bind Parser.finish = .ok c := by
  obtain ⟨outer, row, stage, target⟩ := p
  obtain rfl : target = none := free
  cases stage with
  | opening parts =>
    have begins : Parser.feed ⟨outer, row, .opening parts, none⟩ (.word "true") =
        .ok ⟨outer, row, .simple { parts, program := "true" }, none⟩ := rfl
    rw [Parser.completion, List.singleton_append, feedAll_cons begins]
    exact exists_finish_closed outer rfl
  | simple | closed => exact exists_finish_closed outer rfl

theorem completable_of_feedAll (read : Parser.feedAll {} tokens = .ok p) (free : p.target = none) :
    Completable tokens := by
  obtain ⟨c, finished⟩ := exists_finish_completion free
  exact ⟨p.completion, c, by rw [parse_append_of_feedAll read, finished]⟩

theorem not_completable_of_feed_error (read : Parser.feedAll {} before = .ok p)
    (refused : p.feed token = .error e) : ¬Completable (before ++ [token]) := by
  rintro ⟨more, c, parsed⟩
  rw [List.append_assoc, List.singleton_append, parse_of_feed_error read refused] at parsed
  cases parsed

/-! ## The first hopeless token -/

theorem exists_first_hopeless {text : String} (h : parse tokens = .error (.unexpectedToken text)) :
    ∃ before token after, tokens = before ++ token :: after ∧ token.text = text ∧
      Completable before ∧ ¬Completable (before ++ [token]) := by
  obtain ⟨p, -, finished⟩ | ⟨before, token, after, p, rfl, read, refused⟩ := parse_eq_error h
  · exact absurd trivial (finish_eq_error finished).1
  · cases feed_eq_error refused with
    | unexpected free =>
      exact ⟨before, token, after, rfl, rfl, completable_of_feedAll read free,
        not_completable_of_feed_error read refused⟩

theorem completable_of_unexpectedEnd (h : parse tokens = .error .unexpectedEnd) :
    Completable tokens := by
  obtain ⟨p, read, finished⟩ | ⟨before, token, after, p, -, -, refused⟩ := parse_eq_error h
  · exact completable_of_feedAll read ((finish_eq_error finished).2 rfl)
  · nomatch feed_eq_error refused

theorem not_refusal_of_append {c : Command} (h : parse (before ++ after) = .ok c)
    (failed : parse before = .error e) : ¬e.IsRefusal := by
  intro refusal
  rw [parse_append_of_refusal refusal failed] at h
  cases h

end

/-- Errors are met at the first hopeless token. A token that is not expected, a second redirection
of a stream and an empty subshell stay errors whatever comes behind; before a token that is not
expected the list can be completed, and with it no more; a list that ends too soon can be completed.
So the beginnings of a list that parses either parse or fail with the errors of a list that is cut
off. -/
theorem parse_error_at_first_hopeless :
    (∀ tokens more e, ParseError.IsRefusal e → parse tokens = .error e →
      parse (tokens ++ more) = .error e) ∧
    (∀ tokens text, parse tokens = .error (.unexpectedToken text) →
      ∃ before token after, tokens = before ++ token :: after ∧ token.text = text ∧
        Completable before ∧ ¬Completable (before ++ [token])) ∧
    (∀ tokens, parse tokens = .error .unexpectedEnd → Completable tokens) ∧
    ∀ before after c, parse (before ++ after) = .ok c →
      (∃ c', parse before = .ok c') ∨ parse before = .error .unexpectedEnd ∨
        parse before = .error .unbalancedParen ∨ parse before = .error .missingCommand ∨
        ∃ operator, parse before = .error (.missingRedirectTarget operator) := by
  refine ⟨fun tokens more e refusal h => parse_append_of_refusal refusal h more,
    fun tokens text => exists_first_hopeless, fun tokens => completable_of_unexpectedEnd, ?_⟩
  intro before after c h
  cases parsed : parse before with
  | ok c' => exact .inl ⟨c', rfl⟩
  | error e =>
    have kept := not_refusal_of_append h parsed
    cases e with
    | unexpectedToken | duplicateRedirection | emptySubshell => exact absurd trivial kept
    | unexpectedEnd => exact .inr (.inl rfl)
    | unbalancedParen => exact .inr (.inr (.inl rfl))
    | missingCommand => exact .inr (.inr (.inr (.inl rfl)))
    | missingRedirectTarget operator => exact .inr (.inr (.inr (.inr ⟨operator, rfl⟩)))

/-- `()` with a word behind it, `(a(b`, `a|`, and the beginning `(a&&` of `(a&&b)`. -/
theorem parse_error_at_first_hopeless_parens :
    let empty : List Token := [.operator .leftParen, .operator .rightParen]
    let twice : List Token :=
      [.operator .leftParen, .word "a", .operator .leftParen, .word "b"]
    let piped : List Token := [.word "a", .operator .pipe]
    let front : List Token := [.operator .leftParen, .word "a", .operator .conjunction]
    let back : List Token := [.word "b", .operator .rightParen]
    let whole := Command.subshell {}
      (.andOr .and (.simple { program := "a" }) (.simple { program := "b" }))
    (parse empty = .error .emptySubshell ∧
      parse (empty ++ [.word "c"]) = .error .emptySubshell) ∧
    (parse twice = .error (.unexpectedToken "(") ∧
      ∃ before token after, twice = before ++ token :: after ∧ token.text = "(" ∧
        Completable before ∧ ¬Completable (before ++ [token])) ∧
    (parse piped = .error .unexpectedEnd ∧ Completable piped) ∧
    (parse (front ++ back) = .ok whole ∧
      ((∃ c', parse front = .ok c') ∨ parse front = .error .unexpectedEnd ∨
        parse front = .error .unbalancedParen ∨ parse front = .error .missingCommand ∨
        ∃ operator, parse front = .error (.missingRedirectTarget operator))) := by
  intro empty twice piped front back whole
  obtain ⟨stays, first, ends, beginning⟩ := parse_error_at_first_hopeless
  have refused : parse empty = .error .emptySubshell := rfl
  have unexpected : parse twice = .error (.unexpectedToken "(") := rfl
  have short : parse piped = .error .unexpectedEnd := rfl
  have parsed : parse (front ++ back) = .ok whole := rfl
  exact ⟨⟨refused, stays empty [.word "c"] .emptySubshell trivial refused⟩,
    ⟨unexpected, first twice "(" unexpected⟩, ⟨short, ends piped short⟩,
    ⟨parsed, beginning front back whole parsed⟩⟩

end Command

end CommandShell
