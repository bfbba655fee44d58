import CommandShell.Proofs.Command.Completion
import Mathlib.Data.List.Infix

/-!
# Balanced parentheses

How many parentheses are open is how many more of them have been opened than closed: a step keeps
this, so a list that parses is balanced. A parenthesis is reported as unbalanced where it closes
nothing or where it is never closed, and in one more place: behind a pipe or a connective that has no
stage to its right. There the list may well be balanced.
-/

set_option autoImplicit false

namespace CommandShell.Command
open Grammar

def opens (tokens : List Token) : Nat := tokens.countP fun token => token.kind = .leftParen

def closes (tokens : List Token) : Nat := tokens.countP fun token => token.kind = .rightParen

/-- Some beginning closes more parentheses than it opens, or the whole list opens more than it
closes. -/
def Unbalanced (tokens : List Token) : Prop :=
  (∃ front ∈ tokens.inits, opens front < closes front) ∨ closes tokens < opens tokens

instance (tokens : List Token) : Decidable (Unbalanced tokens) :=
  inferInstanceAs (Decidable (_ ∨ _))

def Joins (kind : TokenKind) : Prop :=
  kind = .pipe ∨ kind = .conjunction ∨ kind = .disjunction

/-- A closing parenthesis stands where a pipe or a connective still needs a stage, and all in front of
it goes well. -/
def Dangling (tokens : List Token) : Prop :=
  ∃ before op close after, tokens = before ++ op :: close :: after ∧ Joins op.kind ∧
    close.kind = .rightParen ∧ Completable (before ++ [op])

/-! ## What a step does -/

inductive Fed (p : Parser) (token : Token) : Parser → Prop
  | filename {op : RedirectOp} {text : String} {stage : Stage} : p.target = some (op, text) →
    token.kind = .word → p.stage.redirect ⟨op, token.text⟩ = .ok stage →
    Fed p token { p with stage, target := none }
  | assignment {parts : StageParts} {a : Assignment} : token.kind = .word →
    Fed p token { p with stage := .opening (parts.assign a) }
  | word {c : SimpleCommand} : token.kind = .word → Fed p token { p with stage := .simple c }
  | operator {op : RedirectOp} : RedirectOp.ofKind? token.kind = some op →
    Fed p token { p with target := some (op, token.text) }
  | opening {parts : StageParts} : token.kind = .leftParen →
    Fed p token { outer := (p.row, parts) :: p.outer }
  | closing {outer : List (Row × StageParts)} {row : Row} {parts : StageParts} {body : Command} :
    token.kind = .rightParen → p.outer = (row, parts) :: outer →
    Fed p token { outer, row, stage := .closed parts body }
  | joining {row : Row} : p.target = none → Joins token.kind →
    row.pipes ≠ [] ∨ row.chain ≠ [] → Fed p token { p with row, stage := .opening {} }
  | separating {sep : Separator} {item : Command × Separator} :
    Separator.ofKind? token.kind = some sep →
    Fed p token { p with row := { items := item :: p.row.items }, stage := .opening {} }

variable {p q : Parser} {token : Token} {tokens : List Token}

theorem fed_of_close {body : Command} (right : token.kind = .rightParen)
    (h : p.close body = .ok q) : Fed p token q := by
  unfold Parser.close at h
  split at h
  · cases h
  · next around =>
    cases h
    exact .closing right around

theorem fed_of_feedOpening {parts : StageParts} (h : p.feedOpening parts token = .ok q) :
    Fed p token q := by
  unfold Parser.feedOpening at h
  split at h
  · next left =>
    cases h
    exact .opening left
  split at h
  · cases h
  split at h
  · next right =>
    split at h
    · cases h
    split at h
    · exact fed_of_close right h
    · cases h
  · cases h

theorem joins_of_connective {kind : TokenKind} {op : Connective}
    (h : Connective.ofKind? kind = some op) : kind = .conjunction ∨ kind = .disjunction := by
  cases kind <;> simp [Connective.ofKind?] at h ⊢

theorem fed_of_feedComplete {c : Command} (free : p.target = none)
    (h : p.feedComplete c token = .ok q) : Fed p token q := by
  unfold Parser.feedComplete at h
  split at h
  · next right => exact fed_of_close right h
  split at h
  · next pipe =>
    cases h
    exact .joining free (.inl pipe) (.inl (List.cons_ne_nil _ _))
  split at h
  · next op connective =>
    cases h
    exact .joining free (.inr (joins_of_connective connective)) (.inr (List.cons_ne_nil _ _))
  split at h
  · next sep separates =>
    cases h
    exact .separating separates
  · cases h

theorem fed_of_feed (h : p.feed token = .ok q) : Fed p token q := by
  unfold Parser.feed at h
  cases waiting : p.target with
  | some target =>
    obtain ⟨op, text⟩ := target
    simp only [waiting] at h
    split at h
    · next word =>
      obtain ⟨stage, redirected, rfl⟩ := exists_of_map_eq_ok h
      exact .filename waiting word redirected
    · cases h
  | none =>
    simp only [waiting] at h
    split at h
    · next word =>
      unfold Parser.feedWord at h
      split at h
      · split at h
        · cases h
          exact .assignment word
        · cases h
          exact .word word
      · cases h
        exact .word word
      · cases h
    split at h
    · next op redirects =>
      cases h
      exact .operator redirects
    split at h
    · exact fed_of_feedOpening h
    · exact fed_of_feedComplete waiting h
    · exact fed_of_feedComplete waiting h

/-! ## How many parentheses are open -/

theorem opens_append (s t : List Token) : opens (s ++ t) = opens s + opens t :=
  List.countP_append

theorem closes_append (s t : List Token) : closes (s ++ t) = closes s + closes t :=
  List.countP_append

theorem depth_feed (h : p.feed token = .ok q) :
    q.outer.length + closes [token] = p.outer.length + opens [token] := by
  cases fed_of_feed h with
  | filename _ word | assignment word | word word => simp [closes, opens, word]
  | operator redirects =>
    cases kind : token.kind <;> simp [kind, RedirectOp.ofKind?, closes, opens] at redirects ⊢
  | opening left => simp [closes, opens, left]
  | closing right around => simp [closes, opens, right, around]
  | joining _ joins => obtain kind | kind | kind := joins <;> simp [closes, opens, kind]
  | separating separates =>
    cases kind : token.kind <;> simp [kind, Separator.ofKind?, closes, opens] at separates ⊢

theorem depth_feedAll (h : p.feedAll tokens = .ok q) :
    q.outer.length + closes tokens = p.outer.length + opens tokens := by
  induction tokens generalizing p with
  | nil =>
    cases h
    rfl
  | cons token tokens ih =>
    rw [← List.singleton_append] at h ⊢
    obtain ⟨r, first, rest⟩ := feedAll_split h
    have step := depth_feed (feed_of_feedAll first)
    have run := ih rest
    rw [opens_append, closes_append]
    omega

theorem depth_read (read : Parser.feedAll {} tokens = .ok p) :
    p.outer.length + closes tokens = opens tokens := by
  simpa using depth_feedAll read

theorem closes_le_opens {front : List Token} (read : Parser.feedAll {} tokens = .ok p)
    (beginning : front ∈ tokens.inits) : closes front ≤ opens front := by
  obtain ⟨back, rfl⟩ := (List.mem_inits _ _).mp beginning
  obtain ⟨q, first, -⟩ := feedAll_split read
  have depth := depth_read first
  omega

/-! ## Where a stage is missing -/

/-- A pipe or a connective is the last thing that has been read. -/
def Lacks (p : Parser) : Prop :=
  p.target = none ∧ (∃ parts, p.stage = .opening parts ∧ parts.isEmpty = true) ∧
    p.row.isFresh = false ∧ p.row.ended? = none

theorem isEmpty_redirect {parts parts' : StageParts} {r : Redirection}
    (h : parts.redirect r = .ok parts') : parts'.isEmpty = false := by
  unfold StageParts.redirect at h
  split at h
  all_goals
    split at h
    · cases h
    · cases h
      simp [StageParts.isEmpty]

theorem isEmpty_stageRedirect {stage : Stage} {parts : StageParts} {r : Redirection}
    (h : stage.redirect r = .ok (.opening parts)) : parts.isEmpty = false := by
  cases stage with
  | opening before =>
    obtain ⟨parts', taken, same⟩ := exists_of_map_eq_ok h
    cases same
    exact isEmpty_redirect taken
  | simple | closed =>
    obtain ⟨parts', taken, same⟩ := exists_of_map_eq_ok h
    cases same

theorem lacks_iff_joins (h : p.feed token = .ok q) : Lacks q ↔ Joins token.kind := by
  cases fed_of_feed h with
  | @filename op text stage _ word redirected =>
    refine ⟨?_, by simp [Joins, word]⟩
    rintro ⟨-, ⟨parts, opening, empty⟩, -⟩
    obtain rfl : stage = .opening parts := opening
    rw [isEmpty_stageRedirect redirected] at empty
    cases empty
  | assignment word => simp [Lacks, Joins, word, StageParts.assign, StageParts.isEmpty]
  | word word => simp [Lacks, Joins, word]
  | operator redirects =>
    cases kind : token.kind <;> simp [kind, RedirectOp.ofKind?, Lacks, Joins] at redirects ⊢
  | opening left => simp [Lacks, Joins, left, Row.isFresh]
  | closing right around => simp [Lacks, Joins, right]
  | @joining row free joins occupied =>
    refine ⟨fun _ => joins, fun _ => ⟨free, ⟨{}, rfl, rfl⟩, ?_⟩⟩
    obtain ⟨pipes, chain, items⟩ := row
    cases pipes <;> cases chain <;> simp [Row.isFresh, Row.ended?] at occupied ⊢
  | separating separates =>
    cases kind : token.kind <;>
      simp [kind, Separator.ofKind?, Lacks, Joins, Row.ended?] at separates ⊢

theorem feed_of_lacks (lacks : Lacks p) (right : token.kind = .rightParen) :
    p.feed token = .error .unbalancedParen := by
  obtain ⟨free, ⟨parts, opening, empty⟩, started, unended⟩ := lacks
  simp [Parser.feed, Parser.feedOpening, free, right, opening, empty, started, unended,
    RedirectOp.ofKind?]

/-! ## Where the error comes from -/

theorem outer_of_close {body : Command} {e : ParseError} (h : p.close body = .error e) :
    p.outer = [] := by
  unfold Parser.close at h
  split at h
  · assumption
  · cases h

theorem feedOpening_unbalanced {parts : StageParts} (free : p.target = none)
    (stage : p.stage = .opening parts) (h : p.feedOpening parts token = .error .unbalancedParen) :
    token.kind = .rightParen ∧ (p.outer = [] ∨ Lacks p) := by
  unfold Parser.feedOpening at h
  split at h
  · cases h
  split at h
  · cases h
  next empty =>
  split at h
  · next right =>
    refine ⟨right, ?_⟩
    split at h
    · cases h
    next started =>
    split at h
    · exact .inl (outer_of_close h)
    · next unended =>
      by_cases outer : p.outer = []
      · exact .inl outer
      · refine .inr ⟨free, ⟨parts, stage, by simpa using empty⟩, ?_, unended⟩
        simpa [outer] using started
  · cases h

theorem feedComplete_unbalanced {c : Command}
    (h : p.feedComplete c token = .error .unbalancedParen) :
    token.kind = .rightParen ∧ p.outer = [] := by
  unfold Parser.feedComplete at h
  split at h
  · next right => exact ⟨right, outer_of_close h⟩
  split at h
  · cases h
  split at h
  · cases h
  split at h <;> cases h

theorem feed_unbalanced (h : p.feed token = .error .unbalancedParen) :
    token.kind = .rightParen ∧ (p.outer = [] ∨ Lacks p) := by
  unfold Parser.feed at h
  cases waiting : p.target with
  | some target =>
    obtain ⟨op, text⟩ := target
    simp only [waiting] at h
    split at h
    · obtain ⟨stream, same⟩ := stageRedirect_eq_error (eq_error_of_map_eq_error h)
      cases same
    · cases h
  | none =>
    simp only [waiting] at h
    split at h
    · unfold Parser.feedWord at h
      split at h
      · split at h <;> cases h
      · cases h
      · cases h
    split at h
    · cases h
    split at h
    · next stage => exact feedOpening_unbalanced waiting stage h
    · exact (feedComplete_unbalanced h).imp_right .inl
    · exact (feedComplete_unbalanced h).imp_right .inl

theorem finish_by_outer (p : Parser) :
    (∃ e, e ≠ .unbalancedParen ∧ p.finish = .error e) ∨
      ∃ c, p.finish = if p.outer.isEmpty then .ok c else .error .unbalancedParen := by
  unfold Parser.finish
  split
  · exact .inl ⟨.missingRedirectTarget _, nofun, rfl⟩
  split
  · split
    · exact .inl ⟨.missingCommand, nofun, rfl⟩
    split
    · exact .inr ⟨_, rfl⟩
    · exact .inl ⟨.unexpectedEnd, nofun, rfl⟩
  · exact .inr ⟨_, rfl⟩
  · exact .inr ⟨_, rfl⟩

theorem outer_of_finish {c : Command} (h : p.finish = .ok c) : p.outer = [] := by
  obtain ⟨e, -, failed⟩ | ⟨c', decided⟩ := finish_by_outer p
  · rw [h] at failed
    cases failed
  · rw [h] at decided
    split at decided
    · next empty => exact List.isEmpty_iff.mp empty
    · cases decided

theorem finish_unbalanced (h : p.finish = .error .unbalancedParen) : p.outer ≠ [] := by
  intro empty
  obtain ⟨e, other, failed⟩ | ⟨c, decided⟩ := finish_by_outer p
  · rw [h] at failed
    cases failed
    exact other rfl
  · rw [h, if_pos (List.isEmpty_iff.mpr empty)] at decided
    cases decided

/-! ## What the error tells -/

theorem not_unbalanced_of_ok {c : Command} (parsed : parse tokens = .ok c) :
    ¬Unbalanced tokens := by
  obtain ⟨p, read, finished⟩ := read_of_parse parsed
  have depth := depth_read read
  rw [outer_of_finish finished, List.length_nil] at depth
  rintro (⟨front, beginning, fewer⟩ | more)
  · have := closes_le_opens read beginning
    omega
  · omega

theorem joins_of_lacks (read : Parser.feedAll {} tokens = .ok p) (lacks : Lacks p) :
    ∃ before op, tokens = before ++ [op] ∧ Joins op.kind := by
  obtain rfl | ⟨before, op, rfl⟩ := tokens.eq_nil_or_concat'
  · cases read
    cases lacks.2.2.1
  · obtain ⟨q, -, last⟩ := feedAll_split read
    exact ⟨before, op, rfl, (lacks_iff_joins (feed_of_feedAll last)).mp lacks⟩

theorem unbalanced_or_dangling (failed : parse tokens = .error .unbalancedParen) :
    Unbalanced tokens ∨ Dangling tokens := by
  obtain ⟨p, read, finished⟩ | ⟨before, token, after, p, rfl, read, refused⟩ :=
    parse_eq_error failed
  · have depth := depth_read read
    have inside := List.length_pos_iff.mpr (finish_unbalanced finished)
    exact .inl (.inr (by omega))
  · obtain ⟨right, outside | lacks⟩ := feed_unbalanced refused
    · have depth := depth_read read
      rw [outside, List.length_nil] at depth
      have beginning : before ++ [token] ∈ (before ++ token :: after).inits :=
        (List.mem_inits _ _).mpr ⟨after, by simp⟩
      refine .inl (.inl ⟨before ++ [token], beginning, ?_⟩)
      rw [opens_append, closes_append]
      simp [opens, closes, right] at depth ⊢
      omega
    · obtain ⟨before, op, rfl, joins⟩ := joins_of_lacks read lacks
      refine .inr ⟨before, op, token, after, by simp, joins, right, ?_⟩
      exact completable_of_feedAll read lacks.1

theorem parse_of_dangling (dangling : Dangling tokens) :
    parse tokens = .error .unbalancedParen := by
  obtain ⟨before, op, close, after, rfl, joins, right, more, c, parsed⟩ := dangling
  obtain ⟨_, whole, -⟩ := read_of_parse parsed
  obtain ⟨p, read, -⟩ := feedAll_split whole
  obtain ⟨q, -, last⟩ := feedAll_split read
  have lacks : Lacks p := (lacks_iff_joins (feed_of_feedAll last)).mpr joins
  rw [List.append_cons]
  exact parse_of_feed_error read (feed_of_lacks lacks right) after

/-- A balanced list is reported as unbalanced exactly where a closing parenthesis stands behind a pipe
or a connective; every other list of which this is said is unbalanced. No unbalanced list parses. -/
theorem unbalancedParen_iff_dangling (tokens : List Token) :
    (¬Unbalanced tokens → (parse tokens = .error .unbalancedParen ↔ Dangling tokens)) ∧
      (Unbalanced tokens → ∀ c, parse tokens ≠ .ok c) := by
  refine ⟨fun balanced => ⟨?_, parse_of_dangling⟩, fun unbalanced c parsed => ?_⟩
  · intro failed
    exact (unbalanced_or_dangling failed).resolve_left balanced
  · exact not_unbalanced_of_ok parsed unbalanced

/-- `(a|)` is balanced, and its last parenthesis stands behind the pipe; `(a;b` is not. -/
theorem unbalancedParen_iff_dangling_pipe :
    let piped : List Token :=
      [.operator .leftParen, .word "a", .operator .pipe, .operator .rightParen]
    let cut : List Token :=
      [.operator .leftParen, .word "a", .operator .semicolon, .word "b"]
    (¬Unbalanced piped ∧ parse piped = .error .unbalancedParen ∧ Dangling piped) ∧
      (Unbalanced cut ∧ ∀ c, parse cut ≠ .ok c) := by
  intro piped cut
  have balanced : ¬Unbalanced piped := by decide
  have failed : parse piped = .error .unbalancedParen := rfl
  have unbalanced : Unbalanced cut := by decide
  have dangling := ((unbalancedParen_iff_dangling piped).1 balanced).mp failed
  exact ⟨⟨balanced, failed, dangling⟩, unbalanced, (unbalancedParen_iff_dangling cut).2 unbalanced⟩

/-- `(a&&)` is reported as unbalanced, and each of its parentheses has its partner. -/
theorem unbalancedParen_of_balanced :
    let tokens : List Token :=
      [.operator .leftParen, .word "a", .operator .conjunction, .operator .rightParen]
    parse tokens = .error .unbalancedParen ∧ ¬Unbalanced tokens :=
  ⟨rfl, by decide⟩

end CommandShell.Command
