import CommandShell.Proofs.Command.Grammar

/-!
# What the parser has read

The parser holds stages, pipelines, chains and items that are still open. Each piece of its state
stands for a stretch of the tokens read so far, and the grammar derives each finished piece from its
stretch. A step keeps this, and at the end the stretches make one list.
-/

set_option autoImplicit false

namespace CommandShell.Grammar
open Command

def pipe? (kind : TokenKind) : Option Unit := if kind = .pipe then some () else none

/-- Commands of a level, nearest first, each with the token that joins it to what comes next. -/
inductive Joined {α : Type} (level : Level) (ofKind? : TokenKind → Option α) :
    List (Command × α) → List Token → Prop
  | nil : Joined level ofKind? [] []
  | cons {lefts : List (Command × α)} {before tokens : List Token} {token : Token} {op : α}
      {left : Command} :
    Joined level ofKind? lefts before → Derives level tokens left →
    ofKind? token.kind = some op →
    Joined level ofKind? ((left, op) :: lefts) (before ++ tokens ++ [token])

def RowReads (row : Row) (tokens : List Token) : Prop :=
  ∃ items chain pipes, Joined .chain Separator.ofKind? row.items items ∧
    Joined .pipeline Connective.ofKind? row.chain chain ∧
    Joined .stage pipe? (row.pipes.map fun c => (c, ())) pipes ∧ tokens = items ++ chain ++ pipes

def StageReads : Stage → List Token → Prop
  | .opening parts, tokens => ∃ locals rs, Prefix tokens locals rs ∧ Amounts locals rs parts
  | .simple c, tokens => Derives .stage tokens (.simple c)
  | .closed parts body, tokens => Derives .stage tokens (.subshell parts body)

inductive OuterReads : List (Row × StageParts) → List Token → Prop
  | nil : OuterReads [] []
  | cons {outer : List (Row × StageParts)} {row : Row} {parts : StageParts}
      {before middle stage : List Token} {token : Token} :
    OuterReads outer before → RowReads row middle → StageReads (.opening parts) stage →
    token.kind = .leftParen →
    OuterReads ((row, parts) :: outer) (before ++ middle ++ stage ++ [token])

def TargetReads : Option (RedirectOp × String) → List Token → Prop
  | none, tokens => tokens = []
  | some (op, text), tokens =>
    ∃ token, RedirectOp.ofKind? token.kind = some op ∧ token.text = text ∧ tokens = [token]

/-- The tokens read are the stretches of the state's pieces, from outside to inside. -/
def Reads (p : Parser) (tokens : List Token) : Prop :=
  ∃ before row stage target, OuterReads p.outer before ∧ RowReads p.row row ∧
    StageReads p.stage stage ∧ TargetReads p.target target ∧
    tokens = before ++ row ++ stage ++ target

/-! ## Closing what is open -/

theorem Joined.close {α : Type} {level next : Level} {ofKind? : TokenKind → Option α}
    {f : Command → Command × α → Command} {lefts : List (Command × α)}
    {before tokens : List Token} {c : Command}
    (hf : ∀ {front back : List Token} {token : Token} {op : α} {left right : Command},
      Derives level front left → ofKind? token.kind = some op → Derives next back right →
      Derives next (front ++ token :: back) (f right (left, op)))
    (h : Joined level ofKind? lefts before) (hc : Derives next tokens c) :
    Derives next (before ++ tokens) (lefts.foldl f c) := by
  induction h generalizing tokens c with
  | nil => exact hc
  | cons _ hl hk ih => simpa using ih (hf hl hk hc)

theorem pipe?_eq_some {kind : TokenKind} {u : Unit} (h : pipe? kind = some u) : kind = .pipe := by
  unfold pipe? at h
  split at h
  · assumption
  · simp at h

theorem derives_pipeline {row : Row} {pipes tokens : List Token} {c : Command}
    (hp : Joined .stage pipe? (row.pipes.map fun c => (c, ())) pipes)
    (hc : Derives .stage tokens c) : Derives .pipeline (pipes ++ tokens) (row.pipeline c) := by
  have := hp.close (f := fun right left => .pipe left.1 right)
    (fun hl hk hr => .pipe hl (pipe?_eq_some hk) hr) (.stage hc)
  rwa [List.foldl_map] at this

theorem derives_chained {row : Row} {chain pipes tokens : List Token} {c : Command}
    (hr : Joined .pipeline Connective.ofKind? row.chain chain)
    (hp : Joined .stage pipe? (row.pipes.map fun c => (c, ())) pipes)
    (hc : Derives .stage tokens c) :
    Derives .chain (chain ++ (pipes ++ tokens)) (row.chained c) :=
  hr.close (f := fun right left => .andOr left.2 left.1 right)
    (fun hl hk hr => .andOr hl hk hr) (.pipeline (derives_pipeline hp hc))

theorem derives_prepend {items : List (Command × Separator)} {before tokens : List Token}
    {c : Command} (hi : Joined .chain Separator.ofKind? items before)
    (hc : Derives .list tokens c) : Derives .list (before ++ tokens) (Row.prepend items c) :=
  hi.close (f := fun right left => .list left.2 left.1 right) (fun hl hk hr => .list hl hk hr) hc

theorem RowReads.listed {row : Row} {before tokens : List Token} {c : Command}
    (h : RowReads row before) (hc : Derives .stage tokens c) :
    Derives .list (before ++ tokens) (row.listed c) := by
  obtain ⟨items, chain, pipes, hi, hr, hp, rfl⟩ := h
  simpa [Row.listed] using derives_prepend hi (.chain (derives_chained hr hp hc))

theorem RowReads.ended {row : Row} {before : List Token} {body : Command}
    (h : RowReads row before) (he : row.ended? = some body) : Derives .list before body := by
  obtain ⟨items, chain, pipes, hi, hr, hp, rfl⟩ := h
  obtain ⟨rowPipes, rowChain, rowItems⟩ := row
  cases hi with
  | nil => simp [Row.ended?] at he
  | cons hi hl hk =>
    cases hr with
    | cons => cases rowPipes <;> simp [Row.ended?] at he
    | nil =>
      cases rowPipes with
      | cons => simp [Row.ended?] at he
      | nil =>
        cases hp
        simp only [Row.ended?, Option.some.injEq] at he
        subst he
        simpa using derives_prepend hi (.ended hl hk)

/-! ## Steps -/

theorem rowReads_empty : RowReads {} [] := ⟨[], [], [], .nil, .nil, .nil, rfl⟩

theorem RowReads.pipe {row : Row} {before tokens : List Token} {token : Token} {c : Command}
    (h : RowReads row before) (hc : Derives .stage tokens c) (hk : token.kind = .pipe) :
    RowReads { row with pipes := c :: row.pipes } (before ++ tokens ++ [token]) := by
  obtain ⟨items, chain, pipes, hi, hr, hp, rfl⟩ := h
  refine ⟨items, chain, pipes ++ tokens ++ [token], hi, hr, ?_, by simp⟩
  exact .cons hp hc (by simp [pipe?, hk])

theorem RowReads.connective {row : Row} {before tokens : List Token} {token : Token} {c : Command}
    {op : Connective} (h : RowReads row before) (hc : Derives .stage tokens c)
    (hk : Connective.ofKind? token.kind = some op) :
    RowReads { row with pipes := [], chain := (row.pipeline c, op) :: row.chain }
      (before ++ tokens ++ [token]) := by
  obtain ⟨items, chain, pipes, hi, hr, hp, rfl⟩ := h
  refine ⟨items, chain ++ (pipes ++ tokens) ++ [token], [], hi, ?_, .nil, by simp⟩
  exact .cons hr (derives_pipeline hp hc) hk

theorem RowReads.separator {row : Row} {before tokens : List Token} {token : Token} {c : Command}
    {sep : Separator} (h : RowReads row before) (hc : Derives .stage tokens c)
    (hk : Separator.ofKind? token.kind = some sep) :
    RowReads { items := (row.chained c, sep) :: row.items } (before ++ tokens ++ [token]) := by
  obtain ⟨items, chain, pipes, hi, hr, hp, rfl⟩ := h
  refine ⟨items ++ (chain ++ (pipes ++ tokens)) ++ [token], [], [], ?_, .nil, .nil, by simp⟩
  exact .cons hi (derives_chained hr hp hc) hk

theorem exists_of_map_eq_ok {α β : Type} {f : α → β} {x : Except ParseError α} {b : β}
    (h : f <$> x = .ok b) : ∃ a, x = .ok a ∧ f a = b := by
  cases x with
  | error e => nomatch h
  | ok a => exact ⟨a, rfl, Except.ok.inj h⟩

theorem StageReads.redirect {stage stage' : Stage} {tokens last : List Token} {r : Redirection}
    (h : StageReads stage tokens) (hl : Redirects last r) (hr : stage.redirect r = .ok stage') :
    StageReads stage' (tokens ++ last) := by
  cases stage with
  | opening parts =>
    obtain ⟨locals, rs, hp, ha⟩ := h
    obtain ⟨parts', hq, rfl⟩ := exists_of_map_eq_ok hr
    have hl : Prefix last [] [r] := by simpa using Prefix.redirection hl .nil
    exact ⟨locals, rs ++ [r], by simpa using hp.append hl, ha.redirect hq⟩
  | simple c =>
    obtain ⟨parts, program, arguments⟩ := c
    obtain ⟨parts', hq, rfl⟩ := exists_of_map_eq_ok hr
    cases h with
    | simple hp hk hn hs ha =>
      have hl : Suffix last [] [r] := by simpa using Suffix.redirection hl .nil
      have ha := ha.redirect hq
      rw [List.append_assoc] at ha
      simpa [StageReads] using Derives.simple hp hk hn (hs.append hl) ha
  | closed parts body =>
    obtain ⟨parts', hq, rfl⟩ := exists_of_map_eq_ok hr
    cases h with
    | subshell hp ho hb hc hs ha =>
      have hl : Suffix last [] [r] := by simpa using Suffix.redirection hl .nil
      have ha := ha.redirect hq
      rw [List.append_assoc] at ha
      simpa [StageReads] using Derives.subshell hp ho hb hc (hs.append hl) ha

theorem StageReads.argument {c : SimpleCommand} {tokens : List Token} {token : Token}
    (h : StageReads (.simple c) tokens) (hk : token.kind = .word) :
    StageReads (.simple { c with arguments := c.arguments ++ [token.text] }) (tokens ++ [token]) := by
  obtain ⟨parts, program, arguments⟩ := c
  cases h with
  | simple hp hw hn hs ha =>
    have hs := hs.append (.word hk .nil)
    simpa [StageReads] using Derives.simple hp hw hn hs (by simpa using ha)

theorem reads_feedWord {p p' : Parser} {tokens : List Token} {token : Token}
    (h : Reads p tokens) (ht : p.target = none) (hk : token.kind = .word)
    (hf : p.feedWord token.text = .ok p') : Reads p' (tokens ++ [token]) := by
  obtain ⟨before, row, stage, target, ho, hr, hs, htr, rfl⟩ := h
  obtain ⟨outer, prow, pstage, ptarget⟩ := p
  simp only at ht
  subst ht
  simp only [TargetReads] at htr
  subst htr
  cases pstage with
  | opening parts =>
    obtain ⟨locals, rs, hp, ha⟩ := hs
    simp only [Parser.feedWord] at hf
    cases hw : Assignment.ofWord? token.text with
    | some a =>
      simp only [hw, Except.ok.injEq] at hf
      subst hf
      have hl : Prefix [token] [a] [] :=
        .assignment hk ((ofWord?_eq_some_iff _ _).1 hw) .nil
      refine ⟨before, row, stage ++ [token], [], ho, hr, ?_, rfl, by simp⟩
      exact ⟨locals ++ [a], rs, by simpa using hp.append hl, ha.assign a⟩
    | none =>
      simp only [hw, Except.ok.injEq] at hf
      subst hf
      refine ⟨before, row, stage ++ [token], [], ho, hr, ?_, rfl, by simp⟩
      exact .simple hp hk ((ofWord?_eq_none_iff _).1 hw) .nil (by simpa using ha)
  | simple c =>
    simp only [Parser.feedWord, Except.ok.injEq] at hf
    subst hf
    exact ⟨before, row, stage ++ [token], [], ho, hr, hs.argument hk, rfl, by simp⟩
  | closed parts body => simp [Parser.feedWord] at hf

theorem reads_close {p p' : Parser} {before inner : List Token} {token : Token} {body : Command}
    (ho : OuterReads p.outer before) (hb : Derives .list inner body)
    (hk : token.kind = .rightParen) (hc : p.close body = .ok p') :
    Reads p' (before ++ inner ++ [token]) := by
  obtain ⟨outer, prow, pstage, ptarget⟩ := p
  cases ho with
  | nil => simp [Parser.close] at hc
  | cons ho hr hs hl =>
    simp only [Parser.close, Except.ok.injEq] at hc
    subst hc
    obtain ⟨locals, rs, hp, ha⟩ := hs
    refine ⟨_, _, _, [], ho, hr, Derives.subshell hp hl hb hk .nil (by simpa using ha), rfl, ?_⟩
    simp

theorem reads_feedOpening {p p' : Parser} {before row stage : List Token} {token : Token}
    {parts : StageParts} (ho : OuterReads p.outer before) (hr : RowReads p.row row)
    (hs : StageReads (.opening parts) stage) (hf : p.feedOpening parts token = .ok p') :
    Reads p' (before ++ row ++ stage ++ [token]) := by
  unfold Parser.feedOpening at hf
  by_cases hl : token.kind = .leftParen
  · simp only [hl, if_true, Except.ok.injEq] at hf
    subst hf
    exact ⟨_, [], [], [], .cons ho hr hs hl, rowReads_empty, ⟨[], [], .nil, amounts_nil⟩, rfl,
      by simp⟩
  · by_cases he : parts.isEmpty = true
    · obtain ⟨locals, rs, hp, ha⟩ := hs
      have hnil : stage = [] := hp.eq_nil_of_isEmpty ha he
      subst hnil
      by_cases hk : token.kind = .rightParen
      · simp only [hk, he, reduceCtorEq, if_false, Bool.not_true, Bool.false_eq_true, if_true] at hf
        split at hf
        · simp at hf
        · cases hb : p.row.ended? with
          | none => simp [hb] at hf
          | some body =>
            rw [hb] at hf
            simpa using reads_close ho (hr.ended hb) hk hf
      · simp [hl, hk, he] at hf
    · simp [hl, he] at hf

theorem reads_feedComplete {p p' : Parser} {before row stage : List Token} {token : Token}
    {c : Command} (ht : p.target = none) (ho : OuterReads p.outer before) (hr : RowReads p.row row)
    (hs : Derives .stage stage c) (hf : p.feedComplete c token = .ok p') :
    Reads p' (before ++ row ++ stage ++ [token]) := by
  have opening : StageReads (.opening {}) [] := ⟨[], [], .nil, amounts_nil⟩
  have waiting : TargetReads p.target [] := by rw [ht]; rfl
  unfold Parser.feedComplete at hf
  by_cases hk : token.kind = .rightParen
  · simp only [hk, if_true] at hf
    simpa using reads_close ho (hr.listed hs) hk hf
  by_cases hp : token.kind = .pipe
  · simp only [hp, reduceCtorEq, if_false, if_true, Except.ok.injEq] at hf
    subst hf
    exact ⟨before, _, [], [], ho, hr.pipe hs hp, opening, waiting, by simp⟩
  simp only [hk, hp, if_false] at hf
  cases hop : Connective.ofKind? token.kind with
  | some op =>
    simp only [hop, Except.ok.injEq] at hf
    subst hf
    exact ⟨before, _, [], [], ho, hr.connective hs hop, opening, waiting, by simp⟩
  | none =>
    cases hsep : Separator.ofKind? token.kind with
    | some sep =>
      simp only [hop, hsep, Except.ok.injEq] at hf
      subst hf
      exact ⟨before, _, [], [], ho, hr.separator hs hsep, opening, waiting, by simp⟩
    | none => simp [hop, hsep] at hf

/-- One token more is one token more that has been read. -/
theorem reads_feed {p p' : Parser} {tokens : List Token} {token : Token} (h : Reads p tokens)
    (hf : p.feed token = .ok p') : Reads p' (tokens ++ [token]) := by
  unfold Parser.feed at hf
  cases ht : p.target with
  | some waiting =>
    obtain ⟨op, text⟩ := waiting
    obtain ⟨before, row, stage, target, ho, hr, hs, htr, rfl⟩ := h
    rw [ht] at htr
    obtain ⟨operator, hop, rfl, rfl⟩ := htr
    by_cases hk : token.kind = .word
    · simp only [ht, hk, if_true] at hf
      obtain ⟨stage', hq, rfl⟩ := exists_of_map_eq_ok hf
      refine ⟨before, row, stage ++ [operator, token], [], ho, hr, ?_, rfl, by simp⟩
      exact hs.redirect (.mk hop hk) hq
    · simp [ht, hk] at hf
  | none =>
    by_cases hk : token.kind = .word
    · simp only [ht, hk, if_true] at hf
      exact reads_feedWord h ht hk hf
    · simp only [ht, hk, if_false] at hf
      obtain ⟨before, row, stage, target, ho, hr, hs, htr, rfl⟩ := h
      rw [ht] at htr
      simp only [TargetReads] at htr
      subst htr
      cases hop : RedirectOp.ofKind? token.kind with
      | some op =>
        simp only [hop, Except.ok.injEq] at hf
        subst hf
        exact ⟨before, row, stage, [token], ho, hr, hs, ⟨token, hop, rfl, rfl⟩, by simp⟩
      | none =>
        simp only [hop] at hf
        rw [List.append_nil]
        cases hst : p.stage with
        | opening parts =>
          rw [hst] at hs hf
          exact reads_feedOpening ho hr hs hf
        | simple c =>
          rw [hst] at hs hf
          exact reads_feedComplete ht ho hr hs hf
        | closed parts body =>
          rw [hst] at hs hf
          exact reads_feedComplete ht ho hr hs hf

theorem reads_feedAll {p p' : Parser} {tokens more : List Token} (h : Reads p tokens)
    (hf : p.feedAll more = .ok p') : Reads p' (tokens ++ more) := by
  induction more generalizing p tokens with
  | nil =>
    simp only [Parser.feedAll, Except.ok.injEq] at hf
    subst hf
    simpa using h
  | cons token more ih =>
    cases hq : p.feed token with
    | error e => simp [Parser.feedAll, hq, Except.bind] at hf
    | ok q =>
      simp only [Parser.feedAll, hq, Except.bind] at hf
      simpa using ih (reads_feed h hq) hf

theorem derives_of_finish {p : Parser} {tokens : List Token} {c : Command} (h : Reads p tokens)
    (hf : p.finish = .ok c) : Derives .list tokens c := by
  obtain ⟨before, row, stage, target, ho, hr, hs, htr, rfl⟩ := h
  obtain ⟨outer, prow, pstage, ptarget⟩ := p
  cases ptarget with
  | some waiting => simp [Parser.finish] at hf
  | none =>
    simp only [TargetReads] at htr
    subst htr
    -- The parser finishes only where no parenthesis is open, so nothing stands outside the row.
    have outermost {body : Command}
        (hf : (if outer.isEmpty then Except.ok body else .error ParseError.unbalancedParen) = .ok c) :
        before = [] ∧ body = c := by
      cases ho with
      | nil => exact ⟨rfl, by simpa using hf⟩
      | cons => simp at hf
    cases pstage with
    | opening parts =>
      simp only [Parser.finish] at hf
      by_cases he : parts.isEmpty = true
      · obtain ⟨locals, rs, hp, ha⟩ := hs
        have hnil : stage = [] := hp.eq_nil_of_isEmpty ha he
        subst hnil
        cases hb : prow.ended? with
        | none => simp [he, hb] at hf
        | some body =>
          simp only [he, hb, Bool.not_true, Bool.false_eq_true, if_false] at hf
          obtain ⟨rfl, rfl⟩ := outermost hf
          simpa using hr.ended hb
      · simp [he] at hf
    | simple c' =>
      obtain ⟨rfl, rfl⟩ := outermost hf
      simpa using hr.listed hs
    | closed parts body =>
      obtain ⟨rfl, rfl⟩ := outermost hf
      simpa using hr.listed hs

theorem reads_start : Reads {} [] :=
  ⟨[], [], [], [], .nil, rowReads_empty, ⟨[], [], .nil, amounts_nil⟩, rfl, rfl⟩

/-- Whatever the parser accepts, the grammar derives. -/
theorem derives_of_parse {tokens : List Token} {c : Command} (h : parse tokens = .ok c) :
    Derives .list tokens c := by
  unfold parse at h
  cases hp : Parser.feedAll {} tokens with
  | error e => simp [hp, Except.bind] at h
  | ok p =>
    rw [hp] at h
    simpa using derives_of_finish (reads_feedAll reads_start hp) h

end CommandShell.Grammar
