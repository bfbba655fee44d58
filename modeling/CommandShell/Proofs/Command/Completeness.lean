import CommandShell.Proofs.Command.Soundness

/-!
# The parser accepts its grammar

From a state whose stage has not begun, the parser takes the tokens of each level whole and leaves
the row it stood in with the pieces of that level in front. With the reading of its states this
makes the parser and the grammar agree on every token list and every command.
-/

set_option autoImplicit false

namespace CommandShell.Grammar
open Command

theorem feedAll_ok_append {p q : Parser} {s t : List Token} (h : p.feedAll s = .ok q) :
    p.feedAll (s ++ t) = q.feedAll t := by
  rw [Parser.feedAll_append, h]
  rfl

theorem feedAll_cons {p q : Parser} {token : Token} {tokens : List Token}
    (h : p.feed token = .ok q) : p.feedAll (token :: tokens) = q.feedAll tokens := by
  simp only [Parser.feedAll, h, Except.bind]

/-! ## The parts of a stage -/

theorem feedAll_redirects {outer : List (Row × StageParts)} {row : Row} {stage : Stage}
    (stage' : Stage) {tokens : List Token} {r : Redirection} (h : Redirects tokens r)
    (hr : stage.redirect r = .ok stage') :
    Parser.feedAll ⟨outer, row, stage, none⟩ tokens = .ok ⟨outer, row, stage', none⟩ := by
  cases h with
  | @mk op file operator hop hk =>
    have hw : op.kind ≠ .word := by
      intro hw
      simp [hw, RedirectOp.ofKind?] at hop
    rw [feedAll_cons (q := ⟨outer, row, stage, some (operator, op.text)⟩)
      (by simp [Parser.feed, hw, hop])]
    simp [Parser.feedAll, Parser.feed, hk, hr, Functor.map, Except.map, Except.bind]

theorem feedAll_prefix (outer : List (Row × StageParts)) (row : Row) {tokens : List Token}
    {locals : List Assignment} {rs : List Redirection} (h : Prefix tokens locals rs) :
    ∀ {as all : List Assignment} {before after : List Redirection} {parts final : StageParts},
      Amounts as before parts → Amounts all (before ++ (rs ++ after)) final →
      ∃ parts', Parser.feedAll ⟨outer, row, .opening parts, none⟩ tokens =
          .ok ⟨outer, row, .opening parts', none⟩ ∧
        Amounts (as ++ locals) (before ++ rs) parts' := by
  induction h with
  | nil => exact fun {_ _ _ _ parts _} ha _ => ⟨parts, rfl, by simpa using ha⟩
  | @assignment word a tokens locals rs hk hw _ ih =>
    intro as all before after parts final ha hf
    obtain ⟨parts', hp, ha'⟩ := ih (ha.assign a) hf
    refine ⟨parts', ?_, by simpa using ha'⟩
    rw [feedAll_cons (q := ⟨outer, row, .opening (parts.assign a), none⟩)
      (by simp [Parser.feed, Parser.feedWord, hk, (ofWord?_eq_some_iff _ _).2 hw]), hp]
  | @redirection front tokens r locals rs hr _ ih =>
    intro as all before after parts final ha hf
    obtain ⟨middle, hm, ha'⟩ := ha.exists_redirect hf
    obtain ⟨parts', hp, ha'⟩ := ih ha' (by simpa using hf)
    refine ⟨parts', ?_, by simpa using ha'⟩
    rw [feedAll_ok_append (feedAll_redirects (.opening middle) hr ?_), hp]
    simp [Stage.redirect, hm, Functor.map, Except.map]

theorem feedAll_arguments (outer : List (Row × StageParts)) (row : Row) (program : String)
    {locals all : List Assignment} {tokens : List Token} {arguments : List String}
    {rs : List Redirection} (h : Suffix tokens arguments rs) :
    ∀ {before : List Redirection} {parts final : StageParts} (taken : List String),
      Amounts locals before parts → Amounts all (before ++ rs) final →
      ∃ parts', Parser.feedAll ⟨outer, row, .simple ⟨parts, program, taken⟩, none⟩ tokens =
          .ok ⟨outer, row, .simple ⟨parts', program, taken ++ arguments⟩, none⟩ ∧
        Amounts locals (before ++ rs) parts' := by
  induction h with
  | nil => exact fun {_ parts _} _ ha _ => ⟨parts, by simp [Parser.feedAll], by simpa using ha⟩
  | @word word tokens arguments rs hk _ ih =>
    intro before parts final taken ha hf
    obtain ⟨parts', hp, ha'⟩ := ih (taken ++ [word.text]) ha hf
    refine ⟨parts', ?_, ha'⟩
    rw [feedAll_cons (q := ⟨outer, row, .simple ⟨parts, program, taken ++ [word.text]⟩, none⟩)
      (by simp [Parser.feed, Parser.feedWord, hk]), hp]
    simp
  | @redirection front tokens r arguments rs hr _ ih =>
    intro before parts final taken ha hf
    obtain ⟨middle, hm, ha'⟩ := ha.exists_redirect hf
    obtain ⟨parts', hp, ha'⟩ := ih taken ha' (by simpa using hf)
    refine ⟨parts', ?_, by simpa using ha'⟩
    rw [feedAll_ok_append
      (feedAll_redirects (.simple ⟨middle, program, taken⟩) hr ?_), hp]
    simp [Stage.redirect, hm, Functor.map, Except.map]

theorem feedAll_redirections (outer : List (Row × StageParts)) (row : Row) (body : Command)
    {locals all : List Assignment} {tokens : List Token} {arguments : List String}
    {rs : List Redirection} (h : Suffix tokens arguments rs) (hn : arguments = []) :
    ∀ {before : List Redirection} {parts final : StageParts},
      Amounts locals before parts → Amounts all (before ++ rs) final →
      ∃ parts', Parser.feedAll ⟨outer, row, .closed parts body, none⟩ tokens =
          .ok ⟨outer, row, .closed parts' body, none⟩ ∧ Amounts locals (before ++ rs) parts' := by
  induction h with
  | nil => exact fun {_ parts _} ha _ => ⟨parts, rfl, by simpa using ha⟩
  | word => exact absurd hn (List.cons_ne_nil _ _)
  | @redirection front tokens r arguments rs hr _ ih =>
    intro before parts final ha hf
    obtain ⟨middle, hm, ha'⟩ := ha.exists_redirect hf
    obtain ⟨parts', hp, ha'⟩ := ih hn ha' (by simpa using hf)
    refine ⟨parts', ?_, by simpa using ha'⟩
    rw [feedAll_ok_append (feedAll_redirects (.closed middle body) hr ?_), hp]
    simp [Stage.redirect, hm, Functor.map, Except.map]

/-! ## Tokens between stages -/

theorem feed_complete {outer : List (Row × StageParts)} {row : Row} {stage : Stage} {c : Command}
    {token : Token} (hs : stage.command? = some c) (hw : token.kind ≠ .word)
    (hr : RedirectOp.ofKind? token.kind = none) :
    Parser.feed ⟨outer, row, stage, none⟩ token =
      Parser.feedComplete ⟨outer, row, stage, none⟩ c token := by
  cases stage with
  | opening parts => simp [Stage.command?] at hs
  | simple | closed =>
    simp only [Stage.command?, Option.some.injEq] at hs
    subst hs
    simp [Parser.feed, hw, hr]

theorem feed_pipe {outer : List (Row × StageParts)} {row : Row} {stage : Stage} {c : Command}
    {token : Token} (hs : stage.command? = some c) (hk : token.kind = .pipe) :
    Parser.feed ⟨outer, row, stage, none⟩ token =
      .ok ⟨outer, { row with pipes := c :: row.pipes }, .opening {}, none⟩ := by
  rw [feed_complete hs (by simp [hk]) (by simp [hk, RedirectOp.ofKind?])]
  simp [Parser.feedComplete, hk]

theorem feed_connective {outer : List (Row × StageParts)} {row : Row} {stage : Stage}
    {c : Command} {token : Token} {op : Connective} (hs : stage.command? = some c)
    (hk : Connective.ofKind? token.kind = some op) :
    Parser.feed ⟨outer, row, stage, none⟩ token =
      .ok ⟨outer, { row with pipes := [], chain := (row.pipeline c, op) :: row.chain },
        .opening {}, none⟩ := by
  have hkind : token.kind = .conjunction ∨ token.kind = .disjunction := by
    cases h : token.kind <;> simp [h, Connective.ofKind?] at hk ⊢
  rw [feed_complete hs (by rcases hkind with h | h <;> simp [h])
    (by rcases hkind with h | h <;> simp [h, RedirectOp.ofKind?])]
  have hne : token.kind ≠ .rightParen ∧ token.kind ≠ .pipe := by
    rcases hkind with h | h <;> simp [h]
  simp [Parser.feedComplete, hne, hk]

theorem feed_separator {outer : List (Row × StageParts)} {row : Row} {stage : Stage}
    {c : Command} {token : Token} {sep : Separator} (hs : stage.command? = some c)
    (hk : Separator.ofKind? token.kind = some sep) :
    Parser.feed ⟨outer, row, stage, none⟩ token =
      .ok ⟨outer, { items := (row.chained c, sep) :: row.items }, .opening {}, none⟩ := by
  have hkind : token.kind = .semicolon ∨ token.kind = .ampersand := by
    cases h : token.kind <;> simp [h, Separator.ofKind?] at hk ⊢
  rw [feed_complete hs (by rcases hkind with h | h <;> simp [h])
    (by rcases hkind with h | h <;> simp [h, RedirectOp.ofKind?])]
  have hne : token.kind ≠ .rightParen ∧ token.kind ≠ .pipe := by
    rcases hkind with h | h <;> simp [h]
  have hop : Connective.ofKind? token.kind = none := by
    rcases hkind with h | h <;> simp [h, Connective.ofKind?]
  simp [Parser.feedComplete, hne, hop, hk]

theorem feed_leftParen {outer : List (Row × StageParts)} {row : Row} {parts : StageParts}
    {token : Token} (hk : token.kind = .leftParen) :
    Parser.feed ⟨outer, row, .opening parts, none⟩ token =
      .ok ⟨(row, parts) :: outer, {}, .opening {}, none⟩ := by
  simp [Parser.feed, Parser.feedOpening, hk, RedirectOp.ofKind?]

/-! ## Levels -/

/-- Where the parser stands after a list: behind its last stage, or behind the separator that ends
it. -/
inductive Listed (items : List (Command × Separator)) (c : Command) : Row → Stage → Prop
  | complete (front : List (Command × Separator)) {row : Row} {stage : Stage} {last : Command} :
    stage.command? = some last → row.items = front ++ items →
    Row.prepend front (row.chained last) = c → Listed items c row stage
  | ended (front : List (Command × Separator)) {last : Command} {sep : Separator} :
    Row.prepend front (.ended sep last) = c →
    Listed items c { items := (last, sep) :: (front ++ items) } (.opening {})

theorem Listed.cons {items : List (Command × Separator)} {left right : Command} {sep : Separator}
    {row : Row} {stage : Stage} (h : Listed ((left, sep) :: items) right row stage) :
    Listed items (.list sep left right) row stage := by
  cases h with
  | @complete front row stage last hs hi hc =>
    refine .complete (front ++ [(left, sep)]) hs (by simp [hi]) ?_
    simp [Row.prepend, ← hc]
  | @ended front last sep' hc =>
    rw [List.append_cons]
    exact .ended (front ++ [(left, sep)]) (by simp [Row.prepend, ← hc])

def Fits : Level → Row → Prop
  | .stage, _ => True
  | .pipeline, _ => True
  | .chain, row => row.pipes = []
  | .list, row => row.pipes = [] ∧ row.chain = []

/-- Where the parser stands after the tokens of a level that began in this row. -/
def Taken : Level → Row → Command → Row → Stage → Prop
  | .stage, row, c, row', stage => row' = row ∧ stage.command? = some c
  | .pipeline, row, c, row', stage =>
    ∃ pipes last, stage.command? = some last ∧ row' = { row with pipes := pipes ++ row.pipes } ∧
      Row.pipeline { pipes } last = c
  | .chain, row, c, row', stage =>
    ∃ pipes chain last, stage.command? = some last ∧
      row' = { row with pipes, chain := chain ++ row.chain } ∧ Row.chained { pipes, chain } last = c
  | .list, row, c, row', stage => Listed row.items c row' stage

def Takes (level : Level) (tokens : List Token) (c : Command) : Prop :=
  ∀ outer row, Fits level row → ∃ row' stage,
    Parser.feedAll ⟨outer, row, .opening {}, none⟩ tokens = .ok ⟨outer, row', stage, none⟩ ∧
      Taken level row c row' stage

theorem takes_simple {front back : List Token} {program : Token} {locals : List Assignment}
    {before after : List Redirection} {arguments : List String} {parts : StageParts}
    (hp : Prefix front locals before) (hk : program.kind = .word)
    (hn : ∀ a, ¬Assigns program.text a) (hs : Suffix back arguments after)
    (ha : Amounts locals (before ++ after) parts) :
    Takes .stage (front ++ program :: back) (.simple ⟨parts, program.text, arguments⟩) := by
  intro outer row _
  obtain ⟨middle, hf, hm⟩ := feedAll_prefix outer row hp amounts_nil ha
  obtain ⟨final, hb, hfinal⟩ :=
    feedAll_arguments outer row program.text hs [] hm ha
  have hfinal : final = parts := hfinal.unique ha
  subst hfinal
  refine ⟨row, .simple ⟨final, program.text, arguments⟩, ?_, rfl, rfl⟩
  rw [feedAll_ok_append hf, feedAll_cons
    (q := ⟨outer, row, .simple { parts := middle, program := program.text }, none⟩)
    (by simp [Parser.feed, Parser.feedWord, hk, (ofWord?_eq_none_iff _).2 hn]), hb]
  rfl

theorem feed_rightParen {outer : List (Row × StageParts)} {row around : Row} {stage : Stage}
    {parts : StageParts} {body : Command} {token : Token} (hk : token.kind = .rightParen)
    (hl : Listed [] body row stage) :
    Parser.feed ⟨(around, parts) :: outer, row, stage, none⟩ token =
      .ok ⟨outer, around, .closed parts body, none⟩ := by
  cases hl with
  | complete front hs hi hb =>
    rw [feed_complete hs (by simp [hk]) (by simp [hk, RedirectOp.ofKind?])]
    rw [List.append_nil] at hi
    simp [Parser.feedComplete, Parser.close, Row.listed, hk, hi, hb]
  | ended front hb =>
    simp [Parser.feed, Parser.feedOpening, Parser.close, Row.isFresh, Row.ended?,
      StageParts.isEmpty, RedirectOp.ofKind?, hk, hb]

theorem takes_subshell {front inner back : List Token} {left right : Token}
    {locals : List Assignment} {before after : List Redirection} {body : Command}
    {parts : StageParts} (hp : Prefix front locals before) (hl : left.kind = .leftParen)
    (hb : Takes .list inner body) (hr : right.kind = .rightParen) (hs : Suffix back [] after)
    (ha : Amounts locals (before ++ after) parts) :
    Takes .stage (front ++ left :: inner ++ right :: back) (.subshell parts body) := by
  intro outer row _
  obtain ⟨middle, hf, hm⟩ := feedAll_prefix outer row hp amounts_nil ha
  obtain ⟨row', stage, hi, htaken⟩ := hb ((row, middle) :: outer) {} ⟨rfl, rfl⟩
  obtain ⟨final, hback, hfinal⟩ :=
    feedAll_redirections outer row body hs rfl hm ha
  have hfinal : final = parts := hfinal.unique ha
  subst hfinal
  refine ⟨row, .closed final body, ?_, rfl, rfl⟩
  rw [List.append_assoc, feedAll_ok_append hf, List.cons_append, feedAll_cons (feed_leftParen hl),
    feedAll_ok_append hi, feedAll_cons (feed_rightParen hr htaken), hback]

section Operators
variable {front back : List Token} {token : Token} {left right : Command}

theorem takes_pipe (hl : Takes .stage front left) (hk : token.kind = .pipe)
    (hr : Takes .pipeline back right) :
    Takes .pipeline (front ++ token :: back) (.pipe left right) := by
  intro outer row _
  obtain ⟨row', stage, hf, rfl, hs⟩ := hl outer row trivial
  obtain ⟨row'', stage', hb, pipes, last, hs', rfl, hc⟩ :=
    hr outer { row' with pipes := left :: row'.pipes } trivial
  refine ⟨_, stage', ?_, pipes ++ [left], last, hs', rfl, ?_⟩
  · rw [feedAll_ok_append hf, feedAll_cons (feed_pipe hs hk), hb, ← List.append_cons]
  · rw [← hc]
    simp [Row.pipeline]

theorem takes_andOr {op : Connective} (hl : Takes .pipeline front left)
    (hk : Connective.ofKind? token.kind = some op) (hr : Takes .chain back right) :
    Takes .chain (front ++ token :: back) (.andOr op left right) := by
  intro outer row hrow
  obtain ⟨row', stage, hf, pipes, last, hs, rfl, hc⟩ := hl outer row trivial
  have hpipes : row.pipes = [] := hrow
  have hleft : Row.pipeline { row with pipes := pipes ++ row.pipes } last = left := by
    rw [← hc, hpipes, List.append_nil]
    rfl
  obtain ⟨row'', stage', hb, pipes', chain, last', hs', rfl, hc'⟩ :=
    hr outer { row with pipes := [], chain := (left, op) :: row.chain } rfl
  refine ⟨_, stage', ?_, pipes', chain ++ [(left, op)], last', hs', rfl, ?_⟩
  · rw [feedAll_ok_append hf, feedAll_cons (feed_connective hs hk), hleft, hb, ← List.append_cons]
  · rw [← hc']
    simp [Row.chained, Row.pipeline]

theorem feedAll_separated {sep : Separator} (h : Takes .chain front left)
    (hk : Separator.ofKind? token.kind = some sep) (outer : List (Row × StageParts)) {row : Row}
    (hrow : Fits .list row) :
    Parser.feedAll ⟨outer, row, .opening {}, none⟩ (front ++ [token]) =
      .ok ⟨outer, { items := (left, sep) :: row.items }, .opening {}, none⟩ := by
  obtain ⟨row', stage, hf, pipes, chain, last, hs, rfl, hc⟩ := h outer row hrow.1
  have hleft : Row.chained { row with pipes, chain := chain ++ row.chain } last = left := by
    rw [← hc, hrow.2, List.append_nil]
    rfl
  rw [feedAll_ok_append hf, feedAll_cons (feed_separator hs hk), hleft]
  rfl

theorem takes_list {sep : Separator} (hl : Takes .chain front left)
    (hk : Separator.ofKind? token.kind = some sep) (hr : Takes .list back right) :
    Takes .list (front ++ token :: back) (.list sep left right) := by
  intro outer row hrow
  obtain ⟨row', stage, hb, listed⟩ := hr outer { items := (left, sep) :: row.items } ⟨rfl, rfl⟩
  refine ⟨row', stage, ?_, listed.cons⟩
  rw [List.append_cons, feedAll_ok_append (feedAll_separated hl hk outer hrow), hb]

end Operators

theorem takes_of_derives {level : Level} {tokens : List Token} {c : Command}
    (h : Derives level tokens c) : Takes level tokens c := by
  induction h with
  | simple hp hk hn hs ha => exact takes_simple hp hk hn hs ha
  | subshell hp hl _ hr hs ha ih => exact takes_subshell hp hl ih hr hs ha
  | stage _ ih =>
    intro outer row _
    obtain ⟨row', stage, hf, rfl, hs⟩ := ih outer row trivial
    exact ⟨row', stage, hf, [], _, hs, rfl, rfl⟩
  | pipe _ hk _ ihl ihr => exact takes_pipe ihl hk ihr
  | pipeline _ ih =>
    intro outer row hrow
    obtain ⟨row', stage, hf, pipes, last, hs, rfl, hc⟩ := ih outer row trivial
    have hpipes : row.pipes = [] := hrow
    exact ⟨_, stage, hf, pipes, [], last, hs, by simp [hpipes], hc⟩
  | andOr _ hk _ ihl ihr => exact takes_andOr ihl hk ihr
  | chain _ ih =>
    intro outer row hrow
    obtain ⟨row', stage, hf, pipes, chain, last, hs, rfl, hc⟩ := ih outer row hrow.1
    refine ⟨_, stage, hf, .complete [] hs rfl ?_⟩
    rw [hrow.2, List.append_nil]
    exact hc
  | ended _ hk ih =>
    intro outer row hrow
    exact ⟨_, _, feedAll_separated ih hk outer hrow, .ended [] rfl⟩
  | list _ hk _ ihl ihr => exact takes_list ihl hk ihr

theorem finish_listed {row : Row} {stage : Stage} {c : Command} (h : Listed [] c row stage) :
    Parser.finish ⟨[], row, stage, none⟩ = .ok c := by
  cases h with
  | @complete front row stage last hs hi hc =>
    rw [List.append_nil] at hi
    cases stage with
    | opening parts => simp [Stage.command?] at hs
    | simple | closed =>
      simp only [Stage.command?, Option.some.injEq] at hs
      subst hs
      simp [Parser.finish, Row.listed, hi, hc]
  | ended front hc => simp [Parser.finish, Row.ended?, StageParts.isEmpty, hc]

theorem parse_of_derives {tokens : List Token} {c : Command} (h : Derives .list tokens c) :
    parse tokens = .ok c := by
  obtain ⟨row, stage, hf, hl⟩ := takes_of_derives h [] {} ⟨rfl, rfl⟩
  unfold parse
  rw [hf]
  exact finish_listed hl

/-- The parser accepts exactly its grammar: it reads a token list as a command if and only if the
grammar derives that command from the list. -/
theorem parse_eq_ok_iff_derives (tokens : List Token) (c : Command) :
    parse tokens = .ok c ↔ Derives .list tokens c :=
  ⟨derives_of_parse, parse_of_derives⟩

end CommandShell.Grammar
