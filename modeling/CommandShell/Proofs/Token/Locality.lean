import CommandShell.Proofs.Token.Marks
import CommandShell.Proofs.Token.Written

/-!
# Where a line can be cut

Outside quotes a blank or an operator character ends whatever stands before it, so a line that is
cut there is read part by part. All that reaches over such a cut is an operator that may still
double. A quote reaches further: from the quote that a text leaves open to the one that closes it,
in whatever follows, everything goes into one word. What has been read of a word never changes how
the rest of it is read.
-/

set_option autoImplicit false

namespace CommandShell.Token
open Mode

def Mode.IsOutside : Mode → Prop
  | bare _ | half _ => True
  | quoted _ _ | .escaped _ _ => False

instance : DecidablePred Mode.IsOutside
  | bare _ | half _ => .isTrue trivial
  | quoted _ _ | .escaped _ _ => .isFalse id

def IsClosed (s : String) : Prop := ((bare none).after s.toList).IsOutside

instance (s : String) : Decidable (IsClosed s) :=
  inferInstanceAs (Decidable ((bare none).after s.toList).IsOutside)

/-! ## Cuts outside quotes -/

section
variable {mode : Mode} {c : Char} {kind : TokenKind}

def IsBreak (c : Char) : Prop := Text.isBlank c = true ∨ ∃ kind, TokenKind.ofChar? c = some kind

theorem isBlank_of_isQuote (quote : Text.isQuote c = true) : Text.isBlank c = false := by
  obtain rfl | rfl : c = '"' ∨ c = '\'' := by simpa [Text.isQuote] using quote
  · rfl
  · rfl

theorem ofChar?_of_isQuote (quote : Text.isQuote c = true) : TokenKind.ofChar? c = none := by
  obtain rfl | rfl : c = '"' ∨ c = '\'' := by simpa [Text.isQuote] using quote
  · rfl
  · rfl

theorem stepBare_break (breaks : IsBreak c) (begun : Option String) :
    stepBare begun c = ((bare begun).flush ++ (stepBare none c).1, (stepBare none c).2) := by
  obtain blank | ⟨kind, spells⟩ := breaks
  · simp [stepBare, blank, flush]
  · have unblank : ¬ Text.isBlank c = true := fun blank => by
      simp [ofChar?_of_isBlank blank] at spells
    have plain : ¬ Text.isQuote c = true := fun quote => by
      simp [ofChar?_of_isQuote quote] at spells
    by_cases doubles : kind.doubled?.isSome <;>
      simp [stepBare, unblank, plain, spells, doubles, flush]

/-- What stands before a break is read as if the line ended there, unless the break doubles it. -/
theorem lexFrom_break (outside : mode.IsOutside) (breaks : IsBreak c)
    (single : ∀ kind, mode = half kind → kind.doubled? ≠ none → TokenKind.ofChar? c ≠ some kind)
    (rest : List Char) :
    lexFrom mode (c :: rest) = mode.flush ++ lexFrom (bare none) (c :: rest) := by
  match mode with
  | bare begun =>
    rw [lexFrom, lexFrom, step, step, stepBare_break breaks begun, List.append_assoc]
  | half kind =>
    have apart :
        (half kind).step c = (operator kind :: (stepBare none c).1, (stepBare none c).2) := by
      rw [step]
      split
      next double twice => rw [if_neg (single kind rfl (by simp [twice]))]
      next => rfl
    rw [lexFrom, apart, flush]
    rfl

theorem ofChar?_of_stepBare_half {begun : Option String}
    (stands : (stepBare begun c).2 = half kind) : TokenKind.ofChar? c = some kind := by
  rw [stepBare] at stands
  split at stands
  · cases stands
  split at stands
  · cases stands
  split at stands
  · cases stands
  · split at stands
    · cases stands
      assumption
    · cases stands

theorem ofChar?_of_step_half (stands : (mode.step c).2 = half kind) :
    TokenKind.ofChar? c = some kind := by
  match mode with
  | bare begun => exact ofChar?_of_stepBare_half stands
  | half before =>
    rw [step] at stands
    split at stands
    · split at stands
      · cases stands
      · exact ofChar?_of_stepBare_half stands
    · exact ofChar?_of_stepBare_half stands
  | quoted text quote =>
    rw [step] at stands
    split at stands
    · cases stands
    split at stands <;> cases stands
  | .escaped text quote => cases stands

theorem suffix_of_after_half {s : List Char} (stands : (bare none).after s = half kind) :
    kind.spelling.toList <:+ s := by
  obtain rfl | ⟨before, c, rfl⟩ := List.eq_nil_or_concat' s
  · cases stands
  · rw [Mode.after_append] at stands
    rw [spelling_of_ofChar? (ofChar?_of_step_half stands)]
    exact List.suffix_append before [c]

theorem lexFrom_closed {s : List Char} (closed : ((bare none).after s).IsOutside)
    (breaks : IsBreak c)
    (single : ∀ kind, (bare none).after s = half kind → kind.doubled? ≠ none →
      TokenKind.ofChar? c ≠ some kind) (rest : List Char) :
    lexFrom (bare none) (s ++ c :: rest) =
      lexFrom (bare none) s ++ lexFrom (bare none) (c :: rest) := by
  rw [lexFrom_append, lexFrom_break closed breaks single, lexFrom_eq _ s, List.append_assoc]

end

theorem lex_blank {s : String} {c : Char} (closed : IsClosed s) (blank : Text.isBlank c = true)
    (t : String) : lex (s ++ String.singleton c ++ t) = lex s ++ lex t := by
  have cut := lexFrom_closed closed (.inl blank)
    (fun kind _ _ => by simp [ofChar?_of_isBlank blank]) t.toList
  have single : ∀ d ∈ [c], Text.isBlank d = true := by simpa using blank
  have skipped : lexFrom (bare none) (c :: t.toList) = lexFrom (bare none) t.toList :=
    lexFrom_blanks single t.toList
  rw [skipped] at cut
  simpa [lex] using cut

theorem lex_operator {s t : String} {c : Char} {kind : TokenKind} (closed : IsClosed s)
    (spells : TokenKind.ofChar? c = some kind)
    (before : kind.doubled? ≠ none → ¬ kind.spelling.toList <:+ s.toList)
    (behind : kind.doubled? ≠ none → ¬ kind.spelling.toList <+: t.toList) :
    lex (s ++ kind.spelling ++ t) = lex s ++ [operator kind] ++ lex t := by
  have spelled := spelling_of_ofChar? spells
  have cut := lexFrom_closed closed (.inr ⟨kind, spells⟩) (fun other stands doubles same => by
    obtain rfl : kind = other := by simpa [spells] using same
    exact before doubles (suffix_of_after_half stands)) t.toList
  have notWord : kind ≠ .word := by
    rintro rfl
    cases spelled
  have alone : lexFrom (bare none) (kind.spelling.toList ++ t.toList) =
      operator kind :: lexFrom (bare none) t.toList := by
    refine lexFrom_operator notWord fun doubles d head same => behind doubles ?_
    obtain ⟨others, line⟩ := List.head?_eq_some_iff.mp head
    rw [spelling_of_ofChar? same, line]
    exact List.prefix_append [d] others
  rw [spelled, List.singleton_append] at alone
  rw [alone] at cut
  simpa [lex, spelled] using cut

/-! ## Inside a word -/

/-- How the reader stands in a word: outside quotes, inside a quoted section, or just after a
backslash in one. -/
inductive Within where
  | bare
  | quoted (quote : Char)
  | escaped (quote : Char)
  deriving DecidableEq, Repr

namespace Within

def mode : Within → String → Mode
  | bare, text => .bare (some text)
  | quoted quote, text => .quoted text quote
  | escaped quote, text => .escaped text quote

variable {place : Within} {text : String}

theorem flush_mode (place : Within) (text : String) : (place.mode text).flush = [.word text] := by
  cases place <;> rfl

theorem isOutside_mode : (place.mode text).IsOutside ↔ place = bare := by
  cases place <;> simp [Within.mode, IsOutside]

theorem step_inside (inside : place ≠ bare) (c : Char) : ∃ (next : Within) (added : String),
    ∀ text, (place.mode text).step c = ([], next.mode (text ++ added)) := by
  cases place with
  | bare => exact absurd rfl inside
  | quoted quote =>
    by_cases escape : c = '\\'
    · exact ⟨escaped quote, "", fun text => by simp [Within.mode, step, escape]⟩
    by_cases closes : c = quote
    · subst closes
      exact ⟨bare, "", fun text => by simp [Within.mode, step, escape]⟩
    · exact ⟨quoted quote, String.singleton c, fun text => by
        simp [Within.mode, step, escape, closes, String.append_singleton]⟩
  | escaped quote =>
    exact ⟨quoted quote, String.singleton c, fun text => by
      simp [Within.mode, step, String.append_singleton]⟩

theorem step_bare (c : Char) :
    (∃ ended next, ∀ text, (bare.mode text).step c = (.word text :: ended, next)) ∨
      ∃ (next : Within) (added : String),
        ∀ text, (bare.mode text).step c = ([], next.mode (text ++ added)) := by
  by_cases breaks : IsBreak c
  · exact .inl ⟨(stepBare none c).1, (stepBare none c).2,
      fun text => stepBare_break breaks (some text)⟩
  · obtain ⟨unblank, plain⟩ := not_or.mp breaks
    rw [Bool.not_eq_true] at unblank
    have spells : TokenKind.ofChar? c = none := by
      simpa [Option.eq_none_iff_forall_ne_some] using plain
    by_cases quote : Text.isQuote c = true
    · exact .inr ⟨quoted c, "", fun text => by simp [Within.mode, step, stepBare, unblank, quote]⟩
    · exact .inr ⟨bare, String.singleton c, fun text => by
        simp [Within.mode, step, stepBare, unblank, quote, spells, String.append_singleton]⟩

theorem after_section (place : Within) (text : String) {s : List Char}
    (inside : ∀ part, part <+: s → part ≠ s → ¬ ((place.mode text).after part).IsOutside) :
    ∃ (stop : Within) (added : String), ∀ text,
      emitted (place.mode text) s = [] ∧
        (place.mode text).after s = stop.mode (text ++ added) := by
  induction s generalizing place text with
  | nil => exact ⟨place, "", fun text => by simp [emitted, after]⟩
  | cons c s ih =>
    have here : place ≠ bare := by
      have opened := inside [] List.nil_prefix (by simp)
      rwa [after, isOutside_mode] at opened
    obtain ⟨next, added, steps⟩ := step_inside here c
    obtain ⟨stop, more, reads⟩ := ih next (text ++ added) fun part begins proper => by
      have opened := inside (c :: part) (List.cons_prefix_cons.mpr ⟨rfl, begins⟩)
        (by simpa using proper)
      rwa [after, steps] at opened
    refine ⟨stop, added ++ more, fun text => ?_⟩
    rw [emitted, after, steps, ← String.append_assoc]
    exact reads (text ++ added)

/-- What follows a word goes on with it in the same way whatever has been read of it, and then
stands for itself. -/
theorem lexFrom_mode (place : Within) (rest : List Char) : ∃ added behind, ∀ text,
    lexFrom (place.mode text) rest = .word (text ++ added) :: behind := by
  induction rest generalizing place with
  | nil => exact ⟨"", [], fun text => by simp [lexFrom, flush_mode]⟩
  | cons c rest ih =>
    have goes {next : Within} {added : String}
        (steps : ∀ text, (place.mode text).step c = ([], next.mode (text ++ added))) :
        ∃ added behind, ∀ text,
          lexFrom (place.mode text) (c :: rest) = .word (text ++ added) :: behind := by
      obtain ⟨more, behind, reads⟩ := ih next
      refine ⟨added ++ more, behind, fun text => ?_⟩
      rw [lexFrom, steps, reads, String.append_assoc]
      rfl
    by_cases outside : place = bare
    · subst outside
      obtain ⟨ended, next, ends⟩ | ⟨next, added, steps⟩ := step_bare c
      · exact ⟨"", ended ++ lexFrom next rest, fun text => by simp [lexFrom, ends]⟩
      · exact goes steps
    · obtain ⟨next, added, steps⟩ := step_inside outside c
      exact goes steps

end Within

/-! ## The section that a text leaves open -/

/-- The quote behind which no beginning of the text is closed, with what stands before it and what
stands in its section. -/
structure LeavesOpen (s front : String) (quote : Char) (inside : String) : Prop where
  split : s = front ++ String.singleton quote ++ inside
  isQuote : Text.isQuote quote = true
  closed : IsClosed front
  opened : ∀ a : String, a.toList <+: inside.toList →
    ¬ IsClosed (front ++ String.singleton quote ++ a)

/-- What of the text that follows belongs to the open section: all up to the character with which
the line is closed again, or the whole text. -/
structure GoesOn (s t part rest : String) : Prop where
  split : t = part ++ rest
  opened : ∀ a : String, a.toList <+: part.toList → a ≠ part → ¬ IsClosed (s ++ a)
  closed : IsClosed (s ++ part) ∨ rest = ""

section
variable {mode : Mode} {quote : Char}

theorem stepBare_quote (isQuote : Text.isQuote quote = true) (begun : Option String) :
    stepBare begun quote = ([], quoted (begun.getD "") quote) := by
  simp [stepBare, isBlank_of_isQuote isQuote, isQuote]

theorem exists_step_quote (outside : mode.IsOutside) : ∃ ended text,
    ∀ quote, Text.isQuote quote = true → mode.step quote = (ended, quoted text quote) := by
  match mode with
  | bare begun => exact ⟨[], begun.getD "", fun quote isQuote => stepBare_quote isQuote begun⟩
  | half kind =>
    refine ⟨[operator kind], "", fun quote isQuote => ?_⟩
    rw [step, ofChar?_of_isQuote isQuote, stepBare_quote isQuote]
    split <;> rfl

theorem isOutside_stepBare {begun : Option String} (plain : Text.isQuote quote = false) :
    (stepBare begun quote).2.IsOutside := by
  rw [stepBare]
  split
  · trivial
  rw [plain, if_neg Bool.false_ne_true]
  split
  · trivial
  · split <;> trivial

theorem isOutside_step (outside : mode.IsOutside) (plain : Text.isQuote quote = false) :
    (mode.step quote).2.IsOutside := by
  match mode with
  | bare begun => exact isOutside_stepBare plain
  | half kind =>
    rw [step]
    split
    · split
      · trivial
      · exact isOutside_stepBare plain
    · exact isOutside_stepBare plain

end

theorem isClosed_append {s t : String} :
    IsClosed (s ++ t) ↔ (((bare none).after s.toList).after t.toList).IsOutside := by
  rw [IsClosed, String.toList_append, Mode.after_append]

theorem exists_leavesOpen {s : String} (opened : ¬ IsClosed s) :
    ∃ front quote inside, LeavesOpen s front quote inside := by
  -- From the end of the text: its last character opens the section, or stands in the one that is
  -- open before it.
  obtain ⟨chars, rfl⟩ : ∃ chars, s = String.ofList chars := ⟨s.toList, by simp⟩
  induction chars using List.reverseRecOn with
  | nil => exact absurd trivial opened
  | append_singleton before c ih =>
    have line : String.ofList (before ++ [c]) = String.ofList before ++ String.singleton c := by
      simp
    rw [line] at opened ⊢
    by_cases closed : IsClosed (String.ofList before)
    · have isQuote : Text.isQuote c = true := by
        by_contra plain
        refine opened (isClosed_append.mpr ?_)
        rw [String.toList_singleton]
        exact isOutside_step closed (by simpa using plain)
      refine ⟨String.ofList before, c, "", by simp, isQuote, closed, fun a begins => ?_⟩
      obtain rfl : a = "" := by simpa using begins
      simpa using opened
    · obtain ⟨front, quote, inside, leaves⟩ := ih closed
      refine ⟨front, quote, inside ++ String.singleton c, ?_, leaves.isQuote, leaves.closed, ?_⟩
      · rw [leaves.split, String.append_assoc]
      · intro a begins
        rw [String.toList_append, String.toList_singleton, List.prefix_concat_iff] at begins
        obtain whole | begins := begins
        · obtain rfl : a = inside ++ String.singleton c := by
            simpa [← String.toList_inj] using whole
          rwa [← String.append_assoc, ← leaves.split]
        · exact leaves.opened a begins

theorem exists_closing {mode : Mode} (inside : ¬ mode.IsOutside) (t : List Char) :
    ∃ part rest, t = part ++ rest ∧
      (∀ a, a <+: part → a ≠ part → ¬ (mode.after a).IsOutside) ∧
      ((mode.after part).IsOutside ∨ rest = []) := by
  induction t generalizing mode with
  | nil => exact ⟨[], [], rfl, by simp, .inr rfl⟩
  | cons c t ih =>
    by_cases outside : (mode.step c).2.IsOutside
    · refine ⟨[c], t, rfl, fun a begins proper => ?_, .inl outside⟩
      cases a with
      | nil => exact inside
      | cons d a =>
        obtain ⟨same, nothing⟩ := List.cons_prefix_cons.mp begins
        exact absurd (by rw [same, List.prefix_nil.mp nothing]) proper
    · obtain ⟨part, rest, split, opened, closed⟩ := ih outside
      refine ⟨c :: part, rest, by rw [split, List.cons_append], fun a begins proper => ?_, closed⟩
      cases a with
      | nil => exact inside
      | cons d a =>
        obtain ⟨same, shorter⟩ := List.cons_prefix_cons.mp begins
        subst same
        exact opened a shorter (by simpa using proper)

theorem exists_goesOn {s : String} (opened : ¬ IsClosed s) (t : String) :
    ∃ part rest, GoesOn s t part rest := by
  obtain ⟨part, rest, split, inside, closed⟩ := exists_closing opened t.toList
  refine ⟨String.ofList part, String.ofList rest, ?_, fun a begins proper => ?_, ?_⟩
  · simp [← String.toList_inj, split]
  · rw [isClosed_append]
    refine inside a.toList (by simpa using begins) ?_
    simpa [← String.toList_inj] using proper
  · rw [isClosed_append]
    simpa using closed

theorem LeavesOpen.through {s t front inside part rest : String} {quote : Char} {mode : Mode}
    (leaves : LeavesOpen s front quote inside) (goes : GoesOn s t part rest)
    (stands : mode = ((bare none).after front.toList).after [quote]) :
    ∀ a, a <+: inside.toList ++ part.toList → a ≠ inside.toList ++ part.toList →
      ¬ (mode.after a).IsOutside := by
  intro a begins proper
  rw [stands, ← Mode.after_append, ← Mode.after_append]
  by_cases within : a <+: inside.toList
  · have opened := leaves.opened (String.ofList a) (by simpa using within)
    simpa [IsClosed] using opened
  · obtain ⟨more, rfl⟩ : inside.toList <+: a :=
      (List.prefix_or_prefix_of_prefix begins (List.prefix_append _ _)).resolve_left within
    have opened := goes.opened (String.ofList more) (by simpa using begins)
      (by simpa [← String.toList_inj] using proper)
    simpa [leaves.split, IsClosed] using opened

/-- The section that is open goes into one word: with what stood before its quote, and with what
follows it. -/
theorem lex_section {s t front inside part rest : String} {quote : Char}
    (leaves : LeavesOpen s front quote inside) (goes : GoesOn s t part rest) :
    ∃ before begun body added behind,
      lex (front ++ "''") = before ++ [.word begun] ∧
      lex (String.singleton quote ++ inside ++ part) = [.word body] ∧
      lex ("''" ++ rest) = .word added :: behind ∧
      lex (s ++ t) = before ++ [.word (begun ++ body ++ added)] ++ behind := by
  obtain ⟨ended, begun, opens⟩ := exists_step_quote leaves.closed
  have opened := opens quote leaves.isQuote
  have stands : quoted begun quote = ((bare none).after front.toList).after [quote] := by
    rw [after, opened, after]
  obtain ⟨stop, body, reads⟩ :=
    Within.after_section (.quoted quote) begun (leaves.through goes stands)
  obtain ⟨added, behind, goesOn⟩ := Within.lexFrom_mode .bare rest.toList
  have resumes (text : String) :
      lexFrom (stop.mode text) rest.toList = .word (text ++ added) :: behind := by
    obtain closed | rfl := goes.closed
    · have outside : (stop.mode (begun ++ body)).IsOutside := by
        rw [← (reads begun).2, Within.mode, stands, ← Mode.after_append, ← Mode.after_append]
        simpa [leaves.split, IsClosed] using closed
      rw [Within.isOutside_mode.mp outside]
      exact goesOn text
    -- The line ends inside the quotes, and the word with it.
    · have ends := goesOn text
      rw [String.toList_empty, lexFrom, Within.flush_mode] at ends ⊢
      exact ends
  refine ⟨emitted (bare none) front.toList ++ ended, begun, body, added, behind, ?_, ?_, ?_, ?_⟩
  · have closes : lexFrom (quoted begun '\'') ['\''] = [.word begun] := rfl
    have quotes : ("''" : String).toList = ['\'', '\''] := rfl
    rw [lex, String.toList_append, lexFrom_append, quotes, lexFrom, opens '\'' rfl, closes,
      List.append_assoc]
  · have first : (bare none).step quote = ([], quoted "" quote) :=
      stepBare_quote leaves.isQuote none
    have read := lexFrom_eq (quoted "" quote) (inside.toList ++ part.toList)
    obtain ⟨nothing, ends⟩ := reads ""
    rw [Within.mode] at nothing ends
    rw [nothing, ends, Within.flush_mode, String.empty_append] at read
    simpa [lex, lexFrom, first] using read
  · have resumed : lex ("''" ++ rest) = lexFrom (bare (some "")) rest.toList := by
      rw [lex, String.toList_append]
      rfl
    rw [resumed, ← String.empty_append (s := added)]
    exact goesOn ""
  · obtain ⟨nothing, ends⟩ := reads begun
    rw [Within.mode] at nothing ends
    have split : (s ++ t).toList =
        front.toList ++ quote :: (inside.toList ++ part.toList ++ rest.toList) := by
      simp [leaves.split, goes.split]
    rw [lex, split, lexFrom_append, lexFrom, opened, lexFrom_append, nothing, ends, resumes]
    simp

/-- A line is read part by part where it is cut outside quotes, at a blank or at an operator that
the parts do not double. Where the first part leaves a section open, everything from its quote on,
up to where the second part closes it, goes into one word with what stands around the section. -/
theorem lex_local (s t : String) :
    (IsClosed s →
      (∀ c, Text.isBlank c = true → lex (s ++ String.singleton c ++ t) = lex s ++ lex t) ∧
      (∀ kind ∈ [TokenKind.redirectIn, .semicolon, .leftParen, .rightParen],
        lex (s ++ kind.spelling ++ t) = lex s ++ [operator kind] ++ lex t) ∧
      (∀ kind ∈ [TokenKind.pipe, .ampersand, .redirectOut],
        ¬ kind.spelling.toList <:+ s.toList → ¬ kind.spelling.toList <+: t.toList →
        lex (s ++ kind.spelling ++ t) = lex s ++ [operator kind] ++ lex t)) ∧
    (¬ IsClosed s →
      ∃ front quote inside part rest,
        LeavesOpen s front quote inside ∧ GoesOn s t part rest ∧
        ∃ before begun body added behind,
          lex (front ++ "''") = before ++ [.word begun] ∧
          lex (String.singleton quote ++ inside ++ part) = [.word body] ∧
          lex ("''" ++ rest) = .word added :: behind ∧
          lex (s ++ t) = before ++ [.word (begun ++ body ++ added)] ++ behind) := by
  refine ⟨fun closed => ⟨fun c blank => lex_blank closed blank t, ?_, ?_⟩, fun opened => ?_⟩
  · intro kind member
    have single : kind.doubled? = none ∧ ∃ c, TokenKind.ofChar? c = some kind := by
      simp only [List.mem_cons, List.not_mem_nil, or_false] at member
      obtain rfl | rfl | rfl | rfl := member
      exacts [⟨rfl, '<', rfl⟩, ⟨rfl, ';', rfl⟩, ⟨rfl, '(', rfl⟩, ⟨rfl, ')', rfl⟩]
    obtain ⟨never, c, spells⟩ := single
    exact lex_operator closed spells (absurd never) (absurd never)
  · intro kind member before behind
    have doubles : kind.doubled? ≠ none := by
      simp only [List.mem_cons, List.not_mem_nil, or_false] at member
      obtain rfl | rfl | rfl := member <;> simp [TokenKind.doubled?]
    obtain ⟨c, spells⟩ := exists_ofChar? doubles
    exact lex_operator closed spells (fun _ => before) (fun _ => behind)
  · obtain ⟨front, quote, inside, leaves⟩ := exists_leavesOpen opened
    obtain ⟨part, rest, goes⟩ := exists_goesOn opened t
    exact ⟨front, quote, inside, part, rest, leaves, goes, lex_section leaves goes⟩

/-- A cut after half an operator, behind a section with an escaped quote; and a text that leaves a
section open behind a begun word, with a blank, an operator and the closing quote in the other. -/
theorem lex_local_halves :
    let closed := "a '(\\''&"
    let opened := "x>y'a\\'("
    (IsClosed closed ∧ ¬ (TokenKind.spelling .pipe).toList <:+ closed.toList ∧
      ¬ (TokenKind.spelling .pipe).toList <+: (">b" : String).toList ∧
      lex (closed ++ (TokenKind.spelling .pipe) ++ ">b") =
        lex closed ++ [operator .pipe] ++ lex ">b") ∧
    (¬ IsClosed opened ∧ ∃ front quote inside part rest,
      LeavesOpen opened front quote inside ∧ GoesOn opened " | b'c;d" part rest ∧
      ∃ before begun body added behind,
        lex (front ++ "''") = before ++ [.word begun] ∧
        lex (String.singleton quote ++ inside ++ part) = [.word body] ∧
        lex ("''" ++ rest) = .word added :: behind ∧
        lex (opened ++ " | b'c;d") = before ++ [.word (begun ++ body ++ added)] ++ behind) := by
  intro closed opened
  have outside : IsClosed closed := by decide +kernel
  have before : ¬ (TokenKind.spelling .pipe).toList <:+ closed.toList := by decide +kernel
  have behind : ¬ (TokenKind.spelling .pipe).toList <+: (">b" : String).toList := by decide +kernel
  have inside : ¬ IsClosed opened := by decide +kernel
  refine ⟨⟨outside, before, behind, ?_⟩, inside, ?_⟩
  · exact ((lex_local closed ">b").1 outside).2.2 .pipe (by decide) before behind
  · exact (lex_local opened " | b'c;d").2 inside

example : lex ("x>y'a\\'(" ++ " | b'c;d") =
    [.word "x", .operator .redirectOut, .word "ya'( | bc", .operator .semicolon, .word "d"] := by
  cbv

end CommandShell.Token
