import CommandShell.Text.Quoted
import CommandShell.Token.Lexer

/-!
# Reading written tokens

A word that is displayed adds itself to the word under the cursor, whatever stands there already,
and so does any text between quotes in which backslashes and these quotes are escaped. An operator is
read back where its character does not follow. A blank or a closing parenthesis ends a word, so
pieces of a line that are written with such an end are read on their own.
-/

set_option autoImplicit false

namespace CommandShell.Token
open Mode

/-- Nothing that follows can belong to the word or the operator before it. -/
def Ends (rest : List Char) : Prop :=
  ∀ c ∈ rest.head?, Text.isBlank c = true ∨ c = ')'

/-- The characters are read as these tokens, and the reader is then outside quotes with no word
begun. -/
def Spelled (s : List Char) (tokens : List Token) : Prop :=
  ∀ rest, Ends rest → lexFrom (bare none) (s ++ rest) = tokens ++ lexFrom (bare none) rest

/-- The characters add a text to the word under the cursor and end no token. -/
def Adds (s : List Char) (w : String) : Prop :=
  ∀ begun, emitted (bare begun) s = [] ∧
    (bare begun).after s = bare (some (begun.getD "" ++ w))

theorem ends_nil : Ends [] := by simp [Ends]

theorem ends_space (rest : List Char) : Ends (' ' :: rest) := by
  intro c hc
  left
  obtain rfl : ' ' = c := by simpa using hc
  rfl

theorem ends_rightParen (rest : List Char) : Ends (')' :: rest) := by
  intro c hc
  right
  simpa using hc.symm

theorem lexFrom_space (rest : List Char) :
    lexFrom (bare none) (' ' :: rest) = lexFrom (bare none) rest := rfl

theorem Mode.after_append (mode : Mode) (s t : List Char) :
    mode.after (s ++ t) = (mode.after s).after t := by
  induction s generalizing mode with
  | nil => rfl
  | cons c s ih => exact ih _

theorem emitted_append (mode : Mode) (s t : List Char) :
    emitted mode (s ++ t) = emitted mode s ++ emitted (mode.after s) t := by
  induction s generalizing mode with
  | nil => rfl
  | cons c s ih => simp [emitted, Mode.after, ih]

/-! ## Words -/

theorem Adds.append {s t : List Char} {v w : String} (hs : Adds s v) (ht : Adds t w) :
    Adds (s ++ t) (v ++ w) := by
  intro begun
  obtain ⟨hse, hsa⟩ := hs begun
  obtain ⟨hte, hta⟩ := ht (some (begun.getD "" ++ v))
  rw [emitted_append, Mode.after_append, hse, hsa, hte, hta]
  exact ⟨rfl, by simp [String.append_assoc]⟩

theorem lexFrom_begun {rest : List Char} (h : Ends rest) (w : String) :
    lexFrom (bare (some w)) rest = .word w :: lexFrom (bare none) rest := by
  cases rest with
  | nil => rfl
  | cons c rest =>
    rcases h c rfl with hb | rfl
    · simp [lexFrom, step, stepBare, hb, flush]
    · rfl

theorem Adds.spelled {s : List Char} {w : String} (h : Adds s w) : Spelled s [.word w] := by
  intro rest hr
  obtain ⟨he, ha⟩ := h none
  rw [lexFrom_append, he, ha, lexFrom_begun hr]
  simp

def IsPlain (c : Char) : Prop :=
  Text.isBlank c = false ∧ Text.isQuote c = false ∧ TokenKind.ofChar? c = none

theorem adds_plain {s : List Char} (hne : s ≠ []) (hs : ∀ c ∈ s, IsPlain c) :
    Adds s (String.ofList s) := by
  have one (c : Char) (hc : IsPlain c) : Adds [c] (String.ofList [c]) := by
    intro begun
    obtain ⟨hb, hq, ho⟩ := hc
    simp [emitted, Mode.after, step, stepBare, hb, hq, ho]
  induction s with
  | nil => exact absurd rfl hne
  | cons c s ih =>
    cases s with
    | nil => exact one c (hs c (by simp))
    | cons d s =>
      have := (one c (hs c (by simp))).append (ih (by simp) fun e he => hs e (by simp [he]))
      rwa [← String.ofList_append] at this

inductive Quote where
  | double
  | single
  deriving DecidableEq, Repr

def Quote.char : Quote → Char
  | .double => '"'
  | .single => '\''

def escapeChar (quote : Quote) (c : Char) : List Char :=
  if c = '\\' ∨ c = quote.char then ['\\', c] else [c]

def escaped (quote : Quote) (s : List Char) : List Char := s.flatMap (escapeChar quote)

theorem escaped_of_plain {quote : Quote} {s : List Char}
    (plain : ∀ c ∈ s, c ≠ quote.char ∧ c ≠ '\\') : escaped quote s = s := by
  induction s with
  | nil => rfl
  | cons c s ih =>
    obtain ⟨notQuote, notBackslash⟩ := plain c (by simp)
    have rest := ih fun d member => plain d (by simp [member])
    rw [escaped, List.flatMap_cons, ← escaped, rest]
    simp [escapeChar, notQuote, notBackslash]

theorem after_escaped (quote : Quote) (s : List Char) (text : String) :
    emitted (quoted text quote.char) (escaped quote s) = [] ∧
      (quoted text quote.char).after (escaped quote s) =
        quoted (text ++ String.ofList s) quote.char := by
  induction s generalizing text with
  | nil => simp [escaped, emitted, Mode.after]
  | cons c s ih =>
    have one : emitted (quoted text quote.char) (escapeChar quote c) = [] ∧
        (quoted text quote.char).after (escapeChar quote c) = quoted (text.push c) quote.char := by
      by_cases special : c = '\\' ∨ c = quote.char
      · simp [escapeChar, special, emitted, Mode.after, step]
      · obtain ⟨notBackslash, notQuote⟩ := not_or.mp special
        simp [escapeChar, emitted, Mode.after, step, notBackslash, notQuote]
    obtain ⟨rest, stands⟩ := ih (text.push c)
    rw [escaped, List.flatMap_cons, ← escaped, emitted_append, Mode.after_append, one.1, one.2,
      rest, stands]
    simp [← String.toList_inj]

theorem adds_escaped (quote : Quote) (s : List Char) :
    Adds (quote.char :: escaped quote s ++ [quote.char]) (String.ofList s) := by
  intro begun
  have opens : (bare begun).step quote.char = ([], quoted (begun.getD "") quote.char) := by
    cases quote <;> rfl
  have closes (text : String) :
      (quoted text quote.char).step quote.char = ([], bare (some text)) := by
    cases quote <;> rfl
  obtain ⟨rest, stands⟩ := after_escaped quote s (begun.getD "")
  simp [emitted, Mode.after, emitted_append, Mode.after_append, opens, closes, rest, stands]

theorem adds_enclosed {s : List Char} (hs : ∀ c ∈ s, c ≠ '\'' ∧ c ≠ '\\') :
    Adds ('\'' :: s ++ ['\'']) (String.ofList s) := by
  have plain : escaped .single s = s := escaped_of_plain hs
  have written := adds_escaped .single s
  rwa [plain] at written

end CommandShell.Token

namespace CommandShell.Text

theorem quote_of_plain {w : String} (hne : w ≠ "") (hs : ∀ c ∈ w.toList, isSpecial c = false) :
    quote w = w := by
  have hany : w.toList.any isSpecial = false := by simpa using hs
  have hempty : w.isEmpty = false := by simpa using hne
  simp [quote, hempty, hany]

theorem quoteBody_of_no_quote {s : List Char} (hs : ∀ c ∈ s, c ≠ '\'') : quoteBody s = s := by
  induction s with
  | nil => rfl
  | cons c s ih =>
    simp [quoteBody, hs c (by simp), ih fun d hd => hs d (by simp [hd])]

theorem toList_quote_of_special {w : String} (hs : w = "" ∨ ∃ c ∈ w.toList, isSpecial c = true) :
    (quote w).toList = '\'' :: quoteBody w.toList ++ ['\''] := by
  by_cases hw : w = ""
  · subst hw
    rfl
  · have hany : w.toList.any isSpecial = true := by
      rcases hs with h | h
      · exact absurd h hw
      · simpa using h
    have hempty : w.isEmpty = false := by simpa using hw
    simp [quote, hempty, hany]

theorem quote_of_special {w : String} (hq : ∀ c ∈ w.toList, c ≠ '\'')
    (hs : w = "" ∨ ∃ c ∈ w.toList, isSpecial c = true) :
    (quote w).toList = '\'' :: w.toList ++ ['\''] := by
  rw [toList_quote_of_special hs, quoteBody_of_no_quote hq]

/-- The words that their display spells: they hold no single quote, no backslash and no blank but
space, tab and newline. -/
def IsQuotable (w : String) : Prop :=
  ∀ c ∈ w.toList, c ≠ '\'' ∧ c ≠ '\\' ∧ (isBlank c = true → c = ' ' ∨ c = '\t' ∨ c = '\n')

instance (w : String) : Decidable (IsQuotable w) :=
  List.decidableBAll _ w.toList

end CommandShell.Text

namespace CommandShell.Token
open Mode Text

theorem isPlain_of_not_special {c : Char} (hs : isSpecial c = false)
    (hb : isBlank c = true → c = ' ' ∨ c = '\t' ∨ c = '\n') : IsPlain c := by
  refine ⟨?_, ?_, ?_⟩
  · cases hblank : isBlank c with
    | false => rfl
    | true => rcases hb hblank with rfl | rfl | rfl <;> simp [isSpecial] at hs
  · cases hquote : isQuote c with
    | false => rfl
    | true =>
      simp only [isQuote, Bool.or_eq_true, beq_iff_eq] at hquote
      rcases hquote with rfl | rfl <;> simp [isSpecial] at hs
  · unfold TokenKind.ofChar?
    split <;> first | rfl | simp [isSpecial] at hs

theorem adds_quote_of {w : String} (plain : ∀ c ∈ w.toList, c ≠ '\'' ∧ c ≠ '\\')
    (hidden : (∃ c ∈ w.toList, isSpecial c = true) ∨ ∀ c ∈ w.toList, isBlank c = false) :
    Adds (quote w).toList w := by
  by_cases hs : w = "" ∨ ∃ c ∈ w.toList, isSpecial c = true
  · rw [quote_of_special (fun c hc => (plain c hc).1) hs]
    simpa using adds_enclosed plain
  · simp only [not_or, not_exists, not_and, Bool.not_eq_true] at hs
    have unblank : ∀ c ∈ w.toList, isBlank c = false := by
      refine hidden.resolve_left ?_
      rintro ⟨c, hc, special⟩
      simp [hs.2 c hc] at special
    rw [quote_of_plain hs.1 hs.2]
    have hne : w.toList ≠ [] := by simpa using hs.1
    simpa using adds_plain hne fun c hc =>
      isPlain_of_not_special (hs.2 c hc) (by simp [unblank c hc])

theorem adds_quote {w : String} (hw : IsQuotable w) : Adds (quote w).toList w := by
  refine adds_quote_of (fun c hc => ⟨(hw c hc).1, (hw c hc).2.1⟩) ?_
  by_cases hs : ∃ c ∈ w.toList, isSpecial c = true
  · exact .inl hs
  · refine .inr fun c hc => ?_
    cases blank : isBlank c with
    | false => rfl
    | true =>
      have special : isSpecial c = true := by
        rcases (hw c hc).2.2 blank with rfl | rfl | rfl <;> simp [isSpecial]
      exact absurd ⟨c, hc, special⟩ hs

/-! ## Operators -/

/-- An operator is read back unless its own character follows and doubles it. -/
theorem lexFrom_operator {kind : TokenKind} (hk : kind ≠ .word) {rest : List Char}
    (hr : kind.doubled? ≠ none → ∀ c ∈ rest.head?, TokenKind.ofChar? c ≠ some kind) :
    lexFrom (bare none) (kind.spelling.toList ++ rest) =
      operator kind :: lexFrom (bare none) rest := by
  have single {double : TokenKind} (hd : kind.doubled? = some double) :
      lexFrom (half kind) rest = operator kind :: lexFrom (bare none) rest := by
    cases rest with
    | nil => rfl
    | cons c rest => simp [lexFrom, step, hd, hr (by simp [hd]) c rfl]
  cases kind with
  | word => exact absurd rfl hk
  | redirectOut => exact single rfl
  | pipe => exact single rfl
  | ampersand => exact single rfl
  | _ => rfl

theorem ofChar?_of_isBlank {c : Char} (h : isBlank c = true) : TokenKind.ofChar? c = none := by
  unfold TokenKind.ofChar?
  split <;> first | rfl | exact absurd h (by decide)

theorem spelled_operator (kind : TokenKind) (hk : kind ≠ .word) :
    Spelled kind.spelling.toList [operator kind] := by
  intro rest hr
  refine lexFrom_operator hk fun hd c hc hkind => ?_
  rcases hr c hc with hb | rfl
  · rw [ofChar?_of_isBlank hb] at hkind
    simp at hkind
  · obtain rfl : TokenKind.rightParen = kind := by simpa [TokenKind.ofChar?] using hkind
    simp [TokenKind.doubled?] at hd

/-! ## Pieces side by side -/

theorem Spelled.append {s t : List Char} {as bs : List Token} (hs : Spelled s as)
    (ht : Spelled t bs) (hend : ∀ rest, Ends rest → Ends (t ++ rest)) :
    Spelled (s ++ t) (as ++ bs) := by
  intro rest hr
  rw [List.append_assoc, hs _ (hend rest hr), ht rest hr, List.append_assoc]

theorem Spelled.space {s t : List Char} {as bs : List Token} (hs : Spelled s as)
    (ht : Spelled t bs) : Spelled (s ++ ' ' :: t) (as ++ bs) :=
  hs.append (fun rest hr => by rw [List.cons_append, lexFrom_space, ht rest hr])
    fun rest _ => ends_space _

end CommandShell.Token
