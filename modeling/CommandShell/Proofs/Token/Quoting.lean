import CommandShell.Proofs.Token.Marks
import CommandShell.Proofs.Token.Spelling

/-!
# Which words their display spells

The display of a word puts it between single quotes when it holds something special, and closes the
section around each single quote in it. It counts on a backslash that escapes outside quotes and
stands for itself inside them, and the reader takes it the other way round. So a word with a single
quote or a backslash is never read back: what is kept of its display has too few or too many double
quotes, single quotes or backslashes. A word without them is read back unless it holds a blank and
nothing that brings the quotes.
-/

set_option autoImplicit false

namespace CommandShell.Token
open Mode Text

theorem texts_lex (line : String) : texts (lex line) = kept (marks line) := by
  have proper : (bare none).Proper := trivial
  rw [lex, lexFrom_eq_readFrom proper]
  exact texts_ofMarks (mem_metacharacters_of_operator none _)

/-- What tokens keep of the rest of a line. -/
def keptFrom (opened : Option Opened) (s : List Char) : List Char := kept (marksFrom opened s)

theorem keptFrom_sublist (opened : Option Opened) (s : List Char) :
    (keptFrom opened s).Sublist s := by
  have part := (List.filter_sublist (l := marksFrom opened s)
    (p := fun a => a.2 ∉ [Mark.blank, .delimiter, .escape])).map Prod.fst
  rwa [map_fst_marksFrom] at part

section
variable {c : Char}

theorem keptFrom_blank (blank : isBlank c = true) (s : List Char) :
    keptFrom none (c :: s) = keptFrom none s := by
  simp [keptFrom, marksFrom, blank, kept]

theorem keptFrom_opening (unblank : isBlank c = false) (quote : isQuote c = true) (s : List Char) :
    keptFrom none (c :: s) = keptFrom (some ⟨c, false⟩) s := by
  simp [keptFrom, marksFrom, unblank, quote, kept]

theorem keptFrom_bare (unblank : isBlank c = false) (plain : isQuote c = false) (s : List Char) :
    keptFrom none (c :: s) = c :: keptFrom none s := by
  by_cases operator : c ∈ metacharacters <;>
    simp [keptFrom, marksFrom, unblank, plain, operator, kept]

theorem keptFrom_escaping (quote : Char) (s : List Char) :
    keptFrom (some ⟨quote, false⟩) ('\\' :: s) = keptFrom (some ⟨quote, true⟩) s := by
  simp [keptFrom, marksFrom, kept]

theorem keptFrom_escaped (quote : Char) (s : List Char) :
    keptFrom (some ⟨quote, true⟩) (c :: s) = c :: keptFrom (some ⟨quote, false⟩) s := by
  simp [keptFrom, marksFrom, kept]

theorem keptFrom_quoted {quote : Char} (notBackslash : c ≠ '\\') (notQuote : c ≠ quote)
    (s : List Char) :
    keptFrom (some ⟨quote, false⟩) (c :: s) = c :: keptFrom (some ⟨quote, false⟩) s := by
  simp [keptFrom, marksFrom, notBackslash, notQuote, kept]

end

/-! ## The display of a word, behind its opening quote -/

def closing (s : List Char) : List Char := quoteBody s ++ ['\'']

theorem closing_quote (s : List Char) :
    closing ('\'' :: s) = '\'' :: '\\' :: '\'' :: '\'' :: closing s := rfl

theorem closing_cons {c : Char} (plain : c ≠ '\'') (s : List Char) :
    closing (c :: s) = c :: closing s := by
  simp [closing, quoteBody, plain]

theorem count_closing (s : List Char) : (closing s).count '"' = s.count '"' := by
  induction s with
  | nil => rfl
  | cons c s ih =>
    by_cases quote : c = '\''
    · subst quote
      simpa [closing_quote] using ih
    · simp [closing_cons quote, List.count_cons, ih]

theorem count_keptFrom_closing (opened : Option Opened) (s : List Char) :
    (keptFrom opened (closing s)).count '"' ≤ s.count '"' := by
  have fewer := (keptFrom_sublist opened (closing s)).count_le '"'
  rwa [count_closing] at fewer

theorem keptFrom_bare_quote (s : List Char) :
    keptFrom none (closing ('\'' :: s)) = '\'' :: keptFrom none (closing s) := rfl

theorem keptFrom_quoted_quote (s : List Char) :
    keptFrom (some ⟨'\'', false⟩) (closing ('\'' :: s)) = '\\' :: keptFrom none (closing s) := rfl

theorem keptFrom_escaped_quote (s : List Char) :
    keptFrom (some ⟨'\'', true⟩) (closing ('\'' :: s)) =
      '\'' :: '\'' :: keptFrom none (closing s) := rfl

/-- Outside quotes each single quote comes back once, unless a double quote opens a section. But
that one is then missing. -/
theorem count_bare (s : List Char)
    (double : (keptFrom none (closing s)).count '"' = s.count '"') :
    (keptFrom none (closing s)).count '\'' = s.count '\'' := by
  induction s with
  | nil => rfl
  | cons c s ih =>
    by_cases single : c = '\''
    · subst single
      rw [keptFrom_bare_quote] at double ⊢
      simpa using ih (by simpa using double)
    rw [closing_cons single] at double ⊢
    by_cases opens : c = '"'
    · subst opens
      have missing := count_keptFrom_closing (some ⟨'"', false⟩) s
      rw [keptFrom_opening rfl rfl, List.count_cons_self] at double
      omega
    cases blank : isBlank c with
    | true =>
      rw [keptFrom_blank blank] at double ⊢
      simp only [List.count_cons_of_ne opens, List.count_cons_of_ne single] at double ⊢
      exact ih double
    | false =>
      have plain : isQuote c = false := by simp [isQuote, opens, single]
      rw [keptFrom_bare blank plain] at double ⊢
      simp only [List.count_cons_of_ne opens, List.count_cons_of_ne single] at double ⊢
      exact ih double

/-- Inside the display's own section the first single quote is lost, or doubled when a backslash
stands before it; a backslash at the end keeps the closing quote. -/
theorem notMem_of_count (s : List Char) (escaping : Bool)
    (double : (keptFrom (some ⟨'\'', escaping⟩) (closing s)).count '"' = s.count '"')
    (single : (keptFrom (some ⟨'\'', escaping⟩) (closing s)).count '\'' = s.count '\'') :
    '\'' ∉ s := by
  induction s generalizing escaping with
  | nil => exact List.not_mem_nil
  | cons c s ih =>
    by_cases quote : c = '\''
    -- The section ends here, and behind it the quotes are kept as they are.
    · subst quote
      cases escaping with
      | false =>
        rw [keptFrom_quoted_quote] at double single
        have bare := count_bare s (by simpa using double)
        simp at single
        omega
      | true =>
        rw [keptFrom_escaped_quote] at double single
        have bare := count_bare s (by simpa using double)
        simp at single
        omega
    rw [closing_cons quote] at double single
    have rest : '\'' ∉ s := by
      cases escaping with
      | true =>
        rw [keptFrom_escaped, List.count_cons, List.count_cons] at double single
        exact ih false (by omega) (by omega)
      | false =>
        by_cases escape : c = '\\'
        · subst escape
          rw [keptFrom_escaping] at double single
          exact ih true (by simpa using double) (by simpa using single)
        · rw [keptFrom_quoted escape quote, List.count_cons, List.count_cons] at double single
          exact ih false (by omega) (by omega)
    simp [rest, Ne.symm quote]

theorem backslash_notMem_of_count {s : List Char} (quote : '\'' ∉ s)
    (same : (keptFrom (some ⟨'\'', false⟩) (s ++ ['\''])).count '\\' = s.count '\\') :
    '\\' ∉ s := by
  induction s with
  | nil => exact List.not_mem_nil
  | cons c s ih =>
    rw [List.mem_cons, not_or] at quote
    by_cases escape : c = '\\'
    · subst escape
      have missing := (keptFrom_sublist (some ⟨'\'', true⟩) (s ++ ['\''])).count_le '\\'
      rw [List.cons_append, keptFrom_escaping, List.count_cons_self] at same
      rw [List.count_append, List.count_eq_zero.mpr (by decide : '\\' ∉ ['\''])] at missing
      omega
    · rw [List.cons_append, keptFrom_quoted escape (Ne.symm quote.1)] at same
      simp only [List.count_cons_of_ne escape] at same
      simp [ih quote.2 same, Ne.symm escape]

/-! ## Words and their display -/

theorem lex_of_adds {s w : String} (adds : Adds s.toList w) : lex s = [.word w] := by
  have spelled := adds.spelled [] ends_nil
  simpa [lex, lexFrom, flush] using spelled

theorem keptFrom_of_unquoted {s : List Char} (unquoted : ∀ c ∈ s, isQuote c = false) :
    keptFrom none s = s.filter fun c => !isBlank c := by
  induction s with
  | nil => rfl
  | cons c s ih =>
    have rest := ih fun d member => unquoted d (by simp [member])
    cases blank : isBlank c with
    | true => simp [keptFrom_blank blank, blank, rest]
    | false => simp [keptFrom_bare blank (unquoted c (by simp)), blank, rest]

theorem keptFrom_quote {w : String} (read : lex (quote w) = [.word w]) :
    keptFrom none (quote w).toList = w.toList := by
  have same := texts_lex (quote w)
  rw [read] at same
  simpa [texts, Token.word, keptFrom, marks] using same.symm

/-- A word is read back from its display exactly when it holds no single quote and no backslash, and
no blank either unless something in it is special. -/
theorem lex_quote_eq_word_iff (w : String) :
    lex (quote w) = [.word w] ↔
      ('\'' ∉ w.toList ∧ '\\' ∉ w.toList) ∧
        ((∃ c ∈ w.toList, isSpecial c = true) ∨ ∀ c ∈ w.toList, isBlank c = false) := by
  constructor
  · intro read
    have same := keptFrom_quote read
    by_cases special : ∃ c ∈ w.toList, isSpecial c = true
    · have displayed : (quote w).toList = '\'' :: closing w.toList :=
        toList_quote_of_special (.inr special)
      rw [displayed, keptFrom_opening rfl rfl] at same
      have single : '\'' ∉ w.toList :=
        notMem_of_count w.toList false (by rw [same]) (by rw [same])
      rw [closing, quoteBody_of_no_quote fun c member => ne_of_mem_of_not_mem member single] at same
      exact ⟨⟨single, backslash_notMem_of_count single (by rw [same])⟩, .inl special⟩
    · simp only [not_exists, not_and, Bool.not_eq_true] at special
      have ordinary {c d : Char} (member : c ∈ w.toList) (other : isSpecial d = true) : c ≠ d := by
        rintro rfl
        simp [special c member] at other
      have unblank : ∀ c ∈ w.toList, isBlank c = false := by
        by_cases empty : w = ""
        · simp [empty]
        have unquoted : ∀ c ∈ w.toList, isQuote c = false := fun c member => by
          simp [isQuote, ordinary member (by decide : isSpecial '"' = true),
            ordinary member (by decide : isSpecial '\'' = true)]
        rw [quote_of_plain empty special, keptFrom_of_unquoted unquoted] at same
        simpa using List.filter_eq_self.mp same
      exact ⟨⟨fun member => ordinary member (by decide) rfl,
        fun member => ordinary member (by decide) rfl⟩, .inr unblank⟩
  · rintro ⟨⟨single, backslash⟩, hidden⟩
    refine lex_of_adds (adds_quote_of (fun c member => ⟨?_, ?_⟩) hidden)
    · exact ne_of_mem_of_not_mem member single
    · exact ne_of_mem_of_not_mem member backslash

/-- The backslash outside the quotes stays, and the word is cut where it should not be. -/
example : lex (quote "it's a b") = [.word "it\\s", .word "a", .word "b"] := by cbv

end CommandShell.Token
