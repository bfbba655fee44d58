import CommandShell.Proofs.Token.Quoting
import CommandShell.Proofs.Variables.Segments

/-!
# References between double quotes

A line is expanded before it is read, so a value stands between the quotes of its reference as if it
had been written there. What is then kept of the line is at most the value, and it is as long as the
value only where the reader drops nothing but the two quotes. A double quote in the value ends the
section early, and the closing quote is then dropped too or opens another one; a backslash is
dropped itself. Any other character stands for itself.
-/

set_option autoImplicit false

namespace CommandShell
open Token Segment

namespace Token

theorem length_keptFrom_bare (s : List Char) : (keptFrom none (s ++ ['"'])).length ≤ s.length := by
  induction s with
  | nil => exact le_rfl
  | cons c s ih =>
    rw [List.cons_append, List.length_cons]
    cases blank : Text.isBlank c with
    | true =>
      rw [keptFrom_blank blank]
      omega
    | false =>
      cases quote : Text.isQuote c with
      | true =>
        have shorter := (keptFrom_sublist (some ⟨c, false⟩) (s ++ ['"'])).length_le
        rw [keptFrom_opening blank quote]
        simpa using shorter
      | false =>
        rw [keptFrom_bare blank quote, List.length_cons]
        omega

theorem plain_of_keptFrom {s : List Char} (same : keptFrom (some ⟨'"', false⟩) (s ++ ['"']) = s) :
    '"' ∉ s ∧ '\\' ∉ s := by
  induction s with
  | nil => simp
  | cons c s ih =>
    rw [List.cons_append] at same
    by_cases escape : c = '\\'
    · subst escape
      -- The backslash that is dropped is not made up for.
      have fewer := (keptFrom_sublist (some ⟨'"', true⟩) (s ++ ['"'])).count_le '\\'
      rw [keptFrom_escaping] at same
      rw [same, List.count_cons_self, List.count_append,
        List.count_eq_zero.mpr (by decide : '\\' ∉ ['"'])] at fewer
      omega
    by_cases quote : c = '"'
    · subst quote
      have closed : keptFrom (some ⟨'"', false⟩) ('"' :: (s ++ ['"'])) =
          keptFrom none (s ++ ['"']) := by
        simp [keptFrom, marksFrom, kept]
      have shorter := length_keptFrom_bare s
      rw [← closed, same, List.length_cons] at shorter
      omega
    · rw [keptFrom_quoted escape quote, List.cons.injEq] at same
      obtain ⟨noQuote, noEscape⟩ := ih same.2
      simp [noQuote, noEscape, Ne.symm quote, Ne.symm escape]

theorem lex_enclosed_iff {line : String} {s : List Char}
    (enclosed : line.toList = '"' :: s ++ ['"']) :
    lex line = [.word (String.ofList s)] ↔ '"' ∉ s ∧ '\\' ∉ s := by
  constructor
  · intro read
    have same := texts_lex line
    have opens : marks line = ('"', .delimiter) :: marksFrom (some ⟨'"', false⟩) (s ++ ['"']) := by
      rw [marks, enclosed]
      rfl
    rw [read, opens] at same
    have all : keptFrom (some ⟨'"', false⟩) (s ++ ['"']) = s := by
      simpa [texts, Token.word, kept, keptFrom] using same.symm
    exact plain_of_keptFrom all
  · rintro ⟨noQuote, noEscape⟩
    have plain : escaped .double s = s := escaped_of_plain fun c member =>
      ⟨ne_of_mem_of_not_mem member noQuote, ne_of_mem_of_not_mem member noEscape⟩
    have adds := adds_escaped .double s
    rw [plain] at adds
    refine lex_of_adds ?_
    rwa [enclosed]

end Token

namespace Variables

theorem expand_between_quotes {vars : Variables} {name value : String}
    (isName : IsReferenceName name) (defined : vars.get? name = some value) :
    (vars.expand ("\"$" ++ name ++ "\"")).toList = '"' :: value.toList ++ ['"'] := by
  have separate : Separate [.text "\"", .reference name, .text "\""] :=
    ⟨by decide, isName, by simp [line, Segment.written]; decide, by decide, trivial⟩
  have apart : beforeStatus [.text "\"", .reference name, .text "\""] = [] := by
    simp [beforeStatus, line, Segment.written]
  have expanded := @expandFrom_inserted _ vars separate (.inr apart)
  simpa [expand, inserted, line, Segment.written, values, Segment.value, defined] using expanded

/-- A reference between double quotes stands for the word that is its value just when the value
holds neither a double quote nor a backslash. -/
theorem lex_quoted_reference_iff {vars : Variables} {name value : String}
    (isName : IsReferenceName name) (defined : vars.get? name = some value) :
    vars.expand ("\"$" ++ name ++ "\"") = "\"" ++ value ++ "\"" ∧
      (lex (vars.expand ("\"$" ++ name ++ "\"")) = [.word value] ↔
        '"' ∉ value.toList ∧ '\\' ∉ value.toList) := by
  have expanded := expand_between_quotes isName defined
  constructor
  · rw [← String.toList_inj, expanded]
    simp
  · rw [← lex_enclosed_iff expanded, String.ofList_toList]

/-- A value with blanks, a single quote, operators, a line break and a reference is one word, and
one with a double quote is not the word that it was. -/
theorem lex_quoted_reference_both :
    let safe := ({} : Variables).set "A_1" "it's $A_1 $?\n&& x"
    let broken := ({} : Variables).set "A_1" "a\" b"
    IsReferenceName "A_1" ∧
      safe.get? "A_1" = some "it's $A_1 $?\n&& x" ∧
      lex (safe.expand "\"$A_1\"") = [.word "it's $A_1 $?\n&& x"] ∧
      broken.get? "A_1" = some "a\" b" ∧
      lex (broken.expand "\"$A_1\"") ≠ [.word "a\" b"] := by
  intro safe broken
  have isName : IsReferenceName "A_1" := by decide
  have defined : safe.get? "A_1" = some "it's $A_1 $?\n&& x" := rfl
  have defined' : broken.get? "A_1" = some "a\" b" := rfl
  refine ⟨isName, defined, (lex_quoted_reference_iff isName defined).2.mpr (by decide),
    defined', ?_⟩
  intro read
  exact absurd ((lex_quoted_reference_iff isName defined').2.mp read).1 (by decide)

end Variables

end CommandShell
