import CommandShell.Proofs.Token.Spelling

/-!
# Every token list can be written

A word is written between two quotes of either kind, with a backslash before every backslash in it
and before every such quote; an operator is written as it is. Tokens that are written in this way,
with blanks between them, are read back as they were, whatever the words hold. The quote may be
another one for each word, and the blanks are any.
-/

set_option autoImplicit false

namespace CommandShell.Token
open Mode

structure Gap where
  chars : List Char
  ne_nil : chars ≠ []
  blank : ∀ c ∈ chars, Text.isBlank c = true

def written (quote : Quote) (token : Token) : List Char :=
  if token.kind = .word then quote.char :: escaped quote token.text.toList ++ [quote.char]
  else token.text.toList

/-- The tokens on a line. The quotes and the gaps are counted from the left: a token that is a word
stands between the quotes of its place, and a token that is not the last has the gap of its place
behind it. -/
def writtenLine (quotes : Nat → Quote) (gaps : Nat → Gap) : List Token → List Char
  | [] => []
  | [token] => written (quotes 0) token
  | token :: next :: rest =>
    written (quotes 0) token ++ (gaps 0).chars ++
      writtenLine (fun i => quotes (i + 1)) (fun i => gaps (i + 1)) (next :: rest)

theorem lexFrom_blanks {blanks : List Char} (blank : ∀ c ∈ blanks, Text.isBlank c = true)
    (rest : List Char) : lexFrom (bare none) (blanks ++ rest) = lexFrom (bare none) rest := by
  induction blanks with
  | nil => rfl
  | cons c blanks ih =>
    have first : (bare none).step c = ([], bare none) := by
      simp [step, stepBare, blank c (by simp), flush]
    rw [List.cons_append, lexFrom, first, List.nil_append]
    exact ih fun d member => blank d (by simp [member])

theorem Gap.ends (gap : Gap) (rest : List Char) : Ends (gap.chars ++ rest) := by
  obtain ⟨first, others, same⟩ := List.exists_cons_of_ne_nil gap.ne_nil
  intro c head
  obtain rfl : first = c := by simpa [same] using head
  exact .inl (gap.blank first (by simp [same]))

theorem Spelled.gap {s t : List Char} {as bs : List Token} (left : Spelled s as)
    (right : Spelled t bs) (gap : Gap) : Spelled (s ++ gap.chars ++ t) (as ++ bs) := by
  rw [List.append_assoc]
  refine left.append ?_ fun rest _ => ?_
  · intro rest ends
    rw [List.append_assoc, lexFrom_blanks gap.blank, right rest ends]
  · rw [List.append_assoc]
    exact gap.ends _

theorem spelled_written (quote : Quote) {token : Token}
    (operator : token.kind ≠ .word → token.text = token.kind.spelling) :
    Spelled (written quote token) [token] := by
  obtain ⟨kind, text⟩ := token
  by_cases isWord : kind = .word
  · subst isWord
    have adds := adds_escaped quote text.toList
    rw [String.ofList_toList] at adds
    simpa [written, Token.word] using adds.spelled
  · obtain rfl : text = kind.spelling := operator isWord
    simpa [written, isWord, Token.operator] using spelled_operator kind isWord

theorem spelled_writtenLine (quotes : Nat → Quote) (gaps : Nat → Gap) {tokens : List Token}
    (operators : ∀ token ∈ tokens, token.kind ≠ .word → token.text = token.kind.spelling) :
    Spelled (writtenLine quotes gaps tokens) tokens := by
  induction quotes, gaps, tokens using writtenLine.induct with
  | case1 quotes gaps =>
    intro rest _
    rfl
  | case2 quotes gaps token => exact spelled_written _ (operators token (by simp))
  | case3 quotes gaps token next rest ih =>
    have first := spelled_written (quotes 0) (operators token (by simp))
    have others := ih fun later member => operators later (by simp [List.mem_cons.mp member])
    exact first.gap others (gaps 0)

/-- A token list is read back from the line on which it is written: each word between quotes of its
own choice, and any blanks between two tokens. -/
theorem lex_writtenLine (quotes : Nat → Quote) (gaps : Nat → Gap) {tokens : List Token}
    (operators : ∀ token ∈ tokens, token.kind ≠ .word → token.text = token.kind.spelling) :
    lex (String.ofList (writtenLine quotes gaps tokens)) = tokens := by
  have spelled := spelled_writtenLine quotes gaps operators [] ends_nil
  simpa [lex, lexFrom, flush] using spelled

/-- Two pipes in a row, an empty word, and a word with both quotes, a backslash at its end and a
line break. -/
theorem lex_writtenLine_pipes :
    let tokens : List Token := [.word "", .operator .pipe, .operator .pipe, .word "a'\"\n|\\"]
    let quotes := fun i => if i = 0 then Quote.double else Quote.single
    let gap : Gap := ⟨['\u00a0', '\n'], by decide, by simp [Text.isBlank]⟩
    (∀ token ∈ tokens, token.kind ≠ .word → token.text = token.kind.spelling) ∧
      String.ofList (writtenLine quotes (fun _ => gap) tokens) =
        "\"\"\u00a0\n|\u00a0\n|\u00a0\n'a\\'\"\n|\\\\'" ∧
      lex (String.ofList (writtenLine quotes (fun _ => gap) tokens)) = tokens := by
  intro tokens quotes gap
  have operators : ∀ token ∈ tokens, token.kind ≠ .word → token.text = token.kind.spelling := by
    decide
  exact ⟨operators, by decide +kernel, lex_writtenLine quotes (fun _ => gap) operators⟩

end CommandShell.Token
