import CommandShell.Variables.Expansion

/-!
# The status among the variables

A status is kept as decimal text and read back from it. Reading gives the status that was kept, if
it is in the range of statuses, and this is what `$?` stands for in a line.
-/

set_option autoImplicit false

namespace CommandShell

namespace Text

theorem isDigit_of_mem_nat {n : Nat} {c : Char} (h : c ∈ (toString n).toList) : c.isDigit := by
  rw [Nat.toString_eq_repr, Nat.repr, String.toList_ofList] at h
  exact Nat.isDigit_of_mem_toDigits (by decide) (by decide) h

theorem toString_negSucc (n : Nat) : toString (Int.negSucc n) = "-" ++ toString (n + 1) := rfl

theorem isDigit_of_mem_int {n : Int} {c : Char} (h : c ∈ (toString n).toList) :
    c.isDigit ∨ c = '-' := by
  cases n with
  | ofNat n => exact .inl (isDigit_of_mem_nat h)
  | negSucc n =>
    rw [toString_negSucc, String.toList_append, List.mem_append] at h
    rcases h with h | h
    · exact .inr (List.mem_singleton.mp h)
    · exact .inl (isDigit_of_mem_nat h)

theorem natural?_toDigits (n : Nat) : natural? (Nat.toDigits 10 n) = some n := by
  have digits : (Nat.toDigits 10 n).all Char.isDigit = true :=
    List.all_eq_true.mpr fun c member => Nat.isDigit_of_mem_toDigits (by omega) (by omega) member
  have value : (Nat.toDigits 10 n).foldl (fun n c => 10 * n + (c.toNat - '0'.toNat)) 0 = n :=
    Nat.ofDigitChars_toDigits (by omega) (by omega)
  rw [natural?, digits, value]
  simp [Nat.toDigits_ne_nil]

theorem integer?_toString (n : Int) : integer? (toString n) = some n := by
  rw [Int.toString_eq_repr]
  cases n with
  | ofNat n =>
    have unsigned : (Int.ofNat n).repr.toList = Nat.toDigits 10 n := Nat.toList_repr
    have digit {c : Char} (member : c ∈ Nat.toDigits 10 n) : c.isDigit = true :=
      Nat.isDigit_of_mem_toDigits (by omega) (by omega) member
    rw [integer?, unsigned]
    split
    next rest same => exact absurd (digit (same ▸ List.mem_cons_self)) (by decide)
    next rest same => exact absurd (digit (same ▸ List.mem_cons_self)) (by decide)
    next => rw [natural?_toDigits]; rfl
  | negSucc n =>
    have signed : (Int.negSucc n).repr.toList = '-' :: Nat.toDigits 10 (n + 1) := by
      rw [Int.repr, String.toList_append, Nat.toList_repr]
      rfl
    simp only [integer?, signed, natural?_toDigits]
    rfl

end Text

namespace Variables

theorem get?_setStatus (vars : Variables) (status : Int) :
    (vars.setStatus status).get? statusName = some (toString status) :=
  get?_set_self ..

theorem status_of_text {vars : Variables} {status : Int}
    (kept : vars.get? statusName = some (toString status)) (small : isStatus status = true) :
    vars.status = status := by
  rw [Variables.status, kept, Option.bind_some, readStatus?, Text.integer?_toString,
    Option.filter_some, if_pos small, Option.getD_some]

theorem expandFrom_append_of_notMem (lookup : String → Option String) {text : List Char}
    (plain : '$' ∉ text) (rest : List Char) :
    expandFrom lookup (text ++ rest) = text ++ expandFrom lookup rest := by
  induction text with
  | nil => rfl
  | cons c text ih =>
    rw [List.mem_cons, not_or] at plain
    have other : c ≠ '$' := Ne.symm plain.1
    rw [List.cons_append, expandFrom, ih plain.2] <;> simp [other]

theorem expandFrom_of_notMem (lookup : String → Option String) {text : List Char}
    (plain : '$' ∉ text) : expandFrom lookup text = text := by
  have whole := expandFrom_append_of_notMem lookup plain []
  rwa [List.append_nil, expandFrom, List.append_nil] at whole

theorem expand_status (vars : Variables) : vars.expand "$?" = toString vars.status := by
  have plain : '$' ∉ (toString vars.status).toList :=
    fun member => absurd (Text.isDigit_of_mem_int member) (by decide)
  rw [expand, show "$?".toList = ['$', '?'] from rfl, insertStatus, insertStatus, List.append_nil,
    expandFrom_of_notMem _ plain, String.ofList_toList]

end Variables

end CommandShell
