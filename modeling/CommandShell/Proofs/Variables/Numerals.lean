import CommandShell.Proofs.Variables.Status
import Mathlib.Data.Nat.Digits.Defs

/-!
# Numerals under the name of the status

Any text may stand under the name of the status. It is a status if it is a numeral, with one sign
before it or none, whose value by the places of its digits is in the range; any other text is read
as 0. The value has no bound while it is read. A register that holds nothing but statuses reads the
same numbers: it takes one digit after another and gives up at the first overflow, and as the numbers
only move away from zero, no later digit could have brought them back.
-/

set_option autoImplicit false

namespace CommandShell

namespace Text

variable {digits : List Char} {n m : Int}

def digitValue (c : Char) : Nat := c.toNat - '0'.toNat

def placeValue (digits : List Char) : Nat := Nat.ofDigits 10 (digits.reverse.map digitValue)

def IsNumeral (digits : List Char) : Prop := digits ≠ [] ∧ ∀ c ∈ digits, c.isDigit = true

/-- A numeral with a sign or without one, and the integer that it denotes. -/
inductive Denotes : List Char → Int → Prop
  | unsigned {digits : List Char} : IsNumeral digits → Denotes digits (placeValue digits)
  | plus {digits : List Char} : IsNumeral digits → Denotes ('+' :: digits) (placeValue digits)
  | minus {digits : List Char} : IsNumeral digits → Denotes ('-' :: digits) (-placeValue digits)

/-! ## Values by places -/

theorem placeValue_zeros (count : Nat) (digits : List Char) :
    placeValue (List.replicate count '0' ++ digits) = placeValue digits := by
  rw [placeValue, List.reverse_append, List.reverse_replicate, List.map_append,
    List.map_replicate]
  exact Nat.ofDigits_append_replicate_zero _

theorem IsNumeral.zeros (numeral : IsNumeral digits) (count : Nat) :
    IsNumeral (List.replicate count '0' ++ digits) := by
  refine ⟨List.append_ne_nil_of_right_ne_nil _ numeral.1, fun c member => ?_⟩
  obtain zero | digit := List.mem_append.mp member
  · rw [List.eq_of_mem_replicate zero]
    rfl
  · exact numeral.2 c digit

theorem foldl_digitValue (digits : List Char) :
    digits.foldl (fun n c => 10 * n + digitValue c) 0 = placeValue digits := by
  rw [placeValue, Nat.ofDigits_eq_foldr, List.foldr_map, List.foldr_reverse]
  simp only [Nat.add_comm, Nat.cast_id]

theorem natural?_of_isNumeral (numeral : IsNumeral digits) :
    natural? digits = some (placeValue digits) := by
  obtain ⟨nonempty, all⟩ := numeral
  have value := foldl_digitValue digits
  simp only [digitValue] at value
  have accepted : (digits.isEmpty || !digits.all Char.isDigit) = false := by
    simp only [Bool.or_eq_false_iff, List.isEmpty_eq_false_iff, Bool.not_eq_false',
      List.all_eq_true]
    exact ⟨nonempty, all⟩
  rw [natural?, value, accepted]
  rfl

theorem natural?_eq_none_iff : natural? digits = none ↔ ¬IsNumeral digits := by
  constructor
  · intro refused numeral
    rw [natural?_of_isNumeral numeral] at refused
    contradiction
  · intro other
    rw [natural?, if_pos]
    by_contra accepted
    simp only [Bool.or_eq_true, List.isEmpty_iff, Bool.not_eq_true', List.all_eq_false] at accepted
    push Not at accepted
    exact other accepted

theorem natural?_eq_some_iff {value : Nat} :
    natural? digits = some value ↔ IsNumeral digits ∧ placeValue digits = value := by
  by_cases numeral : IsNumeral digits
  · simp [natural?_of_isNumeral numeral, numeral]
  · simp [natural?_eq_none_iff.mpr numeral, numeral]

theorem not_isNumeral_cons {sign : Char} (other : sign.isDigit = false) :
    ¬IsNumeral (sign :: digits) := by
  rintro ⟨-, all⟩
  have digit := all sign List.mem_cons_self
  rw [other] at digit
  contradiction

/-! ## Signs -/

def splitSign : List Char → Bool × List Char
  | '-' :: digits => (true, digits)
  | '+' :: digits => (false, digits)
  | digits => (false, digits)

def signed (negative : Bool) (n : Nat) : Int := if negative then -n else n

theorem splitSign_of_ne (minus : ∀ rest, digits ≠ '-' :: rest)
    (plus : ∀ rest, digits ≠ '+' :: rest) : splitSign digits = (false, digits) := by
  rw [splitSign]
  · exact minus
  · exact plus

theorem splitSign_of_isNumeral (numeral : IsNumeral digits) :
    splitSign digits = (false, digits) := by
  apply splitSign_of_ne
  · rintro rest rfl
    exact not_isNumeral_cons rfl numeral
  · rintro rest rfl
    exact not_isNumeral_cons rfl numeral

theorem denotes_iff {characters : List Char} :
    Denotes characters n ↔ IsNumeral (splitSign characters).2 ∧
      signed (splitSign characters).1 (placeValue (splitSign characters).2) = n := by
  constructor
  · intro denotes
    cases denotes with
    | unsigned numeral => simp [splitSign_of_isNumeral numeral, numeral, signed]
    | plus numeral => exact ⟨numeral, rfl⟩
    | minus numeral => exact ⟨numeral, rfl⟩
  · rintro ⟨numeral, rfl⟩
    unfold splitSign at numeral ⊢
    split at numeral
    next => exact .minus numeral
    next => exact .plus numeral
    next => exact .unsigned numeral

theorem Denotes.unique {characters : List Char} (one : Denotes characters n)
    (other : Denotes characters m) : n = m :=
  (denotes_iff.mp one).2.symm.trans (denotes_iff.mp other).2

theorem integer?_eq (text : String) :
    integer? text = (natural? (splitSign text.toList).2).map (signed (splitSign text.toList).1) := by
  rw [integer?]
  split
  next digits same =>
    rw [same, splitSign]
    cases natural? digits <;> rfl
  next digits same =>
    rw [same, splitSign]
    cases natural? digits <;> rfl
  next minus plus =>
    rw [splitSign_of_ne minus plus]
    cases natural? text.toList <;> rfl

/-- Reading gives just the integer that the text denotes. -/
theorem integer?_eq_some_iff {text : String} : integer? text = some n ↔ Denotes text.toList n := by
  rw [integer?_eq, Option.map_eq_some_iff, denotes_iff]
  simp only [natural?_eq_some_iff, and_assoc, exists_and_left, exists_eq_left']

end Text

namespace Variables
open Text

variable {vars : Variables} {text : String} {digits : List Char} {n : Int}

/-! ## The status that is kept -/

def setEach (vars : Variables) (pairs : List (String × String)) : Variables :=
  pairs.foldl (fun vars pair => vars.set pair.1 pair.2) vars

theorem get?_setEach {name : String} {pairs : List (String × String)}
    (others : ∀ pair ∈ pairs, pair.1 ≠ name) (vars : Variables) :
    (vars.setEach pairs).get? name = vars.get? name := by
  induction pairs generalizing vars with
  | nil => rfl
  | cons pair rest ih =>
    have apart : name ≠ pair.1 := Ne.symm (others pair List.mem_cons_self)
    rw [setEach, List.foldl_cons, ← setEach,
      ih (fun pair member => others pair (List.mem_cons_of_mem _ member)),
      get?_set_of_ne vars pair.2 apart]

theorem isStatus_iff : isStatus n = true ↔ -2 ^ 31 ≤ n ∧ n < 2 ^ 31 := by
  rw [isStatus, Bool.and_eq_true, decide_eq_true_eq, decide_eq_true_eq]
  omega

theorem readStatus?_eq_some_iff :
    readStatus? text = some n ↔ Denotes text.toList n ∧ -2 ^ 31 ≤ n ∧ n < 2 ^ 31 := by
  rw [readStatus?, Option.filter_eq_some_iff, integer?_eq_some_iff, isStatus_iff]

theorem status_of_get? (kept : vars.get? statusName = some text) :
    vars.status = (readStatus? text).getD 0 := by
  rw [status, kept, Option.bind_some]

/-- A status in the range is still the last one after any other names have been set. A text under its
name is the status that it denotes, if that is in the range; any other text, and none, is 0. -/
theorem status_survives :
    (∀ (vars : Variables) (n : Int) (later : List (String × String)),
      -2 ^ 31 ≤ n → n < 2 ^ 31 → (∀ pair ∈ later, pair.1 ≠ statusName) →
      ((vars.setStatus n).setEach later).status = n) ∧
    (∀ (vars : Variables) (text : String), vars.get? statusName = some text →
      (∀ n, Denotes text.toList n → -2 ^ 31 ≤ n → n < 2 ^ 31 → vars.status = n) ∧
      ((∀ n, Denotes text.toList n → ¬(-2 ^ 31 ≤ n ∧ n < 2 ^ 31)) → vars.status = 0)) ∧
    ∀ vars : Variables, vars.get? statusName = none → vars.status = 0 := by
  refine ⟨?set, ?text, ?absent⟩
  case set =>
    intro vars n later low high others
    have kept := (get?_setEach others (vars.setStatus n)).trans (get?_setStatus vars n)
    exact status_of_text kept (isStatus_iff.mpr ⟨low, high⟩)
  case text =>
    intro vars text kept
    rw [status_of_get? kept]
    constructor
    · intro n denotes low high
      rw [readStatus?_eq_some_iff.mpr ⟨denotes, low, high⟩, Option.getD_some]
    · intro none
      cases read : readStatus? text with
      | none => rfl
      | some n =>
        obtain ⟨denotes, range⟩ := readStatus?_eq_some_iff.mp read
        exact absurd range (none n denotes)
  case absent =>
    intro vars absent
    rw [status, absent]
    rfl

/-- Both ends of the range, through other settings and through zeros in front; one number more, and a
sign alone. -/
theorem status_survives_ends :
    let later := [("HOME", "/x"), ("", "7"), ("HOME", "")]
    let low := String.ofList ('-' :: (List.replicate 40 '0' ++ "2147483648".toList))
    let high : Int := 2147483648
    (∀ pair ∈ later, pair.1 ≠ statusName) ∧ Denotes low.toList (-2147483648) ∧
      Denotes "+2147483648".toList high ∧ ¬(-2 ^ 31 ≤ high ∧ high < 2 ^ 31) ∧
      (∀ n, ¬Denotes ['-'] n) ∧
      ((({} : Variables).setStatus (-2147483648)).setEach later).status = -2147483648 ∧
      ((({} : Variables).setStatus 2147483647).setEach later).status = 2147483647 ∧
      (({} : Variables).set statusName low).status = -2147483648 ∧
      (({} : Variables).set statusName "+2147483648").status = 0 ∧
      (({} : Variables).set statusName "-").status = 0 ∧ ({} : Variables).status = 0 := by
  intro later low high
  have others : ∀ pair ∈ later, pair.1 ≠ statusName := by decide
  have numeral : IsNumeral "2147483648".toList := ⟨by decide, List.all_eq_true.mp rfl⟩
  have value : placeValue "2147483648".toList = 2147483648 := by
    rw [← foldl_digitValue]
    rfl
  have ended : Denotes low.toList (-2147483648) := by
    have denotes := Denotes.minus (numeral.zeros 40)
    rw [placeValue_zeros, value] at denotes
    rwa [String.toList_ofList]
  have beyond : Denotes "+2147483648".toList high := by
    have denotes := Denotes.plus numeral
    rwa [value] at denotes
  have outside : ¬(-2 ^ 31 ≤ high ∧ high < 2 ^ 31) := by decide
  have alone (n : Int) : ¬Denotes ['-'] n := fun denotes => (denotes_iff.mp denotes).1.1 rfl
  obtain ⟨survives, read, absent⟩ := status_survives
  refine ⟨others, ended, beyond, outside, alone, ?_, ?_, ?_, ?_, ?_, absent {} rfl⟩
  · exact survives {} _ later (by decide) (by decide) others
  · exact survives {} _ later (by decide) (by decide) others
  · exact (read _ low (get?_set_self ..)).1 _ ended (by decide) (by decide)
  · exact (read _ _ (get?_set_self ..)).2 fun n denotes => beyond.unique denotes ▸ outside
  · exact (read _ "-" (get?_set_self ..)).2 fun n denotes => absurd denotes (alone n)

/-! ## Reading in a register -/

/-- One more digit in a register for statuses. Tens and ones are told apart, as both can overflow. -/
def pushDigit? (negative : Bool) (register : Int) (c : Char) : Option Int :=
  if c.isDigit then do
    let tens ← (some (10 * register)).filter isStatus
    (some (tens + signed negative (digitValue c))).filter isStatus
  else none

def readDigits? (negative : Bool) (digits : List Char) : Option Int :=
  if digits.isEmpty then none else digits.foldlM (pushDigit? negative) 0

variable {negative : Bool}

theorem isStatus_signed_of_le {near far : Nat} (le : near ≤ far)
    (small : isStatus (signed negative far) = true) : isStatus (signed negative near) = true := by
  rw [isStatus_iff] at small ⊢
  cases negative with
  | true =>
    simp only [signed, if_true] at small ⊢
    omega
  | false =>
    simp only [signed, Bool.false_eq_true, if_false] at small ⊢
    omega

theorem signed_add (negative : Bool) (m n : Nat) :
    signed negative m + signed negative n = signed negative (m + n) := by
  cases negative with
  | true => simp only [signed, if_true]; omega
  | false => simp only [signed, Bool.false_eq_true, if_false]; omega

theorem mul_signed (negative : Bool) (k n : Nat) :
    k * signed negative n = signed negative (k * n) := by
  cases negative <;> simp [signed]

theorem pushDigit?_signed {c : Char} (digit : c.isDigit = true) (n : Nat) :
    pushDigit? negative (signed negative n) c =
      (some (signed negative (10 * n + digitValue c))).filter isStatus := by
  have tens : (10 : Int) * signed negative n = signed negative (10 * n) := mul_signed negative 10 n
  rw [pushDigit?, if_pos digit, tens, Option.filter_some]
  split_ifs with small
  · rw [Option.bind_eq_bind, Option.bind_some, signed_add]
  · have large : ¬isStatus (signed negative (10 * n + digitValue c)) = true :=
      fun whole => small (isStatus_signed_of_le (Nat.le_add_right ..) whole)
    rw [Option.filter_some, if_neg large]
    rfl

theorem le_foldl_digitValue (digits : List Char) (n : Nat) :
    n ≤ digits.foldl (fun n c => 10 * n + digitValue c) n := by
  induction digits generalizing n with
  | nil => exact le_rfl
  | cons c rest ih =>
    have later := ih (10 * n + digitValue c)
    rw [List.foldl_cons]
    omega

theorem foldlM_pushDigit? (all : ∀ c ∈ digits, c.isDigit = true) {n : Nat}
    (small : isStatus (signed negative n) = true) :
    digits.foldlM (pushDigit? negative) (signed negative n) =
      (some (signed negative (digits.foldl (fun n c => 10 * n + digitValue c) n))).filter
        isStatus := by
  induction digits generalizing n with
  | nil => rw [List.foldlM_nil, List.foldl_nil, Option.filter_some, if_pos small]; rfl
  | cons c rest ih =>
    rw [List.foldlM_cons, pushDigit?_signed (all c List.mem_cons_self), Option.filter_some,
      List.foldl_cons]
    split_ifs with next
    · exact ih (fun c member => all c (List.mem_cons_of_mem _ member)) next
    · -- The register has given up, and the whole number is even farther from zero.
      have large := fun whole => next (isStatus_signed_of_le (le_foldl_digitValue rest _) whole)
      rw [Option.filter_some, if_neg large]
      rfl

theorem foldlM_pushDigit?_of_not {c : Char} (member : c ∈ digits) (other : c.isDigit = false)
    (register : Int) : digits.foldlM (pushDigit? negative) register = none := by
  induction digits generalizing register with
  | nil => contradiction
  | cons first rest ih =>
    rw [List.foldlM_cons]
    obtain rfl | later := List.mem_cons.mp member
    · rw [pushDigit?, if_neg (Bool.eq_false_iff.mp other)]
      rfl
    · cases pushDigit? negative register first with
      | none => rfl
      | some next => exact ih later next

theorem readDigits?_eq (negative : Bool) (digits : List Char) :
    readDigits? negative digits =
      ((natural? digits).map (signed negative)).filter isStatus := by
  by_cases numeral : IsNumeral digits
  · have zero : isStatus (signed negative 0) = true := by cases negative <;> rfl
    have start : (0 : Int) = signed negative 0 := by cases negative <;> rfl
    rw [readDigits?, if_neg (by simpa using numeral.1), start, foldlM_pushDigit? numeral.2 zero,
      foldl_digitValue, natural?_of_isNumeral numeral, Option.map_some]
  · rw [natural?_eq_none_iff.mpr numeral, Option.map_none, Option.filter_none, readDigits?]
    split_ifs with empty
    · rfl
    · obtain ⟨c, member, other⟩ : ∃ c ∈ digits, c.isDigit = false := by
        by_contra none
        push Not at none
        exact numeral ⟨by simpa using empty, by simpa using none⟩
      exact foldlM_pushDigit?_of_not member other 0

/-- A register that takes digit after digit reads the same statuses. -/
theorem readStatus?_eq_readDigits? (text : String) :
    readStatus? text = readDigits? (splitSign text.toList).1 (splitSign text.toList).2 := by
  rw [readDigits?_eq, readStatus?, integer?_eq]

/-- The least status has no counterpart above zero. -/
example : readStatus? "-2147483648" = some (-2147483648) ∧
    readDigits? true "2147483648".toList = some (-2147483648) ∧
    readDigits? false "2147483648".toList = none := by decide

end Variables

end CommandShell
