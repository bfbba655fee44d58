import CommandShell.Proofs.Variables.Status
import Mathlib.Data.List.MinMax
import Mathlib.Data.List.TakeWhile

/-!
# References side by side

A line is cut into segments: text without a dollar sign, `$?`, and references by name, each with
something behind it that cannot belong to the name. The line is expanded segment by segment, each to
what it stands for, unless a `$?` stands directly behind a name. There the digits of the status are
put in before the names are read, and the name goes on with them. Only a negative status, which
begins with a sign, leaves the name as it is.
-/

set_option autoImplicit false

namespace CommandShell

inductive Segment where
  | text (text : String)
  | status
  | reference (name : String)
  deriving DecidableEq, Repr

namespace Segment

def written : Segment → List Char
  | text s => s.toList
  | status => ['$', '?']
  | reference name => '$' :: name.toList

def value (vars : Variables) : Segment → List Char
  | text s => s.toList
  | status => (toString vars.status).toList
  | reference name =>
    match vars.get? name with
    | some value => value.toList
    | none => '$' :: name.toList

def line (segments : List Segment) : List Char := segments.flatMap written

def values (vars : Variables) (segments : List Segment) : List Char := segments.flatMap (value vars)

def IsReferenceName (name : String) : Prop :=
  name ≠ "" ∧ ∀ c ∈ name.toList, c.isAlphanum = true ∨ c = '_'

instance (name : String) : Decidable (IsReferenceName name) :=
  have := List.decidableBAll (fun c : Char => c.isAlphanum = true ∨ c = '_') name.toList
  inferInstanceAs (Decidable (name ≠ "" ∧ _))

/-- The segments can be told apart: text holds no dollar sign, and no name could go on with the
character behind it. -/
def Separate : List Segment → Prop
  | [] => True
  | text s :: rest => '$' ∉ s.toList ∧ Separate rest
  | status :: rest => Separate rest
  | reference name :: rest =>
    IsReferenceName name ∧ (∀ c ∈ (line rest).head?, Text.isReferenceChar c = false) ∧ Separate rest

def beforeStatus : List Segment → List String
  | [] => []
  | text _ :: rest => beforeStatus rest
  | status :: rest => beforeStatus rest
  | reference name :: rest =>
    if ['$', '?'].isPrefixOf (line rest) then name :: beforeStatus rest else beforeStatus rest

theorem beforeStatus_reference_eq_nil {name : String} {rest : List Segment} :
    beforeStatus (.reference name :: rest) = [] ↔
      ['$', '?'].isPrefixOf (line rest) = false ∧ beforeStatus rest = [] := by
  cases behind : ['$', '?'].isPrefixOf (line rest) <;> simp [beforeStatus, behind]

end Segment

namespace Text

theorem isReferenceChar_of_isAlphanum {c : Char} (h : c.isAlphanum = true ∨ c = '_') :
    isReferenceChar c = true := by
  rcases h with h | rfl
  · simp [isReferenceChar, isAlphanumeric_of_isAlphanum h]
  · simp [isReferenceChar]

theorem dollar_notMem_toString (n : Int) : '$' ∉ (toString n).toList :=
  fun member => absurd (isDigit_of_mem_int member) (by decide)

theorem toString_of_neg {n : Int} (negative : n < 0) :
    ∃ digits, (toString n).toList = '-' :: digits := by
  obtain ⟨m, rfl⟩ := Int.eq_negSucc_of_lt_zero negative
  rw [toString_negSucc, String.toList_append]
  exact ⟨(toString (m + 1)).toList, rfl⟩

theorem toString_of_nonneg {n : Int} (nonneg : 0 ≤ n) :
    ∃ d digits, (toString n).toList = d :: digits ∧ isReferenceChar d = true := by
  obtain ⟨m, rfl⟩ := Int.eq_ofNat_of_zero_le nonneg
  have shown : (toString (m : Int)).toList = Nat.toDigits 10 m := Nat.toList_repr
  cases digits : Nat.toDigits 10 m with
  | nil => exact absurd digits (Nat.toDigits_ne_nil)
  | cons d ds =>
    have digit : d.isDigit = true :=
      Nat.isDigit_of_mem_toDigits (by omega) (by omega) (digits ▸ List.mem_cons_self)
    exact ⟨d, ds, by rw [shown, digits],
      isReferenceChar_of_isAlphanum (.inl (by simp [Char.isAlphanum, digit]))⟩

end Text

namespace Variables
open Segment Text

variable {segments : List Segment} {name : String}

/-! ## The two passes over segments -/

theorem insertStatus_append_of_notMem (status : List Char) {text : List Char} (plain : '$' ∉ text)
    (rest : List Char) : insertStatus status (text ++ rest) = text ++ insertStatus status rest := by
  induction text with
  | nil => rfl
  | cons c text ih =>
    rw [List.mem_cons, not_or] at plain
    have other : c ≠ '$' := Ne.symm plain.1
    rw [List.cons_append, insertStatus, ih plain.2] <;> simp [other]

theorem isReferenceChar_of_mem (h : IsReferenceName name) :
    ∀ c ∈ name.toList, isReferenceChar c = true :=
  fun c member => isReferenceChar_of_isAlphanum (h.2 c member)

theorem notMem_of_isReferenceName (h : IsReferenceName name) {c : Char}
    (other : isReferenceChar c = false) : c ∉ name.toList := by
  intro member
  rw [isReferenceChar_of_mem h c member] at other
  cases other

theorem append_ne_cons (h : IsReferenceName name) {d : Char} (other : isReferenceChar d = false)
    (rest later : List Char) : name.toList ++ rest ≠ d :: later := by
  intro begins
  have absent := notMem_of_isReferenceName h other
  cases same : name.toList with
  | nil => exact h.1 (by simpa using same)
  | cons c cs =>
    rw [same] at begins absent
    cases begins
    simp at absent

theorem insertStatus_reference (status : List Char) (h : IsReferenceName name) (rest : List Char) :
    insertStatus status ('$' :: name.toList ++ rest) =
      '$' :: name.toList ++ insertStatus status rest := by
  have plain : '$' ∉ name.toList := notMem_of_isReferenceName h (by decide)
  rw [List.cons_append, insertStatus, insertStatus_append_of_notMem status plain, List.cons_append]
  exact fun later _ begins => append_ne_cons h (by decide) rest later begins

theorem head?_insertStatus (status : List Char) {s : List Char}
    (other : ['$', '?'].isPrefixOf s = false) : (insertStatus status s).head? = s.head? := by
  cases s with
  | nil => rfl
  | cons c s =>
    rw [insertStatus]
    · rfl
    · rintro rest rfl rfl
      simp at other

theorem expandFrom_reference (lookup : String → Option String) (h : IsReferenceName name)
    (rest : List Char) :
    expandFrom lookup ('$' :: name.toList ++ rest) =
      expandNamed lookup (name.toList ++ rest.takeWhile isReferenceChar) ++
        expandFrom lookup (rest.dropWhile isReferenceChar) := by
  have all := isReferenceChar_of_mem h
  have taken : (name.toList ++ rest).takeWhile isReferenceChar =
      name.toList ++ rest.takeWhile isReferenceChar := List.takeWhile_append_of_pos all
  have left : (name.toList ++ rest).dropWhile isReferenceChar = rest.dropWhile isReferenceChar :=
    List.dropWhile_append_of_pos all
  rw [List.cons_append, expandFrom, taken, left]
  · split
    · next none =>
      have empty : name.toList = [] := (List.append_eq_nil_iff.mp none).1
      exact absurd (by simpa using empty) h.1
    · rfl
  · exact append_ne_cons h (by decide) rest
  · exact append_ne_cons h (by decide) rest

theorem expandFrom_reference_alone (lookup : String → Option String) (h : IsReferenceName name)
    {rest : List Char} (ends : ∀ c ∈ rest.head?, isReferenceChar c = false) :
    expandFrom lookup ('$' :: name.toList ++ rest) =
      expandNamed lookup name.toList ++ expandFrom lookup rest := by
  have none : rest.takeWhile isReferenceChar = [] := by
    cases rest with
    | nil => rfl
    | cons c rest => simp [ends c rfl]
  have all := List.takeWhile_append_dropWhile (p := isReferenceChar) (l := rest)
  rw [none, List.nil_append] at all
  rw [expandFrom_reference lookup h, none, all, List.append_nil]

theorem expandNamed_eq_value (vars : Variables) (name : String) :
    expandNamed vars.get? name.toList = value vars (.reference name) := by
  rw [expandNamed, String.ofList_toList]
  rfl

/-! ## Segment by segment -/

/-- The line after the first pass. -/
def inserted (status : Int) (segments : List Segment) : List Char :=
  insertStatus (toString status).toList (line segments)

theorem inserted_text (status : Int) {s : String} (plain : '$' ∉ s.toList) (rest : List Segment) :
    inserted status (.text s :: rest) = s.toList ++ inserted status rest :=
  insertStatus_append_of_notMem _ plain _

theorem inserted_status (status : Int) (rest : List Segment) :
    inserted status (.status :: rest) = (toString status).toList ++ inserted status rest := rfl

theorem inserted_reference (status : Int) (h : IsReferenceName name) (rest : List Segment) :
    inserted status (.reference name :: rest) = '$' :: name.toList ++ inserted status rest :=
  insertStatus_reference _ h _

theorem ends_inserted {status : Int} {rest : List Segment}
    (ends : ∀ c ∈ (line rest).head?, isReferenceChar c = false)
    (apart : status < 0 ∨ ['$', '?'].isPrefixOf (line rest) = false) :
    ∀ c ∈ (inserted status rest).head?, isReferenceChar c = false := by
  cases behind : ['$', '?'].isPrefixOf (line rest) with
  | false => rwa [inserted, head?_insertStatus _ behind]
  | true =>
    obtain ⟨later, same⟩ := List.isPrefixOf_iff_prefix.mp behind
    have negative : status < 0 := apart.resolve_right (by simp [behind])
    obtain ⟨digits, signed⟩ := toString_of_neg negative
    intro c first
    rw [inserted, ← same, signed] at first
    obtain rfl : '-' = c := by simpa [insertStatus] using first
    decide

theorem expandFrom_inserted {vars : Variables} (separate : Separate segments)
    (apart : vars.status < 0 ∨ beforeStatus segments = []) :
    expandFrom vars.get? (inserted vars.status segments) = values vars segments := by
  induction segments with
  | nil => simp [inserted, line, insertStatus, expandFrom, values]
  | cons segment rest ih =>
    cases segment with
    | text s =>
      have others := ih separate.2 apart
      rw [inserted_text _ separate.1, expandFrom_append_of_notMem _ separate.1, others]
      rfl
    | status =>
      have others := ih separate apart
      rw [inserted_status, expandFrom_append_of_notMem _ (dollar_notMem_toString _), others]
      rfl
    | reference name =>
      obtain ⟨isName, ends, separate⟩ := separate
      have behind : vars.status < 0 ∨ ['$', '?'].isPrefixOf (line rest) = false :=
        apart.imp_right fun none => (beforeStatus_reference_eq_nil.mp none).1
      have others := ih separate (apart.imp_right fun none =>
        (beforeStatus_reference_eq_nil.mp none).2)
      rw [inserted_reference _ isName,
        expandFrom_reference_alone _ isName (ends_inserted ends behind), expandNamed_eq_value, others]
      rfl

/-! ## A name with a status behind it -/

def emptied (name : String) (status : Int) : Variables :=
  (({} : Variables).set name "").setStatus status

theorem status_emptied {status : Int} (small : isStatus status = true) :
    (emptied name status).status = status :=
  status_of_text (get?_setStatus _ status) small

theorem get?_emptied (name : String) (status : Int) {other : String} (named : other ≠ statusName) :
    (emptied name status).get? other = if other = name then some "" else none := by
  rw [emptied, setStatus, get?_set_of_ne _ _ named]
  by_cases same : other = name
  · rw [same, get?_set_self, if_pos rfl]
  · rw [get?_set_of_ne _ _ same, if_neg same]
    rfl

theorem count_expandNamed {status : Int} {read : List Char}
    (all : ∀ c ∈ read, isReferenceChar c = true) :
    (expandNamed (emptied name status).get? read).count '$' =
      if String.ofList read = name then 0 else 1 := by
  have absent {c : Char} (other : isReferenceChar c = false) : c ∉ read := by
    intro member
    rw [all c member] at other
    cases other
  have named : String.ofList read ≠ statusName := by
    intro same
    have chars : read = ['?'] := by rw [← String.toList_ofList (l := read), same]; rfl
    have mark : '?' ∉ read := absent (by decide)
    simp [chars] at mark
  have plain : read.count '$' = 0 := List.count_eq_zero.mpr (absent (by decide))
  rw [expandNamed, get?_emptied name status named]
  by_cases same : String.ofList read = name
  · simp [same]
  · simp [same, plain]

theorem count_value_reference {other : String} (h : IsReferenceName other) (status : Int) :
    (value (emptied name status) (.reference other)).count '$' = if other = name then 0 else 1 := by
  rw [← expandNamed_eq_value, count_expandNamed (isReferenceChar_of_mem h), String.ofList_toList]

theorem exists_takeWhile_inserted {status : Int} (nonneg : 0 ≤ status) {rest : List Segment}
    (behind : ['$', '?'].isPrefixOf (line rest) = true) :
    ∃ d taken, (inserted status rest).takeWhile isReferenceChar = d :: taken := by
  obtain ⟨later, same⟩ := List.isPrefixOf_iff_prefix.mp behind
  obtain ⟨d, digits, shown, digit⟩ := toString_of_nonneg nonneg
  rw [inserted, ← same, shown]
  exact ⟨d, (digits ++ insertStatus (d :: digits) later).takeWhile isReferenceChar, by
    simp [insertStatus, digit]⟩

theorem count_expandFrom_collision {other : String} (h : IsReferenceName other) {status : Int}
    (nonneg : 0 ≤ status) {rest : List Segment}
    (behind : ['$', '?'].isPrefixOf (line rest) = true) (shorter : name.length ≤ other.length) :
    (expandFrom (emptied name status).get?
      ('$' :: other.toList ++ inserted status rest)).count '$' =
      1 + (expandFrom (emptied name status).get? (inserted status rest)).count '$' := by
  obtain ⟨d, taken, longer⟩ := exists_takeWhile_inserted nonneg behind
  have read : ∀ c ∈ d :: taken, isReferenceChar c = true := fun c member =>
    List.mem_takeWhile_imp (longer ▸ member)
  have all : ∀ c ∈ other.toList ++ d :: taken, isReferenceChar c = true := fun c member =>
    (List.mem_append.mp member).elim (isReferenceChar_of_mem h c) (read c)
  have undefined : String.ofList (other.toList ++ d :: taken) ≠ name := by
    intro equal
    have lengths := congrArg String.length equal
    simp at lengths
    omega
  have plain : '$' ∉ d :: taken := fun member => absurd (read '$' member) (by decide)
  have whole : inserted status rest =
      (d :: taken) ++ (inserted status rest).dropWhile isReferenceChar := by
    rw [← longer, List.takeWhile_append_dropWhile]
  have left : (expandFrom (emptied name status).get? (inserted status rest)).count '$' =
      (expandFrom (emptied name status).get?
        ((inserted status rest).dropWhile isReferenceChar)).count '$' := by
    conv_lhs => rw [whole, expandFrom_append_of_notMem _ plain, List.count_append,
      List.count_eq_zero.mpr plain, Nat.zero_add]
  rw [expandFrom_reference _ h, List.count_append, longer, count_expandNamed all, if_neg undefined,
    left]

/-- Each time a `$?` stands behind the name, a dollar sign too many stays, if no shorter name has a
`$?` behind it: the name is read with the digits, and no longer name is defined. -/
theorem count_expandFrom_inserted {status : Int} (small : isStatus status = true)
    (nonneg : 0 ≤ status) (separate : Separate segments)
    (shortest : ∀ other ∈ beforeStatus segments, name.length ≤ other.length) :
    (expandFrom (emptied name status).get? (inserted status segments)).count '$' =
      (values (emptied name status) segments).count '$' + (beforeStatus segments).count name := by
  induction segments with
  | nil => simp [inserted, line, insertStatus, expandFrom, values, beforeStatus]
  | cons segment rest ih =>
    cases segment with
    | text s =>
      have others := ih separate.2 shortest
      rw [inserted_text _ separate.1, expandFrom_append_of_notMem _ separate.1, List.count_append,
        others]
      simp [values, value, beforeStatus, Nat.add_assoc]
    | status =>
      have others := ih separate shortest
      rw [inserted_status, expandFrom_append_of_notMem _ (dollar_notMem_toString _),
        List.count_append, others]
      simp [values, value, beforeStatus, status_emptied small, Nat.add_assoc]
    | reference other =>
      obtain ⟨isName, ends, separate⟩ := separate
      have stands : (values (emptied name status) (.reference other :: rest)).count '$' =
          (if other = name then 0 else 1) + (values (emptied name status) rest).count '$' := by
        rw [values, List.flatMap_cons, List.count_append, count_value_reference isName]
        rfl
      rw [inserted_reference _ isName, stands]
      -- Only here do the sides part: with a status behind it even the defined name keeps its sign.
      cases behind : ['$', '?'].isPrefixOf (line rest) with
      | false =>
        have same : beforeStatus (.reference other :: rest) = beforeStatus rest := by
          simp [beforeStatus, behind]
        have others := ih separate (same ▸ shortest)
        rw [same, expandFrom_reference_alone _ isName (ends_inserted ends (.inr behind)),
          List.count_append, expandNamed_eq_value, count_value_reference isName, others]
        omega
      | true =>
        have same : beforeStatus (.reference other :: rest) = other :: beforeStatus rest := by
          simp [beforeStatus, behind]
        rw [same] at shortest ⊢
        have others := ih separate fun m member => shortest m (List.mem_cons_of_mem _ member)
        have bound := shortest other List.mem_cons_self
        rw [count_expandFrom_collision isName nonneg behind bound, others, List.count_cons]
        by_cases equal : other = name <;> simp [equal] <;> omega

theorem exists_shortest {names : List String} (some : names ≠ []) :
    ∃ name ∈ names, ∀ other ∈ names, name.length ≤ other.length := by
  cases found : names.argmin String.length with
  | none => exact absurd (List.argmin_eq_none.mp found) some
  | some name =>
    exact ⟨name, List.argmin_mem found, fun other member => List.le_of_mem_argmin member found⟩

/-- With a status that is not negative, some variables show that a `$?` directly behind a name is
taken for a part of it. -/
theorem exists_expandFrom_ne {status : Int} (small : isStatus status = true) (nonneg : 0 ≤ status)
    (separate : Separate segments) (collides : beforeStatus segments ≠ []) :
    ∃ vars : Variables, vars.status = status ∧
      expandFrom vars.get? (inserted vars.status segments) ≠ values vars segments := by
  obtain ⟨name, member, shortest⟩ := exists_shortest collides
  refine ⟨emptied name status, status_emptied small, fun same => ?_⟩
  have counted := count_expandFrom_inserted small nonneg separate shortest
  rw [status_emptied small] at same
  rw [same] at counted
  have once := List.count_pos_iff.mpr member
  omega

theorem expand_line (vars : Variables) (segments : List Segment) :
    vars.expand (String.ofList (line segments)) =
      String.ofList (expandFrom vars.get? (inserted vars.status segments)) := by
  rw [expand, String.toList_ofList]
  rfl

/-- Every segment of a line is expanded on its own, to what it stands for, whatever the variables
hold beside a status: this is so if the status is negative or no `$?` stands directly behind a name,
and only then. -/
theorem expand_line_iff_apart (separate : Separate segments) {status : Int}
    (small : isStatus status = true) :
    (∀ vars : Variables, vars.status = status →
      vars.expand (String.ofList (line segments)) = String.ofList (values vars segments)) ↔
      status < 0 ∨ beforeStatus segments = [] := by
  constructor
  · intro always
    by_contra together
    rw [not_or, not_lt] at together
    obtain ⟨vars, same, differs⟩ := exists_expandFrom_ne small together.1 separate together.2
    have equal := always vars same
    rw [expand_line, String.ofList_inj] at equal
    exact differs equal
  · rintro apart vars rfl
    rw [expand_line, expandFrom_inserted separate apart]

/-- `a$A-$?` with the status 7. -/
theorem expand_line_iff_apart_text :
    let segments : List Segment := [.text "a", .reference "A", .text "-", .status]
    Separate segments ∧ isStatus 7 = true ∧
      ((∀ vars : Variables, vars.status = 7 →
        vars.expand (String.ofList (line segments)) = String.ofList (values vars segments)) ↔
        (7 : Int) < 0 ∨ beforeStatus segments = []) := by
  intro segments
  have separate : Separate segments := by
    refine ⟨by decide, by decide, ?_, by decide, trivial⟩
    rintro _ ⟨⟩
    decide
  exact ⟨separate, rfl, expand_line_iff_apart separate rfl⟩

/-- `$A$?` is read as one name, `A0`, when the status is 0. -/
theorem expand_reference_status :
    let vars : Variables := .ofList [("A", "x"), ("?", "0")]
    let segments : List Segment := [.reference "A", .status]
    Separate segments ∧ String.ofList (line segments) = "$A$?" ∧ vars.expand "$A$?" = "$A0" ∧
      String.ofList (values vars segments) = "x0" := by
  intro vars segments
  have separate : Separate segments := by
    refine ⟨by decide, ?_, trivial⟩
    rintro _ ⟨⟩
    decide
  have isName : IsReferenceName "A0" := by decide
  have glued : vars.expand "$A$?" =
      String.ofList (expandFrom vars.get? ('$' :: "A0".toList ++ [])) := by
    have zero : vars.status = 0 := by decide
    rw [expand, zero]
    rfl
  refine ⟨separate, by decide, ?_, by decide⟩
  rw [glued, expandFrom_reference_alone _ isName (by simp), expandFrom]
  rfl

end Variables

end CommandShell
