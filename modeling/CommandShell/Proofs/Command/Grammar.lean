import CommandShell.Command.Parser

/-!
# The grammar of commands

Which token lists spell which commands, said without the parser. A stage is a prefix of assignment
words and redirections, and then either a program's name with words and redirections after it or a
parenthesised list with redirections only. Stages make pipelines, pipelines make chains and chains
make lists; each of them nests to the right. The kind of a token decides, never the text of an
operator.
-/

set_option autoImplicit false

namespace CommandShell.Grammar

def IsLetter (c : Char) : Prop := ('A' ≤ c ∧ c ≤ 'Z') ∨ ('a' ≤ c ∧ c ≤ 'z') ∨ c = '_'

def IsDigit (c : Char) : Prop := '0' ≤ c ∧ c ≤ '9'

/-- A letter or an underscore, and then letters, digits and underscores. -/
def IsName (name : String) : Prop :=
  ∃ first rest, name.toList = first :: rest ∧ IsLetter first ∧ ∀ c ∈ rest, IsLetter c ∨ IsDigit c

/-- The word `NAME=value`. A name holds no `=`, so the first one in the word ends it. -/
def Assigns (word : String) (a : Assignment) : Prop :=
  word = a.name ++ "=" ++ a.value ∧ IsName a.name

inductive Redirects : List Token → Redirection → Prop
  | mk {op file : Token} {operator : RedirectOp} :
    RedirectOp.ofKind? op.kind = some operator → file.kind = .word →
    Redirects [op, file] ⟨operator, file.text⟩

inductive Prefix : List Token → List Assignment → List Redirection → Prop
  | nil : Prefix [] [] []
  | assignment {word : Token} {a : Assignment} {tokens : List Token} {locals : List Assignment}
      {rs : List Redirection} :
    word.kind = .word → Assigns word.text a → Prefix tokens locals rs →
    Prefix (word :: tokens) (a :: locals) rs
  | redirection {front tokens : List Token} {r : Redirection} {locals : List Assignment}
      {rs : List Redirection} :
    Redirects front r → Prefix tokens locals rs → Prefix (front ++ tokens) locals (r :: rs)

inductive Suffix : List Token → List String → List Redirection → Prop
  | nil : Suffix [] [] []
  | word {word : Token} {tokens : List Token} {arguments : List String} {rs : List Redirection} :
    word.kind = .word → Suffix tokens arguments rs →
    Suffix (word :: tokens) (word.text :: arguments) rs
  | redirection {front tokens : List Token} {r : Redirection} {arguments : List String}
      {rs : List Redirection} :
    Redirects front r → Suffix tokens arguments rs → Suffix (front ++ tokens) arguments (r :: rs)

def onStream (stream : Stream) (rs : List Redirection) : List Redirection :=
  rs.filter fun r => r.operator.stream = stream

/-- The parts that assignments and redirections amount to: there is at most one redirection of each
stream, and the parts hold it. -/
def Amounts (locals : List Assignment) (rs : List Redirection) (parts : StageParts) : Prop :=
  parts.locals = locals ∧ onStream .input rs = parts.input.toList ∧
    onStream .output rs = parts.output.toList

inductive Level where
  | stage
  | pipeline
  | chain
  | list
  deriving DecidableEq, Repr

/-- The commands that token lists spell, from stages to lists. -/
inductive Derives : Level → List Token → Command → Prop
  | simple {front back : List Token} {program : Token} {locals : List Assignment}
      {before after : List Redirection} {arguments : List String} {parts : StageParts} :
    Prefix front locals before → program.kind = .word → (∀ a, ¬Assigns program.text a) →
    Suffix back arguments after → Amounts locals (before ++ after) parts →
    Derives .stage (front ++ program :: back) (.simple ⟨parts, program.text, arguments⟩)
  | subshell {front inner back : List Token} {left right : Token} {locals : List Assignment}
      {before after : List Redirection} {body : Command} {parts : StageParts} :
    Prefix front locals before → left.kind = .leftParen → Derives .list inner body →
    right.kind = .rightParen → Suffix back [] after → Amounts locals (before ++ after) parts →
    Derives .stage (front ++ left :: inner ++ right :: back) (.subshell parts body)
  | stage {tokens : List Token} {c : Command} :
    Derives .stage tokens c → Derives .pipeline tokens c
  | pipe {front back : List Token} {bar : Token} {left right : Command} :
    Derives .stage front left → bar.kind = .pipe → Derives .pipeline back right →
    Derives .pipeline (front ++ bar :: back) (.pipe left right)
  | pipeline {tokens : List Token} {c : Command} :
    Derives .pipeline tokens c → Derives .chain tokens c
  | andOr {front back : List Token} {token : Token} {op : Connective} {left right : Command} :
    Derives .pipeline front left → Connective.ofKind? token.kind = some op →
    Derives .chain back right → Derives .chain (front ++ token :: back) (.andOr op left right)
  | chain {tokens : List Token} {c : Command} :
    Derives .chain tokens c → Derives .list tokens c
  | ended {front : List Token} {token : Token} {sep : Separator} {left : Command} :
    Derives .chain front left → Separator.ofKind? token.kind = some sep →
    Derives .list (front ++ [token]) (.ended sep left)
  | list {front back : List Token} {token : Token} {sep : Separator} {left right : Command} :
    Derives .chain front left → Separator.ofKind? token.kind = some sep →
    Derives .list back right → Derives .list (front ++ token :: back) (.list sep left right)

/-! ## Assignment words -/

theorem isNameStart_iff (c : Char) : isNameStart c = true ↔ IsLetter c := by
  have alpha : c.isAlpha = (c.isUpper || c.isLower) := rfl
  have upper : c.isUpper = decide (c.val ≥ 'A'.val ∧ c.val ≤ 'Z'.val) := rfl
  have lower : c.isLower = (decide (c.val ≥ 'a'.val) && decide (c.val ≤ 'z'.val)) := rfl
  simp [isNameStart, IsLetter, alpha, upper, lower, Char.le_def, or_assoc]

theorem isNameChar_iff (c : Char) : isNameChar c = true ↔ IsLetter c ∨ IsDigit c := by
  have : isNameChar c = (isNameStart c || c.isDigit) := by
    simp only [isNameChar, isNameStart, Char.isAlphanum, Bool.or_right_comm]
  rw [this, Bool.or_eq_true, isNameStart_iff]
  simp [IsDigit, Char.isDigit, Char.le_def]

theorem isName_iff (name : String) : isName name.toList = true ↔ IsName name := by
  unfold IsName
  cases name.toList with
  | nil => simp [isName]
  | cons first rest =>
    simp only [isName, Bool.and_eq_true, List.all_eq_true, isNameStart_iff, isNameChar_iff]
    constructor
    · intro h
      exact ⟨first, rest, rfl, h⟩
    · rintro ⟨_, _, he, h⟩
      cases he
      exact h

theorem ne_equals_of_isName {name : String} (h : IsName name) : ∀ c ∈ name.toList, c ≠ '=' := by
  obtain ⟨first, rest, he, hf, hr⟩ := h
  have letter : ∀ c, IsLetter c → c ≠ '=' := by
    rintro c hc rfl
    revert hc
    unfold IsLetter
    decide
  intro c hc
  rw [he] at hc
  rcases List.mem_cons.mp hc with rfl | hc
  · exact letter c hf
  · rcases hr c hc with h | h
    · exact letter c h
    · rintro rfl
      revert h
      unfold IsDigit
      decide

theorem ofWord?_eq_some_iff (word : String) (a : Assignment) :
    Assignment.ofWord? word = some a ↔ Assigns word a := by
  unfold Assignment.ofWord? Assigns
  constructor
  · intro h
    have hcut := List.takeWhile_append_dropWhile (p := (· != '=')) (l := word.toList)
    have hstop := List.head?_dropWhile_not (· != '=') word.toList
    revert h
    dsimp only
    cases hd : word.toList.dropWhile (· != '=') with
    | nil => simp
    | cons c value =>
      rw [hd] at hcut hstop
      have hc : c = '=' := by simpa using hstop
      subst hc
      simp only
      intro h
      split at h
      · next hn =>
        cases h
        refine ⟨?_, (isName_iff _).1 (by simpa using hn)⟩
        rw [← String.toList_inj]
        simpa using hcut.symm
      · simp at h
  · rintro ⟨rfl, hn⟩
    have hne := ne_equals_of_isName hn
    have hname := (isName_iff a.name).2 hn
    have htake : (a.name ++ "=" ++ a.value).toList.takeWhile (· != '=') = a.name.toList := by
      rw [String.toList_append, String.toList_append, List.append_assoc,
        List.takeWhile_append_of_pos (by simpa using hne)]
      simp
    have hdrop : (a.name ++ "=" ++ a.value).toList.dropWhile (· != '=') =
        '=' :: a.value.toList := by
      rw [String.toList_append, String.toList_append, List.append_assoc,
        List.dropWhile_append_of_pos (by simpa using hne)]
      simp
    simp only [htake, hdrop, hname, if_true, String.ofList_toList]

theorem ofWord?_eq_none_iff (word : String) :
    Assignment.ofWord? word = none ↔ ∀ a, ¬Assigns word a := by
  simp [Option.eq_none_iff_forall_not_mem, ← ofWord?_eq_some_iff]

/-! ## The parts of a stage -/

theorem Prefix.append {s t : List Token} {as bs : List Assignment} {rs qs : List Redirection}
    (h : Prefix s as rs) (k : Prefix t bs qs) : Prefix (s ++ t) (as ++ bs) (rs ++ qs) := by
  induction h with
  | nil => exact k
  | assignment hw ha _ ih => exact .assignment hw ha ih
  | redirection hr _ ih => simpa using Prefix.redirection hr ih

theorem Suffix.append {s t : List Token} {as bs : List String} {rs qs : List Redirection}
    (h : Suffix s as rs) (k : Suffix t bs qs) : Suffix (s ++ t) (as ++ bs) (rs ++ qs) := by
  induction h with
  | nil => exact k
  | word hw _ ih => exact .word hw ih
  | redirection hr _ ih => simpa using Suffix.redirection hr ih

theorem onStream_append (stream : Stream) (rs qs : List Redirection) :
    onStream stream (rs ++ qs) = onStream stream rs ++ onStream stream qs :=
  List.filter_append ..

theorem amounts_nil : Amounts [] [] {} := ⟨rfl, rfl, rfl⟩

theorem Amounts.unique {locals : List Assignment} {rs : List Redirection} {p q : StageParts}
    (hp : Amounts locals rs p) (hq : Amounts locals rs q) : p = q := by
  obtain ⟨hpl, hpi, hpo⟩ := hp
  obtain ⟨hql, hqi, hqo⟩ := hq
  have toList_injective {a b : Option Redirection} (h : a.toList = b.toList) : a = b := by
    cases a <;> cases b <;> simp_all
  cases p
  cases q
  simp only [StageParts.mk.injEq]
  exact ⟨hpl.trans hql.symm, toList_injective (hpi.symm.trans hqi),
    toList_injective (hpo.symm.trans hqo)⟩

theorem Amounts.assign {locals : List Assignment} {rs : List Redirection} {parts : StageParts}
    (h : Amounts locals rs parts) (a : Assignment) :
    Amounts (locals ++ [a]) rs (parts.assign a) := by
  obtain ⟨hl, hi, ho⟩ := h
  exact ⟨by simp [StageParts.assign, hl], hi, ho⟩

theorem Amounts.redirect {locals : List Assignment} {rs : List Redirection}
    {parts parts' : StageParts} {r : Redirection} (h : Amounts locals rs parts)
    (hr : parts.redirect r = .ok parts') : Amounts locals (rs ++ [r]) parts' := by
  obtain ⟨hl, hi, ho⟩ := h
  unfold StageParts.redirect at hr
  cases hs : r.operator.stream with
  | input =>
    cases hpi : parts.input with
    | some q => simp [hs, hpi] at hr
    | none =>
      simp only [hs, hpi, Option.isSome_none, Bool.false_eq_true, if_false, Except.ok.injEq] at hr
      subst hr
      refine ⟨hl, ?_, ?_⟩
      · rw [onStream_append, hi, hpi]
        simp [onStream, hs]
      · rw [onStream_append, ho]
        simp [onStream, hs]
  | output =>
    cases hpo : parts.output with
    | some q => simp [hs, hpo] at hr
    | none =>
      simp only [hs, hpo, Option.isSome_none, Bool.false_eq_true, if_false, Except.ok.injEq] at hr
      subst hr
      refine ⟨hl, ?_, ?_⟩
      · rw [onStream_append, hi]
        simp [onStream, hs]
      · rw [onStream_append, ho, hpo]
        simp [onStream, hs]

theorem Amounts.exists_redirect {locals all : List Assignment} {rs qs : List Redirection}
    {parts final : StageParts} {r : Redirection} (h : Amounts locals rs parts)
    (hf : Amounts all (rs ++ r :: qs) final) :
    ∃ parts', parts.redirect r = .ok parts' ∧ Amounts locals (rs ++ [r]) parts' := by
  suffices ∃ parts', parts.redirect r = .ok parts' by
    obtain ⟨parts', hr⟩ := this
    exact ⟨parts', hr, h.redirect hr⟩
  obtain ⟨-, hi, ho⟩ := h
  obtain ⟨-, hfi, hfo⟩ := hf
  -- A stream with a redirection before this one would have two in the end.
  have single {stream : Stream} {taken final : Option Redirection}
      (ht : onStream stream rs = taken.toList)
      (hf : onStream stream (rs ++ r :: qs) = final.toList) (hs : r.operator.stream = stream) :
      taken = none := by
    cases taken with
    | none => rfl
    | some q =>
      rw [onStream_append, ht] at hf
      have := congrArg List.length hf
      cases final <;> simp [onStream, hs] at this
  unfold StageParts.redirect
  cases hs : r.operator.stream with
  | input => exact ⟨{ parts with input := some r }, by simp [single hi hfi hs]⟩
  | output => exact ⟨{ parts with output := some r }, by simp [single ho hfo hs]⟩

theorem Prefix.eq_nil_of_isEmpty {tokens : List Token} {locals : List Assignment}
    {rs : List Redirection} {parts : StageParts} (h : Prefix tokens locals rs)
    (ha : Amounts locals rs parts) (he : parts.isEmpty = true) : tokens = [] := by
  obtain ⟨hl, hi, ho⟩ := ha
  simp only [StageParts.isEmpty, Bool.and_eq_true, List.isEmpty_iff, Option.isNone_iff_eq_none]
    at he
  obtain ⟨⟨hel, hei⟩, heo⟩ := he
  cases h with
  | nil => rfl
  | assignment => simp [hel] at hl
  | @redirection front tokens r locals rs hr _ =>
    rw [hei] at hi
    rw [heo] at ho
    cases hs : r.operator.stream with
    | input => simp [onStream, hs] at hi
    | output => simp [onStream, hs] at ho

end CommandShell.Grammar
