import CommandShell.Token.Lexer
import Mathlib.Data.List.SplitBy
import Mathlib.Data.List.TakeWhile

/-!
# Reading a line by marks

A second way to read a line, in two passes over the whole of it. One scan marks every character:
it delimits a quoted section, escapes the next character in one, is the content of one, or stands
outside quotes as a blank, an operator character or an ordinary one. Then the marked line is cut
into its longest stretches of gaps, operator characters and words, and each stretch has its tokens.
The reader comes to the same tokens in one pass, a step for each character.
-/

set_option autoImplicit false

namespace CommandShell.Token
open Mode

/-! ## The marks -/

inductive Mark where
  | delimiter
  | escape
  | content
  | blank
  | operator
  | ordinary
  deriving DecidableEq, Repr

inductive Stretch where
  | gap
  | operators
  | word
  deriving DecidableEq, Repr

def Mark.stretch : Mark → Stretch
  | blank => .gap
  | operator => .operators
  | delimiter | escape | content | ordinary => .word

theorem Mark.eq_blank_of_stretch {mark : Mark} (gap : mark.stretch = .gap) : mark = .blank := by
  cases mark <;> first | rfl | cases gap

theorem Mark.eq_operator_of_stretch {mark : Mark} (operators : mark.stretch = .operators) :
    mark = .operator := by
  cases mark <;> first | rfl | cases operators

def metacharacters : List Char := ['<', '>', ';', '&', '|', '(', ')']

/-- A quoted section that is open: by which quote, and whether a backslash has just escaped what
comes next. -/
structure Opened where
  quote : Char
  escaping : Bool
  deriving DecidableEq, Repr

/-- The marks of what is left of a line. -/
def marksFrom : Option Opened → List Char → List (Char × Mark)
  | _, [] => []
  | none, c :: rest =>
    if Text.isBlank c then (c, .blank) :: marksFrom none rest
    else if Text.isQuote c then (c, .delimiter) :: marksFrom (some ⟨c, false⟩) rest
    else if c ∈ metacharacters then (c, .operator) :: marksFrom none rest
    else (c, .ordinary) :: marksFrom none rest
  | some ⟨quote, true⟩, c :: rest => (c, .content) :: marksFrom (some ⟨quote, false⟩) rest
  | some ⟨quote, false⟩, c :: rest =>
    if c = '\\' then (c, .escape) :: marksFrom (some ⟨quote, true⟩) rest
    else if c = quote then (c, .delimiter) :: marksFrom none rest
    else (c, .content) :: marksFrom (some ⟨quote, false⟩) rest

def marks (line : String) : List (Char × Mark) := marksFrom none line.toList

theorem map_fst_marksFrom (opened : Option Opened) (s : List Char) :
    (marksFrom opened s).map Prod.fst = s := by
  induction opened, s using marksFrom.induct <;> simp_all [marksFrom]

/-! ## The stretches -/

def stretches (line : List (Char × Mark)) : List (List (Char × Mark)) :=
  line.splitBy fun a b => a.2.stretch == b.2.stretch

def spelled (word : List (Char × Mark)) : String :=
  String.ofList ((word.filter fun a => a.2 = .ordinary || a.2 = .content).map Prod.fst)

/-- The operators that a run of operator characters spells: from the left, a doubled one wherever
it stands there. -/
def operatorsOf : List Char → List Token
  | '|' :: '|' :: rest => .operator .disjunction :: operatorsOf rest
  | '&' :: '&' :: rest => .operator .conjunction :: operatorsOf rest
  | '>' :: '>' :: rest => .operator .redirectAppend :: operatorsOf rest
  | c :: rest =>
    ((TokenKind.ofSpelling? (String.singleton c)).map operator).toList ++ operatorsOf rest
  | [] => []

def ofStretch : List (Char × Mark) → List Token
  | [] => []
  | (c, mark) :: rest =>
    match mark.stretch with
    | .gap => []
    | .operators => operatorsOf (((c, mark) :: rest).map Prod.fst)
    | .word => [.word (spelled ((c, mark) :: rest))]

def ofMarks (line : List (Char × Mark)) : List Token := (stretches line).flatMap ofStretch

/-! ## Stretch by stretch -/

def isIn (stretch : Stretch) (a : Char × Mark) : Bool := a.2.stretch = stretch

theorem stretches_cons (a : Char × Mark) (line : List (Char × Mark)) :
    stretches (a :: line) =
      (a :: line.takeWhile (isIn a.2.stretch)) :: stretches (line.dropWhile (isIn a.2.stretch)) := by
  have alike : ∀ b ∈ a :: line.takeWhile (isIn a.2.stretch), b.2.stretch = a.2.stretch := by
    intro b member
    obtain rfl | later := List.mem_cons.mp member
    · rfl
    · simpa [isIn] using List.mem_takeWhile_imp later
  have whole : stretches (a :: line.takeWhile (isIn a.2.stretch)) =
      [a :: line.takeWhile (isIn a.2.stretch)] := by
    apply List.splitBy_of_isChain (List.cons_ne_nil _ _)
    apply List.Pairwise.isChain
    apply List.pairwise_of_forall_mem_list
    intro b first c second
    rw [alike b first, alike c second, beq_self_eq_true]
  calc stretches (a :: line)
      = stretches ((a :: line.takeWhile (isIn a.2.stretch)) ++
          line.dropWhile (isIn a.2.stretch)) := by
        rw [List.cons_append, List.takeWhile_append_dropWhile]
    _ = stretches (a :: line.takeWhile (isIn a.2.stretch)) ++
          stretches (line.dropWhile (isIn a.2.stretch)) := by
        apply List.splitBy_append
        intro b last c next
        have same := alike b (List.mem_of_mem_getLast? last)
        have other := List.head?_dropWhile_not (isIn a.2.stretch) line
        rw [Option.mem_def.mp next] at other
        rw [same]
        exact beq_false_of_ne fun equal => by simp [isIn, equal] at other
    _ = _ := by rw [whole, List.singleton_append]

theorem ofMarks_cons (a : Char × Mark) (line : List (Char × Mark)) :
    ofMarks (a :: line) = ofStretch (a :: line.takeWhile (isIn a.2.stretch)) ++
      ofMarks (line.dropWhile (isIn a.2.stretch)) := by
  rw [ofMarks, stretches_cons, List.flatMap_cons, ofMarks]

theorem ofMarks_blank (c : Char) (line : List (Char × Mark)) :
    ofMarks ((c, .blank) :: line) = ofMarks line := by
  have dropped : ofMarks ((c, .blank) :: line) = ofMarks (line.dropWhile (isIn .gap)) :=
    ofMarks_cons (c, .blank) line
  rw [dropped]
  cases line with
  | nil => rfl
  | cons b line =>
    obtain ⟨d, mark⟩ := b
    cases hm : mark.stretch with
    | gap => rw [List.dropWhile_cons_of_pos (by simp [isIn, hm]), ofMarks_cons, hm, ofStretch, hm]; rfl
    | operators => rw [List.dropWhile_cons_of_neg (by simp [isIn, hm])]
    | word => rw [List.dropWhile_cons_of_neg (by simp [isIn, hm])]

def begun (text : String) (line : List (Char × Mark)) : List Token :=
  .word (text ++ spelled (line.takeWhile (isIn .word))) :: ofMarks (line.dropWhile (isIn .word))

theorem spelled_cons (a : Char × Mark) (line : List (Char × Mark)) :
    spelled (a :: line) = spelled [a] ++ spelled line := by
  rw [spelled, spelled, spelled, ← String.ofList_append, ← List.map_append, ← List.filter_append,
    List.singleton_append]

theorem begun_nil (text : String) : begun text [] = [.word text] := by
  simp [begun, spelled, ofMarks, stretches]

section
variable {c : Char} {mark : Mark} {line : List (Char × Mark)}

theorem ofMarks_word (word : mark.stretch = .word) :
    ofMarks ((c, mark) :: line) = begun (spelled [(c, mark)]) line := by
  rw [ofMarks_cons, ofStretch, word, spelled_cons]
  rfl

theorem begun_word (word : mark.stretch = .word) (text : String) :
    begun text ((c, mark) :: line) = begun (text ++ spelled [(c, mark)]) line := by
  have inside : isIn .word (c, mark) = true := by simp [isIn, word]
  rw [begun, List.takeWhile_cons_of_pos inside, List.dropWhile_cons_of_pos inside, spelled_cons,
    ← String.append_assoc, begun]

theorem begun_of_ne (other : mark.stretch ≠ .word) (text : String) :
    begun text ((c, mark) :: line) = .word text :: ofMarks ((c, mark) :: line) := by
  have outside : ¬ isIn .word (c, mark) = true := by simp [isIn, other]
  rw [begun, List.takeWhile_cons_of_neg outside, List.dropWhile_cons_of_neg outside]
  simp [spelled]

end

/-! ## Operators -/

theorem ofMarks_operators (line : List (Char × Mark)) :
    ofMarks line = operatorsOf ((line.takeWhile (isIn .operators)).map Prod.fst) ++
      ofMarks (line.dropWhile (isIn .operators)) := by
  cases line with
  | nil => rfl
  | cons a line =>
    obtain ⟨c, mark⟩ := a
    by_cases inside : mark.stretch = .operators
    · have first : isIn .operators (c, mark) = true := by simp [isIn, inside]
      rw [ofMarks_cons, ofStretch, inside, List.takeWhile_cons_of_pos first,
        List.dropWhile_cons_of_pos first]
    · have first : ¬ isIn .operators (c, mark) = true := by simp [isIn, inside]
      rw [List.takeWhile_cons_of_neg first, List.dropWhile_cons_of_neg first]
      rfl

theorem ofMarks_operator (c : Char) (line : List (Char × Mark)) :
    ofMarks ((c, .operator) :: line) =
      operatorsOf (c :: (line.takeWhile (isIn .operators)).map Prod.fst) ++
        ofMarks (line.dropWhile (isIn .operators)) :=
  ofMarks_operators ((c, .operator) :: line)

variable {c : Char} {kind double : TokenKind}

theorem ofChar?_eq_some (spells : TokenKind.ofChar? c = some kind) :
    c = '<' ∧ kind = .redirectIn ∨ c = '>' ∧ kind = .redirectOut ∨ c = '|' ∧ kind = .pipe ∨
      c = ';' ∧ kind = .semicolon ∨ c = '&' ∧ kind = .ampersand ∨ c = '(' ∧ kind = .leftParen ∨
      c = ')' ∧ kind = .rightParen := by
  unfold TokenKind.ofChar? at spells
  split at spells <;> simp_all

theorem mem_metacharacters : c ∈ metacharacters ↔ ∃ kind, TokenKind.ofChar? c = some kind := by
  constructor
  · intro member
    simp only [metacharacters, List.mem_cons, List.not_mem_nil, or_false] at member
    rcases member with rfl | rfl | rfl | rfl | rfl | rfl | rfl <;> exact ⟨_, rfl⟩
  · rintro ⟨kind, spells⟩
    obtain ⟨rfl, -⟩ | ⟨rfl, -⟩ | ⟨rfl, -⟩ | ⟨rfl, -⟩ | ⟨rfl, -⟩ | ⟨rfl, -⟩ | ⟨rfl, -⟩ :=
      ofChar?_eq_some spells <;> decide

theorem ofSpelling?_singleton (spells : TokenKind.ofChar? c = some kind) :
    TokenKind.ofSpelling? (String.singleton c) = some kind := by
  obtain ⟨rfl, rfl⟩ | ⟨rfl, rfl⟩ | ⟨rfl, rfl⟩ | ⟨rfl, rfl⟩ | ⟨rfl, rfl⟩ | ⟨rfl, rfl⟩ | ⟨rfl, rfl⟩ :=
    ofChar?_eq_some spells <;> decide

theorem operatorsOf_single {rest : List Char} (spells : TokenKind.ofChar? c = some kind)
    (alone : kind.doubled? = none ∨ rest.head? ≠ some c) :
    operatorsOf (c :: rest) = operator kind :: operatorsOf rest := by
  have single : ((TokenKind.ofSpelling? (String.singleton c)).map operator).toList ++
      operatorsOf rest = operator kind :: operatorsOf rest := by
    rw [ofSpelling?_singleton spells]
    rfl
  obtain ⟨rfl, rfl⟩ | ⟨rfl, rfl⟩ | ⟨rfl, rfl⟩ | ⟨rfl, rfl⟩ | ⟨rfl, rfl⟩ | ⟨rfl, rfl⟩ | ⟨rfl, rfl⟩ :=
    ofChar?_eq_some spells
  all_goals
    rw [operatorsOf]
    · exact single
    all_goals
      rintro _ h rfl
      first | exact absurd h (by decide) | exact alone.elim nofun fun other => other rfl

theorem operatorsOf_double {rest : List Char} (spells : TokenKind.ofChar? c = some kind)
    (twice : kind.doubled? = some double) :
    operatorsOf (c :: c :: rest) = operator double :: operatorsOf rest := by
  obtain ⟨rfl, rfl⟩ | ⟨rfl, rfl⟩ | ⟨rfl, rfl⟩ | ⟨rfl, rfl⟩ | ⟨rfl, rfl⟩ | ⟨rfl, rfl⟩ | ⟨rfl, rfl⟩ :=
    ofChar?_eq_some spells
  all_goals
    cases twice
    try rfl

variable {line : List (Char × Mark)}

theorem ofMarks_single (spells : TokenKind.ofChar? c = some kind)
    (alone : kind.doubled? = none ∨ ∀ mark, line.head? ≠ some (c, mark)) :
    ofMarks ((c, .operator) :: line) = operator kind :: ofMarks line := by
  have other : kind.doubled? = none ∨
      ((line.takeWhile (isIn .operators)).map Prod.fst).head? ≠ some c := by
    refine alone.imp_right fun differs same => ?_
    obtain ⟨⟨d, mark⟩, first, rfl⟩ := Option.map_eq_some_iff.mp (List.head?_map ▸ same)
    rw [List.head?_takeWhile] at first
    exact differs mark (Option.filter_eq_some_iff.mp first).1
  rw [ofMarks_operator, operatorsOf_single spells other, List.cons_append, ← ofMarks_operators]

theorem ofMarks_double (spells : TokenKind.ofChar? c = some kind)
    (twice : kind.doubled? = some double) :
    ofMarks ((c, .operator) :: (c, .operator) :: line) = operator double :: ofMarks line := by
  rw [ofMarks_operator]
  change operatorsOf (c :: c :: (line.takeWhile (isIn .operators)).map Prod.fst) ++
    ofMarks (line.dropWhile (isIn .operators)) = _
  rw [operatorsOf_double spells twice, List.cons_append, ← ofMarks_operators]

/-! ## The reader follows the marks -/

def resumed : Option String → List (Char × Mark) → List Token
  | none, line => ofMarks line
  | some text, line => begun text line

theorem resumed_word {mark : Mark} (word : mark.stretch = .word) (text : Option String) :
    resumed text ((c, mark) :: line) = begun (text.getD "" ++ spelled [(c, mark)]) line := by
  cases text with
  | none => rw [resumed, ofMarks_word word, Option.getD_none, String.empty_append]
  | some text => rw [resumed, begun_word word, Option.getD_some]

theorem resumed_of_ne {mark : Mark} (other : mark.stretch ≠ .word) (text : Option String) :
    resumed text ((c, mark) :: line) = (bare text).flush ++ ofMarks ((c, mark) :: line) := by
  cases text with
  | none => rfl
  | some text => exact begun_of_ne other text

/-- The tokens of the rest of a line from where the reader stands, by its marks. -/
def readFrom : Mode → List Char → List Token
  | bare text, s => resumed text (marksFrom none s)
  | half kind, s => ofMarks (kind.spelling.toList.map (·, .operator) ++ marksFrom none s)
  | quoted text quote, s => begun text (marksFrom (some ⟨quote, false⟩) s)
  | escaped text quote, s => begun text (marksFrom (some ⟨quote, true⟩) s)

def Mode.Proper : Mode → Prop
  | half kind => kind.doubled? ≠ none
  | _ => True

theorem spelling_of_ofChar? (spells : TokenKind.ofChar? c = some kind) :
    kind.spelling.toList = [c] := by
  obtain ⟨rfl, rfl⟩ | ⟨rfl, rfl⟩ | ⟨rfl, rfl⟩ | ⟨rfl, rfl⟩ | ⟨rfl, rfl⟩ | ⟨rfl, rfl⟩ | ⟨rfl, rfl⟩ :=
    ofChar?_eq_some spells <;> rfl

theorem exists_ofChar? (doubles : kind.doubled? ≠ none) : ∃ c, TokenKind.ofChar? c = some kind := by
  cases kind with
  | redirectOut => exact ⟨'>', rfl⟩
  | pipe => exact ⟨'|', rfl⟩
  | ampersand => exact ⟨'&', rfl⟩
  | _ => exact absurd rfl doubles

theorem readFrom_nil {mode : Mode} (proper : mode.Proper) : readFrom mode [] = mode.flush := by
  match mode with
  | bare none => rfl
  | bare (some text) | quoted text _ | escaped text _ => exact begun_nil text
  | half kind =>
    obtain ⟨c, spells⟩ := exists_ofChar? proper
    rw [readFrom, spelling_of_ofChar? spells]
    exact ofMarks_single spells (.inr nofun)

theorem append_spelled_text {mark : Mark} (text : String)
    (stands : mark = .ordinary ∨ mark = .content) : text ++ spelled [(c, mark)] = text.push c := by
  obtain rfl | rfl := stands <;> simp [spelled]

theorem append_spelled_none {mark : Mark} (text : String)
    (dropped : mark = .delimiter ∨ mark = .escape) : text ++ spelled [(c, mark)] = text := by
  obtain rfl | rfl := dropped <;> simp [spelled]

theorem readFrom_stepBare (text : Option String) (c : Char) (s : List Char) :
    readFrom (bare text) (c :: s) = (stepBare text c).1 ++ readFrom (stepBare text c).2 s := by
  rw [readFrom, stepBare, marksFrom]
  split
  · rw [resumed_of_ne (by decide), ofMarks_blank]
    rfl
  split
  · rw [resumed_word rfl, append_spelled_none _ (.inl rfl)]
    rfl
  cases spells : TokenKind.ofChar? c with
  | none =>
    have plain : c ∉ metacharacters := by simp [mem_metacharacters, spells]
    rw [if_neg plain, resumed_word rfl, append_spelled_text _ (.inl rfl)]
    rfl
  | some kind =>
    have found : c ∈ metacharacters := mem_metacharacters.mpr ⟨kind, spells⟩
    rw [if_pos found, resumed_of_ne (by decide)]
    cases doubles : kind.doubled? with
    | none =>
      simp only [doubles, Option.isSome_none, Bool.false_eq_true, if_false]
      rw [ofMarks_single spells (.inl doubles), List.append_assoc]
      rfl
    | some double =>
      simp only [doubles, Option.isSome_some, if_true]
      rw [readFrom, spelling_of_ofChar? spells]
      rfl

theorem marksFrom_operator (spells : TokenKind.ofChar? c = some kind) (s : List Char) :
    marksFrom none (c :: s) = (c, .operator) :: marksFrom none s := by
  obtain ⟨rfl, -⟩ | ⟨rfl, -⟩ | ⟨rfl, -⟩ | ⟨rfl, -⟩ | ⟨rfl, -⟩ | ⟨rfl, -⟩ | ⟨rfl, -⟩ :=
    ofChar?_eq_some spells <;> rfl

theorem readFrom_stepHalf (doubles : kind.doubled? ≠ none) (c : Char) (s : List Char) :
    readFrom (half kind) (c :: s) =
      ((half kind).step c).1 ++ readFrom ((half kind).step c).2 s := by
  -- What has been read of the operator stands before the rest again, as one marked character.
  obtain ⟨d, spells⟩ := exists_ofChar? doubles
  obtain ⟨double, twice⟩ := Option.ne_none_iff_exists'.mp doubles
  simp only [readFrom, spelling_of_ofChar? spells, step, twice, List.map_cons, List.map_nil,
    List.singleton_append]
  by_cases same : TokenKind.ofChar? c = some kind
  · obtain rfl : d = c := by
      simpa [spelling_of_ofChar? spells] using spelling_of_ofChar? same
    rw [if_pos spells, marksFrom_operator spells, ofMarks_double spells twice]
    rfl
  · have other (mark : Mark) : (marksFrom none (c :: s)).head? ≠ some (d, mark) := by
      intro first
      have chars := congrArg List.head? (map_fst_marksFrom none (c :: s))
      rw [List.head?_map, first] at chars
      cases chars
      exact same spells
    rw [if_neg same, ofMarks_single spells (.inr other)]
    exact congrArg (operator kind :: ·) (readFrom_stepBare none c s)

theorem readFrom_step {mode : Mode} (proper : mode.Proper) (c : Char) (s : List Char) :
    readFrom mode (c :: s) = (mode.step c).1 ++ readFrom (mode.step c).2 s := by
  match mode with
  | bare text => exact readFrom_stepBare text c s
  | half kind => exact readFrom_stepHalf proper c s
  | quoted text quote =>
    rw [readFrom, step, marksFrom]
    split
    · rw [begun_word rfl, append_spelled_none _ (.inr rfl)]
      rfl
    split
    · rw [begun_word rfl, append_spelled_none _ (.inl rfl)]
      rfl
    · rw [begun_word rfl, append_spelled_text _ (.inr rfl)]
      rfl
  | escaped text quote =>
    rw [readFrom, step, marksFrom, begun_word rfl, append_spelled_text _ (.inr rfl)]
    rfl

theorem proper_stepBare (text : Option String) (c : Char) : (stepBare text c).2.Proper := by
  rw [stepBare]
  split
  · trivial
  split
  · trivial
  split
  · trivial
  · split
    · simp_all [Mode.Proper, Option.isSome_iff_ne_none]
    · trivial

theorem proper_step {mode : Mode} (proper : mode.Proper) (c : Char) : (mode.step c).2.Proper := by
  match mode with
  | bare text => exact proper_stepBare text c
  | half kind =>
    obtain ⟨double, twice⟩ := Option.ne_none_iff_exists'.mp proper
    rw [step, twice]
    dsimp only
    split
    · trivial
    · exact proper_stepBare none c
  | quoted text quote =>
    rw [step]
    split
    · trivial
    split <;> trivial
  | escaped text quote => trivial

theorem lexFrom_eq_readFrom {mode : Mode} (proper : mode.Proper) (s : List Char) :
    lexFrom mode s = readFrom mode s := by
  induction s generalizing mode with
  | nil => rw [lexFrom, readFrom_nil proper]
  | cons c s ih => rw [lexFrom, readFrom_step proper, ih (proper_step proper c)]

/-! ## What the tokens spell -/

/-- What tokens keep of a line: neither the blanks outside quotes, nor the quotes that delimit, nor
the backslashes that escape. -/
def kept (line : List (Char × Mark)) : List Char :=
  (line.filter fun a => a.2 ∉ [.blank, .delimiter, .escape]).map Prod.fst

def texts (tokens : List Token) : List Char := tokens.flatMap fun token => token.text.toList

theorem texts_operatorsOf {cs : List Char} (all : ∀ c ∈ cs, c ∈ metacharacters) :
    texts (operatorsOf cs) = cs := by
  induction cs using operatorsOf.induct with
  | case1 rest ih | case2 rest ih | case3 rest ih =>
    simp only [List.forall_mem_cons] at all
    simpa [texts, operatorsOf, operator, TokenKind.spelling] using ih all.2.2
  | case4 c rest _ _ _ ih =>
    simp only [List.forall_mem_cons] at all
    obtain ⟨kind, spells⟩ := mem_metacharacters.mp all.1
    rw [operatorsOf, ofSpelling?_singleton spells]
    · simpa [texts, operator, spelling_of_ofChar? spells] using ih all.2
    all_goals assumption
  | case5 => rfl

theorem texts_ofStretch {marked : List (Char × Mark)} {stretch : Stretch}
    (alike : ∀ a ∈ marked, a.2.stretch = stretch)
    (operators : ∀ a ∈ marked, a.2 = .operator → a.1 ∈ metacharacters) :
    texts (ofStretch marked) = kept marked := by
  cases marked with
  | nil => rfl
  | cons a rest =>
    obtain ⟨c, mark⟩ := a
    have first : mark.stretch = stretch := alike (c, mark) List.mem_cons_self
    rw [ofStretch, first, kept]
    cases stretch with
    | gap =>
      have dropped : ∀ a ∈ (c, mark) :: rest, a.2 = .blank := fun a member =>
        Mark.eq_blank_of_stretch (alike a member)
      rw [List.filter_eq_nil_iff.mpr fun a member => by simp [dropped a member]]
      rfl
    | operators =>
      have stays : ∀ a ∈ (c, mark) :: rest, a.2 = .operator := fun a member =>
        Mark.eq_operator_of_stretch (alike a member)
      rw [List.filter_eq_self.mpr fun a member => by simp [stays a member]]
      apply texts_operatorsOf
      intro d member
      obtain ⟨a, inside, rfl⟩ := List.mem_map.mp member
      exact operators a inside (stays a inside)
    | word =>
      have same : ((c, mark) :: rest).filter (fun a => a.2 = .ordinary || a.2 = .content) =
          ((c, mark) :: rest).filter fun a => a.2 ∉ [.blank, .delimiter, .escape] := by
        apply List.filter_congr
        intro a member
        have word := alike a member
        cases mark' : a.2 <;> simp_all [Mark.stretch]
      simp [texts, spelled, word, same]

theorem alike_of_mem_stretches {line stretch : List (Char × Mark)} (member : stretch ∈ stretches line) :
    ∃ kind : Stretch, ∀ a ∈ stretch, a.2.stretch = kind := by
  have chain := List.isChain_of_mem_splitBy member
  cases stretch with
  | nil => exact ⟨.gap, nofun⟩
  | cons a rest =>
    have transitive : IsTrans (Char × Mark) fun a b => (a.2.stretch == b.2.stretch) = true :=
      ⟨fun a b c first second => by simp_all⟩
    have all := List.isChain_iff_pairwise.mp chain
    refine ⟨a.2.stretch, List.forall_mem_cons.mpr ⟨rfl, fun b later => ?_⟩⟩
    exact (beq_iff_eq.mp (List.rel_of_pairwise_cons all later)).symm

theorem texts_ofMarks {line : List (Char × Mark)}
    (operators : ∀ a ∈ line, a.2 = .operator → a.1 ∈ metacharacters) :
    texts (ofMarks line) = kept line := by
  have parts : ∀ stretch ∈ stretches line, texts (ofStretch stretch) = kept stretch := by
    intro stretch member
    obtain ⟨kind, alike⟩ := alike_of_mem_stretches member
    apply texts_ofStretch alike
    intro a inside
    exact operators a ((List.flatten_splitBy _ line) ▸ List.mem_flatten_of_mem member inside)
  calc texts (ofMarks line)
      = (stretches line).flatMap fun stretch => texts (ofStretch stretch) := List.flatMap_assoc
    _ = (stretches line).flatMap kept := List.flatMap_congr parts
    _ = kept (stretches line).flatten := by
      simp only [kept, List.filter_flatten, List.map_flatten, List.flatMap_def, List.map_map]
      rfl
    _ = kept line := by rw [stretches, List.flatten_splitBy]

theorem mem_metacharacters_of_operator (opened : Option Opened) (s : List Char) :
    ∀ a ∈ marksFrom opened s, a.2 = .operator → a.1 ∈ metacharacters := by
  induction opened, s using marksFrom.induct <;> grind [marksFrom]

/-- The tokens of a line are those of its marks: of the longest stretches that the marks cut the
line into, in order. So the texts of the tokens, one after the other, are the line without the
blanks outside quotes, the quotes that delimit a section and the backslashes that escape. -/
theorem lex_eq_ofMarks (line : String) :
    lex line = ofMarks (marks line) ∧ (marks line).map Prod.fst = line.toList ∧
      texts (lex line) = kept (marks line) := by
  have proper : (bare none).Proper := trivial
  have same : lex line = ofMarks (marks line) := lexFrom_eq_readFrom proper _
  refine ⟨same, map_fst_marksFrom none _, ?_⟩
  rw [same]
  exact texts_ofMarks (mem_metacharacters_of_operator none _)

/-- A backslash outside quotes is ordinary, and a section that is left open ends with the line. -/
example : lex "a\\'b\\''\"\">>>|&&'c" =
    [.word "a\\b'", .operator .redirectAppend, .operator .redirectOut, .operator .pipe,
      .operator .conjunction, .word "c"] := by cbv

end CommandShell.Token
