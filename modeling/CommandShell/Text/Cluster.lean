import CommandShell.Text.ClusterTable

/-!
# Clusters

What a reader takes for one character may be several: a letter with its marks, a syllable of a Korean
word, two letters of a flag, pictographs with joiners between them. Text is cut into such clusters from
left to right; whether the next character begins one hangs on the characters before it in the cluster.
-/

set_option autoImplicit false

namespace CommandShell.Text

namespace Cluster

inductive Kind where
  | carriageReturn
  | lineFeed
  | control
  | extender
  | joiner
  | regional
  | prepended
  | spacing
  | leading
  | vowel
  | trailing
  | openSyllable
  | closedSyllable
  | pictograph
  | consonant
  | other
  deriving DecidableEq, Repr

def syllable? (n : Nat) : Option Kind :=
  if (0x1100 ≤ n && n ≤ 0x115F) || (0xA960 ≤ n && n ≤ 0xA97C) then some .leading
  else if (0x1160 ≤ n && n ≤ 0x11A7) || (0xD7B0 ≤ n && n ≤ 0xD7C6) || n = 0x16D63 ||
      (0x16D67 ≤ n && n ≤ 0x16D6A) then some .vowel
  else if (0x11A8 ≤ n && n ≤ 0x11FF) || (0xD7CB ≤ n && n ≤ 0xD7FB) then some .trailing
  else if 0xAC00 ≤ n && n ≤ 0xD7A3 then
    some (if (n - 0xAC00) % 28 = 0 then .openSyllable else .closedSyllable)
  else none

def kind (c : Char) : Kind :=
  let n := c.toNat
  if c = '\r' then .carriageReturn
  else if c = '\n' then .lineFeed
  else if n = 0x200D then .joiner
  else if 0x1F1E6 ≤ n && n ≤ 0x1F1FF then .regional
  else match syllable? n with
    | some kind => kind
    | none =>
      if isIn controls c then .control
      else if isIn extenders c then .extender
      else if isIn spacingMarks c then .spacing
      else if isIn prepended c then .prepended
      else if isIn pictographs c then .pictograph
      else if isIn consonants c then .consonant
      else .other

def isLinker (c : Char) : Bool :=
  [0x94D, 0x9CD, 0xACD, 0xB4D, 0xC4D, 0xD4D, 0x1039, 0x17D2, 0x1A60, 0x1B44, 0x1BAB, 0xA9C0, 0xAAF6,
    0x10A3F, 0x11133, 0x113D0, 0x1193E, 0x11A47, 0x11A99, 0x11F42].contains c.toNat

def nonJoiner : Char := Char.ofNat 0x200C

/-- What of a cluster matters to the next character: its last character, whether it ends in a pictograph
with marks and at most one joiner after these, whether it ends in a consonant with marks and whether one
of these is a linker, and whether the regional letters at its end make an odd number. -/
structure Tail where
  last : Kind
  pictograph : Bool
  consonant : Bool
  linked : Bool
  oddRegional : Bool
  deriving DecidableEq, Repr

def isMark (kind : Kind) : Bool := kind = .extender || kind = .joiner

def Tail.ofFirst (kind : Kind) : Tail :=
  { last := kind, pictograph := kind = .pictograph, consonant := kind = .consonant, linked := false,
    oddRegional := kind = .regional }

def Tail.extend (t : Tail) (c : Char) (kind : Kind) : Tail :=
  { last := kind
    pictograph := kind = .pictograph || (t.pictograph && t.last ≠ .joiner && isMark kind)
    consonant := kind = .consonant || (t.consonant && isMark kind && c ≠ nonJoiner)
    linked := kind ≠ .consonant && (t.linked || (t.consonant && isLinker c))
    oddRegional := kind = .regional && !t.oddRegional }

def Tail.joins (t : Tail) (kind : Kind) : Bool :=
  match t.last, kind with
  | .carriageReturn, .lineFeed => true
  | .carriageReturn, _ | .lineFeed, _ | .control, _ => false
  | _, .carriageReturn | _, .lineFeed | _, .control => false
  | _, .extender | _, .joiner | _, .spacing => true
  | .prepended, _ => true
  | .leading, .leading | .leading, .vowel | .leading, .openSyllable
  | .leading, .closedSyllable => true
  | .openSyllable, .vowel | .openSyllable, .trailing | .vowel, .vowel | .vowel, .trailing => true
  | .closedSyllable, .trailing | .trailing, .trailing => true
  | .joiner, .pictograph => t.pictograph
  | .regional, .regional => t.oddRegional
  | _, .consonant => t.consonant && t.linked
  | _, _ => false

/-- The clusters of a text whose first cluster has begun with these characters, newest first. -/
def cut (begun : List Char) (tail : Tail) : List Char → List (List Char)
  | [] => [begun.reverse]
  | c :: rest =>
    if tail.joins (kind c) then cut (c :: begun) (tail.extend c (kind c)) rest
    else begun.reverse :: cut [c] (.ofFirst (kind c)) rest

end Cluster

def clusters : List Char → List (List Char)
  | [] => []
  | c :: rest => Cluster.cut [c] (.ofFirst (Cluster.kind c)) rest

end CommandShell.Text
