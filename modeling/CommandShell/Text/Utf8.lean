/-!
# Bytes as text

Bytes are read as UTF-8, strictly or not. Where reading is not strict, each longest beginning of a
character that is not continued, and each byte that begins none, is read as the replacement character.
-/

set_option autoImplicit false

namespace CommandShell.Text

def replacement : Char := '\uFFFD'

/-- Where the reader stands: between characters, or inside one, with the bits read so far, the range
that the next byte must be in, and the number of bytes after that one. -/
inductive Utf8Mode where
  | between
  | inside (bits low high more : Nat)
  deriving DecidableEq, Repr

namespace Utf8Mode

/-- A byte between characters. The ranges leave out long forms, surrogates and what is too large. -/
def enter (b : Nat) : List Char × Utf8Mode :=
  if b < 0x80 then ([Char.ofNat b], between)
  else if b < 0xC2 then ([replacement], between)
  else if b < 0xE0 then ([], inside (b % 32) 0x80 0xBF 0)
  else if b < 0xF0 then
    ([], inside (b % 16) (if b = 0xE0 then 0xA0 else 0x80) (if b = 0xED then 0x9F else 0xBF) 1)
  else if b < 0xF5 then
    ([], inside (b % 8) (if b = 0xF0 then 0x90 else 0x80) (if b = 0xF4 then 0x8F else 0xBF) 2)
  else ([replacement], between)

def step : Utf8Mode → Nat → List Char × Utf8Mode
  | between, b => enter b
  | inside bits low high more, b =>
    if low ≤ b && b ≤ high then
      match more with
      | 0 => ([Char.ofNat (bits * 64 + b % 64)], between)
      | more + 1 => ([], inside (bits * 64 + b % 64) 0x80 0xBF more)
    else (replacement :: (enter b).1, (enter b).2)

end Utf8Mode

def decodeFrom : Utf8Mode → List UInt8 → List Char
  | .between, [] => []
  | .inside .., [] => [replacement]
  | mode, b :: rest => (mode.step b.toNat).1 ++ decodeFrom (mode.step b.toNat).2 rest

def decode (bytes : ByteArray) : String :=
  match String.fromUTF8? bytes with
  | some text => text
  | none => String.ofList (decodeFrom .between bytes.toList)

def newline : UInt8 := 10

/-- Cuts bytes at each newline; the first line has begun with these bytes, newest first. What follows
the last newline is a line only if it is not empty. -/
def cutLinesFrom (line : List UInt8) : List UInt8 → List (List UInt8)
  | [] => if line.isEmpty then [] else [line.reverse]
  | b :: rest =>
    if b = newline then line.reverse :: cutLinesFrom [] rest else cutLinesFrom (b :: line) rest

def cutLines (bytes : List UInt8) : List (List UInt8) := cutLinesFrom [] bytes

def lineText? (line : List UInt8) : Option String :=
  (String.fromUTF8? ⟨line.toArray⟩).map fun text =>
    if text.endsWith "\r" then (text.dropEnd 1).toString else text

/-- The lines of some bytes up to the first that is not text, and whether there is one. -/
def readLines (bytes : ByteArray) : List String × Bool :=
  go (cutLines bytes.toList)
where
  go : List (List UInt8) → List String × Bool
    | [] => ([], false)
    | line :: rest =>
      match lineText? line with
      | none => ([], true)
      | some text =>
        let (lines, broken) := go rest
        (text :: lines, broken)

end CommandShell.Text
