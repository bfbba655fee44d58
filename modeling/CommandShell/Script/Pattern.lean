/-!
# Patterns of scripts

In a pattern a star stands for any text, a question mark for any character and brackets for one of
several characters. A character in quotes stands for itself.
-/

set_option autoImplicit false

namespace CommandShell.Script

/-- Text in which each character is marked if it was quoted. -/
abbrev Field := List (Char × Bool)

namespace Field

def ofText (quoted : Bool) (text : String) : Field := text.toList.map fun c => (c, quoted)

def text (f : Field) : String := String.ofList (f.map (·.1))

def isPattern (f : Field) : Bool := f.any fun (c, quoted) => !quoted && "*?[".toList.contains c

end Field

def namedClass (name : String) (c : Char) : Bool :=
  match name with
  | "alpha" => c.isAlpha
  | "digit" => c.isDigit
  | "alnum" => c.isAlphanum
  | "upper" => c.isUpper
  | "lower" => c.isLower
  | "space" => c.isWhitespace || c = '\x0b' || c = '\x0c'
  | "blank" => c = ' ' || c = '\t'
  | "punct" => 33 ≤ c.toNat && c.toNat < 127 && !c.isAlphanum
  | "xdigit" => c.isDigit || ('a' ≤ c && c ≤ 'f') || ('A' ≤ c && c ≤ 'F')
  | "cntrl" => c.toNat < 32 || c.toNat = 127
  | "print" => 32 ≤ c.toNat && c.toNat < 127
  | "graph" => 33 ≤ c.toNat && c.toNat < 127
  | _ => false

/-- The members between brackets: whether a character is one of them, and how much of the pattern they
take. A bracket in the first place is a member. -/
def members (first : Bool) : Nat → Field → Option ((Char → Bool) × Field)
  | 0, _ => none
  | _, [] => none
  | fuel + 1, (c, quoted) :: rest =>
    if c = ']' && !quoted && !first then some (fun _ => false, rest)
    else match c, rest with
      | '[', (':', false) :: named =>
        let name := named.takeWhile fun (c, _) => c.isAlpha
        match named.drop name.length with
        | (':', _) :: (']', _) :: rest =>
          (members false fuel rest).map fun (others, rest) =>
            (fun d => namedClass (Field.text name) d || others d, rest)
        | _ => (members false fuel rest).map fun (others, rest) => (fun d => d = c || others d, rest)
      | _, ('-', false) :: (last, lastQuoted) :: after =>
        if last = ']' && !lastQuoted then
          (members false fuel rest).map fun (others, rest) => (fun d => d = c || others d, rest)
        else (members false fuel after).map fun (others, rest) =>
          (fun d => (c ≤ d && d ≤ last) || others d, rest)
      | _, rest => (members false fuel rest).map fun (others, rest) => (fun d => d = c || others d, rest)

def matchesWithin : Nat → Field → List Char → Bool
  | 0, _, _ => false
  | _, [], text => text.isEmpty
  | fuel + 1, (c, quoted) :: pattern, text =>
    let literally : Bool := match text with
      | d :: text => c == d && matchesWithin fuel pattern text
      | [] => false
    if quoted then literally
    else match c with
      | '*' =>
        matchesWithin fuel pattern text || match text with
          | _ :: text => matchesWithin fuel ((c, quoted) :: pattern) text
          | [] => false
      | '?' =>
        match text with
        | _ :: text => matchesWithin fuel pattern text
        | [] => false
      | '[' =>
        let negated : Bool := match pattern with
          | ('!', false) :: _ | ('^', false) :: _ => true
          | _ => false
        let listed := if negated then pattern.drop 1 else pattern
        match members true (listed.length + 1) listed with
        | none => literally
        | some (isMember, pattern) =>
          match text with
          | d :: text => (isMember d != negated) && matchesWithin fuel pattern text
          | [] => false
      | '\\' =>
        match pattern, text with
        | (e, _) :: pattern, d :: text => e == d && matchesWithin fuel pattern text
        | _, _ => literally
      | _ => literally

def Field.matches (pattern : Field) (text : List Char) : Bool :=
  matchesWithin (2 * (pattern.length + text.length) + 2) pattern text

def Field.trim (pattern : Field) (atEnd longest : Bool) (text : List Char) : List Char :=
  let lengths := List.range (text.length + 1)
  let lengths := if longest then lengths.reverse else lengths
  let taken := lengths.find? fun n =>
    pattern.matches (if atEnd then text.drop (text.length - n) else text.take n)
  match taken with
  | none => text
  | some n => if atEnd then text.take (text.length - n) else text.drop n

end CommandShell.Script
