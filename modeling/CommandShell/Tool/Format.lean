import CommandShell.Text.Utf8

/-!
# Escapes and formats

Backslash escapes in text, and formats in which a percent sign asks for an argument.
-/

set_option autoImplicit false

namespace CommandShell.Tool.Format

structure Output where
  bytes : List UInt8 := []
  stopped : Bool := false
  deriving DecidableEq, Repr

def Output.cons (bytes : List UInt8) (rest : Output) : Output :=
  { rest with bytes := bytes ++ rest.bytes }

def charBytes (c : Char) : List UInt8 := c.toString.toUTF8.toList

def digitValue? (base : Nat) (c : Char) : Option Nat :=
  let value :=
    if '0' ≤ c && c ≤ '9' then c.toNat - '0'.toNat
    else if 'a' ≤ c && c ≤ 'f' then c.toNat - 'a'.toNat + 10
    else if 'A' ≤ c && c ≤ 'F' then c.toNat - 'A'.toNat + 10
    else base
  if value < base then some value else none

def leadingNumber (base : Nat) : Nat → List Char → Nat × Nat
  | limit, chars =>
    let digits := (chars.take limit).takeWhile fun c => (digitValue? base c).isSome
    (digits.foldl (fun n c => n * base + (digitValue? base c).getD 0) 0, digits.length)

def simpleEscape? : Char → Option UInt8
  | 'a' => some 7
  | 'b' => some 8
  | 'e' => some 27
  | 'f' => some 12
  | 'n' => some 10
  | 'r' => some 13
  | 't' => some 9
  | 'v' => some 11
  | '\\' => some 92
  | _ => none

structure Dialect where
  hexadecimal : Bool
  formatStops : Bool
  deriving DecidableEq, Repr

/-- The bytes of text with escapes. Octal numbers have three digits, or start with a zero and have
three more where `zeroed` says so. -/
def unescape (dialect : Dialect) (zeroed : Bool) : List Char → Output
  | [] => {}
  | '\\' :: c :: rest =>
    match simpleEscape? c with
    | some byte => (unescape dialect zeroed rest).cons [byte]
    | none =>
      if c = 'c' then { stopped := true }
      else if c = 'x' && dialect.hexadecimal && (leadingNumber 16 2 rest).2 > 0 then
        let (value, length) := leadingNumber 16 2 rest
        (unescape dialect zeroed (rest.drop length)).cons [UInt8.ofNat value]
      else if c = '0' && zeroed then
        let (value, length) := leadingNumber 8 3 rest
        (unescape dialect zeroed (rest.drop length)).cons [UInt8.ofNat value]
      else if (digitValue? 8 c).isSome && !zeroed then
        let (value, length) := leadingNumber 8 2 rest
        (unescape dialect zeroed (rest.drop length)).cons
          [UInt8.ofNat ((digitValue? 8 c).getD 0 * Nat.pow 8 length + value)]
      else (unescape dialect zeroed rest).cons (92 :: charBytes c)
  | c :: rest => (unescape dialect zeroed rest).cons (charBytes c)
termination_by chars => chars.length
decreasing_by all_goals simp only [List.length_cons, List.length_drop]; omega

structure Directive where
  left : Bool := false
  zero : Bool := false
  plus : Bool := false
  width : Nat := 0
  precision : Option Nat := none
  letter : Char
  deriving DecidableEq, Repr

inductive Piece where
  | literal (c : Char)
  | escape (chars : List Char)
  | directive (d : Directive)
  /-- A percent sign that nothing follows. -/
  | unfinished
  deriving DecidableEq, Repr

def readDirective (chars : List Char) : Option (Directive × Nat) :=
  let flags := chars.takeWhile fun c => "-0+ #".toList.contains c
  let chars := chars.drop flags.length
  let (width, n) := leadingNumber 10 9 chars
  let chars := chars.drop n
  let (precision, m) := match chars with
    | '.' :: rest =>
      let (value, m) := leadingNumber 10 9 rest
      (some value, m + 1)
    | _ => (none, 0)
  match chars.drop m with
  | [] => none
  | letter :: _ =>
    some ({ left := flags.contains '-', zero := flags.contains '0', plus := flags.contains '+',
            width, precision, letter }, flags.length + n + m + 1)

def escapeLength (chars : List Char) : Nat :=
  match chars with
  | [] => 0
  | 'x' :: rest => 1 + (leadingNumber 16 2 rest).2
  | c :: rest => if (digitValue? 8 c).isSome then 1 + (leadingNumber 8 2 rest).2 else 1

def pieces : List Char → List Piece
  | [] => []
  | '\\' :: rest =>
    .escape ('\\' :: rest.take (escapeLength rest)) :: pieces (rest.drop (escapeLength rest))
  | '%' :: '%' :: rest => .literal '%' :: pieces rest
  | '%' :: rest =>
    match readDirective rest with
    | some (d, length) => .directive d :: pieces (rest.drop length)
    | none => [.unfinished]
  | c :: rest => .literal c :: pieces rest
termination_by chars => chars.length
decreasing_by all_goals simp only [List.length_cons, List.length_drop]; omega

def Directive.pad (d : Directive) (fill : Char) (text : String) : String :=
  let padding := String.ofList (List.replicate (d.width - text.length) fill)
  if d.left then text ++ padding else padding ++ text

inductive Unfit where
  | noNumber (argument : String)
  | trailing (argument : String)
  | conversion (letter : Char)
  | unfinished
  deriving DecidableEq, Repr

/-- The integer at the beginning of an argument, and what is wrong if it is not all of it: decimal, octal
or hexadecimal, or a character after a quote. -/
def integerOf (argument : String) : Int × List Unfit :=
  let unsigned (chars : List Char) : Nat × List Unfit :=
    let (base, digits) := match chars with
      | '0' :: 'x' :: rest => (16, rest)
      | '0' :: 'X' :: rest => (16, rest)
      | '0' :: c :: rest => (8, c :: rest)
      | digits => (10, digits)
    let (value, length) := leadingNumber base digits.length digits
    (value, if length = digits.length && !digits.isEmpty then []
      else if length = 0 && base = 10 then [.noNumber argument] else [.trailing argument])
  match argument.toList with
  | [] => (0, [])
  | '\'' :: c :: _ => (c.toNat, [])
  | '"' :: c :: _ => (c.toNat, [])
  | '-' :: rest =>
    let (n, unfit) := unsigned rest
    (-(n : Int), unfit)
  | '+' :: rest =>
    let (n, unfit) := unsigned rest
    ((n : Int), unfit)
  | rest =>
    let (n, unfit) := unsigned rest
    ((n : Int), unfit)

def Directive.number (d : Directive) (base : Nat) (upper : Bool) (n : Int) : String :=
  let digits := String.ofList (Nat.toDigits base n.natAbs)
  let digits := if upper then digits.toUpper else digits
  let least := d.precision.getD 0
  let digits := String.ofList (List.replicate (least - digits.length) '0') ++ digits
  let sign := if n < 0 then "-" else if d.plus then "+" else ""
  if d.zero && !d.left && d.precision.isNone then
    sign ++ { d with width := d.width - sign.length }.pad '0' digits
  else d.pad ' ' (sign ++ digits)

def wrapped (n : Int) : Int := n % 18446744073709551616

def Directive.render (d : Directive) (dialect : Dialect) (argument : String) : Output × List Unfit :=
  let text (s : String) (unfit : List Unfit) : Output × List Unfit := ({ bytes := s.toUTF8.toList }, unfit)
  let cut (s : String) : String := match d.precision with
    | some n => (s.take n).toString
    | none => s
  let (n, unfit) := integerOf argument
  match d.letter with
  | 's' => text (d.pad ' ' (cut argument)) []
  | 'c' => text (d.pad ' ' (argument.take 1).toString) []
  | 'b' => (unescape dialect true argument.toList, [])
  | 'd' | 'i' => text (d.number 10 false n) unfit
  | 'u' => text (d.number 10 false (wrapped n)) unfit
  | 'o' => text (d.number 8 false (wrapped n)) unfit
  | 'x' => text (d.number 16 false (wrapped n)) unfit
  | 'X' => text (d.number 16 true (wrapped n)) unfit
  | letter => ({ stopped := true }, [.conversion letter])

def pass (dialect : Dialect) : List Piece → List String → Output × List String × List Unfit
  | [], arguments => ({}, arguments, [])
  | .unfinished :: _, _ => ({ stopped := true }, [], [.unfinished])
  | .literal c :: rest, arguments =>
    let (out, left, unfit) := pass dialect rest arguments
    (out.cons (charBytes c), left, unfit)
  | .escape chars :: rest, arguments =>
    let escaped := unescape dialect false chars
    if escaped.stopped && dialect.formatStops then (escaped, [], [])
    else
      let bytes := if escaped.stopped then (String.ofList chars).toUTF8.toList else escaped.bytes
      let (out, left, unfit) := pass dialect rest arguments
      (out.cons bytes, left, unfit)
  | .directive d :: rest, arguments =>
    let (shown, wrong) := d.render dialect (arguments.head?.getD "")
    if shown.stopped then (shown, [], wrong)
    else
      let (out, left, unfit) := pass dialect rest (arguments.drop 1)
      (out.cons shown.bytes, left, wrong ++ unfit)

/-- The format applied until all arguments are taken; at most so many times. -/
def applyRepeatedly (dialect : Dialect) (format : List Piece) :
    Nat → List String → Output × List Unfit
  | 0, _ => ({}, [])
  | fuel + 1, arguments =>
    let (out, left, unfit) := pass dialect format arguments
    if out.stopped || left.isEmpty || left.length = arguments.length then (out, unfit)
    else
      let (more, moreUnfit) := applyRepeatedly dialect format fuel left
      (more.cons out.bytes, unfit ++ moreUnfit)

def apply (dialect : Dialect) (format : String) (arguments : List String) : Output × List Unfit :=
  applyRepeatedly dialect (pieces format.toList) (arguments.length + 1) arguments

end CommandShell.Tool.Format
