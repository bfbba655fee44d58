import CommandShell.Text.Decimal
import CommandShell.Variables

/-!
# Arithmetic of scripts

Expressions over whole numbers of 64 bits, with variables that may be assigned. The value of a variable
that is not set is 0.
-/

set_option autoImplicit false

namespace CommandShell.Script.Arithmetic

inductive Fault where
  | primary
  | ending
  | parenthesis
  | divisionByZero
  | colon
  | number (text : String)
  deriving DecidableEq, Repr

def wrap (n : Int) : Int := n.bmod 18446744073709551616

inductive Token where
  | number (value : Int)
  | name (name : String)
  | operator (spelling : String)
  deriving DecidableEq, Repr

def digitValue (c : Char) : Nat :=
  if c.isDigit then c.toNat - 48
  else if 'a' ≤ c && c ≤ 'f' then c.toNat - 87
  else if 'A' ≤ c && c ≤ 'F' then c.toNat - 55
  else 16

/-- The number at the beginning of a text: hexadecimal after `0x`, octal after `0`, or decimal. -/
def takeNumber (chars : List Char) : Int × List Char :=
  let inBase (base : Nat) (chars : List Char) : Int × List Char :=
    let digits := chars.takeWhile fun c => digitValue c < base
    (digits.foldl (fun n c => base * n + digitValue c) (0 : Nat), chars.drop digits.length)
  match chars with
  | '0' :: 'x' :: rest => inBase 16 rest
  | '0' :: 'X' :: rest => inBase 16 rest
  | '0' :: _ => inBase 8 chars
  | chars => inBase 10 chars

def operators : List String :=
  ["<<=", ">>=", "&&", "||", "==", "!=", "<=", ">=", "<<", ">>", "+=", "-=", "*=", "/=", "%=", "&=",
    "|=", "^=", "+", "-", "*", "/", "%", "<", ">", "=", "!", "~", "&", "|", "^", "?", ":", "(", ")"]

def tokens : Nat → List Char → List Token
  | 0, _ => []
  | _, [] => []
  | fuel + 1, c :: rest =>
    if c.isWhitespace then tokens fuel rest
    else if c.isDigit then
      let (value, rest) := takeNumber (c :: rest)
      .number value :: tokens fuel rest
    else if c.isAlpha || c = '_' then
      let isPart (c : Char) : Bool := c.isAlphanum || c = '_'
      .name (String.ofList (c :: rest.takeWhile isPart)) :: tokens fuel (rest.dropWhile isPart)
    else match operators.find? fun spelling => spelling.toList.isPrefixOf (c :: rest) with
      | some spelling => .operator spelling :: tokens fuel (rest.drop (spelling.length - 1))
      | none => .operator c.toString :: tokens fuel rest

def strength? : String → Option Nat
  | "||" => some 1
  | "&&" => some 2
  | "|" => some 3
  | "^" => some 4
  | "&" => some 5
  | "==" | "!=" => some 6
  | "<" | ">" | "<=" | ">=" => some 7
  | "<<" | ">>" => some 8
  | "+" | "-" => some 9
  | "*" | "/" | "%" => some 10
  | _ => none

def truth (b : Bool) : Int := if b then 1 else 0

def bits (n : Int) : Nat := (n % 18446744073709551616).toNat

def ofBits (n : Nat) : Int := wrap n

def combine (operator : String) (a b : Int) : Except Fault Int :=
  match operator with
  | "||" => .ok (truth (a ≠ 0 || b ≠ 0))
  | "&&" => .ok (truth (a ≠ 0 && b ≠ 0))
  | "|" => .ok (ofBits (bits a ||| bits b))
  | "^" => .ok (ofBits (bits a ^^^ bits b))
  | "&" => .ok (ofBits (bits a &&& bits b))
  | "==" => .ok (truth (a = b))
  | "!=" => .ok (truth (a ≠ b))
  | "<" => .ok (truth (a < b))
  | ">" => .ok (truth (a > b))
  | "<=" => .ok (truth (a ≤ b))
  | ">=" => .ok (truth (a ≥ b))
  | "<<" => .ok (ofBits (bits a <<< (bits b % 64)))
  | ">>" => .ok (wrap (a >>> (bits b % 64)))
  | "+" => .ok (wrap (a + b))
  | "-" => .ok (wrap (a - b))
  | "*" => .ok (wrap (a * b))
  | "/" => if b = 0 then .error .divisionByZero else .ok (wrap (a.tdiv b))
  | "%" => if b = 0 then .error .divisionByZero else .ok (wrap (a.tmod b))
  | _ => .error .primary

def readNumber? (text : String) : Option Int :=
  let chars := ((text.toList.dropWhile Char.isWhitespace).reverse.dropWhile Char.isWhitespace).reverse
  let unsigned (chars : List Char) : Option Int :=
    match chars with
    | [] => none
    | c :: _ =>
      if !c.isDigit then none
      else match takeNumber chars with
        | (n, []) => some n
        | _ => none
  match chars with
  | [] => some 0
  | '-' :: rest => (unsigned rest).map (- ·)
  | '+' :: rest => unsigned rest
  | rest => unsigned rest

def decimal? (text : String) : Option Int :=
  let chars := ((text.toList.dropWhile Char.isWhitespace).reverse.dropWhile Char.isWhitespace).reverse
  let signed := match chars with
    | '-' :: rest => (Text.natural? rest).map fun n => -(n : Int)
    | '+' :: rest => (Text.natural? rest).map fun n => (n : Int)
    | rest => (Text.natural? rest).map fun n => (n : Int)
  signed.filter fun n => wrap n = n

def valueOf (vars : Variables) (name : String) : Except Fault Int :=
  match vars.get? name with
  | none => .ok 0
  | some text =>
    match readNumber? text with
    | some n => .ok n
    | none => .error (.number text)

abbrev Valued := Except Fault (Int × Variables × List Token)

mutual

/-- A part with one side. An expression that has no effect is read but not reckoned. -/
def unary : Nat → Bool → Variables → List Token → Valued
  | 0, _, _, _ => .error .primary
  | fuel + 1, active, vars, rest =>
    let apply (f : Int → Int) (rest : List Token) : Valued :=
      (unary fuel active vars rest).map fun (n, vars, rest) => (f n, vars, rest)
    match rest with
    | .number n :: rest => .ok (wrap n, vars, rest)
    | .name name :: rest =>
      if active then (valueOf vars name).map fun n => (n, vars, rest) else .ok (0, vars, rest)
    | .operator "-" :: rest => apply (fun n => wrap (-n)) rest
    | .operator "+" :: rest => apply id rest
    | .operator "!" :: rest => apply (fun n => truth (n = 0)) rest
    | .operator "~" :: rest => apply (fun n => wrap (-n - 1)) rest
    | .operator "(" :: rest => do
      let (n, vars, rest) ← assignment fuel active vars rest
      match rest with
      | .operator ")" :: rest => return (n, vars, rest)
      | _ => .error .parenthesis
    | _ => .error .primary

def binary : Nat → Bool → Nat → Int → Variables → List Token → Valued
  | 0, _, _, n, vars, rest => .ok (n, vars, rest)
  | fuel + 1, active, least, n, vars, .operator spelling :: rest =>
    match (strength? spelling).filter (least ≤ ·) with
    | none => .ok (n, vars, .operator spelling :: rest)
    | some strength => do
      let rightActive := active &&
        !(spelling = "&&" && n = 0) && !(spelling = "||" && n ≠ 0)
      let (m, vars, rest) ← unary fuel rightActive vars rest
      let (m, vars, rest) ← binary fuel rightActive (strength + 1) m vars rest
      let value ← if rightActive then combine spelling n m
        else pure (if spelling = "&&" then truth (n ≠ 0 && m ≠ 0) else truth (n ≠ 0 || m ≠ 0))
      binary fuel active least value vars rest
  | _ + 1, _, _, n, vars, rest => .ok (n, vars, rest)

def conditional : Nat → Bool → Variables → List Token → Valued
  | 0, _, _, _ => .error .primary
  | fuel + 1, active, vars, rest => do
    let (n, vars, rest) ← unary fuel active vars rest
    let (n, vars, rest) ← binary fuel active 1 n vars rest
    match rest with
    | .operator "?" :: rest =>
      let (a, vars, rest) ← assignment fuel (active && n ≠ 0) vars rest
      match rest with
      | .operator ":" :: rest =>
        let (b, vars, rest) ← conditional fuel (active && n = 0) vars rest
        return (if n ≠ 0 then a else b, vars, rest)
      | _ => .error .colon
    | rest => return (n, vars, rest)

def assignment : Nat → Bool → Variables → List Token → Valued
  | 0, _, _, _ => .error .primary
  | fuel + 1, active, vars, rest =>
    match rest with
    | .name name :: .operator spelling :: after =>
      if spelling.endsWith "=" && !(["==", "!=", "<=", ">="].contains spelling) then do
        let (m, vars, rest) ← assignment fuel active vars after
        let value ← if !active || spelling = "=" then pure m
          else combine (spelling.dropEnd 1).toString (← valueOf vars name) m
        return (value, if active then vars.set name (toString value) else vars, rest)
      else conditional fuel active vars rest
    | rest => conditional fuel active vars rest

end

def evaluate (vars : Variables) (expression : String) : Except Fault (Int × Variables) :=
  let tokens := tokens (expression.length + 1) expression.toList
  if tokens.isEmpty then .ok (0, vars)
  else do
    let (n, vars, rest) ← assignment (8 * tokens.length + 8) true vars tokens
    if rest.isEmpty then return (n, vars) else .error .ending

def Fault.message (expression : String) : Fault → String
  | .primary => "arithmetic expression: expecting primary: \"" ++ expression ++ "\""
  | .ending => "arithmetic expression: expecting EOF: \"" ++ expression ++ "\""
  | .parenthesis => "arithmetic expression: expecting ')': \"" ++ expression ++ "\""
  | .divisionByZero => "arithmetic expression: division by zero: \"" ++ expression ++ "\""
  | .colon => "arithmetic expression: expecting ':': \"" ++ expression ++ "\""
  | .number text => "Illegal number: " ++ text

end CommandShell.Script.Arithmetic
