import CommandShell.Script.Arithmetic
import CommandShell.Tool.Control

/-!
# Conditions of scripts

The words of a condition are operands, operators with one side or two, and the connectives of both. How
a word is taken hangs on how many follow it.
-/

set_option autoImplicit false

namespace CommandShell.Script.Condition

abbrev Judging := ExceptT String Program

inductive Role where
  | operand
  | unary
  | binary
  | negation
  | conjunction
  | disjunction
  | opening
  | closing
  | ending
  deriving DecidableEq, Repr

def unaryOperators : List String :=
  ["-b", "-c", "-d", "-e", "-f", "-g", "-G", "-h", "-k", "-L", "-n", "-O", "-p", "-r", "-s", "-S", "-t",
    "-u", "-w", "-x", "-z"]

def binaryOperators : List String :=
  ["=", "!=", "<", ">", "-eq", "-ne", "-gt", "-ge", "-lt", "-le", "-nt", "-ot", "-ef"]

/-- What the first of some words is. An operator with one side needs a word after it, and is an operand
itself where an operator with two sides follows. -/
def roleOf : List String → Role
  | [] => .ending
  | word :: rest =>
    if unaryOperators.contains word then
      match rest with
      | [] => .operand
      | [_] => .unary
      | next :: _ => if binaryOperators.contains next then .operand else .unary
    else if binaryOperators.contains word then .binary
    else match word with
      | "!" => .negation
      | "-a" => .conjunction
      | "-o" => .disjunction
      | "(" => if rest.isEmpty then .operand else .opening
      | ")" => .closing
      | _ => .operand

def number (text : String) : Judging Int :=
  match (Arithmetic.decimal? text) with
  | some n => return n
  | none => throw ("Illegal number: " ++ text)

def askUnary (operator operand : String) : Judging Bool := do
  match operator with
  | "-z" => return operand.isEmpty
  | "-n" => return !operand.isEmpty
  | "-t" => do
    let _ ← number operand
    return false
  | "-b" | "-g" | "-h" | "-k" | "-L" | "-S" | "-u" => return false
  | operator => ExceptT.lift (Tool.askFile ((operator.toList.getLast?).getD 'e') operand)

def askBinary (a operator b : String) : Judging Bool := do
  match operator with
  | "=" => return a = b
  | "!=" => return a ≠ b
  | "<" => return a < b
  | ">" => return b < a
  | "-nt" | "-ot" => return false
  | "-ef" => do
    let a ← ExceptT.lift (Program.perform (.fileInfo a))
    let b' ← ExceptT.lift (Program.perform (.fileInfo b))
    match a, b' with
    | .ok a, .ok b' => return a = b'
    | _, _ => return false
  | operator => do
    let m ← number a
    let n ← number b
    match operator with
    | "-eq" => return m = n
    | "-ne" => return m ≠ n
    | "-gt" => return n < m
    | "-ge" => return n ≤ m
    | "-lt" => return m < n
    | _ => return m ≤ n

mutual

def judgePrimary : Nat → Role → List String → Judging (Bool × List String)
  | 0, _, words => return (false, words)
  | fuel + 1, role, words =>
    match role, words with
    | .ending, words => return (false, words)
    | .opening, _ :: rest => do
      if roleOf rest = .closing then return (false, rest)
      let (holds, rest) ← judgeDisjunction fuel (roleOf rest) rest
      if roleOf (rest.drop 1) ≠ .closing then throw "closing paren expected"
      return (holds, rest.drop 1)
    | .unary, operator :: operand :: rest => return (← askUnary operator operand, operand :: rest)
    | _, a :: operator :: rest =>
      if roleOf (operator :: rest) = .binary then
        match rest with
        | [] => throw (operator ++ ": argument expected")
        | b :: rest => return (← askBinary a operator b, b :: rest)
      else return (!a.isEmpty, words)
    | _, a :: _ => return (!a.isEmpty, words)
    | _, [] => return (false, [])

def judgeNegation : Nat → Role → List String → Judging (Bool × List String)
  | 0, _, words => return (false, words)
  | fuel + 1, role, words =>
    if role ≠ .negation then judgePrimary fuel role words
    else do
      let next := roleOf (words.drop 1)
      let (holds, rest) ← judgeNegation fuel next (if next = .ending then words else words.drop 1)
      return (!holds, rest)

def judgeConjunction : Nat → Role → List String → Judging (Bool × List String)
  | 0, _, words => return (false, words)
  | fuel + 1, role, words => do
    let (holds, rest) ← judgeNegation fuel role words
    if roleOf (rest.drop 1) ≠ .conjunction then return (holds, rest)
    let (others, rest) ← judgeConjunction fuel (roleOf (rest.drop 2)) (rest.drop 2)
    return (holds && others, rest)

def judgeDisjunction : Nat → Role → List String → Judging (Bool × List String)
  | 0, _, words => return (false, words)
  | fuel + 1, role, words => do
    let (holds, rest) ← judgeConjunction fuel role words
    if roleOf (rest.drop 1) ≠ .disjunction then return (holds, rest)
    let (others, rest) ← judgeDisjunction fuel (roleOf (rest.drop 2)) (rest.drop 2)
    return (holds || others, rest)

end

def whole (role : Role) (words : List String) : Judging Bool := do
  let (holds, rest) ← judgeDisjunction (4 * words.length + 4) role words
  match rest with
  | word :: _ :: _ => throw (word ++ ": unexpected operator")
  | _ => return holds

/-- Whether some words hold as a condition. Few words are taken by their number: an operator between two
others is at work, and a negation or parentheses are so at the outer places. -/
def judge : List String → Judging Bool
  | [] => return false
  | [a, operator, b] =>
    if binaryOperators.contains operator then whole .operand [a, operator, b]
    else if a = "(" && b = ")" then whole (roleOf [operator]) [operator]
    else if a = "!" then do return !(← judge [operator, b])
    else whole (roleOf [a, operator, b]) [a, operator, b]
  | [a, b, c, d] =>
    if a = "(" && d = ")" then whole (roleOf [b, c]) [b, c]
    else if a = "!" then do return !(← judge [b, c, d])
    else whole (roleOf [a, b, c, d]) [a, b, c, d]
  | words => whole (roleOf words) words

end CommandShell.Script.Condition

namespace CommandShell.Script

def testStatus (complain : String → Program Unit) (name : String) (words : List String) : Program Int := do
  let bracketed := name == "["
  if bracketed && words.getLast? ≠ some "]" then
    complain "missing ]"
    return 2
  else
    match ← (Condition.judge (if bracketed then words.dropLast else words)).run with
    | .ok holds => return if holds then 0 else 1
    | .error text =>
      complain text
      return 2

end CommandShell.Script
