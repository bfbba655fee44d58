import CommandShell.Tool
import CommandShell.Tool.Output

/-!
# Tools about processes and conditions
-/

set_option autoImplicit false

namespace CommandShell.Tool

def nanoseconds? (chars : List Char) : Option Nat :=
  let whole := chars.takeWhile Char.isDigit
  let fraction? : Option (List Char) := match chars.drop whole.length with
    | [] => some []
    | '.' :: digits => if digits.all Char.isDigit then some digits else none
    | _ => none
  match fraction? with
  | none => none
  | some fraction =>
    if whole.isEmpty && fraction.isEmpty then none
    else
      let value (digits : List Char) : Nat := digits.foldl (fun n c => 10 * n + (c.toNat - 48)) 0
      let nine := (fraction ++ List.replicate 9 '0').take 9
      some (value whole * 1000000000 + value nine)

/-- The nanoseconds of an interval: seconds, or the unit that its last letter names. -/
def interval? (text : String) : Option Nat :=
  match text.toList.reverse with
  | 's' :: rest => nanoseconds? rest.reverse
  | 'm' :: rest => (nanoseconds? rest.reverse).map (· * 60)
  | 'h' :: rest => (nanoseconds? rest.reverse).map (· * 3600)
  | 'd' :: rest => (nanoseconds? rest.reverse).map (· * 86400)
  | _ => nanoseconds? text.toList

def sleep : Tool := fun inv => do
  if inv.arguments.isEmpty then inv.misuse "missing operand" 1
  else match inv.arguments.filter fun text => (interval? text).isNone with
    | [] =>
      Program.perform (.sleep ((inv.arguments.filterMap interval?).foldl (· + ·) 0))
      Program.leave 0
    | bad =>
      bad.forM fun text => inv.complain ("invalid time interval '" ++ text ++ "'")
      inv.hint
      Program.leave 1

def cutAssignments (environment : Variables) : List String → Variables × List String
  | [] => (environment, [])
  | word :: rest =>
    match word.splitOn "=" with
    | name :: value :: more => cutAssignments (environment.set name ("=".intercalate (value :: more))) rest
    | _ => (environment, word :: rest)

def env : Tool := fun inv => do
  let (start, words) := match inv.arguments with
    | "-i" :: rest => (({} : Variables), rest)
    | "-" :: rest => ({}, rest)
    | "-u" :: name :: rest =>
      (⟨inv.environment.entries.filter fun entry => entry.1 != name⟩, rest)
    | words => (inv.environment, words)
  match cutAssignments start words with
  | (environment, []) =>
    inv.putText (environmentText environment) 125
    Program.leave 0
  | (environment, program :: arguments) =>
    let e ← Program.perform (.exec program (program :: arguments) environment)
    inv.fail ("'" ++ program ++ "': " ++ e.systemText) (if e = .noSuchFile then 127 else 126)

def signal? (text : String) : Option Signal :=
  match Text.natural? text.toList with
  | some n => Signal.ofNumber? n
  | none =>
    let name := text.toUpper
    Signal.ofName? (if name.startsWith "SIG" then (name.drop 3).toString else name)

def killRequest? (arguments : List String) : Option (Signal × List String) :=
  match arguments with
  | "-s" :: name :: rest => (signal? name).map fun signal => (signal, rest)
  | "-n" :: name :: rest => (signal? name).map fun signal => (signal, rest)
  | "--" :: rest => some (.terminate, rest)
  | word :: rest =>
    if word.startsWith "-" then
      (signal? (word.drop 1).toString).map fun signal =>
        (signal, if rest.head? == some "--" then rest.drop 1 else rest)
    else some (.terminate, word :: rest)
  | [] => none

def killEach (complain : String → Program Unit) (signal : Signal) : List String → Program Int
  | [] => return 0
  | word :: rest => do
    let result ← match Text.integer? word with
      | none => pure (some ("failed to parse argument: '" ++ word ++ "'"))
      | some process => do
        match ← Program.perform (.kill process signal) with
        | .ok () => pure none
        | .error e => pure (some ("(" ++ word ++ "): " ++ e.systemText))
    match result with
    | none => killEach complain signal rest
    | some text =>
      complain text
      let _ ← killEach complain signal rest
      return 1

def kill : Tool := fun inv => do
  match killRequest? inv.arguments with
  | none => inv.misuse "not enough arguments" 1
  | some (signal, processes) => Program.leave (← killEach inv.complain signal processes)

def askFile (question : Char) (name : String) : Program Bool := do
  match ← Program.perform (.fileInfo name) with
  | .error _ => return false
  | .ok info =>
    return match question with
      | 'd' => info.kind = .directory
      | 'f' => info.kind = .regular
      | 'p' => info.kind = .fifo
      | 's' => info.size > 0
      | 'x' => info.permissions % 128 / 64 = 1
      | 'c' => info.kind = .device
      | 'b' | 'g' | 'h' | 'k' | 'L' | 'S' | 't' | 'u' => false
      | _ => true

def compareNumbers? (operator a b : String) : Option Bool := do
  let a ← Text.integer? a
  let b ← Text.integer? b
  match operator with
  | "-eq" => some (a == b)
  | "-ne" => some (a != b)
  | "-lt" => some (a < b)
  | "-le" => some (a ≤ b)
  | "-gt" => some (a > b)
  | "-ge" => some (a ≥ b)
  | _ => none

def condition : List String → Program (Option Bool)
  | [] => return some false
  | [text] => return some (text != "")
  | ["!", text] => return some (text == "")
  | ["-n", text] => return some (text != "")
  | ["-z", text] => return some (text == "")
  | [question, name] =>
    match question.toList with
    | ['-', c] => if "edfprswx".toList.contains c then return some (← askFile c name) else return none
    | _ => return none
  | [a, "=", b] => return some (a == b)
  | [a, "!=", b] => return some (a != b)
  | ["!", a, b] => do return (← condition [a, b]).map not
  | [a, operator, b] => return compareNumbers? operator a b
  | ["!", a, b, c] => do return (← condition [a, b, c]).map not
  | _ => return none

def conditionStatus (name : String) (arguments : List String) (complain : String → Program Unit) :
    Program Int := do
  let bracketed := name == "["
  if bracketed && arguments.getLast? != some "]" then
    complain "missing ]"
    return 2
  else
    match ← condition (if bracketed then arguments.dropLast else arguments) with
    | some holds => return if holds then 0 else 1
    | none =>
      complain "unexpected operator"
      return 2

def test : Tool := fun inv => do
  let name := if inv.name.endsWith "[" then "[" else "test"
  Program.leave (← conditionStatus name inv.arguments inv.complain)

end CommandShell.Tool
