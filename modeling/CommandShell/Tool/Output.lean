import CommandShell.Tool
import CommandShell.Tool.Format

/-!
# Tools that only write
-/

set_option autoImplicit false

namespace CommandShell.Tool

def succeed : Tool := fun _ => Program.leave 0

def refuse : Tool := fun _ => Program.leave 1

/-- The options of `echo` at the beginning of its arguments: no line end, and whether escapes count. -/
def echoOptions (newline escapes : Bool) : List String → Bool × Bool × List String
  | [] => (newline, escapes, [])
  | word :: rest =>
    match word.toList with
    | '-' :: c :: letters =>
      if (c :: letters).all fun c => "neE".toList.contains c then
        let escapes := (c :: letters).foldl (fun escapes c =>
          if c = 'e' then true else if c = 'E' then false else escapes) escapes
        echoOptions (newline && !(c :: letters).contains 'n') escapes rest
      else (newline, escapes, word :: rest)
    | _ => (newline, escapes, word :: rest)

def dialect : Format.Dialect := { hexadecimal := true, formatStops := true }

def echoBytes (dialect : Format.Dialect) (newline escapes : Bool) (words : List String) : ByteArray :=
  let text := " ".intercalate words
  if escapes then
    let out := Format.unescape dialect true text.toList
    ⟨(out.bytes ++ if newline && !out.stopped then [Text.newline] else []).toArray⟩
  else (text ++ if newline then "\n" else "").toUTF8

def echo : Tool := fun inv => do
  let (newline, escapes, words) := echoOptions true false inv.arguments
  inv.put (echoBytes dialect newline escapes words)
  Program.leave 0

def printf : Tool := fun inv => do
  match inv.arguments with
  | [] => inv.misuse "missing operand" 1
  | format :: arguments =>
    let (out, unfit) := Format.apply dialect format arguments
    inv.put ⟨out.bytes.toArray⟩
    unfit.forM fun
      | .noNumber argument => inv.complain ("'" ++ argument ++ "': expected a numeric value")
      | .trailing argument => inv.complain ("'" ++ argument ++ "': value not completely converted")
      | .conversion letter =>
        inv.complain ("%" ++ letter.toString ++ ": invalid conversion specification")
      | .unfinished => inv.complain "%: invalid conversion specification"
    Program.leave (if unfit.isEmpty then 0 else 1)

def yes : Tool := fun inv => do
  let line := if inv.arguments.isEmpty then "y" else " ".intercalate inv.arguments
  let block := String.join (List.replicate 64 (line ++ "\n"))
  let e ← Program.perform (.flood 1 block.toUTF8)
  inv.fail ("standard output: " ++ e.systemText) 1

def numbers (first step last : Int) : List Int :=
  let count :=
    if step > 0 then (last - first) / step + 1
    else if step < 0 then (first - last) / (-step) + 1
    else 0
  (List.range count.toNat).map fun i => first + step * Int.ofNat i

def seq : Tool := fun inv => do
  let (separator, operands) := match inv.arguments with
    | "-s" :: separator :: rest => (separator, rest)
    | operands => ("\n", operands)
  let print (first step last : Int) : Program Unit := do
    let texts := (numbers first step last).map toString
    if !texts.isEmpty then inv.putText (separator.intercalate texts ++ "\n")
    Program.leave 0
  match operands.map fun text => (text, Text.integer? text) with
  | [] => inv.misuse "missing operand" 1
  | [(_, some last)] => print 1 1 last
  | [(_, some first), (_, some last)] => print first 1 last
  | [(_, some first), (step, some n), (_, some last)] =>
    if n = 0 then inv.misuse ("invalid Zero increment value: '" ++ step ++ "'") 1
    else print first n last
  | operands =>
    match operands.find? fun operand => operand.2.isNone with
    | some (text, _) => inv.misuse ("invalid floating point argument: '" ++ text ++ "'") 1
    | none => inv.misuse ("extra operand '" ++ ((operands.map (·.1))[3]?.getD "") ++ "'") 1

def pwd : Tool := fun inv => do
  if !inv.arguments.isEmpty then inv.complain "ignoring non-option arguments"
  match ← Program.perform .directory with
  | .ok path =>
    inv.putText (path ++ "\n")
    Program.leave 0
  | .error e => inv.fail ("cannot get current directory: " ++ e.systemText) 1

def environmentText (environment : Variables) : String :=
  String.join (environment.entries.map fun (name, value) => name ++ "=" ++ value ++ "\n")

def printenv : Tool := fun inv => do
  match Options.parse ['0'] [] inv.arguments with
  | .error c => inv.invalidOption c 2
  | .ok options =>
    if options.operands.isEmpty then
      inv.putText (environmentText inv.environment) 2
      Program.leave 0
    else
      let values := options.operands.map inv.environment.get?
      inv.putText (String.join (values.map fun value => (value.map (· ++ "\n")).getD "")) 2
      Program.leave (if values.all Option.isSome then 0 else 1)

def lastName (path : String) : String :=
  match (path.splitOn "/").reverse.find? fun name => name != "" with
  | some name => name
  | none => if path.isEmpty then "" else "/"

def basename : Tool := fun inv => do
  match inv.arguments with
  | [] => inv.misuse "missing operand" 1
  | [path] =>
    inv.putText (lastName path ++ "\n")
    Program.leave 0
  | [path, suffix] =>
    let name := lastName path
    let short := if name.endsWith suffix && name != suffix
      then (name.dropEnd suffix.length).toString else name
    inv.putText (short ++ "\n")
    Program.leave 0
  | _ :: _ :: extra :: _ => inv.misuse ("extra operand '" ++ extra ++ "'") 1

def directoryName (path : String) : String :=
  let trimmed := path.toList.reverse.dropWhile (· == '/')
  if trimmed.isEmpty then (if path.isEmpty then "." else "/")
  else match trimmed.dropWhile (· != '/') with
    | [] => "."
    | above =>
      let above := above.dropWhile (· == '/')
      if above.isEmpty then "/" else String.ofList above.reverse

def dirname : Tool := fun inv => do
  if inv.arguments.isEmpty then inv.misuse "missing operand" 1
  else
    inv.putText (String.join (inv.arguments.map fun path => directoryName path ++ "\n"))
    Program.leave 0

end CommandShell.Tool
