import CommandShell.Script.Condition
import CommandShell.Script.Reader
import CommandShell.Script.Redirection
import CommandShell.Tool.Output

/-!
# Commands of the script's shell itself

An error in a special builtin ends the script; one in another is only its status.
-/

set_option autoImplicit false

namespace CommandShell.Script

/-- The line of some input, read by bytes: its characters, those that a backslash kept from their work
being marked, and whether it was ended. A line that ends in a backslash goes on. -/
def inputLine (raw : Bool) : Nat → Task (Field × Bool)
  | 0 => return ([], false)
  | fuel + 1 => do
    match ← perform (.gather 0 (.lines 1 1)) with
    | .error _ => return ([], false)
    | .ok bytes =>
      let text := (Text.decode bytes).toList.filter (· != '\x00')
      let ended := text.getLast? = some '\n'
      let line := if ended then text.dropLast else text
      let (field, goesOn) := if raw then (line.map fun c => (c, false), false) else unescaped line
      if goesOn && ended then
        let (more, ended) ← inputLine raw fuel
        return (field ++ more, ended)
      else return (field, ended)
where
  unescaped : List Char → Field × Bool
    | [] => ([], false)
    | ['\\'] => ([], true)
    | '\\' :: c :: rest => ((c, true) :: (unescaped rest).1, (unescaped rest).2)
    | c :: rest => ((c, false) :: (unescaped rest).1, (unescaped rest).2)

/-- The values that a line is cut into for as many names. The last one takes all that is left. -/
def cutValues (separators : List Char) : List String → Field → List (String × String)
  | [], _ => []
  | [name], line =>
    let rest := ((line.dropWhile blank).reverse.dropWhile blank).reverse
    let front := rest.dropLast
    let alone := rest.getLast?.any divides && !front.any divides
    [(name, Field.text (if alone then front else rest))]
  | name :: names, line =>
    let line := line.dropWhile blank
    let value := line.takeWhile fun c => !divides c
    let rest := (line.drop value.length).dropWhile blank
    let rest := if rest.head?.any divides then rest.drop 1 else rest
    (name, Field.text value) :: cutValues separators names rest
where
  divides (c : Char × Bool) : Bool := !c.2 && separators.contains c.1
  blank (c : Char × Bool) : Bool := divides c && (c.1 = ' ' || c.1 = '\t' || c.1 = '\n')

def readLineInto (hooks : Hooks) (line : Nat) (words : List String) : Task Unit := do
  let raw := words.head? = some "-r"
  let names := if raw then words.drop 1 else words
  if names.isEmpty then
    complain line "read: arg count"
    setStatus 2
  else
    let (field, ended) ← inputLine raw 1000
    (cutValues (← get).separators names field).forM fun (name, value) =>
      hooks.setVariable line name value
    setStatus (if ended then 0 else 1)

def cutAssignment (word : String) : String × Option String :=
  let name := word.toList.takeWhile (· != '=')
  match word.toList.drop name.length with
  | _ :: value => (String.ofList name, some (String.ofList value))
  | [] => (word, none)

def declare (hooks : Hooks) (line : Nat) (builtin : String) (mark : String → Task Unit)
    (words : List String) : Task Unit := do
  words.forM fun word => do
    let (name, value) := cutAssignment word
    if !isName name.toList then hooks.fail line (builtin ++ ": " ++ word ++ ": bad variable name")
    if let some value := value then hooks.setVariable line name value
    mark name
  setStatus 0

def listed (label : String) (names : List String) (vars : Variables) : String :=
  String.join ((names.eraseDups.mergeSort fun a b => a ≤ b).map fun name =>
    label ++ name ++ (match vars.get? name with
      | some value => "=" ++ inQuotes value
      | none => "") ++ "\n")

def put (line : Nat) (name : String) (bytes : ByteArray) : Task Unit := do
  match ← perform (.write 1 bytes) with
  | .ok () => setStatus 0
  | .error _ =>
    complain line (name ++ ": " ++ name ++ ": I/O error")
    setStatus 1

def declareExported (hooks : Hooks) (line : Nat) (words : List String) : Task Unit := do
  match words with
  | [] | ["-p"] => put line "export" (listed "export " (← get).exported (← get).vars).toUTF8
  | words => declare hooks line "export" (fun name =>
    modify fun r => { r with exported := name :: r.exported }) words

def declareFixed (hooks : Hooks) (line : Nat) (words : List String) : Task Unit := do
  match words with
  | [] | ["-p"] => put line "readonly" (listed "readonly " (← get).fixed (← get).vars).toUTF8
  | words => declare hooks line "readonly" (fun name =>
    modify fun r => { r with fixed := name :: r.fixed }) words

def declareLocal (hooks : Hooks) (line : Nat) (words : List String) : Task Unit := do
  if (← get).hidden.isEmpty then hooks.fail line "local: not in a function"
  words.forM fun word => do
    let (name, value) := cutAssignment word
    modify fun r => { r with hidden := match r.hidden with
      | own :: others => ((name, r.vars.get? name) :: own) :: others
      | [] => [] }
    if let some value := value then hooks.setVariable line name value
  setStatus 0

def unsetNames (hooks : Hooks) (line : Nat) (words : List String) : Task Unit := do
  let functions := words.head? = some "-f"
  let names := if functions || words.head? = some "-v" then words.drop 1 else words
  let fixed := (← get).fixed
  if let some name := names.find? fun name => !functions && fixed.contains name then
    hooks.fail line ("unset: " ++ name ++ ": is read only")
  modify fun r =>
    if functions then { r with functions := r.functions.filter fun entry => !names.contains entry.1 }
    else { r with
      vars := ⟨r.vars.entries.filter fun entry => !names.contains entry.1⟩
      exported := r.exported.filter fun name => !names.contains name }
  setStatus 0

def optionLetters : List (String × Char) :=
  [("errexit", 'e'), ("noglob", 'f'), ("ignoreeof", 'I'), ("interactive", 'i'), ("monitor", 'm'),
    ("noexec", 'n'), ("stdin", 's'), ("xtrace", 'x'), ("verbose", 'v'), ("vi", 'V'), ("emacs", 'E'),
    ("noclobber", 'C'), ("allexport", 'a'), ("notify", 'b'), ("nounset", 'u')]

def setOptions : List String → List Char → Except String (List Char × Option (List String))
  | [], on => .ok (on, none)
  | "--" :: arguments, on => .ok (on, some arguments)
  | "-" :: arguments, on => .ok (on, if arguments.isEmpty then none else some arguments)
  | "-o" :: name :: rest, on =>
    match optionLetters.lookup name with
    | none => .error ("set: Illegal option -o " ++ name)
    | some c => setOptions rest (c :: on.filter fun d => d != c)
  | "+o" :: name :: rest, on =>
    match optionLetters.lookup name with
    | none => .error ("set: Illegal option +o " ++ name)
    | some c => setOptions rest (on.filter fun d => d != c)
  | word :: rest, on =>
    match word.toList with
    | '-' :: letters =>
      match letters.find? fun c => !"abCefmnuvxIVE".toList.contains c with
      | some c => .error ("set: Illegal option -" ++ c.toString)
      | none => setOptions rest (letters ++ on.filter fun c => !letters.contains c)
    | '+' :: letters => setOptions rest (on.filter fun c => !letters.contains c)
    | _ => .ok (on, some (word :: rest))

def setShell (hooks : Hooks) (line : Nat) (words : List String) : Task Unit := do
  let r ← get
  if words.isEmpty then
    put line "set" (listed "" (r.vars.entries.map (·.1)) r.vars).toUTF8
  else match setOptions words r.options with
    | .error text => hooks.fail line text
    | .ok (options, arguments) =>
      modify fun r => { r with options, arguments := arguments.getD r.arguments }
      setStatus 0

def shift (hooks : Hooks) (line : Nat) (words : List String) : Task Unit := do
  match Text.natural? (words.head?.getD "1").toList with
  | none => hooks.fail line ("shift: Illegal number: " ++ words.headD "")
  | some n =>
    if n > (← get).arguments.length then hooks.fail line "shift: can't shift that many"
    modify fun r => { r with arguments := r.arguments.drop n }
    setStatus 0

def exitWith (hooks : Hooks) (line : Nat) (arguments : List String) : Task Unit := do
  match arguments with
  | [] => hooks.leave
  | text :: _ =>
    match Text.natural? text.toList with
    | some n =>
      setStatus n
      hooks.leave
    | none => hooks.fail line ("exit: Illegal number: " ++ text)

def returnWith (hooks : Hooks) (line : Nat) (arguments : List String) : Task Unit := do
  if let text :: _ := arguments then
    match Text.natural? text.toList with
    | some n => setStatus n
    | none => hooks.fail line ("return: Illegal number: " ++ text)
  modify fun r => { r with skip := some .function }

def leaveLoops (hooks : Hooks) (line : Nat) (name : String) (goesOn : Bool) (arguments : List String) :
    Task Unit := do
  match Text.natural? (arguments.headD "1").toList with
  | none | some 0 => hooks.fail line (name ++ ": Illegal number: " ++ arguments.headD "")
  | some n =>
    setStatus 0
    modify fun r =>
      if r.loops = 0 then r else { r with skip := some (.loops (min n r.loops) goesOn) }

def plainPath (start path : String) : String :=
  let whole := if path.startsWith "/" then path else start ++ "/" ++ path
  let names := (whole.splitOn "/").foldl (fun names name =>
    if name = "" || name = "." then names
    else if name = ".." then names.dropLast
    else names ++ [name]) []
  "/" ++ "/".intercalate names

def enter (hooks : Hooks) (line : Nat) (arguments : List String) : Task Unit := do
  let r ← get
  let words := arguments.filter fun word => word ≠ "-L" && word ≠ "-P"
  let back := words.head? = some "-"
  let target := if back then (r.vars.get? "OLDPWD").getD ""
    else words.head?.getD ((r.vars.get? "HOME").getD "")
  if target.isEmpty then
    if back then put line "cd" ((r.vars.get? "PWD").getD "" ++ "\n").toUTF8
    setStatus 0
  else match ← perform (.changeDirectory target) with
    | .ok () =>
      let old := (r.vars.get? "PWD").getD ""
      let now := plainPath old target
      hooks.setVariable line "OLDPWD" old
      hooks.setVariable line "PWD" now
      modify fun r => { r with exported := r.exported }
      if back then put line "cd" (now ++ "\n").toUTF8
      setStatus 0
    | .error _ =>
      complain line ("cd: can't cd to " ++ target)
      setStatus 2

def kill (line : Nat) (words : List String) : Task Unit := do
  match KillRequest.ofWords words with
  | .error text =>
    complain line ("kill: " ++ text)
    setStatus 2
  | .ok (.send signal targets) =>
    setStatus 0
    sendSignal line (Signal.ofNumber? signal) targets
  | .ok (.list []) =>
    put line "kill" (String.join ("0\n" :: (List.range lastSpare).map fun n =>
      signalName (n + 1) ++ "\n")).toUTF8
  | .ok (.list (word :: _)) =>
    match listedName? word with
    | .ok name => put line "kill" (name ++ "\n").toUTF8
    | .error text =>
      complain line ("kill: " ++ text)
      setStatus 2

/-- Sets actions for signals, or shows them. A number in the first place is a signal without an
action. -/
def trap (line : Nat) (words : List String) : Task Unit := do
  match if words.head? == some "--" then words.drop 1 else words with
  | [] => put line "trap" (← get).actionsText.toUTF8
  | [word] => setActions none [word]
  | first :: rest =>
    if (Text.natural? first.toList).isSome then setActions none (first :: rest)
    else setActions (if first = "-" then none else some first) rest

def threeDigits (n : Nat) : String :=
  String.ofList ([n / 64, n / 8, n].map fun digit => Nat.digitChar (digit % 8))

def maskText (mask : Nat) : String :=
  ",".intercalate ([('u', mask / 64), ('g', mask / 8), ('o', mask)].map fun (who, digit) =>
    String.ofList (who :: '=' :: [('r', digit / 4), ('w', digit / 2), ('x', digit)].filterMap
      fun (letter, bit) => if bit % 2 = 0 then some letter else none))

def mask (line : Nat) (words : List String) : Task Unit := do
  let named := words.contains "-S"
  match words.filter fun word => word ≠ "-S" with
  | [] =>
    let mask ← perform (.mask none)
    put line "umask" ((if named then maskText mask else "0" ++ threeDigits mask) ++ "\n").toUTF8
  | text :: _ =>
    let digits := text.toList
    if digits.all fun c => '0' ≤ c && c ≤ '7' then
      let _ ← perform (.mask (some (digits.foldl (fun n c => 8 * n + (c.toNat - '0'.toNat)) 0 % 512)))
      setStatus 0
    else
      complain line (if digits.all Char.isDigit then "umask: Illegal number: " ++ text
        else "umask: Illegal mode: " ++ text)
      setStatus 2

/-- Sets how many descriptors the process may have, or shows it. Other limits there are none. -/
def limit (line : Nat) (words : List String) : Task Unit := do
  match words with
  | ["-n"] =>
    let limit ← perform (.descriptorLimit none)
    put line "ulimit" (toString limit ++ "\n").toUTF8
  | ["-n", text] =>
    match Text.natural? text.toList with
    | some limit =>
      let _ ← perform (.descriptorLimit (some limit))
      setStatus 0
    | none =>
      complain line "ulimit: bad number"
      setStatus 2
  | _ =>
    put line "ulimit" "unlimited\n".toUTF8

def wait (line : Nat) (words : List String) : Task Unit := do
  if words.isEmpty then
    (← get).jobs.forM (await false)
    setStatus 0
  else awaitEach words
where
  awaitEach : List String → Task Unit
    | [] => return
    | word :: rest => do
      match processNumber? (← get) word with
      | .error text =>
        complain line ("wait: " ++ text)
        setStatus 2
      | .ok process =>
        await true process
        awaitEach rest

def builtinNames : List String :=
  [".", ":", "[", "alias", "bg", "break", "cd", "chdir", "command", "continue", "echo", "eval", "exec",
    "exit", "export", "false", "fg", "getopts", "hash", "jobs", "kill", "local", "printf", "pwd", "read",
    "readonly", "return", "set", "shift", "test", "times", "trap", "true", "type", "ulimit", "umask",
    "unalias", "unset", "wait"]

def programFile? (r : Runner) (name : String) : Task (Option String) := do
  let isProgram (path : String) : Task Bool := do
    match ← perform (.fileInfo path) with
    | .ok info => return info.kind = .regular && info.permissions % 128 / 64 = 1
    | .error _ => return false
  if name.contains '/' then return if ← isProgram name then some name else none
  let paths := (((r.vars.get? "PATH").getD "").splitOn ":").map fun directory =>
    if directory.isEmpty then name else directory ++ "/" ++ name
  let found ← paths.filterM isProgram
  return found.head?

def describe (line : Nat) (builtin : String) (brief : Bool) (names : List String) : Task Unit := do
  setStatus 0
  names.forM fun name => do
    let r ← get
    let text? : Option String ←
      if reserved.contains name then
        pure (some (if brief then name else name ++ " is a shell keyword"))
      else if (r.function? name).isSome then
        pure (some (if brief then name else name ++ " is a shell function"))
      else if specialBuiltins.contains name then
        pure (some (if brief then name else name ++ " is a special shell builtin"))
      else if builtinNames.contains name then
        pure (some (if brief then name else name ++ " is a shell builtin"))
      else
        let path? ← programFile? r name
        pure (path?.map fun path => if brief then path else name ++ " is " ++ path)
    let status := r.status
    match text? with
    | some text =>
      put line builtin (text ++ "\n").toUTF8
      setStatus status
    | none =>
      if !brief then put line builtin (name ++ ": not found\n").toUTF8
      setStatus 127

def dialect : Tool.Format.Dialect := { hexadecimal := false, formatStops := false }

def printf (line : Nat) (words : List String) : Task Unit := do
  match if words.head? = some "--" then words.drop 1 else words with
  | [] =>
    complain line "printf: usage: printf format [arg ...]"
    setStatus 2
  | format :: arguments =>
    if format.startsWith "-" && words.head? ≠ some "--" && format.length > 1 then
      complain line ("printf: Illegal option -" ++ ((format.drop 1).take 1).toString)
      setStatus 2
    else
      let (out, unfit) := Tool.Format.apply dialect format arguments
      put line "printf" ⟨out.bytes.toArray⟩
      unfit.forM fun
        | .noNumber argument => do
          complain line ("printf: " ++ argument ++ ": expected numeric value")
          setStatus 1
        | .trailing argument => do
          complain line ("printf: " ++ argument ++ ": not completely converted")
          setStatus 1
        | .conversion letter => do
          complain line ("printf: %" ++ letter.toString ++ ": invalid directive")
          setStatus 2
        | .unfinished => do
          complain line "printf: missing format character"
          setStatus 2

def evaluate (hooks : Hooks) (text : String) : Task Unit := do
  match Script.read text with
  | ([], none) => setStatus 0
  | _ => hooks.runText false text

def source (hooks : Hooks) (line : Nat) (words : List String) : Task Unit := do
  match words with
  | [] => setStatus 2
  | name :: _ =>
    let path? ← if name.contains '/' then pure (some name) else programFile? (← get) name
    match path? with
    | none => hooks.fail line (".: " ++ name ++ ": not found")
    | some path =>
      match ← StateT.lift (Program.readFile path) with
      | .error e => hooks.fail line (".: cannot open " ++ path ++ ": " ++ openText e "No such file")
      | .ok bytes =>
        evaluate hooks (Text.decode bytes)
        modify fun r => { r with skip := if r.skip = some .function then none else r.skip }

def builtin? (hooks : Hooks) (line : Nat) (name : String) : Option (List String → Task Unit) :=
  match name with
  | ":" | "true" | "hash" | "jobs" => some fun _ => setStatus 0
  | "false" => some fun _ => setStatus 1
  | "exit" => some (exitWith hooks line)
  | "return" => some (returnWith hooks line)
  | "break" => some (leaveLoops hooks line name false)
  | "continue" => some (leaveLoops hooks line name true)
  | "cd" | "chdir" => some (enter hooks line)
  | "export" => some (declareExported hooks line)
  | "readonly" => some (declareFixed hooks line)
  | "local" => some (declareLocal hooks line)
  | "unset" => some (unsetNames hooks line)
  | "set" => some (setShell hooks line)
  | "shift" => some (shift hooks line)
  | "eval" => some fun words => evaluate hooks (" ".intercalate words)
  | "." => some (source hooks line)
  | "read" => some (readLineInto hooks line)
  | "echo" => some fun words =>
    match words with
    | "-n" :: rest => put line name (Tool.echoBytes dialect false true rest)
    | words => put line name (Tool.echoBytes dialect true true words)
  | "printf" => some (printf line)
  | "pwd" => some fun _ => do
    put line name (((← get).vars.get? "PWD").getD "" ++ "\n").toUTF8
  | "test" | "[" => some fun words => do
    let label := (← get).name ++ ": " ++ toString line ++ ": " ++ name ++ ": "
    setStatus (← StateT.lift (testStatus (fun text => Program.remark (label ++ text)) name words))
  | "type" => some (describe line name false)
  | "umask" => some (mask line)
  | "ulimit" => some (limit line)
  | "kill" => some (kill line)
  | "trap" => some (trap line)
  | "wait" => some (wait line)
  | _ => none

end CommandShell.Script
