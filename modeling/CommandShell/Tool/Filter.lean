import CommandShell.Tool
import CommandShell.Text.Utf8

/-!
# Tools that turn one stream into another

All but `cat` and `tee` work on whole lines or bytes and on the standard input where no file is named.
-/

set_option autoImplicit false

namespace CommandShell.Tool

def plainly (name : String) (e : Errno) : String := name ++ ": " ++ e.systemText

def unopened (name : String) (e : Errno) : String :=
  if e = .isDirectory then "error reading '" ++ name ++ "': " ++ e.systemText
  else "cannot open '" ++ name ++ "' for reading: " ++ e.systemText

def cat : Tool := fun inv => do
  match Options.parse ['u'] [] inv.arguments with
  | .error c => inv.invalidOption c 1
  | .ok options =>
    let fine ← copyEach inv (if options.operands.isEmpty then ["-"] else options.operands)
    Program.leave (if fine then 0 else 1)
where
  copy (inv : Invocation) (name : String) (descriptor : Nat) : Program Bool := do
    match ← Program.perform (.relay descriptor 1) with
    | .ok () => return true
    | .error .itself =>
      inv.complain (name ++ ": input file is output file")
      return false
    | .error (.reading e) =>
      inv.complain (plainly name e)
      return false
    | .error (.writing e) =>
      inv.complain ("write error: " ++ e.systemText)
      Program.leave 1
  copyEach (inv : Invocation) : List String → Program Bool
    | [] => return true
    | name :: rest => do
      let fine ← if name = "-" then copy inv name 0 else do
        match ← Program.perform (.openFile name .read) with
        | .error e =>
          inv.complain (plainly name e)
          pure false
        | .ok descriptor =>
          let fine ← copy inv name descriptor
          let _ ← Program.perform (.close descriptor)
          pure fine
      let others ← copyEach inv rest
      return fine && others

def tee : Tool := fun inv => do
  match Options.parse ['a', 'i'] [] inv.arguments with
  | .error c => inv.invalidOption c 1
  | .ok options =>
    let access : Access := if options.has 'a' then .append else .truncate
    let (files, opened) ← openEach inv access options.operands
    match ← copy files with
    | .error (.reading e) => inv.fail ("read error: " ++ e.systemText) 1
    | .error (.writing e) =>
      if e = .brokenPipe then Program.leave (if opened then 0 else 1)
      else inv.fail ("'standard output': " ++ e.systemText) 1
    | _ => Program.leave (if opened then 0 else 1)
where
  /-- Copies to all of some files even if the standard output takes nothing. -/
  copy : List Nat → Program (Except RelayError Unit)
    | [] => Program.perform (.relay 0 1)
    | files => do
      match ← Program.perform (.gather 0 .all) with
      | .error e => return .error (.reading e)
      | .ok bytes =>
        let written ← if bytes.isEmpty then pure (.ok ()) else Program.perform (.write 1 bytes)
        files.forM fun file => do
          let _ ← Program.perform (.write file bytes)
        return written.mapError .writing
  openEach (inv : Invocation) (access : Access) : List String → Program (List Nat × Bool)
    | [] => return ([], true)
    | name :: rest => do
      match ← Program.perform (.openFile name access) with
      | .ok file =>
        let (files, fine) ← openEach inv access rest
        return (file :: files, fine)
      | .error e =>
        inv.complain (plainly name e)
        let (files, _) ← openEach inv access rest
        return (files, false)

def linesWithEndsFrom (line : List UInt8) : List UInt8 → List (List UInt8)
  | [] => if line.isEmpty then [] else [line.reverse]
  | b :: rest =>
    if b = Text.newline then (b :: line).reverse :: linesWithEndsFrom [] rest
    else linesWithEndsFrom (b :: line) rest

def linesWithEnds (bytes : List UInt8) : List (List UInt8) := linesWithEndsFrom [] bytes

inductive Amount where
  | lines (count : Nat)
  | bytes (count : Nat)
  deriving DecidableEq, Repr

def spellAmount (arguments : List String) : List String :=
  match arguments with
  | word :: rest =>
    match word.toList with
    | '-' :: c :: digits =>
      if (c :: digits).all Char.isDigit then "-n" :: String.ofList (c :: digits) :: rest
      else arguments
    | _ => arguments
  | [] => []

def Amount.ofOptions (o : Options) : Except String Amount :=
  match o.value? 'c', o.value? 'n' with
  | some text, _ => ((Text.natural? text.toList).map Amount.bytes).elim (.error text) .ok
  | none, some text => ((Text.natural? text.toList).map Amount.lines).elim (.error text) .ok
  | none, none => .ok (.lines 10)

def withoutSigns (o : Options) : Options :=
  { o with flags := o.flags.map fun (c, value) => (c, value.map fun text =>
      if text.startsWith "+" || text.startsWith "-" then (text.drop 1).toString else text) }

def amountText (o : Options) : String := ((o.value? 'c').or (o.value? 'n')).getD ""

def Amount.noun : Amount → String
  | .lines _ => "lines"
  | .bytes _ => "bytes"

def withHeadings (parts : List (String × ByteArray)) : ByteArray :=
  match parts with
  | [] => .empty
  | [(_, bytes)] => bytes
  | parts =>
    let heading (name : String) :=
      "==> " ++ (if name = "-" then "standard input" else name) ++ " <==\n"
    let texts := parts.map fun (name, bytes) => (heading name).toUTF8 ++ bytes
    match texts with
    | [] => .empty
    | first :: rest => rest.foldl (fun all text => all ++ "\n".toUTF8 ++ text) first

def Amount.beginning (amount : Amount) (bytes : ByteArray) : ByteArray :=
  match amount with
  | .bytes n => bytes.extract 0 n
  | .lines n => ⟨((linesWithEnds bytes.toList).take n).flatten.toArray⟩

def Amount.allBut (amount : Amount) (bytes : ByteArray) : ByteArray :=
  match amount with
  | .bytes n => bytes.extract 0 (bytes.size - n)
  | .lines n =>
    let lines := linesWithEnds bytes.toList
    ⟨(lines.take (lines.length - n)).flatten.toArray⟩

/-- The beginning of an input; no more of it is read, unless all but so much is asked for. -/
def headOf (amount : Amount) (fromEnd : Bool) (descriptor : Nat) :
    Program (Except Errno ByteArray) := do
  if fromEnd then
    let bytes ← Program.perform (.gather descriptor .all)
    return bytes.map amount.allBut
  match amount with
  | .bytes 0 | .lines 0 => return .ok .empty
  | .bytes n => Program.perform (.gather descriptor (.bytes n))
  | .lines n => Program.perform (.gather descriptor (.lines n 1))

def head : Tool := fun inv => do
  match Options.parse ['q'] ['n', 'c'] (spellAmount inv.arguments) with
  | .error c => inv.invalidOption c 1
  | .ok options =>
    match Amount.ofOptions (withoutSigns options) with
    | .error _ =>
      let noun := if (options.value? 'c').isSome then "bytes" else "lines"
      inv.fail ("invalid number of " ++ noun ++ ": '" ++ amountText options ++ "'") 1
    | .ok amount =>
      let names := if options.operands.isEmpty then ["-"] else options.operands
      let (parts, fine) ← partsOf inv amount ((amountText options).startsWith "-") names
      inv.putPart (withHeadings parts)
      Program.leave (if fine then 0 else 1)
where
  partsOf (inv : Invocation) (amount : Amount) (fromEnd : Bool) :
      List String → Program (List (String × ByteArray) × Bool)
    | [] => return ([], true)
    | name :: rest => do
      let part ← if name = "-" then headOf amount fromEnd 0 else do
        match ← Program.perform (.openFile name .read) with
        | .error e => pure (.error e)
        | .ok descriptor =>
          let part ← headOf amount fromEnd descriptor
          let _ ← Program.perform (.close descriptor)
          pure part
      match part with
      | .ok bytes =>
        let (parts, fine) ← partsOf inv amount fromEnd rest
        return ((name, bytes) :: parts, fine)
      | .error e =>
        inv.complain (unopened (if name = "-" then "standard input" else name) e)
        let (parts, _) ← partsOf inv amount fromEnd rest
        return (parts, false)

/-- Where a tail begins: so much before the end, or at a position from the beginning. -/
def tailBytes (amount : Amount) (fromStart : Bool) (bytes : ByteArray) : ByteArray :=
  match amount, fromStart with
  | .bytes n, false => bytes.extract (bytes.size - n) bytes.size
  | .bytes n, true => bytes.extract (n - 1) bytes.size
  | .lines n, false =>
    let lines := linesWithEnds bytes.toList
    ⟨(lines.drop (lines.length - n)).flatten.toArray⟩
  | .lines n, true => ⟨((linesWithEnds bytes.toList).drop (n - 1)).flatten.toArray⟩

def tail : Tool := fun inv => do
  match Options.parse ['q'] ['n', 'c'] (spellAmount inv.arguments) with
  | .error c => inv.invalidOption c 1
  | .ok options =>
    let fromStart := (amountText options).startsWith "+"
    match Amount.ofOptions (withoutSigns options) with
    | .error _ =>
      let noun := if (options.value? 'c').isSome then "bytes" else "lines"
      inv.fail ("invalid number of " ++ noun ++ ": '" ++ amountText options ++ "'") 1
    | .ok amount =>
      let names := if options.operands.isEmpty then ["-"] else options.operands
      let (contents, fine) ← inv.readInputs unopened names
      inv.putPart (withHeadings (contents.map fun (name, content) =>
        (name, tailBytes amount fromStart content)))
      Program.leave (if fine then 0 else 1)

structure Counts where
  lines : Nat := 0
  words : Nat := 0
  bytes : Nat := 0
  deriving DecidableEq, Repr

def Counts.add (a b : Counts) : Counts :=
  ⟨a.lines + b.lines, a.words + b.words, a.bytes + b.bytes⟩

def isSpaceByte (b : UInt8) : Bool := b = 32 || (9 ≤ b && b ≤ 13)

def Counts.ofBytes (bytes : ByteArray) : Counts :=
  let (lines, words, _) := bytes.toList.foldl (fun (lines, words, inWord) b =>
    (if b = Text.newline then lines + 1 else lines,
      if !isSpaceByte b && !inWord then words + 1 else words, !isSpaceByte b)) (0, 0, false)
  { lines, words, bytes := bytes.size }

def countLine (width : Nat) (numbers : List Nat) (name : Option String) : String :=
  let texts := numbers.map fun n =>
    let digits := toString n
    String.ofList (List.replicate (width - digits.length) ' ') ++ digits
  " ".intercalate texts ++ (name.map (" " ++ ·)).getD "" ++ "\n"

/-- The width of the numbers, from what the inputs are: that of the size of all files, or more if there
are inputs of another kind. An input that is not there says nothing. -/
def countWidth (infos : List (Option FileInfo)) : Nat :=
  let known := infos.filterMap id
  let size := (known.filter fun info => info.kind = .regular).foldl (fun n info => n + info.size) 0
  max (toString size).length (if known.all fun info => info.kind = .regular then 1 else 7)

def wc : Tool := fun inv => do
  match Options.parse ['l', 'w', 'c', 'm'] [] inv.arguments with
  | .error c => inv.invalidOption c 1
  | .ok options =>
    let all := options.flags.isEmpty
    let chosen (counts : Counts) : List Nat :=
      (if all || options.has 'l' then [counts.lines] else []) ++
      (if all || options.has 'w' then [counts.words] else []) ++
      (if all || options.has 'c' || options.has 'm' then [counts.bytes] else [])
    let names := if options.operands.isEmpty then ["-"] else options.operands
    let infos ← names.mapM fun name => do
      let info ← Program.perform (.fileInfo (if name = "-" then "/dev/stdin" else name))
      return info.toOption
    let (contents, fine) ← countEach inv names
    let total := contents.foldl (fun total (_, counts) => total.add counts) {}
    let single := names.length = 1 && (chosen total).length = 1
    let width := if single then 1 else countWidth infos
    let label (name : String) := if options.operands.isEmpty then none else some name
    let write (text : String) : Program Unit :=
      Invocation.putOr (fun _ => inv.fail "write error" 1) text.toUTF8
    write (String.join (contents.map fun (name, counts) =>
      countLine width (chosen counts) (label name)))
    if names.length > 1 then write (countLine width (chosen total) (some "total"))
    Program.leave (if fine then 0 else 1)
where
  countEach (inv : Invocation) : List String → Program (List (String × Counts) × Bool)
    | [] => return ([], true)
    | name :: rest => do
      let content ← if name = "-" then Program.perform (.gather 0 .all) else Program.readFile name
      let counts ← match content with
        | .ok content => pure (some (Counts.ofBytes content))
        | .error e => do
          let shown := if name = "-" && e = .isDirectory then "'standard input'" else name
          inv.complain (plainly shown e)
          pure (if e = .isDirectory then some {} else none)
      let (others, fine) ← countEach inv rest
      return (counts.toList.map (fun counts => (name, counts)) ++ others,
        fine && content.toOption.isSome)

def allLines (contents : List (String × ByteArray)) : List (List UInt8) :=
  contents.flatMap fun (_, content) => Text.cutLines content.toList

def joinLines (lines : List (List UInt8)) : ByteArray :=
  ⟨(lines.flatMap fun line => line ++ [Text.newline]).toArray⟩

def bytesLe : List UInt8 → List UInt8 → Bool
  | [], _ => true
  | _ :: _, [] => false
  | a :: s, b :: t => a < b || (a = b && bytesLe s t)

def leadingInteger (line : List UInt8) : Int :=
  let line := line.dropWhile isSpaceByte
  let (negative, digits) := match line with
    | 45 :: rest => (true, rest)
    | line => (false, line)
  let n := (digits.takeWhile fun b => 48 ≤ b && b ≤ 57).foldl
    (fun (n : Nat) b => 10 * n + (b.toNat - 48)) 0
  if negative then -(n : Int) else n

def countRepeats (same : List UInt8 → List UInt8 → Bool) : List (List UInt8) → List (Nat × List UInt8)
  | [] => []
  | line :: rest =>
    match countRepeats same rest with
    | [] => [(1, line)]
    | (n, next) :: more => if same line next then (n + 1, line) :: more else (1, line) :: (n, next) :: more

def dropRepeats (lines : List (List UInt8)) : List (List UInt8) :=
  (countRepeats (· == ·) lines).map (·.2)

def smallByte (b : UInt8) : UInt8 := if 65 ≤ b && b ≤ 90 then b + 32 else b

def sort : Tool := fun inv => do
  match Options.parse ['r', 'n', 'u', 's'] [] inv.arguments with
  | .error c => inv.invalidOption c 2
  | .ok options =>
    let names := if options.operands.isEmpty then ["-"] else options.operands
    let (contents, fine) ← inv.readInputs (fun name e =>
      (if e = .isDirectory then "read failed: " else "cannot read: ") ++ plainly name e) names
    if !fine then Program.leave 2
    else
      let byNumber := options.has 'n'
      let le (a b : List UInt8) : Bool :=
        if byNumber && leadingInteger a ≠ leadingInteger b then
          leadingInteger a ≤ leadingInteger b
        else (byNumber && options.has 'u') || bytesLe a b
      let ordered := (allLines contents).mergeSort
        (if options.has 'r' then fun a b => le b a else le)
      let kept :=
        if !options.has 'u' then ordered
        else if byNumber then
          (ordered.splitBy fun a b => leadingInteger a == leadingInteger b).filterMap List.head?
        else dropRepeats ordered
      let bytes := joinLines kept
      Invocation.putOr (fun e => do
        let what := if bytes.size ≤ Invocation.blockSize then "fflush failed" else "write failed"
        inv.complain (what ++ ": 'standard output': " ++ e.systemText)
        inv.fail "write error" 2) bytes
      Program.leave 0

def uniq : Tool := fun inv => do
  match Options.parse ['c', 'd', 'u', 'i'] [] inv.arguments with
  | .error c => inv.invalidOption c 1
  | .ok options =>
    let (contents, fine) ← inv.readInputs
      (fun name e => if e = .isDirectory then "error reading '" ++ name ++ "': " ++ e.systemText
        else plainly name e)
      (if options.operands.isEmpty then ["-"] else options.operands.take 1)
    let same (a b : List UInt8) : Bool :=
      if options.has 'i' then a.map smallByte == b.map smallByte else a == b
    let counted := (countRepeats same (allLines contents)).filter fun (n, _) =>
      !(options.has 'd' && n = 1) && !(options.has 'u' && n > 1)
    let line (n : Nat) (text : List UInt8) : List UInt8 :=
      if !options.has 'c' then text
      else
        let number := toString n
        (String.ofList (List.replicate (7 - number.length) ' ') ++ number ++ " ").toUTF8.toList ++ text
    inv.put (joinLines (counted.map fun (n, text) => line n text))
    Program.leave (if fine then 0 else 1)

def classBytes? : String → Option (List UInt8)
  | "upper" => some (bytesFrom 65 26)
  | "lower" => some (bytesFrom 97 26)
  | "digit" => some (bytesFrom 48 10)
  | "alpha" => some (bytesFrom 65 26 ++ bytesFrom 97 26)
  | "alnum" => some (bytesFrom 48 10 ++ bytesFrom 65 26 ++ bytesFrom 97 26)
  | "space" => some (bytesFrom 9 5 ++ [32])
  | "blank" => some [9, 32]
  | "punct" => some (bytesFrom 33 15 ++ bytesFrom 58 7 ++ bytesFrom 91 6 ++ bytesFrom 123 4)
  | _ => none
where
  bytesFrom (first count : Nat) : List UInt8 :=
    (List.range count).map fun i => UInt8.ofNat (first + i)

/-- The bytes of a set, with escapes read but not yet ranges; a byte from an escape makes no range. -/
def setBytes : List Char → List (UInt8 × Bool)
  | [] => []
  | '\\' :: c :: rest =>
    match [('n', 10), ('t', 9), ('r', 13), ('\\', 92), ('a', 7), ('b', 8), ('f', 12), ('v', 11),
        ('0', 0)].lookup c with
    | some b => (b, false) :: setBytes rest
    | none => (c.toString.toUTF8.toList.map (·, false)) ++ setBytes rest
  | c :: rest => (c.toString.toUTF8.toList.map (·, true)) ++ setBytes rest

def rangeBytes (low high : UInt8) : List UInt8 :=
  (List.range (high.toNat + 1 - low.toNat)).map fun i => UInt8.ofNat (low.toNat + i)

def expandRanges : List (UInt8 × Bool) → List UInt8
  | (low, _) :: (45, true) :: (high, _) :: rest => rangeBytes low high ++ expandRanges rest
  | (b, _) :: rest => b :: expandRanges rest
  | [] => []

def byteSet (text : String) : List UInt8 :=
  match text.toList with
  | '[' :: ':' :: rest =>
    (classBytes? (String.ofList (rest.takeWhile (· != ':')))).getD
      (expandRanges (setBytes text.toList))
  | chars => expandRanges (setBytes chars)

def squeeze (set : List UInt8) : List UInt8 → List UInt8
  | [] => []
  | b :: rest =>
    match squeeze set rest with
    | [] => [b]
    | next :: more => if b = next && set.contains b then next :: more else b :: next :: more

def tr : Tool := fun inv => do
  match Options.parse ['d', 's', 'c', 'C'] [] inv.arguments with
  | .error c => inv.invalidOption c 1
  | .ok options =>
    let complement := options.has 'c' || options.has 'C'
    let first (text : String) : List UInt8 :=
      let set := byteSet text
      if complement then (rangeBytes 0 255).filter fun b => !set.contains b else set
    let edit (f : List UInt8 → List UInt8) : Program Unit := do
      match ← Program.perform (.gather 0 .all) with
      | .error e => inv.fail ("read error: " ++ e.systemText) 1
      | .ok bytes =>
        inv.put ⟨(f bytes.toList).toArray⟩
        Program.leave 0
    match options.has 'd', options.has 's', options.operands with
    | _, _, [] => inv.misuse "missing operand" 1
    | true, _, [set] => edit fun bytes => bytes.filter fun b => !(first set).contains b
    | false, true, [set] => edit (squeeze (first set))
    | false, squeezes, [source, target] =>
      let source := first source
      let target := byteSet target
      if target.isEmpty then
        inv.fail "when not truncating set1, string2 must be non-empty" 1
      else
        let last := target.getLast?.getD 0
        let target := target ++ List.replicate (source.length - target.length) last
        let replace (b : UInt8) : UInt8 :=
          match (source.zip target).reverse.lookup b with
          | some c => c
          | none => b
        edit fun bytes =>
          let bytes := bytes.map replace
          if squeezes then squeeze target bytes else bytes
    | false, false, [set] =>
      inv.complain ("missing operand after '" ++ set ++ "'")
      Program.remark "Two strings must be given when translating."
      inv.hint
      Program.leave 1
    | _, _, _ :: extra :: _ => inv.misuse ("extra operand '" ++ extra ++ "'") 1

end CommandShell.Tool
