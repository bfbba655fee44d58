import CommandShell.Text.Path
import CommandShell.Tool

/-!
# Tools that make, take away and show files
-/

set_option autoImplicit false

namespace CommandShell.Tool

def quoted (name : String) : String := "'" ++ name ++ "'"

def forEachName (inv : Invocation) (act : String → Program (Except String Unit)) :
    List String → Program Bool
  | [] => return true
  | name :: rest => do
    match ← act name with
    | .ok () => forEachName inv act rest
    | .error text =>
      inv.complain text
      let _ ← forEachName inv act rest
      return false

def overNames (plain valued : List Char) (act : Options → String → Program (Except String Unit)) :
    Tool := fun inv => do
  match Options.parse plain valued inv.arguments with
  | .error c => inv.invalidOption c 1
  | .ok options =>
    if options.operands.isEmpty && !options.has 'f' then inv.misuse "missing operand" 1
    else
      let fine ← forEachName inv (act options) options.operands
      Program.leave (if fine then 0 else 1)

def orExplain {α : Type} (attempted : String) : Except Errno α → Except String Unit
  | .ok _ => .ok ()
  | .error e => .error (attempted ++ ": " ++ e.systemText)

def touch : Tool := fun inv => do
  match Options.parse ['a', 'm', 'c'] ['t', 'd', 'r'] inv.arguments with
  | .error c => inv.invalidOption c 1
  | .ok options =>
    if options.operands.isEmpty then inv.misuse "missing file operand" 1
    else
      let fine ← forEachName inv (fun name => do
        match ← Program.perform (.fileInfo name) with
        | .ok _ => return .ok ()
        | .error _ =>
          if options.has 'c' then return .ok ()
          match ← Program.perform (.openFile name .touch) with
          | .error e => return .error ("cannot touch " ++ quoted name ++ ": " ++ e.systemText)
          | .ok descriptor =>
            let _ ← Program.perform (.close descriptor)
            return .ok ()) options.operands
      Program.leave (if fine then 0 else 1)

def mkfifo : Tool := overNames [] ['m'] fun _ name => do
  return orExplain ("cannot create fifo " ++ quoted name) (← Program.perform (.makeFifo name))

def makeMissing : List String → Program (Except String Unit)
  | [] => return .ok ()
  | path :: rest => do
    match ← Program.perform (.makeDirectory path) with
    | .ok () => makeMissing rest
    | .error e =>
      match ← Program.perform (.fileInfo path) with
      | .ok info =>
        if info.kind = .directory then makeMissing rest
        else return .error ("cannot create directory " ++ quoted path ++ ": " ++ e.systemText)
      | .error _ =>
        return .error ("cannot create directory " ++ quoted path ++ ": " ++ e.systemText)

def mkdir : Tool := overNames ['p', 'v'] ['m'] fun options name => do
  if options.has 'p' then
    makeMissing ((name :: Path.above name).reverse.filter fun path => path != "" && path != "/")
  else
    return orExplain ("cannot create directory " ++ quoted name)
      (← Program.perform (.makeDirectory name))

def rmdir : Tool := overNames [] [] fun _ name => do
  match ← Program.perform (.fileInfo name) with
  | .ok info =>
    if info.kind = .directory then
      return orExplain ("failed to remove " ++ quoted name) (← Program.perform (.remove name))
    else return .error ("failed to remove " ++ quoted name ++ ": Not a directory")
  | .error e => return .error ("failed to remove " ++ quoted name ++ ": " ++ e.systemText)

def removeTree : Nat → String → Program Unit
  | 0, _ => return
  | depth + 1, path => do
    match ← Program.perform (.entries path) with
    | .error _ => return
    | .ok names =>
      names.forM fun name => do
        removeTree depth (Path.join path name)
        let _ ← Program.perform (.remove (Path.join path name))

def treeDepth : Nat := 64

def rm : Tool := overNames ['f', 'r', 'R'] [] fun options name => do
  let attempted := "cannot remove " ++ quoted name
  match ← Program.perform (.fileInfo name) with
  | .error e =>
    if options.has 'f' && e = .noSuchFile then return .ok ()
    else return .error (attempted ++ ": " ++ e.systemText)
  | .ok info =>
    if info.kind ≠ .directory then
      return orExplain attempted (← Program.perform (.remove name))
    else if options.has 'r' || options.has 'R' then
      removeTree treeDepth name
      return orExplain attempted (← Program.perform (.remove name))
    else return .error (attempted ++ ": Is a directory")

def shownNames (all : Bool) (names : List String) : List String :=
  (if all then [".", ".."] else []) ++ names.filter fun name => all || !name.startsWith "."

def nameLines (names : List String) : String := String.join (names.map (· ++ "\n"))

def ls : Tool := fun inv => do
  match Options.parse ['1', 'a', 'A'] [] inv.arguments with
  | .error c => inv.invalidOption c 2
  | .ok options =>
    let names := if options.operands.isEmpty then ["."] else options.operands
    let (files, directories, fine) ← split inv (names.mergeSort fun a b => a ≤ b)
    let shown := directories.map fun (name, names) =>
      let names := if options.has 'A' then names else shownNames (options.has 'a') names
      if names.isEmpty && directories.length ≤ 1 then ""
      else if options.operands.length > 1 then name ++ ":\n" ++ nameLines names
      else nameLines names
    inv.putText ("\n".intercalate
      ((if files.isEmpty then [] else [nameLines files]) ++ shown)) 2
    Program.leave (if fine then 0 else 2)
where
  split (inv : Invocation) :
      List String → Program (List String × List (String × List String) × Bool)
    | [] => return ([], [], true)
    | name :: rest => do
      match ← Program.perform (.fileInfo name) with
      | .error e =>
        inv.complain ("cannot access " ++ quoted name ++ ": " ++ e.systemText)
        let (files, directories, _) ← split inv rest
        return (files, directories, false)
      | .ok info =>
        if info.kind = .directory then
          let names ← Program.perform (.entries name)
          let (files, directories, fine) ← split inv rest
          return (files, (name, (names.toOption).getD []) :: directories, fine)
        else
          let (files, directories, fine) ← split inv rest
          return (name :: files, directories, fine)

def describeKind (info : FileInfo) : String :=
  match info.kind with
  | .directory => "directory"
  | .regular => if info.size = 0 then "regular empty file" else "regular file"
  | .fifo => "fifo"
  | .device => "character special file"

def statText (name : String) (info : FileInfo) : List Char → String
  | [] => ""
  | '%' :: c :: rest =>
    (match c with
      | 'a' => String.ofList (Nat.toDigits 8 info.permissions)
      | 'n' => name
      | 's' => toString info.size
      | 'F' => describeKind info
      | '%' => "%"
      | _ => "?") ++ statText name info rest
  | c :: rest => c.toString ++ statText name info rest

def stat : Tool := overNames [] ['c'] fun options name => do
  match ← Program.perform (.fileInfo name) with
  | .error e => return .error ("cannot statx " ++ quoted name ++ ": " ++ e.systemText)
  | .ok info =>
    let format := (options.value? 'c').getD "%n"
    return orExplain "write error"
      (← Program.perform (.write 1 (statText name info format.toList ++ "\n").toUTF8))

end CommandShell.Tool
