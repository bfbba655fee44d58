import CommandShell.Script.Arithmetic
import CommandShell.Script.Child
import CommandShell.Script.Item
import CommandShell.Script.Pattern

/-!
# What words stand for

Variables, commands and expressions in a word are replaced by what they stand for. Outside quotes this
comes apart into fields at separators, and a field that is a pattern becomes the names of the files that
match it, if there are any.
-/

set_option autoImplicit false

namespace CommandShell.Script

/-- Fields in the making: those complete, newest first; the one begun, backwards; and whether blanks
ended the last one. -/
structure Fields where
  complete : List Field := []
  begun : Option Field := none
  blankEnded : Bool := false
  deriving DecidableEq, Repr

namespace Fields

def add (f : Fields) (quoted : Bool) (text : String) : Fields :=
  { f with begun := some ((Field.ofText quoted text).reverse ++ f.begun.getD []), blankEnded := false }

def endField (f : Fields) : Fields :=
  match f.begun with
  | none => f
  | some field => { complete := field.reverse :: f.complete }

/-- Adds text that comes apart at separators. Blanks next to another separator are one with it. -/
def addSplit (separators : List Char) (f : Fields) (text : String) : Fields :=
  text.toList.foldl (fun f c =>
    if !separators.contains c then f.add false c.toString
    else if c = ' ' || c = '\t' || c = '\n' then
      if f.begun.isSome then { f.endField with blankEnded := true } else f
    else if f.begun.isSome then f.endField
    else if f.blankEnded then { f with blankEnded := false }
    else { f with complete := [] :: f.complete }) f

def toList (f : Fields) : List Field := f.endField.complete.reverse

def joined (f : Fields) : Field := (f.toList.intersperse [(' ', true)]).flatten

end Fields

/-- How a word is expanded: whether values come apart, and whether the word's own text does. -/
structure Manner where
  splits : Bool := true
  splitsText : Bool := false

def Fields.addValue (f : Fields) (r : Runner) (manner : Manner) (inQuotes : Bool) (value : String) :
    Fields :=
  if inQuotes then f.add true value
  else if manner.splits then f.addSplit r.separators value
  else f.add false value

def Fields.addArguments (f : Fields) (r : Runner) (manner : Manner) (inQuotes apart : Bool) : Fields :=
  if !inQuotes && manner.splits then
    r.arguments.foldl (fun f argument => (f.addSplit r.separators argument).endField) f
  else if inQuotes && apart && manner.splits then
    match r.arguments with
    | [] => f
    | first :: rest => rest.foldl (fun f argument => f.endField.add true argument) (f.add true first)
  else
    let separator := if apart then " " else String.ofList (r.separators.take 1)
    f.add inQuotes (separator.intercalate r.arguments)

def expandParts (hooks : Hooks) (line : Nat) : Nat → Manner → Word → Fields → Task Fields
  | 0, _, _, f => return f
  | fuel + 1, manner, word, f => word.foldlM (fun f part => do
    let inner (inQuotes : Bool) (text : String) : Task Fields := do
      match wordOf inQuotes text with
      | .error text => hooks.fail line text
      | .ok word => expandParts hooks line fuel { splits := false } word {}
    match part with
    | .text text => do
      let separators := (← get).separators
      return if manner.splitsText then f.addSplit separators text else f.add false text
    | .quoted text => return f.add true text
    | .senseless => hooks.fail line "Bad substitution"
    | .command script inQuotes => do
      let output ← outputOf hooks script
      return f.addValue (← get) manner inQuotes output
    | .arithmetic expression inQuotes => do
      let text := (← inner true expression).joined.text
      match Arithmetic.evaluate (← get).vars text with
      | .error fault => hooks.fail line (fault.message text)
      | .ok (n, vars) => do
        modify fun r => { r with vars }
        return f.addValue (← get) manner inQuotes (toString n)
    | .variable name inQuotes change => do
      let r ← get
      let value := r.value? name
      let add (text : String) : Fields := f.addValue r manner inQuotes text
      let whole (f : Fields) : Fields :=
        if name = "@" || name = "*" then f.addArguments r manner inQuotes (name == "@")
        else f.addValue r manner inQuotes (value.getD "")
      let isSet := value.isSome || name = "@" || name = "*"
      match change with
      | none =>
        if !isSet && r.isOn 'u' then hooks.fail line (name ++ ": parameter not set")
        else return whole f
      | some .length => return add (toString (value.getD "").length)
      | some (.trim atEnd longest pattern) => do
        let pattern ← inner inQuotes pattern
        let text := (value.getD "").toList
        return add (String.ofList (pattern.joined.trim atEnd longest text))
      | some (.substitute how orEmpty text) => do
        let present := value.isSome && !(orEmpty && value = some "")
        let replacement : Task Fields := do
          match wordOf inQuotes text with
          | .error text => hooks.fail line text
          | .ok word =>
            let f := if inQuotes then f.add true "" else f
            expandParts hooks line fuel { manner with splitsText := manner.splits && !inQuotes } word f
        match how with
        | .use => if present then return whole f else replacement
        | .replace => if present then replacement else return add ""
        | .assign =>
          if present then return whole f
          else
            let text := (← inner inQuotes text).joined.text
            hooks.setVariable line name text
            return f.addValue (← get) manner inQuotes text
        | .complain =>
          if present then return whole f
          else
            let complaint := (← inner inQuotes text).joined.text
            hooks.fail line (name ++ ": " ++ if complaint.isEmpty then
              (if orEmpty then "parameter not set or null" else "parameter not set")
              else complaint)) f

def wordDepth : Nat := 50

def expandTilde (r : Runner) (word : Word) : Word :=
  match word with
  | .text "~" :: rest =>
    let ends : Bool := match rest with
      | [] => true
      | .text text :: _ => text.startsWith "/"
      | _ => false
    match r.vars.get? "HOME" with
    | some home => if ends then .quoted home :: rest else word
    | none => word
  | word => word

def expandWhole (hooks : Hooks) (line : Nat) (word : Word) : Task Field := do
  let fields ← expandParts hooks line wordDepth { splits := false } (expandTilde (← get) word) {}
  return fields.joined

def expandText (hooks : Hooks) (line : Nat) (word : Word) : Task String := do
  return (← expandWhole hooks line word).text

def cutSlashes (field : Field) : List Field :=
  field.foldr (fun (c, quoted) parts =>
    if c = '/' then [] :: parts
    else match parts with
      | part :: others => ((c, quoted) :: part) :: others
      | [] => [[(c, quoted)]]) [[]]

def matchPaths : List Field → List String → Task (List String)
  | [], paths => return paths
  | part :: rest, paths => do
    let found ← paths.mapM fun path => do
      if !part.isPattern then
        if part.isEmpty then return [path ++ (if rest.isEmpty then "" else "/")]
        let whole := path ++ part.text
        match ← perform (.fileInfo whole) with
        | .error _ => return []
        | .ok info =>
          if rest.isEmpty then return [whole]
          else return if info.kind = .directory then [whole ++ "/"] else []
      else
        match ← perform (.entries (if path.isEmpty then "." else path)) with
        | .error _ => return []
        | .ok names =>
          let hidden := (part.head?.map (·.1)) = some '.'
          let names := (if hidden then [".", ".."] ++ names else names).filter fun name =>
            (hidden || !name.startsWith ".") && part.matches name.toList
          if rest.isEmpty then return names.map (path ++ ·)
          else
            let directories ← names.filterM fun name => do
              match ← perform (.fileInfo (path ++ name)) with
              | .ok info => return info.kind = .directory
              | .error _ => return false
            return directories.map fun name => path ++ name ++ "/"
    matchPaths rest found.flatten

def expandNames (field : Field) : Task (List String) := do
  if !field.isPattern || (← get).isOn 'f' then return [field.text]
  let found ← matchPaths (cutSlashes field) [""]
  return if found.isEmpty then [field.text] else found.mergeSort fun a b => a ≤ b

def expandWord (hooks : Hooks) (line : Nat) (word : Word) : Task (List String) := do
  let fields ← expandParts hooks line wordDepth {} (expandTilde (← get) word) {}
  return (← fields.toList.mapM expandNames).flatten

def expandWords (hooks : Hooks) (line : Nat) (words : List Word) : Task (List String) := do
  return (← words.mapM (expandWord hooks line)).flatten

end CommandShell.Script
