import CommandShell.Text.Alphanumeric
import CommandShell.Text.Blank
import CommandShell.Variables

/-!
# Files of environment settings

Each line sets a variable: an optional `export`, a key, an equals sign and a value. A value may have
parts in quotes, escapes, and references to variables that are set already. A variable that the
environment has keeps its value. The first line that cannot be read ends the file; what the lines
before it set stays set.
-/

set_option autoImplicit false

namespace CommandShell.EnvFile

inductive Quoting where
  | bare
  | single
  | double
  deriving DecidableEq, Repr

inductive Reference where
  | named (name : String)
  | braced (name : String)
  deriving DecidableEq, Repr

structure ValueReader where
  output : String := ""
  quoting : Quoting := .bare
  reference : Option Reference := none
  /-- A backslash came just before. -/
  escaped : Bool := false
  /-- A blank has ended the value; only more blanks and a comment may follow. -/
  ended : Bool := false
  deriving DecidableEq, Repr

namespace ValueReader

variable (lookup : String → String)

def stepBare (r : ValueReader) (c : Char) : ValueReader :=
  if c = '\'' then { r with quoting := .single }
  else if c = '"' then { r with quoting := .double }
  else if c = '\\' then { r with escaped := true }
  else if c = ' ' || c = '\t' then { r with ended := true }
  else { r with output := r.output.push c }

def stepDouble (r : ValueReader) (c : Char) : ValueReader :=
  if c = '"' then { r with quoting := .bare }
  else if c = '\\' then { r with escaped := true }
  else { r with output := r.output.push c }

/-- A character after a reference has begun. What ends the name of a reference without braces is taken
literally, unless it begins another reference. -/
def stepReference (r : ValueReader) (reference : Reference) (c : Char) : ValueReader :=
  match reference with
  | .named name =>
    if Text.isAlphanumeric c then { r with reference := some (.named (name.push c)) }
    else if c = '{' && name.isEmpty then { r with reference := some (.braced "") }
    else if c = '$' then
      { r with output := r.output ++ lookup name, reference := some (.named "") }
    else { r with output := (r.output ++ lookup name).push c, reference := none }
  | .braced name =>
    if c = '}' then { r with output := r.output ++ lookup name, reference := none }
    else { r with reference := some (.braced (name.push c)) }

def stepEscaped (r : ValueReader) (c : Char) : Option ValueReader :=
  if "\\'\"$ ".toList.contains c then some { r with output := r.output.push c, escaped := false }
  else if c = 'n' then some { r with output := r.output.push '\n', escaped := false }
  else none

def finish (r : ValueReader) : Option String :=
  match r.quoting, r.reference with
  | .bare, none => some r.output
  | .bare, some (.named name) => some (r.output ++ lookup name)
  | _, _ => none

def read (r : ValueReader) : List Char → Option String
  | [] => r.finish lookup
  | c :: rest =>
    if r.ended then
      if c = ' ' || c = '\t' then r.read rest
      else if c = '#' then r.finish lookup
      else none
    else if r.escaped then (r.stepEscaped c).bind fun r => r.read rest
    else if r.quoting = .single then
      if c = '\'' then { r with quoting := .bare }.read rest
      else { r with output := r.output.push c }.read rest
    else match r.reference with
      | some reference => (r.stepReference lookup reference c).read rest
      | none =>
        if c = '$' then { r with reference := some (.named "") }.read rest
        else if r.quoting = .double then (r.stepDouble c).read rest
        else (r.stepBare c).read rest

end ValueReader

def isKeyStart (c : Char) : Bool := c.isAlpha || c = '_'

def isKeyChar (c : Char) : Bool := c.isAlphanum || c = '_' || c = '.'

def readKey : List Char → Option (String × List Char)
  | [] => none
  | c :: rest =>
    if isKeyStart c then
      some (String.ofList (c :: rest.takeWhile isKeyChar), rest.dropWhile isKeyChar)
    else none

def afterEquals : List Char → Option (List Char)
  | '=' :: rest => some (rest.dropWhile Text.isBlank)
  | _ => none

/-- The key of a line and the text of its value. The word `export` may stand before the key, or be the
key. -/
def readSetting (line : List Char) : Option (String × List Char) := do
  let (key, rest) ← readKey line
  let rest := rest.dropWhile Text.isBlank
  match key, afterEquals rest with
  | _, some value => some (key, value)
  | "export", none =>
    let (key, rest) ← readKey rest
    let value ← afterEquals (rest.dropWhile Text.isBlank)
    some (key, value)
  | _, none => none

def value (environment : Variables) (name : String) : String := (environment.get? name).getD ""

def setNew (environment : Variables) (key value : String) : Variables :=
  if (environment.get? key).isSome then environment else environment.set key value

def readLine (environment : Variables) (line : String) : Option Variables :=
  match (Text.trim line).toList with
  | [] => some environment
  | '#' :: _ => some environment
  | chars => do
    let (key, text) ← readSetting chars
    match text with
    | [] => some (setNew environment key "")
    | '#' :: _ => some (setNew environment key "")
    | text => (ValueReader.read (value environment) {} text).map (setNew environment key)

def load (environment : Variables) : List String → Variables
  | [] => environment
  | line :: rest =>
    match readLine environment line with
    | none => environment
    | some environment => load environment rest

end CommandShell.EnvFile
