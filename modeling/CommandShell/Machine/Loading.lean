import CommandShell.Machine
import CommandShell.Tool.Table

/-!
# Loading programs

A program is a tool or a file that may be executed. A file whose first line starts with `#!` is run by
the program named there; another one is a script for the system's shell. A name without a slash is
looked for in the directories of `PATH`, and what cannot be executed in one of them is passed over.
-/

set_option autoImplicit false

namespace CommandShell

structure Loaded where
  program : String
  argv : List String
  deriving DecidableEq, Repr

namespace Machine

def interpreter? (content : ByteArray) : Option (String × Option String) :=
  match content.toList.take 256 with
  | 35 :: 33 :: rest =>
    let blank (c : Char) : Bool := c = ' ' || c = '\t'
    let line := (Text.decode ⟨(rest.takeWhile (· != Text.newline)).toArray⟩).toList.dropWhile blank
    let path := line.takeWhile fun c => !blank c
    let argument := ((line.dropWhile fun c => !blank c).dropWhile blank).reverse.dropWhile blank
    if path.isEmpty then none
    else some (String.ofList path,
      if argument.isEmpty then none else some (String.ofList argument.reverse))
  | _ => none

def isExecutable (permissions : Nat) : Bool :=
  permissions % 2 = 1 || permissions / 8 % 2 = 1 || permissions / 64 % 2 = 1

def interpreterDepth : Nat := 6

def loadFile (m : Machine) (directory : NodeId) : Nat → String → List String → Except Errno Loaded
  | 0, _, _ => .error .tooManyLinks
  | depth + 1, path, argv => do
    if let some image := m.imageAt? path then return ⟨image, argv⟩
    let id ← m.files.resolve directory path
    match m.files.node? id with
    | some (.tool name) => return ⟨name, argv⟩
    | some (.regular content) =>
      if !isExecutable (m.files.permissions id) then .error .accessDenied
      else match interpreter? content with
        | none => .error .notExecutable
        | some (program, argument) =>
          loadFile m directory depth program (program :: argument.toList ++ path :: argv.drop 1)
    | _ => .error .accessDenied

def scriptShell : String := "/bin/sh"

def loadPath (m : Machine) (directory : NodeId) (path : String) (argv : List String) :
    Except Errno Loaded :=
  match m.loadFile directory interpreterDepth path argv with
  | .error e =>
    if e = .notExecutable then
      m.loadFile directory interpreterDepth scriptShell (scriptShell :: path :: argv.drop 1)
    else .error e
  | loaded => loaded

/-- Loads the first of some paths that can be. What is missing or may not be executed is passed over,
and `failure` is the error if nothing is found. -/
def loadFirst (m : Machine) (directory : NodeId) (argv : List String) (failure : Errno) :
    List String → Except Errno Loaded
  | [] => .error failure
  | path :: rest =>
    match m.loadPath directory path argv with
    | .ok loaded => .ok loaded
    | .error e =>
      if e = .accessDenied then loadFirst m directory argv e rest
      else if e = .noSuchFile || e = .notDirectory then
        loadFirst m directory argv (if failure = .accessDenied then failure else e) rest
      else .error e

def defaultPath : String := "/bin:/usr/bin"

/-- The longest argument, in bytes. -/
def argumentLimit : Nat := 131071

def load (m : Machine) (directory : NodeId) (file : String) (argv : List String)
    (environment : Variables) : Except Errno Loaded :=
  let fits (text : String) : Bool := text.utf8ByteSize ≤ argumentLimit
  if file.isEmpty then .error .noSuchFile
  else if file.toList.contains '/' then
    if argv.all fits then m.loadPath directory file argv else .error .argumentsTooLong
  else if !argv.all fits then .error .argumentsTooLong
  else
    let path := (environment.get? "PATH").getD defaultPath
    let candidates := (path.splitOn ":").map fun folder =>
      if folder.isEmpty then file else folder ++ "/" ++ file
    m.loadFirst directory argv .noSuchFile candidates

end Machine

end CommandShell
