import CommandShell.Script.Expansion

/-!
# Redirections of scripts
-/

set_option autoImplicit false

namespace CommandShell.Script

def openText (e : Errno) (missing : String) : String :=
  if e = .noSuchFile || e = .notDirectory then missing else e.systemText

/-- Lets a text be read on a descriptor. A child writes what a channel cannot hold. -/
def provide (hooks : Hooks) (text : String) (target : Nat) : Task (Except String Unit) := do
  match ← perform .pipe with
  | .error e => return .error ("Pipe call failed: " ++ e.systemText)
  | .ok (reader, writer) =>
    let bytes := text.toUTF8
    if bytes.size ≤ 4096 then
      let _ ← perform (.write writer bytes)
    else
      let _ ← spawn hooks do
        let _ ← perform (.close reader)
        let _ ← perform (.write writer bytes)
    let _ ← perform (.close writer)
    place reader target
    return .ok ()

def redirect (hooks : Hooks) (line : Nat) (r : Redirect) : Task (Except String Unit) := do
  let openAs (file : Word) (access : Access) (verb missing : String) : Task (Except String Unit) := do
    let path ← expandText hooks line file
    match ← perform (.openFile path access) with
    | .ok descriptor =>
      place descriptor r.descriptor
      return .ok ()
    | .error e => return .error ("cannot " ++ verb ++ " " ++ path ++ ": " ++ openText e missing)
  match r.target with
  | .read file => openAs file .read "open" "No such file"
  | .write file => openAs file .truncate "create" "Directory nonexistent"
  | .append file => openAs file .append "create" "Directory nonexistent"
  | .change file => do
    match ← openAs file .touch "create" "Directory nonexistent" with
    | .error text => return .error text
    | .ok () => openAs file .read "open" "No such file"
  | .document word => do
    let fields ← expandParts hooks line wordDepth { splits := false } word {}
    provide hooks fields.joined.text r.descriptor
  | .copy word =>
    let text ← expandText hooks line word
    if text = "-" then
      let _ ← perform (.close r.descriptor)
      return .ok ()
    else match Text.natural? text.toList with
      | none => return .error "Syntax error: Bad fd number"
      | some source =>
        match ← perform (.duplicate source r.descriptor) with
        | .ok () => return .ok ()
        | .error e => return .error (text ++ ": " ++ e.systemText)

def redirectAll (hooks : Hooks) (line : Nat) : List Redirect → Task (Except String Unit)
  | [] => return .ok ()
  | r :: rest => do
    match ← redirect hooks line r with
    | .ok () => redirectAll hooks line rest
    | .error text => return .error text

/-- Where descriptors are kept while a redirection is in force. -/
def keptFrom : Nat := 10

def keep (slot : Nat) : List Redirect → Task (List (Nat × Option Nat))
  | [] => return []
  | r :: rest => do
    let saved ← perform (.duplicate r.descriptor slot)
    if saved.isOk then
      let _ ← perform (.closeOnExec slot)
    let others ← keep (slot + 1) rest
    return (r.descriptor, if saved.isOk then some slot else none) :: others

def restore : List (Nat × Option Nat) → Task Unit
  | [] => return
  | (descriptor, some slot) :: rest => do
    let _ ← perform (.duplicate slot descriptor)
    let _ ← perform (.close slot)
    restore rest
  | (descriptor, none) :: rest => do
    let _ ← perform (.close descriptor)
    restore rest

def withRedirects (hooks : Hooks) (line : Nat) (redirects : List Redirect) (body : Task Unit)
    (failed : Task Unit) : Task Unit := do
  let count := (← get).kept
  let kept ← keep (keptFrom + count) redirects
  modify fun r => { r with kept := count + redirects.length }
  match ← redirectAll hooks line redirects with
  | .ok () => body
  | .error text =>
    complain line text
    setStatus 2
    failed
  modify fun r => { r with kept := count }
  restore kept.reverse

end CommandShell.Script
