import CommandShell.Script.Builtin

/-!
# Running scripts

A script is run a line at a time. A child that has nothing left to do after a program becomes that
program itself. What is left of a list is passed over once a loop or a function is to be left.
-/

set_option autoImplicit false

namespace CommandShell.Script

/-- How a command is run: whether it is the last thing that its process does, and whether its status is
only asked about. -/
structure Mode where
  final : Bool := false
  tested : Bool := false

def shownCommand (assignments : List (String × String)) (words : List String) : String :=
  "+ " ++ " ".intercalate (assignments.map (fun (name, value) => name ++ "=" ++ value) ++ words)

def expandAssignments (hooks : Hooks) (c : Simple) : Task (List (String × String)) :=
  c.assignments.mapM fun (name, word) => do return (name, ← expandText hooks c.line word)

def assignAll (hooks : Hooks) (line : Nat) (assignments : List (String × String)) : Task Unit :=
  assignments.forM fun (name, value) => hooks.setVariable line name value

def withAssignments (hooks : Hooks) (line : Nat) (assignments : List (String × String))
    (body : Task Unit) : Task Unit := do
  let before := (← get).vars
  assignAll hooks line assignments
  body
  modify fun r => { r with vars := assignments.foldl (fun vars (name, _) =>
    match before.get? name with
    | some value => vars.set name value
    | none => ⟨vars.entries.filter fun entry => entry.1 != name⟩) r.vars }

def becomeCommand (hooks : Hooks) (c : Simple) (label : String) (argv : List String)
    (assignments : List (String × String)) : Task Unit := do
  match ← redirectAll hooks c.line c.redirects with
  | .error text =>
    complain c.line text
    setStatus 2
  | .ok () =>
    let environment := assignments.foldl (fun vars (name, value) => vars.set name value)
      (← get).environment
    become c.line label argv environment

def runFunction (hooks : Hooks) (tested : Bool) (body : Script) (arguments : List String) :
    Task Unit := do
  let before ← get
  set { before with arguments, hidden := [] :: before.hidden, loops := 0 }
  hooks.run tested body
  modify fun r => { r with
    arguments := before.arguments
    hidden := before.hidden
    loops := before.loops
    skip := if r.skip = some .function then none else r.skip
    vars := (r.hidden.headD []).foldl (fun vars (name, value) => match value with
      | some value => vars.set name value
      | none => ⟨vars.entries.filter fun entry => entry.1 != name⟩) r.vars }

def runWords (hooks : Hooks) (mode : Mode) (c : Simple) (assignments : List (String × String))
    (withFunctions : Bool) (words : List String) : Task Unit := do
  match words with
  | [] => setStatus 0
  | name :: arguments =>
    match (← get).function? name |>.filter fun _ => withFunctions with
    | some body =>
      withRedirects hooks c.line c.redirects
        (withAssignments hooks c.line assignments
          (runFunction hooks mode.tested body arguments)) (pure ())
    | none =>
      let special := withFunctions && specialBuiltins.contains name
      match builtin? hooks c.line name with
      | some builtin =>
        withRedirects hooks c.line c.redirects
          (if special then do
            assignAll hooks c.line assignments
            builtin arguments
          else withAssignments hooks c.line assignments (builtin arguments))
          (if special then hooks.leave else pure ())
      | none =>
        let command := becomeCommand hooks c "" (name :: arguments) assignments
        if mode.final && !(← get).hasActions then command else inChild hooks command

def runSimple (hooks : Hooks) (mode : Mode) (c : Simple) : Task Unit := do
  modify fun r => { r with substituted := none }
  let words ← expandWords hooks c.line c.words
  let assignments ← expandAssignments hooks c
  if (← get).isOn 'x' && !(words.isEmpty && assignments.isEmpty) then
    StateT.lift (Program.remark (shownCommand assignments words))
  match words with
  | [] =>
    withRedirects hooks c.line c.redirects (do
      assignAll hooks c.line assignments
      setStatus ((← get).substituted.getD 0)) (pure ())
  | "exec" :: argv =>
    match ← redirectAll hooks c.line c.redirects with
    | .error text => hooks.fail c.line text
    | .ok () =>
      if argv.isEmpty then setStatus 0
      else
        let environment := assignments.foldl (fun vars (name, value) => vars.set name value)
          (← get).environment
        become c.line "exec: " argv environment
        hooks.leave
  | "command" :: rest =>
    match rest with
    | "-v" :: names =>
      withRedirects hooks c.line c.redirects (describe c.line "command" true (names.take 1)) (pure ())
    | "-V" :: names =>
      withRedirects hooks c.line c.redirects (describe c.line "command" false (names.take 1)) (pure ())
    | words => runWords hooks mode c assignments false words
  | words => runWords hooks mode c assignments true words
  hooks.after

def leaveOnFailure (hooks : Hooks) (mode : Mode) : Task Unit := do
  let r ← get
  if r.isOn 'e' && !mode.tested && r.status ≠ 0 && r.skip.isNone then hooks.leave

def unlessSkipped (body : Task Unit) : Task Unit := do
  if (← get).skip.isNone then body

/-- How many passes a loop may make; one that would make more is taken to go on for ever. -/
def passLimit : Nat := 1000000

def endPass : Task Bool := do
  match (← get).skip with
  | none => return true
  | some .function => return false
  | some (.loops count goesOn) =>
    if count ≤ 1 then
      modify fun r => { r with skip := none }
      return goesOn
    else
      modify fun r => { r with skip := some (.loops (count - 1) goesOn) }
      return false

/-- Makes passes for as long as the condition says; after so many it hangs. The status is that of the
last pass. -/
def passes (condition : Task Bool) (body : Task Unit) : Nat → Int → Task Unit
  | 0, _ => StateT.lift (.call .hang nofun)
  | fuel + 1, status => do
    let goesOn ← condition
    if !(← endPass) then return
    if !goesOn then setStatus status
    else
      body
      let status := (← get).status
      if ← endPass then passes condition body fuel status

def runLoop (condition : Task Bool) (body : Task Unit) : Task Unit := do
  modify fun r => { r with loops := r.loops + 1 }
  passes condition body passLimit 0
  modify fun r => { r with loops := r.loops - 1 }

def eachPass (hooks : Hooks) (line : Nat) (name : String) (body : Task Unit) : List String → Task Unit
  | [] => return
  | word :: rest => do
    hooks.setVariable line name word
    body
    if ← endPass then eachPass hooks line name body rest

end CommandShell.Script

namespace CommandShell

open Script in
def Script.run (hooks : Script.Hooks) (mode : Script.Mode) : Script → Script.Task Unit
  | .empty => return
  | .simple command => do
    runSimple hooks mode command
    leaveOnFailure hooks mode
  | .subshell body => do
    inChild hooks (body.run hooks { mode with final := true })
    hooks.after
    leaveOnFailure hooks mode
  | .redirected line body redirects =>
    match body with
    | .subshell body => do
      inChild hooks do
        match ← redirectAll hooks line redirects with
        | .error text =>
          complain line text
          setStatus 2
        | .ok () => body.run hooks { mode with final := true }
      hooks.after
      leaveOnFailure hooks mode
    | body =>
      withRedirects hooks line redirects (body.run hooks { mode with final := false }) (pure ())
  | .pipe left right => do
    runPipe hooks (left.run hooks { final := true }) (right.run hooks { final := true })
    hooks.after
    leaveOnFailure hooks mode
  | .negated body => do
    body.run hooks { tested := true }
    unlessSkipped (do setStatus (if (← get).status = 0 then 1 else 0))
  | .conjunction left right => do
    left.run hooks { tested := true }
    unlessSkipped do
      if (← get).status = 0 then right.run hooks mode
  | .disjunction left right => do
    left.run hooks { tested := true }
    unlessSkipped do
      if (← get).status ≠ 0 then right.run hooks mode
  | .sequence left .empty => left.run hooks mode
  | .sequence left right => do
    left.run hooks { mode with final := false }
    unlessSkipped (right.run hooks mode)
  | .background body => do
    match ← spawn hooks (do enterBackground; body.run hooks { final := true }) with
    | none => return
    | some child =>
      modify fun r => { r with jobs := r.jobs ++ [child] }
      setStatus 0
  | .choice condition yes no => do
    condition.run hooks { tested := true }
    unlessSkipped do
      if (← get).status = 0 then yes.run hooks mode
      else match no with
        | .empty => setStatus 0
        | no => no.run hooks mode
  | .loop untilTrue condition body =>
    runLoop (do
      condition.run hooks { tested := true }
      return ((← get).status = 0) != untilTrue)
      (body.run hooks { mode with final := false })
  | .each line name words body => do
    let values ← match words with
      | some words => expandWords hooks line words
      | none => pure (← get).arguments
    if values.isEmpty then setStatus 0
    modify fun r => { r with loops := r.loops + 1 }
    eachPass hooks line name (body.run hooks { mode with final := false }) values
    modify fun r => { r with loops := r.loops - 1 }
  | .cases line subject branches => do
    let subject ← expandText hooks line subject
    modify fun r => { r with subject }
    branches.run hooks mode
  | .branch patterns body others => do
    let r ← get
    let fits ← patterns.anyM fun pattern => do
      return (← expandWhole hooks 1 pattern).matches r.subject.toList
    match fits, body, others with
    | true, .empty, _ | false, _, .empty => setStatus 0
    | true, body, _ => body.run hooks mode
    | false, _, others => others.run hooks mode
  | .function name body => do
    modify fun r => { r with functions := (name, body) :: r.functions.filter fun entry => entry.1 != name }
    setStatus 0

namespace Script

/-- Runs the lines of a text up to one that cannot be read. If nothing follows them in the process, the
last one is the last thing that it does. -/
def runLines (hooks : Hooks) (final : Bool) (text : String) : Task Unit := do
  let (scripts, error) := Script.read text
  let runLine (final : Bool) (script : Script) : Task Unit := do
    if !(← get).isOn 'n' then unlessSkipped (script.run hooks { final })
  scripts.dropLast.forM (runLine false)
  scripts.getLast?.toList.forM (runLine (final && error.isNone))
  if let some e := error then
    unlessSkipped (hooks.fail e.line e.text)

def doActions (runText : String → Task Unit) : Task Unit := do
  let status := (← get).status
  (← perform .caught).forM fun signal => do
    if let some text := (← get).action? signal.number then
      runText text
      setStatus status

def doLastAction (runText : String → Task Unit) : Task Unit := do
  if let some text := (← get).action? 0 then
    modify fun r => r.setAction 0 none
    runText text

def Hooks.within : Nat → Hooks
  | 0 => {}
  | fuel + 1 =>
    let inner := Hooks.within fuel
    let run (tested : Bool) (script : Script) : Task Unit := script.run inner { tested }
    { after := doActions (runLines inner false), leaving := doLastAction (runLines inner false), run,
      runText := runLines inner }

def depthLimit : Nat := 1000

end Script

namespace Tool

def runScript (name : String) (arguments : List String) (options : List Char)
    (environment : Variables) (text : String) : Program Unit := do
  let process ← Program.perform .self
  let parent ← Program.perform .parent
  let directory ← Program.perform .directory
  let environment := match directory with
    | .ok path => environment.set "PWD" path
    | .error _ => environment
  let exported := environment.entries.map (·.1)
  let hooks := Script.Hooks.within Script.depthLimit
  let run : Script.Task Unit := do
    Script.runLines hooks false text
    hooks.leave
  let ((), _) ← run
    { name, arguments, options, vars := environment.set "PPID" (toString parent), exported, process }

def scriptOptions : List String → List Char × List String
  | [] => ([], [])
  | word :: rest =>
    match word.toList with
    | '-' :: c :: letters =>
      if word = "--" then ([], rest)
      else
        let (options, words) := scriptOptions rest
        (c :: letters ++ options, words)
    | _ => ([], word :: rest)

def sh : Tool := fun inv => do
  let (letters, words) := scriptOptions inv.arguments
  if let some c := letters.find? fun c => !"cefnsuvxi".toList.contains c then
    Program.remark (inv.name ++ ": 0: Illegal option -" ++ c.toString)
    Program.leave 2
  let options := letters.filter fun c => c != 'c' && c != 's'
  if letters.contains 'c' then
    match words with
    | [] =>
      Program.remark (inv.name ++ ": 0: -c requires an argument")
      Program.leave 2
    | text :: rest =>
      runScript (rest.head?.getD inv.name) (rest.drop 1) options inv.environment text
  else if words.isEmpty || letters.contains 's' then
    match ← Program.perform (.gather 0 .all) with
    | .error _ => Program.leave 0
    | .ok bytes => runScript inv.name words options inv.environment (Text.decode bytes)
  else match words with
    | [] => Program.leave 0
    | path :: rest =>
      match ← Program.readFile path with
      | .error e =>
        Program.remark
          (inv.name ++ ": 0: cannot open " ++ path ++ ": " ++ Script.openText e "No such file")
        Program.leave 2
      | .ok bytes => runScript path rest options inv.environment (Text.decode bytes)

end Tool

end CommandShell
