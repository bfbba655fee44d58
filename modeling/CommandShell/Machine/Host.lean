import CommandShell.Machine.Step
import CommandShell.Text.Utf8

/-!
# Hosting a program

A host is a machine with the usual files and one main process. The standard input of that process is a
file with given bytes, and what it and its children write on the standard output and the standard error
is kept.
-/

set_option autoImplicit false

namespace CommandShell

structure Host where
  machine : Machine
  /-- The main process. -/
  main : Int
  output : NodeId
  errors : NodeId

namespace Host

def toolDirectory : String := "/usr/bin"

def devices : List (String × FileNode) :=
  [("null", .null), ("zero", .zero), ("full", .full), ("tty", .terminal), ("stdin", .descriptor 0),
    ("stdout", .descriptor 1), ("stderr", .descriptor 2)]

def usualFiles : FileSystem :=
  let fs := FileSystem.empty
  let (fs, tools) := fs.ensureDirectory FileSystem.rootId toolDirectory
  let fs := Tool.all.foldl (fun (fs : FileSystem) (name, _) =>
    (fs.insert tools name ⟨.tool name, 0o755⟩).1) fs
  let fs := match fs.node? FileSystem.rootId with
    | some (.directory parent entries) =>
      fs.setNode FileSystem.rootId (.directory parent (entries ++ [("bin", tools)]))
    | _ => fs
  let (fs, place) := fs.ensureDirectory FileSystem.rootId "/dev"
  let fs := devices.foldl (fun (fs : FileSystem) (name, node) =>
    (fs.insert place name ⟨node, 0o666⟩).1) fs
  (fs.ensureDirectory FileSystem.rootId "/tmp").1

def addLoose (fs : FileSystem) (content : ByteArray) : FileSystem × NodeId :=
  (⟨fs.files.push ⟨.regular content, FileSystem.filePermissions FileSystem.usualMask⟩⟩, fs.files.size)

def mainProcess : Int := 100

/-- A host whose main process has these files, this working directory and this input. It sees a broken
pipe in the reply to a write, so it ignores the signal, and so do the programs that it starts. It looks at
a signal that tells of a wrong access to memory, and goes on if there was none. -/
def start (files : FileSystem) (directory : NodeId) (input : ByteArray) : Host :=
  let (files, source) := addLoose files input
  let (files, output) := addLoose files .empty
  let (files, errors) := addLoose files .empty
  let openFiles : Array OpenFile := #[
    { target := .file source, readable := true, writable := false },
    { target := .file output, readable := false, writable := true, appends := true },
    { target := .file errors, readable := false, writable := true, appends := true }]
  let main : Process :=
    { parent := Machine.init, code := .done (), directory, image := Tool.shellName
      argv := [Tool.shellName]
      dispositions := (.brokenPipe, .ignored) :: Signal.ofMemory.map fun signal => (signal, .outlived)
      descriptors := [(0, { openFile := 0 }), (1, { openFile := 1 }), (2, { openFile := 2 })] }
  { machine :=
      { files, openFiles, processes := [(mainProcess, main)], nextProcess := mainProcess + 1 }
    main := mainProcess, output, errors }

def stepLimit : Nat := 5000000

def run {α : Type} (host : Host) (program : Program α) : Option α × Host :=
  let (result, machine) := Machine.run host.main stepLimit host.machine program
  (result, { host with machine })

def settle (host : Host) (children : List Int) : Host :=
  { host with machine := Machine.settle host.main children stepLimit host.machine }

def runLimited {α : Type} (host : Host) (limit : Nat) (program : Program α) : Option α × Host :=
  let limited : Program α := do
    let usual ← Program.perform (.descriptorLimit (some limit))
    let result ← program
    let _ ← Program.perform (.descriptorLimit (some usual))
    return result
  host.run limited

def content (host : Host) (id : NodeId) : ByteArray :=
  match host.machine.files.node? id with
  | some (.regular content) => content
  | _ => .empty

def writtenFrom (host : Host) (output errors : Nat) : ByteArray × ByteArray :=
  let since (id : NodeId) (position : Nat) : ByteArray :=
    (host.content id).extract position (host.content id).size
  (since host.output output, since host.errors errors)

def directory (host : Host) : NodeId :=
  match host.machine.process? host.main with
  | some p => p.directory
  | none => FileSystem.rootId

def fileContent? (host : Host) (start : NodeId) (path : String) : Option ByteArray :=
  match host.machine.files.resolve start path with
  | .ok id =>
    match host.machine.files.node? id with
    | some (.regular content) => some content
    | some .null => some .empty
    | _ => none
  | .error _ => none

end Host

end CommandShell
