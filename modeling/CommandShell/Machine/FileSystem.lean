import CommandShell.Errno
import CommandShell.Program
import CommandShell.Text.Path

/-!
# The file system of a machine

Files are nodes with numbers; directories name nodes. A path is followed from the root or from the
working directory, name by name. Node 0 is the root, which is its own parent.
-/

set_option autoImplicit false

namespace CommandShell

abbrev NodeId := Nat

inductive FileNode where
  | directory (parent : NodeId) (entries : List (String × NodeId))
  | regular (content : ByteArray)
  | fifo (channel : Nat)
  /-- A device that is always at its end and takes everything. -/
  | null
  /-- A device of zero bytes without end, which takes everything. -/
  | zero
  /-- A device of zero bytes without end, which has room for nothing. -/
  | full
  /-- The terminal that a process belongs to. No process of a machine belongs to one. -/
  | terminal
  /-- What a descriptor of whoever opens it leads to. -/
  | descriptor (number : Nat)
  /-- A program that the machine itself brings. -/
  | tool (name : String)

structure FileEntry where
  node : FileNode
  permissions : Nat

structure FileSystem where
  files : Array FileEntry

namespace FileSystem

def rootId : NodeId := 0

def empty : FileSystem := ⟨#[⟨.directory rootId [], 0o755⟩]⟩

def node? (fs : FileSystem) (id : NodeId) : Option FileNode := (fs.files[id]?).map (·.node)

def permissions (fs : FileSystem) (id : NodeId) : Nat :=
  match fs.files[id]? with
  | some entry => entry.permissions
  | none => 0

def setNode (fs : FileSystem) (id : NodeId) (node : FileNode) : FileSystem :=
  ⟨fs.files.modify id fun entry => { entry with node }⟩

def setPermissions (fs : FileSystem) (id : NodeId) (permissions : Nat) : FileSystem :=
  ⟨fs.files.modify id fun entry => { entry with permissions }⟩

/-- Limits of a name and of a path, in bytes. -/
def nameLimit : Nat := 255
def pathLimit : Nat := 4095

def enter (fs : FileSystem) (id : NodeId) (name : String) : Except Errno NodeId :=
  match fs.node? id with
  | some (.directory parent entries) =>
    if name = "." then .ok id
    else if name = ".." then .ok parent
    else if name.utf8ByteSize > nameLimit then .error .nameTooLong
    else match entries.lookup name with
      | some id => .ok id
      | none => .error .noSuchFile
  | _ => .error .notDirectory

/-- Where a path leads: the directory that it ends in, the last name, and whether a slash follows it.
The root has no last name. -/
structure Place where
  directory : NodeId
  name : Option String
  slash : Bool
  deriving DecidableEq, Repr

def locate (fs : FileSystem) (start : NodeId) (path : String) : Except Errno Place :=
  if path.toList.contains '\x00' then .error .invalidArgument
  else if path.isEmpty then .error .noSuchFile
  else if path.utf8ByteSize > pathLimit then .error .nameTooLong
  else
    let start := if Path.isAbsolute path then rootId else start
    let names := Path.names path
    (names.dropLast.foldlM fs.enter start).map fun directory =>
      { directory, name := names.getLast?, slash := path.endsWith "/" }

def isDirectory (fs : FileSystem) (id : NodeId) : Bool :=
  match fs.node? id with
  | some (.directory ..) => true
  | _ => false

/-- The node at a place. A slash after the name asks for a directory. -/
def nodeAt (fs : FileSystem) (place : Place) : Except Errno NodeId := do
  let id ← match place.name with
    | none => pure place.directory
    | some name => fs.enter place.directory name
  if place.slash && !fs.isDirectory id then .error .notDirectory else .ok id

def resolve (fs : FileSystem) (start : NodeId) (path : String) : Except Errno NodeId := do
  fs.nodeAt (← fs.locate start path)

def insert (fs : FileSystem) (directory : NodeId) (name : String) (entry : FileEntry) :
    FileSystem × NodeId :=
  match fs.node? directory with
  | some (.directory parent entries) =>
    let id := fs.files.size
    let fs : FileSystem := ⟨fs.files.push entry⟩
    (fs.setNode directory (.directory parent (entries ++ [(name, id)])), id)
  | _ => (fs, directory)

def isProper (name : String) : Bool := name != "." && name != ".."

def create (fs : FileSystem) (place : Place) (entry : FileEntry) :
    Except Errno (FileSystem × NodeId) :=
  match place.name with
  | none => .error .alreadyExists
  | some name =>
    if !isProper name then .error .alreadyExists
    else match fs.enter place.directory name with
      | .ok _ => .error .alreadyExists
      | .error e =>
        if e = .noSuchFile then .ok (fs.insert place.directory name entry) else .error e

def unmasked (permissions mask : Nat) : Nat := Nat.land permissions (0o777 - mask)

def usualMask : Nat := 0o022

def filePermissions (mask : Nat) : Nat := unmasked 0o666 mask
def directoryPermissions (mask : Nat) : Nat := unmasked 0o777 mask

def makeDirectory (fs : FileSystem) (mask : Nat) (start : NodeId) (path : String) :
    Except Errno FileSystem := do
  let place ← fs.locate start path
  let (fs, _) ← fs.create place ⟨.directory place.directory [], directoryPermissions mask⟩
  return fs

def makeFifo (fs : FileSystem) (mask : Nat) (start : NodeId) (path : String) (channel : Nat) :
    Except Errno FileSystem := do
  let place ← fs.locate start path
  if place.slash && (fs.nodeAt { place with slash := false }).toOption.isNone then
    .error .noSuchFile
  else
    let (fs, _) ← fs.create place ⟨.fifo channel, filePermissions mask⟩
    return fs

def openForWriting (fs : FileSystem) (mask : Nat) (start : NodeId) (path : String) :
    Except Errno (FileSystem × NodeId) := do
  let place ← fs.locate start path
  match place.name with
  | none => .error .isDirectory
  | some name =>
    if place.slash || !isProper name then .error .isDirectory
    else match fs.enter place.directory name with
      | .ok id => if fs.isDirectory id then .error .isDirectory else .ok (fs, id)
      | .error e =>
        if e = .noSuchFile then
          .ok (fs.insert place.directory name ⟨.regular .empty, filePermissions mask⟩)
        else .error e

def remove (fs : FileSystem) (start : NodeId) (path : String) : Except Errno FileSystem := do
  let place ← fs.locate start path
  let id ← fs.nodeAt place
  match place.name, fs.node? place.directory, fs.node? id with
  | none, _, _ => .error .invalidArgument
  | some _, _, some (.directory _ (_ :: _)) => .error .notEmpty
  | some name, some (.directory parent entries), _ =>
    if !isProper name then .error .invalidArgument
    else .ok (fs.setNode place.directory
      (.directory parent (entries.filter fun entry => entry.1 != name)))
  | some _, _, _ => .error .notDirectory

def entries (fs : FileSystem) (start : NodeId) (path : String) : Except Errno (List String) := do
  match fs.node? (← fs.resolve start path) with
  | some (.directory _ entries) => .ok ((entries.map (·.1)).mergeSort fun a b => a ≤ b)
  | _ => .error .notDirectory

def info (fs : FileSystem) (id : NodeId) : FileInfo :=
  let permissions := fs.permissions id
  match fs.node? id with
  | some (.directory ..) => { kind := .directory, permissions, size := 4096 }
  | some (.regular content) => { kind := .regular, permissions, size := content.size }
  | some (.fifo _) => { kind := .fifo, permissions, size := 0 }
  | some (.tool _) => { kind := .regular, permissions, size := 0 }
  | _ => { kind := .device, permissions, size := 0 }

def namesUp (fs : FileSystem) (id : NodeId) : Nat → Option (List String)
  | 0 => none
  | fuel + 1 =>
    if id = rootId then some []
    else match fs.node? id with
      | some (.directory parent _) =>
        match fs.node? parent with
        | some (.directory _ entries) =>
          match entries.find? fun entry => entry.2 == id with
          | some (name, _) => (namesUp fs parent fuel).map (name :: ·)
          | none => none
        | _ => none
      | _ => none

def pathOf (fs : FileSystem) (id : NodeId) : Except Errno String :=
  match fs.namesUp id (fs.files.size + 1) with
  | some names => .ok ("/" ++ "/".intercalate names.reverse)
  | none => .error .noSuchFile

def ensureDirectory (fs : FileSystem) (start : NodeId) (path : String) : FileSystem × NodeId :=
  (Path.names path).foldl (fun (fs, id) name =>
    match fs.enter id name with
    | .ok id => (fs, id)
    | .error _ => fs.insert id name ⟨.directory id [], directoryPermissions usualMask⟩)
    (fs, if Path.isAbsolute path then rootId else start)

def placeFile (fs : FileSystem) (start : NodeId) (path : String) (entry : FileEntry) : FileSystem :=
  match Path.above path with
  | [] => fs
  | parent :: _ =>
    let (fs, directory) := fs.ensureDirectory start parent
    match (Path.names path).getLast? with
    | none => fs
    | some name =>
      match fs.enter directory name with
      | .ok id => fs.setNode id entry.node
      | .error _ => (fs.insert directory name entry).1

end FileSystem

end CommandShell
