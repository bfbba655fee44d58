import CommandShell.Machine.FileSystem

/-!
# A machine

A machine is what programs run on: files, open files, channels between processes, processes and a
clock. A process is a program with descriptors and a working directory. A process that has ended stays
until its parent collects it; one whose parent is gone does not stay.
-/

set_option autoImplicit false

namespace CommandShell

inductive OpenTarget where
  | file (id : NodeId)
  | reader (channel : Nat)
  | writer (channel : Nat)
  /-- What the system tells of itself, as it was when it was opened. -/
  | text (text : String)
  deriving DecidableEq, Repr

/-- An open file. All descriptors that stand for it share its offset. -/
structure OpenFile where
  target : OpenTarget
  readable : Bool
  writable : Bool
  appends : Bool := false
  offset : Nat := 0
  deriving DecidableEq, Repr

/-- Bytes on their way. How often either end was opened lets one end wait for the other. -/
structure Channel where
  queue : ByteArray := .empty
  readersSeen : Nat := 0
  writersSeen : Nat := 0

structure Descriptor where
  openFile : Nat
  closesOnExec : Bool := false
  deriving DecidableEq, Repr

/-- An end of a channel that a process is opening: it waits until the other end has been opened once
more than before. -/
structure Rendezvous where
  openFile : Nat
  channel : Nat
  seen : Nat
  deriving DecidableEq, Repr

structure Process where
  parent : Int
  code : Program Unit
  descriptors : List (Nat × Descriptor) := []
  directory : NodeId := FileSystem.rootId
  /-- The name of the program that it runs, and how it was called. -/
  image : String := ""
  argv : List String := []
  /-- The permissions that what it creates does not get. -/
  mask : Nat := FileSystem.usualMask
  /-- How many descriptors it may have. -/
  descriptorLimit : Nat := 1024
  /-- What is done with signals; the usual thing with those that are not listed. -/
  dispositions : List (Signal × Disposition) := []
  /-- The caught signals that have come. -/
  arrived : List Signal := []
  wakesAt : Option Nat := none
  opening : Option Rendezvous := none
  stopped : Bool := false
  ending : Option Ending := none

structure Machine where
  files : FileSystem := .empty
  openFiles : Array OpenFile := #[]
  channels : Array Channel := #[]
  processes : List (Int × Process) := []
  nextProcess : Int := 2
  /-- Nanoseconds since the beginning of 1970. -/
  clock : Nat := 1700000000000000000
  /-- How many steps the other processes may still make before the main process goes on. -/
  burst : Nat := 0

/-- The process that becomes the parent of those whose parent has ended. -/
def Machine.init : Int := 1

namespace Process

def descriptor? (p : Process) (fd : Nat) : Option Descriptor := p.descriptors.lookup fd

def freeDescriptor (p : Process) : Nat :=
  ((List.range (p.descriptors.length + 1)).find? fun fd => (p.descriptor? fd).isNone).getD 0

def setDescriptor (p : Process) (fd : Nat) (d : Descriptor) : Process :=
  { p with descriptors := (fd, d) :: p.descriptors.filter fun entry => entry.1 != fd }

def dropDescriptor (p : Process) (fd : Nat) : Process :=
  { p with descriptors := p.descriptors.filter fun entry => entry.1 != fd }

def mayOpen (p : Process) : Bool := p.freeDescriptor < p.descriptorLimit

def isLive (p : Process) : Bool := p.ending.isNone

def disposition (p : Process) (signal : Signal) : Disposition :=
  (p.dispositions.lookup signal).getD .usual

def setDisposition (p : Process) (signal : Signal) (disposition : Disposition) : Process :=
  if signal.isSovereign then p
  else { p with dispositions :=
    (signal, disposition) :: p.dispositions.filter fun entry => entry.1 != signal }

end Process

namespace Machine

def process? (m : Machine) (pid : Int) : Option Process := m.processes.lookup pid

def setProcess (m : Machine) (pid : Int) (p : Process) : Machine :=
  { m with processes := m.processes.map fun entry => if entry.1 = pid then (pid, p) else entry }

def modifyProcess (m : Machine) (pid : Int) (f : Process → Process) : Machine :=
  { m with processes := m.processes.map fun entry => if entry.1 = pid then (pid, f entry.2) else entry }

def dropProcess (m : Machine) (pid : Int) : Machine :=
  { m with processes := m.processes.filter fun entry => entry.1 != pid }

def addProcess (m : Machine) (p : Process) : Machine × Int :=
  ({ m with processes := m.processes ++ [(m.nextProcess, p)], nextProcess := m.nextProcess + 1 },
    m.nextProcess)

def openFile? (m : Machine) (pid : Int) (fd : Nat) : Option (Nat × OpenFile) := do
  let p ← m.process? pid
  let d ← p.descriptor? fd
  let file ← m.openFiles[d.openFile]?
  return (d.openFile, file)

def setOpenFile (m : Machine) (number : Nat) (file : OpenFile) : Machine :=
  { m with openFiles := m.openFiles.setIfInBounds number file }

def addOpenFile (m : Machine) (file : OpenFile) : Machine × Nat :=
  ({ m with openFiles := m.openFiles.push file }, m.openFiles.size)

def modifyChannel (m : Machine) (channel : Nat) (f : Channel → Channel) : Machine :=
  { m with channels := m.channels.modify channel f }

def addChannel (m : Machine) : Machine × Nat :=
  ({ m with channels := m.channels.push {} }, m.channels.size)

def queue (m : Machine) (channel : Nat) : ByteArray :=
  match m.channels[channel]? with
  | some channel => channel.queue
  | none => .empty

/-- Whether a process holds this end of a channel, be it only while it opens it. -/
def holdsEnd (m : Machine) (target : OpenTarget) (p : Process) : Bool :=
  let leads (number : Nat) := m.openFiles[number]?.any fun file => file.target == target
  p.isLive && (p.descriptors.any (fun entry => leads entry.2.openFile) ||
    p.opening.any fun r => leads r.openFile)

def hasEnd (m : Machine) (target : OpenTarget) : Bool :=
  m.processes.any fun entry => m.holdsEnd target entry.2

def giveDescriptor (m : Machine) (pid : Int) (openFile : Nat) (closesOnExec : Bool) :
    Machine × Nat :=
  match m.process? pid with
  | none => (m, 0)
  | some p =>
    let fd := p.freeDescriptor
    (m.setProcess pid (p.setDescriptor fd { openFile, closesOnExec }), fd)

/-- Ends a process. Its children go to another parent; those of them that have ended go away, and so
does the process itself if nobody is there to collect it. -/
def finish (m : Machine) (pid : Int) (ending : Ending) : Machine :=
  match m.process? pid with
  | none => m
  | some p =>
    let orphaned := m.processes.filterMap fun (number, child) =>
      if child.parent = pid then
        if child.isLive then some (number, { child with parent := init }) else none
      else some (number, child)
    let m := { m with processes := orphaned }
    let collected := (m.process? p.parent).any Process.isLive
    if collected then
      m.setProcess pid { p with
        code := .done (), descriptors := [], opening := none, wakesAt := none, ending := some ending }
    else m.dropProcess pid

def deliver (m : Machine) (pid : Int) (signal : Signal) : Machine :=
  match m.process? pid with
  | none => m
  | some p =>
    if !p.isLive then m
    else
      let p := if signal = .resume then { p with stopped := false } else p
      match p.disposition signal with
      | .ignored => m.setProcess pid p
      | .outlived => m.setProcess pid (p.setDisposition signal .usual)
      | .caught => m.setProcess pid
        { p with arrived := if p.arrived.contains signal then p.arrived else p.arrived ++ [signal] }
      | .usual =>
        if signal.isHarmless then m.setProcess pid p
        else if signal.stops then m.setProcess pid { p with stopped := true }
        else m.finish pid (.signaled signal false)

def exitCode (status : Int) : Int := status % 256

def processPath? (m : Machine) (path : String) : Option (Process × String) :=
  match path.splitOn "/" with
  | ["", "proc", number, name] => do
    let p ← m.process? (← Text.natural? number.toList)
    if p.isLive then some (p, name) else none
  | _ => none

def imageAt? (m : Machine) (path : String) : Option String :=
  match m.processPath? path with
  | some (p, "exe") => some p.image
  | _ => none

def textAt? (m : Machine) (path : String) : Option String :=
  match m.processPath? path with
  | some (p, "cmdline") => some (String.join (p.argv.map fun word => word ++ "\x00"))
  | _ => none

/-- What a process finds when it asks after a child: which process, if any, and whether there is any
such child at all. A number that is not positive asks after any child. -/
def childFor (m : Machine) (pid child : Int) : Except Errno (Option (Int × Ending)) :=
  let mine := m.processes.filter fun entry =>
    entry.2.parent == pid && (entry.1 == child || child == -1 || child == 0)
  if mine.isEmpty then .error .noChild
  else .ok (mine.findSome? fun (number, p) => p.ending.map fun ending => (number, ending))

end Machine

end CommandShell
