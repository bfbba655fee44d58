import CommandShell.Machine.Loading

/-!
# Steps of a machine

A step answers one call of one process, or finds that the process has to wait. A call that takes long
is answered in parts: each part leaves a program whose first call asks for the rest.
-/

set_option autoImplicit false

namespace CommandShell

/-- What comes of a call: the program goes on, the process becomes another program or ends, or it
waits. -/
inductive Advance (α : Type) where
  | moved (code : Program α) (m : Machine)
  | became (code : Program Unit) (m : Machine)
  | ended (m : Machine)
  | blocked

inductive Taken where
  | bytes (bytes : ByteArray) (m : Machine)
  | refused (error : Errno)
  | blocked

inductive Given where
  | all (m : Machine)
  | part (rest : ByteArray) (m : Machine)
  | refused (error : Errno)
  | blocked

namespace Machine

variable {α : Type}

def take (m : Machine) (pid : Int) (fd size : Nat) : Taken :=
  match m.openFile? pid fd with
  | none => .refused .badDescriptor
  | some (number, file) =>
    if !file.readable then .refused .badDescriptor
    else match file.target with
      | .writer _ => .refused .badDescriptor
      | .reader channel =>
        let queue := m.queue channel
        if !queue.isEmpty then
          .bytes (queue.extract 0 size) (m.modifyChannel channel fun c =>
            { c with queue := queue.extract size queue.size })
        else if m.hasEnd (.writer channel) then .blocked
        else .bytes .empty m
      | .text text =>
        let bytes := text.toUTF8.extract file.offset (file.offset + size)
        .bytes bytes (m.setOpenFile number { file with offset := file.offset + bytes.size })
      | .file id =>
        match m.files.node? id with
        | some (.directory ..) => .refused .isDirectory
        | some (.regular content) =>
          let bytes := content.extract file.offset (file.offset + size)
          .bytes bytes (m.setOpenFile number { file with offset := file.offset + bytes.size })
        | some .zero | some .full => .bytes ⟨Array.replicate size 0⟩ m
        | _ => .bytes .empty m

/-- How much a channel holds, and how much is written to it all at once or not at all. -/
def channelCapacity : Nat := 65536
def atomicSize : Nat := 4096

def overwrite (content : ByteArray) (offset : Nat) (bytes : ByteArray) : ByteArray :=
  let front := content.extract 0 offset
  let gap : ByteArray := ⟨Array.replicate (offset - front.size) 0⟩
  front ++ gap ++ bytes ++ content.extract (offset + bytes.size) content.size

def give (m : Machine) (pid : Int) (fd : Nat) (bytes : ByteArray) : Given :=
  match m.openFile? pid fd with
  | none => .refused .badDescriptor
  | some (number, file) =>
    if !file.writable then .refused .badDescriptor
    else match file.target with
      | .reader _ | .text _ => .refused .badDescriptor
      | .writer channel =>
        if bytes.isEmpty then .all m
        else if !m.hasEnd (.reader channel) then .refused .brokenPipe
        else
          let queue := m.queue channel
          let room := channelCapacity - queue.size
          let put (part : ByteArray) : Machine :=
            m.modifyChannel channel fun c => { c with queue := queue ++ part }
          if bytes.size ≤ room then .all (put bytes)
          else if bytes.size ≤ atomicSize || room = 0 then .blocked
          else .part (bytes.extract room bytes.size) (put (bytes.extract 0 room))
      | .file id =>
        match m.files.node? id with
        | some (.regular content) =>
          let offset := if file.appends then content.size else file.offset
          let files := m.files.setNode id (.regular (overwrite content offset bytes))
          .all ({ m with files }.setOpenFile number { file with offset := offset + bytes.size })
        | some .full => if bytes.isEmpty then .all m else .refused .noSpace
        | _ => .all m

def goOn (m : Machine) (pid : Int) (code : Program α) : Advance α :=
  if (m.process? pid).any Process.isLive then .moved code m else .ended m

def advanceGather (m : Machine) (pid : Int) (fd : Nat) (extent : Extent)
    (next : Except Errno ByteArray → Program α) : Advance α :=
  let more (bytes : ByteArray) (rest : Extent) (m : Machine) : Advance α :=
    .moved (.call (.gather fd rest) fun reply => next (reply.map (bytes ++ ·))) m
  let size := match extent with
    | .all => channelCapacity
    | .block size => size
    | .bytes count => count
    | .lines _ block => block
  match m.take pid fd size with
  | .blocked => .blocked
  | .refused e => .moved (next (.error e)) m
  | .bytes bytes m =>
    if bytes.isEmpty then .moved (next (.ok bytes)) m
    else match extent with
      | .all => more bytes .all m
      | .block _ => .moved (next (.ok bytes)) m
      | .bytes count =>
        if count ≤ bytes.size then .moved (next (.ok bytes)) m
        else more bytes (.bytes (count - bytes.size)) m
      | .lines count block =>
        let ends := bytes.toList.count Text.newline
        if count ≤ ends then .moved (next (.ok bytes)) m
        else more bytes (.lines (count - ends) block) m

def relaySize : Nat := 131072

/-- Whether two descriptors lead to one file that would grow while it is copied. -/
def growsItself (m : Machine) (pid : Int) (source target : Nat) : Bool :=
  match m.openFile? pid source, m.openFile? pid target with
  | some (_, input), some (_, output) =>
    match input.target, output.target with
    | .file a, .file b =>
      match m.files.node? a with
      | some (.regular content) =>
        a == b && input.offset < if output.appends then content.size else output.offset
      | _ => false
    | _, _ => false
  | _, _ => false

def relayCode (source target : Nat) (next : Except RelayError Unit → Program α) : Program α :=
  .call (.gather source (.block relaySize)) fun
    | .error e => next (.error (.reading e))
    | .ok bytes =>
      if bytes.isEmpty then next (.ok ())
      else .call (.write target bytes) fun
        | .error e => next (.error (.writing e))
        | .ok () => .call (.relay source target) next

def behind (m : Machine) (pid : Int) (id : NodeId) : Except Errno OpenTarget :=
  match m.files.node? id with
  | some (.descriptor fd) =>
    match m.openFile? pid fd with
    | some (_, file) => .ok file.target
    | none => .error .noSuchFile
  | some .terminal => .error .noDevice
  | _ => .ok (.file id)

def infoBehind (m : Machine) (pid : Int) (id : NodeId) : Except Errno FileInfo :=
  match m.files.node? id with
  | some (.descriptor fd) =>
    match m.openFile? pid fd with
    | some (_, file) =>
      match file.target with
      | .file id => .ok (m.files.info id)
      | .reader _ | .writer _ => .ok { kind := .fifo, permissions := 0o600, size := 0 }
      | .text _ => .ok { kind := .regular, permissions := 0o444, size := 0 }
    | none => .error .noSuchFile
  | _ => .ok (m.files.info id)

def openTarget (m : Machine) (access : Access) (target : OpenTarget) :
    Machine × OpenFile × Option Nat :=
  let reading := access == .read
  let file : OpenFile :=
    { target, readable := reading, writable := !reading, appends := access == .append }
  match target with
  | .reader channel | .writer channel =>
    (m, { file with target := if reading then .reader channel else .writer channel }, none)
  | .text _ => (m, file, none)
  | .file id =>
    match m.files.node? id with
    | some (.fifo channel) =>
      (m, { file with target := if reading then .reader channel else .writer channel }, some channel)
    | some (.regular _) =>
      if access == .truncate then
        ({ m with files := m.files.setNode id (.regular .empty) }, file, none)
      else (m, file, none)
    | _ => (m, file, none)

/-- Opens a file. An end of a channel waits for the other end, and counts as open meanwhile. -/
def advanceOpen (m : Machine) (pid : Int) (p : Process) (path : String) (access : Access)
    (next : Except Errno Nat → Program α) : Advance α :=
  let opposite (file : OpenFile) (channel : Nat) : OpenTarget :=
    if file.readable then .writer channel else .reader channel
  let seen (m : Machine) (file : OpenFile) (channel : Nat) : Nat :=
    match m.channels[channel]? with
    | some c => if file.readable then c.writersSeen else c.readersSeen
    | none => 0
  let complete (m : Machine) (number : Nat) : Advance α :=
    let m := m.modifyProcess pid fun p => { p with opening := none }
    let (m, fd) := m.giveDescriptor pid number false
    .moved (next (.ok fd)) m
  match p.opening with
  | some r =>
    match m.openFiles[r.openFile]? with
    | none => .moved (next (.error .badDescriptor)) m
    | some file =>
      if seen m file r.channel ≠ r.seen then complete m r.openFile else .blocked
  | none =>
    if !p.mayOpen then .moved (next (.error .tooManyOpen)) m
    else
      let found : Except Errno (FileSystem × OpenTarget) := do
        if let some text := (m.textAt? path).filter fun _ => access == .read then
          return (m.files, .text text)
        let (files, id) ←
          if access == .read then (m.files.resolve p.directory path).map fun id => (m.files, id)
          else m.files.openForWriting p.mask p.directory path
        return (files, ← m.behind pid id)
      match found with
      | .error e => .moved (next (.error e)) m
      | .ok (files, target) =>
        let (m, file, channel) := { m with files }.openTarget access target
        let (m, number) := m.addOpenFile file
        match channel with
        | none => complete m number
        | some channel =>
          let m := m.modifyChannel channel fun c =>
            if file.readable then { c with readersSeen := c.readersSeen + 1 }
            else { c with writersSeen := c.writersSeen + 1 }
          if m.hasEnd (opposite file channel) then complete m number
          else
            let opening : Rendezvous := { openFile := number, channel, seen := seen m file channel }
            .moved (.call (.openFile path access) next)
              (m.modifyProcess pid fun p => { p with opening := some opening })

def openPipe (m : Machine) (pid : Int) (p : Process) : Except Errno (Machine × Nat × Nat) :=
  let reader := p.freeDescriptor
  let writer := (p.setDescriptor reader { openFile := 0 }).freeDescriptor
  if p.descriptorLimit ≤ reader || p.descriptorLimit ≤ writer then .error .tooManyOpen
  else
    let (m, channel) := m.addChannel
    let (m, readEnd) := m.addOpenFile { target := .reader channel, readable := true, writable := false }
    let (m, writeEnd) := m.addOpenFile { target := .writer channel, readable := false, writable := true }
    let (m, reader) := m.giveDescriptor pid readEnd false
    let (m, writer) := m.giveDescriptor pid writeEnd false
    .ok (m, reader, writer)

def advanceExec (m : Machine) (pid : Int) (p : Process) (file : String) (argv : List String)
    (environment : Variables) (next : Errno → Program α) : Advance α :=
  match m.load p.directory file argv environment with
  | .error e => .moved (next e) m
  | .ok loaded =>
    let code := match Tool.program? loaded.program with
      | none => Program.leave 127
      | some tool =>
        tool { name := loaded.argv.head?.getD "", arguments := loaded.argv.drop 1, environment }
    .became code (m.setProcess pid { p with
      image := loaded.program
      argv := loaded.argv
      descriptors := p.descriptors.filter fun entry => !entry.2.closesOnExec
      dispositions := p.dispositions.filter fun entry => entry.2 = .ignored
      arrived := [] })

def advanceFiles (m : Machine) (changed : Except Errno FileSystem)
    (next : Except Errno Unit → Program α) : Advance α :=
  match changed with
  | .error e => .moved (next (.error e)) m
  | .ok files => .moved (next (.ok ())) { m with files }

def advance (m : Machine) (pid : Int) (p : Process) :
    (c : Call) → (c.Reply → Program α) → Advance α
  | .fork, next =>
    let (m, child) := m.addProcess
      { p with parent := pid, code := (next (.ok .child)).discard, arrived := [] }
    .moved (next (.ok (.parent child))) m
  | .exit status, _ => .ended (m.finish pid (.exited (exitCode status)))
  | .crash, _ => .ended (m.finish pid (.exited crashStatus))
  | .exec file argv environment, next => m.advanceExec pid p file argv environment next
  | .wait child, next =>
    match m.childFor pid child with
    | .error _ => .moved (next .missing) m
    | .ok none => .blocked
    | .ok (some (number, ending)) => .moved (next (.ended ending)) (m.dropProcess number)
  | .poll child, next =>
    match m.childFor pid child with
    | .error e => .moved (next (.error e)) m
    | .ok none => .moved (next (.ok .alive)) m
    | .ok (some (number, ending)) => .moved (next (.ok (.ended ending))) (m.dropProcess number)
  | .kill target signal, next =>
    match m.process? target, signal with
    | none, _ => .moved (next (.error .noSuchProcess)) m
    | some _, none => .moved (next (.ok ())) m
    | some _, some signal => (m.deliver target signal).goOn pid (next (.ok ()))
  | .disposition signal, next => .moved (next (p.disposition signal)) m
  | .setDisposition signals disposition, next =>
    .moved (next ()) (m.modifyProcess pid fun p =>
      signals.foldl (fun p signal => p.setDisposition signal disposition) p)
  | .caught, next => .moved (next p.arrived) (m.modifyProcess pid fun p => { p with arrived := [] })
  | .self, next => .moved (next pid) m
  | .parent, next => .moved (next p.parent) m
  | .sleep nanoseconds, next =>
    match p.wakesAt with
    | none =>
      .moved (.call (.sleep nanoseconds) next)
        (m.modifyProcess pid fun p => { p with wakesAt := some (m.clock + nanoseconds) })
    | some moment =>
      if moment ≤ m.clock then
        .moved (next ()) (m.modifyProcess pid fun p => { p with wakesAt := none })
      else .blocked
  | .hang, _ => .blocked
  | .now, next => .moved (next (m.clock / 1000000000)) m
  | .pipe, next =>
    match m.openPipe pid p with
    | .error e => .moved (next (.error e)) m
    | .ok (m, reader, writer) => .moved (next (.ok (reader, writer))) m
  | .openFile path access, next => m.advanceOpen pid p path access next
  | .duplicate source target, next =>
    match p.descriptor? source with
    | none => .moved (next (.error .badDescriptor)) m
    | some d =>
      if source = target then .moved (next (.ok ())) m
      else .moved (next (.ok ()))
        (m.setProcess pid (p.setDescriptor target { d with closesOnExec := false }))
  | .close fd, next =>
    match p.descriptor? fd with
    | none => .moved (next (.error .badDescriptor)) m
    | some _ => .moved (next (.ok ())) (m.setProcess pid (p.dropDescriptor fd))
  | .closeOnExec fd, next =>
    match p.descriptor? fd with
    | none => .moved (next (.error .badDescriptor)) m
    | some d =>
      .moved (next (.ok ())) (m.setProcess pid (p.setDescriptor fd { d with closesOnExec := true }))
  | .write fd bytes, next =>
    match m.give pid fd bytes with
    | .all m => .moved (next (.ok ())) m
    | .part rest m => .moved (.call (.write fd rest) next) m
    | .refused e =>
      (if e = .brokenPipe then m.deliver pid .brokenPipe else m).goOn pid (next (.error e))
    | .blocked => .blocked
  | .gather fd extent, next => m.advanceGather pid fd extent next
  | .relay source target, next =>
    if m.growsItself pid source target then .moved (next (.error .itself)) m
    else .moved (relayCode source target next) m
  | .flood target bytes, next =>
    .moved (.call (.write target bytes) fun
      | .error e => next e
      | .ok () => .call (.flood target bytes) next) m
  | .mask change, next =>
    .moved (next p.mask) (m.modifyProcess pid fun p => { p with mask := change.getD p.mask })
  | .descriptorLimit change, next =>
    .moved (next p.descriptorLimit) (m.modifyProcess pid fun p =>
      { p with descriptorLimit := change.getD p.descriptorLimit })
  | .changeDirectory path, next =>
    match m.files.resolve p.directory path with
    | .error e => .moved (next (.error e)) m
    | .ok id =>
      if m.files.isDirectory id then
        .moved (next (.ok ())) (m.setProcess pid { p with directory := id })
      else .moved (next (.error .notDirectory)) m
  | .directory, next => .moved (next (m.files.pathOf p.directory)) m
  | .fileInfo path, next =>
    .moved (next ((m.files.resolve p.directory path).bind (m.infoBehind pid))) m
  | .makeDirectory path, next => m.advanceFiles (m.files.makeDirectory p.mask p.directory path) next
  | .makeFifo path, next =>
    let (m, channel) := m.addChannel
    m.advanceFiles (m.files.makeFifo p.mask p.directory path channel) next
  | .remove path, next => m.advanceFiles (m.files.remove p.directory path) next
  | .entries path, next => .moved (next (m.files.entries p.directory path)) m

def stepProcess (m : Machine) (pid : Int) (p : Process) : Option Machine :=
  if !p.isLive || p.stopped then none
  else match p.code with
    | .done () => some (m.finish pid (.exited 0))
    | .call c next =>
      match m.advance pid p c next with
      | .moved code m => some (m.modifyProcess pid fun p => { p with code })
      | .became code m => some (m.modifyProcess pid fun p => { p with code })
      | .ended m => some m
      | .blocked => none

def stepAny (m : Machine) (main : Int) : Option Machine :=
  m.processes.findSome? fun (pid, p) => if pid = main then none else m.stepProcess pid p

def passTime (m : Machine) : Option Machine :=
  let moments := m.processes.filterMap fun (_, p) =>
    if p.isLive && !p.stopped then p.wakesAt else none
  match moments.min? with
  | some moment => if m.clock < moment then some { m with clock := moment } else none
  | none => none

/-- How long a step takes, in nanoseconds. -/
def stepTime : Nat := 10000

def burstSize : Nat := 1000

def rotate (m : Machine) : Machine :=
  { m with processes := m.processes.drop 1 ++ m.processes.take 1 }

/-- A step of another process in a burst; none if the burst is over or all of them wait. After a whole
burst another process comes first, so that none is kept waiting by one that never waits. -/
def stepBurst (m : Machine) (main : Int) : Option Machine :=
  match m.burst with
  | 0 => none
  | burst + 1 => (m.stepAny main).map fun m =>
    let m := { m with burst, clock := m.clock + stepTime }
    if burst = 0 then m.rotate else m

def pass (m : Machine) (main : Int) : Option Machine :=
  let m := if m.burst = 0 then { m with burst := burstSize } else m
  (m.stepBurst main).or m.passTime

/-- Runs a program as the main process, in at most so many steps. Once it has waited, the others go on
until all of them wait, and only then it goes on itself. There is no result if the process ends or can
never go on. -/
def run (main : Int) : Nat → Machine → Program α → Option α × Machine
  | 0, m, _ => (none, m)
  | _ + 1, m, .done result => (some result, m)
  | fuel + 1, m, .call c next =>
    match m.stepBurst main with
    | some m => run main fuel m (.call c next)
    | none =>
      let m := { m with burst := 0 }
      match m.process? main with
      | none => (none, m)
      | some p =>
        match m.advance main p c next with
        | .moved code m => run main fuel m code
        | .became _ m => (none, m)
        | .ended m => (none, m)
        | .blocked =>
          match m.pass main with
          | some m => run main fuel m (.call c next)
          | none => (none, m)

def settle (main : Int) (children : List Int) : Nat → Machine → Machine
  | 0, m => m
  | fuel + 1, m =>
    if children.any fun pid => (m.process? pid).any Process.isLive then
      match m.pass main with
      | some m => settle main children fuel m
      | none => m
    else m

end Machine

end CommandShell
