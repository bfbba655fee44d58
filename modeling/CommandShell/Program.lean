import CommandShell.Errno
import CommandShell.Variables
import CommandShell.WaitStatus

/-!
# Programs

A program is a tree: it has come to its result, or it makes a call to the system and goes on as the
reply says. The tree has a branch for every reply, so what holds along all branches holds for every
behaviour of the system. A process that forks goes on in two branches, one in each process. Text that
a program prints has to be taken: where it is refused, the process crashes.

Calls that a program would repeat without a bound of its own are single calls here: reading to the end
of the input, copying one descriptor to another, writing the same bytes for as long as they are taken,
and waiting for a child. The reply to a wait has the answers to all its repetitions, for the program
goes by each of them.
-/

set_option autoImplicit false

namespace CommandShell

/-- How a file is opened. All but reading create the file where there is none. -/
inductive Access where
  | read
  | truncate
  | append
  | touch
  deriving DecidableEq, Repr

def Access.flags : Access → List String
  | .read => ["O_RDONLY"]
  | .truncate => ["O_CREAT", "O_TRUNC", "O_WRONLY"]
  | .append => ["O_APPEND", "O_CREAT", "O_WRONLY"]
  | .touch => ["O_CREAT", "O_WRONLY"]

inductive FileKind where
  | directory
  | regular
  | fifo
  | device
  deriving DecidableEq, Repr

structure FileInfo where
  kind : FileKind
  permissions : Nat
  size : Nat
  deriving DecidableEq, Repr

/-- How far to read: to the end, what is there of one block, so many bytes, or block by block until so
many lines have ended. The input may end before. -/
inductive Extent where
  | all
  | block (size : Nat)
  | bytes (count : Nat)
  | lines (count block : Nat)
  deriving DecidableEq, Repr

inductive Forked where
  | child
  | parent (child : Int)
  deriving DecidableEq, Repr

/-- Why a copy failed: at one of its ends, or because a file would be copied to its own end. -/
inductive RelayError where
  | itself
  | reading (error : Errno)
  | writing (error : Errno)
  deriving DecidableEq, Repr

inductive Call where
  | fork
  | exit (status : Int)
  /-- Ends the process where a program finds that it cannot go on; the status is `crashStatus`. -/
  | crash
  | exec (file : String) (argv : List String) (environment : Variables)
  /-- Blocks until the child has ended, and collects it; made again until it is settled. -/
  | wait (child : Int)
  /-- Collects the child if it has ended. -/
  | poll (child : Int)
  /-- Sends a signal; without one it only asks whether the process is there. -/
  | kill (process : Int) (signal : Option Signal)
  | disposition (signal : Signal)
  | setDisposition (signals : List Signal) (disposition : Disposition)
  /-- The caught signals that have come since the last such call. -/
  | caught
  | self
  | parent
  | sleep (nanoseconds : Nat)
  /-- Waits for ever. -/
  | hang
  | now
  | pipe
  | openFile (path : String) (access : Access)
  | duplicate (source target : Nat)
  | close (descriptor : Nat)
  | closeOnExec (descriptor : Nat)
  /-- The permissions that new files do not get; they may be set anew. -/
  | mask (change : Option Nat)
  /-- How many descriptors the process may have; it may be set anew. -/
  | descriptorLimit (change : Option Nat)
  | write (descriptor : Nat) (bytes : ByteArray)
  | gather (descriptor : Nat) (extent : Extent)
  /-- Copies all of one descriptor to another. -/
  | relay (source target : Nat)
  /-- Writes the same bytes again and again. -/
  | flood (target : Nat) (bytes : ByteArray)
  | changeDirectory (path : String)
  | directory
  | fileInfo (path : String)
  | makeDirectory (path : String)
  | makeFifo (path : String)
  | remove (path : String)
  | entries (path : String)

/-- What the system replies. Leaving, crashing and waiting for ever have no reply, and `exec` one only
where it fails. -/
@[reducible] def Call.Reply : Call → Type
  | .fork => Except Errno Forked
  | .exit _ => Empty
  | .crash => Empty
  | .exec .. => Errno
  | .wait _ => Wait
  | .poll _ => Except Errno WaitStatus
  | .kill .. => Except Errno Unit
  | .disposition _ => Disposition
  | .setDisposition .. => Unit
  | .caught => List Signal
  | .self => Int
  | .parent => Int
  | .sleep _ => Unit
  | .hang => Empty
  | .now => Nat
  | .pipe => Except Errno (Nat × Nat)
  | .openFile .. => Except Errno Nat
  | .duplicate .. => Except Errno Unit
  | .close _ => Except Errno Unit
  | .closeOnExec _ => Except Errno Unit
  | .mask _ => Nat
  | .descriptorLimit _ => Nat
  | .write .. => Except Errno Unit
  | .gather .. => Except Errno ByteArray
  | .relay .. => Except RelayError Unit
  | .flood .. => Errno
  | .changeDirectory _ => Except Errno Unit
  | .directory => Except Errno String
  | .fileInfo _ => Except Errno FileInfo
  | .makeDirectory _ => Except Errno Unit
  | .makeFifo _ => Except Errno Unit
  | .remove _ => Except Errno Unit
  | .entries _ => Except Errno (List String)

def crashStatus : Int := 101

inductive Program (α : Type) where
  | done (result : α)
  | call (c : Call) (next : c.Reply → Program α)

namespace Program

variable {α β γ : Type}

def bind : Program α → (α → Program β) → Program β
  | done a, f => f a
  | call c next, f => call c fun reply => (next reply).bind f

instance : Monad Program where
  pure := done
  bind := bind

def perform (c : Call) : Program c.Reply := call c done

@[simp] theorem done_bind (a : α) (f : α → Program β) : done a >>= f = f a := rfl

@[simp] theorem call_bind (c : Call) (next : c.Reply → Program α) (f : α → Program β) :
    call c next >>= f = call c fun reply => next reply >>= f := rfl

theorem bind_done (p : Program α) : p >>= done = p := by
  induction p with
  | done a => rfl
  | call c next ih => exact congrArg (call c) (funext ih)

theorem bind_assoc (p : Program α) (f : α → Program β) (g : β → Program γ) :
    p >>= f >>= g = p >>= fun a => f a >>= g := by
  induction p with
  | done a => rfl
  | call c next ih => exact congrArg (call c) (funext ih)

instance : LawfulMonad Program :=
  LawfulMonad.mk' Program bind_done (fun _ _ => rfl) bind_assoc

def discard (p : Program α) : Program Unit := p >>= fun _ => done ()

def crash : Program α := call .crash nofun

/-- Whether what was written is taken to be there. A descriptor that is not open counts as one that
takes all, for the standard output as for the standard error. -/
def isTaken : Except Errno Unit → Bool
  | .ok () => true
  | .error e => e = .badDescriptor

def print (descriptor : Nat) (text : String) : Program Unit := do
  if isTaken (← perform (.write descriptor text.toUTF8)) then return else crash

theorem print_eq (descriptor : Nat) (text : String) :
    print descriptor text = call (.write descriptor text.toUTF8) fun reply =>
      if isTaken reply then done () else crash := rfl

def printLine (text : String) : Program Unit := print 1 (text ++ "\n")

def reportLine (text : String) : Program Unit := print 2 (text ++ "\n")

def remark (text : String) : Program Unit := discard (perform (.write 2 (text ++ "\n").toUTF8))

def waitFor (child : Int) : Program (Except Errno Ending) := do
  return (← perform (.wait child)).outcome

def readFile (path : String) : Program (Except Errno ByteArray) := do
  match ← perform (.openFile path .read) with
  | .error e => return .error e
  | .ok descriptor =>
    let content ← perform (.gather descriptor .all)
    let _ ← perform (.close descriptor)
    return content

def writeFile (path text : String) : Program (Except Errno Unit) := do
  match ← perform (.openFile path .truncate) with
  | .error e => return .error e
  | .ok descriptor =>
    let written ← perform (.write descriptor text.toUTF8)
    let _ ← perform (.close descriptor)
    return written

end Program

end CommandShell
