/-!
# Signals

A signal that reaches a process does what is usual for it, unless the process ignores or catches it.
The usual thing is most often to end the process.
-/

set_option autoImplicit false

namespace CommandShell

structure Signal where
  number : Nat
  one_le : 1 ≤ number
  le_last : number ≤ 31
  deriving DecidableEq, Repr

def Signal.ofNumber? (n : Int) : Option Signal :=
  if h : 1 ≤ n ∧ n ≤ 31 then some ⟨n.toNat, by omega, by omega⟩ else none

def Signal.interrupt : Signal := ⟨2, by decide, by decide⟩
def Signal.quit : Signal := ⟨3, by decide, by decide⟩
def Signal.busError : Signal := ⟨7, by decide, by decide⟩
def Signal.kill : Signal := ⟨9, by decide, by decide⟩
def Signal.segmentation : Signal := ⟨11, by decide, by decide⟩
def Signal.brokenPipe : Signal := ⟨13, by decide, by decide⟩
def Signal.terminate : Signal := ⟨15, by decide, by decide⟩
def Signal.resume : Signal := ⟨18, by decide, by decide⟩
def Signal.stop : Signal := ⟨19, by decide, by decide⟩

def Signal.ofKeys : List Signal := [.interrupt, .quit]

def Signal.ofMemory : List Signal := [.busError, .segmentation]

def Signal.names : List String :=
  ["HUP", "INT", "QUIT", "ILL", "TRAP", "ABRT", "BUS", "FPE", "KILL", "USR1", "SEGV", "USR2",
    "PIPE", "ALRM", "TERM", "STKFLT", "CHLD", "CONT", "STOP", "TSTP", "TTIN", "TTOU", "URG", "XCPU",
    "XFSZ", "VTALRM", "PROF", "WINCH", "IO", "PWR", "SYS"]

def Signal.ofName? (name : String) : Option Signal :=
  (Signal.names.idxOf? name).bind fun i => Signal.ofNumber? (i + 1)

def Signal.name (s : Signal) : String := Signal.names.getD (s.number - 1) ""

def Signal.isHarmless (s : Signal) : Bool := [17, 18, 23, 28].contains s.number

def Signal.stops (s : Signal) : Bool := [19, 20, 21, 22].contains s.number

/-- Signals that no process can ignore or catch. -/
def Signal.isSovereign (s : Signal) : Bool := s = .kill || s = .stop

inductive Disposition where
  | usual
  | ignored
  | caught
  /-- It survives the signal once, and the next does the usual thing. -/
  | outlived
  deriving DecidableEq, Repr

end CommandShell
