import CommandShell.Errno
import CommandShell.Signal

/-!
# How a process ends

A process ends by leaving with a code or by a signal. The status that a shell works with is the code,
or 128 and the signal's number. Stops and continuations are notices about a process that still runs,
and have no status.

A process is waited for again and again until an answer settles the wait: an interruption does not,
nor does a notice about a process that still runs.
-/

set_option autoImplicit false

namespace CommandShell

inductive Ending where
  | exited (code : Int)
  | signaled (signal : Signal) (core : Bool)
  deriving DecidableEq, Repr

def Ending.status : Ending → Int
  | .exited code => code
  | .signaled signal _ => 128 + signal.number

inductive WaitStatus where
  | ended (ending : Ending)
  | stopped (signal : Signal)
  | continued
  | alive
  deriving DecidableEq, Repr

namespace WaitStatus

def ending? : WaitStatus → Option Ending
  | ended ending => some ending
  | _ => none

def status? : WaitStatus → Option Int
  | ended ending => some ending.status
  | _ => none

/-- The stop at a traced call, which names no signal. -/
def tracedStop : Int := 0x85

/-- Reads the word in which the system reports on a process. Its lowest seven bits are 0 after an exit,
127 for a stop, and otherwise the signal that ended the process; the next byte is the exit code or the
signal that stopped it. -/
def ofRaw? (raw : Int) : Option WaitStatus :=
  let low := raw % 128
  let next := raw / 256 % 256
  if low = 0 then some (ended (.exited next))
  else if low ≠ 127 then
    (Signal.ofNumber? low).map fun signal => ended (.signaled signal (raw / 128 % 2 = 1))
  else if raw = 0xffff then some continued
  else if next = tracedStop then some (stopped ⟨5, by decide, by decide⟩)
  else (Signal.ofNumber? next).map stopped

end WaitStatus

/-- What comes of waiting for a process: it is waited for again after an interruption and after a
notice that it still runs. -/
def settle : List (Except Errno WaitStatus) → Option (Except Errno Ending)
  | [] => none
  | .ok notice :: later =>
    match notice.ending? with
    | some ending => some (.ok ending)
    | none => settle later
  | .error e :: later => if e = .interrupted then settle later else some (.error e)

/-- All answers of a wait that has been settled. -/
structure Wait where
  answers : List (Except Errno WaitStatus)
  settled : (settle answers).isSome

namespace Wait

def outcome (w : Wait) : Except Errno Ending := (settle w.answers).get w.settled

def ended (ending : Ending) : Wait := ⟨[.ok (.ended ending)], rfl⟩

def missing : Wait := ⟨[.error .noChild], rfl⟩

end Wait

theorem mem_of_settle_ok {answers : List (Except Errno WaitStatus)} {ending : Ending}
    (h : settle answers = some (.ok ending)) : .ok (.ended ending) ∈ answers := by
  fun_induction settle answers with
  | case1 => cases h
  | case2 notice later ending' found =>
    cases h
    cases notice with
    | ended =>
      cases found
      exact List.mem_cons_self
    | _ => cases found
  | case3 notice later none ih => exact List.mem_cons_of_mem _ (ih h)
  | case4 later ih => exact List.mem_cons_of_mem _ (ih h)
  | case5 => cases h

theorem mem_of_settle_error {answers : List (Except Errno WaitStatus)} {e : Errno}
    (h : settle answers = some (.error e)) : .error e ∈ answers ∧ e ≠ .interrupted := by
  fun_induction settle answers with
  | case1 => cases h
  | case2 => cases h
  | case3 notice later none ih => exact ⟨List.mem_cons_of_mem _ (ih h).1, (ih h).2⟩
  | case4 later ih => exact ⟨List.mem_cons_of_mem _ (ih h).1, (ih h).2⟩
  | case5 e' later other =>
    cases h
    exact ⟨List.mem_cons_self, other⟩

namespace Wait

theorem mem_of_ok {w : Wait} {ending : Ending} (h : w.outcome = .ok ending) :
    .ok (.ended ending) ∈ w.answers :=
  mem_of_settle_ok (Option.eq_some_of_isSome w.settled |>.trans (congrArg some h))

theorem mem_of_error {w : Wait} {e : Errno} (h : w.outcome = .error e) :
    .error e ∈ w.answers ∧ e ≠ .interrupted :=
  mem_of_settle_error (Option.eq_some_of_isSome w.settled |>.trans (congrArg some h))

end Wait

end CommandShell
