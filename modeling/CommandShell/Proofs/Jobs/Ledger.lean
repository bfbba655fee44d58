import CommandShell.Jobs
import CommandShell.Proofs.Program.Run
import CommandShell.Proofs.Variables.Status
import Mathlib.Data.Finset.Basic
import Mathlib.Data.Finset.Dedup

/-!
# Children and the notices about them

What a process has done tells which children it has not collected yet, and its notices tell which of
its jobs are still to be reported as completed. Both start empty in a new process. No other text
that a shell writes can be taken for a notice: a notice has neither the letter `h` nor an opening
bracket, and each of the others has one of them.
-/

set_option autoImplicit false

namespace CommandShell.Reaping

def collect (children : Finset Int) : Event → Finset Int
  | ⟨.fork, .ok (.parent child)⟩ => insert child children
  | ⟨.wait child, w⟩ =>
    match w.outcome with
    | .ok _ => children.erase child
    | .error _ => children
  | ⟨.poll child, .ok (.ended _)⟩ => children.erase child
  | _ => children

def uncollected (past : List Event) : Finset Int := past.foldl collect ∅

/-- An answer to waiting for a child: it is told of where it is not collected, and where there is none
this is said; or the wait is interrupted. -/
def Tells (past : List Event) (child : Int) : Except Errno WaitStatus → Prop
  | .ok _ => child ∈ uncollected past
  | .error e => e = .interrupted ∨ e = .noChild ∧ child ∉ uncollected past

/-- A new child is none of those that are not collected, only such a child is told of and collected,
and only where there is none it is said that there is none. Waiting may also be interrupted. Children
may end, stop and go on at any time; nothing else is assumed. -/
def rules (past : List Event) : (c : Call) → c.Reply → Prop
  | .fork, .ok (.parent child) => child ∉ uncollected past
  | .wait child, w => ∀ answer ∈ w.answers, Tells past child answer
  | .poll child, .ok _ => child ∈ uncollected past
  | .poll child, .error e => e = .noChild → child ∉ uncollected past
  | _, _ => True

theorem missed_of_rules {past : List Event} {child : Int} {w : Wait} {e : Errno}
    (allowed : rules past (.wait child) w) (h : w.outcome = .error e) :
    e = .noChild ∧ child ∉ uncollected past :=
  (allowed _ (Wait.mem_of_error h).1).resolve_left (Wait.mem_of_error h).2

def startedNotice (child : Int) : Call := .write 2 (backgroundedMessage child ++ "\n").toUTF8

def completedNotice (c : Completion) : Call := .write 2 (c.message ++ "\n").toUTF8

def IsNotice : Call → Prop
  | .write descriptor bytes => (∃ child, Call.write descriptor bytes = startedNotice child) ∨
      ∃ c, Call.write descriptor bytes = completedNotice c
  | _ => False

theorem isNotice_started (child : Int) : IsNotice (startedNotice child) := .inl ⟨child, rfl⟩

theorem isNotice_completed (c : Completion) : IsNotice (completedNotice c) := .inr ⟨c, rfl⟩

inductive Collects : Event → Completion → Prop
  | waited (child : Int) {w : Wait} {ending : Ending} (h : w.outcome = .ok ending) :
    Collects ⟨.wait child, w⟩ ⟨child, ending.status⟩
  | polled (child : Int) (ending : Ending) :
    Collects ⟨.poll child, .ok (.ended ending)⟩ ⟨child, ending.status⟩

/-- The jobs that the notices of a process leave open. A job that is started is a child that is not
collected, and no open job; a job is reported as completed when it is open and has just been
collected, and with the status that it ended with. -/
inductive Ledger : List Event → List Int → Prop
  | nil : Ledger [] []
  | started {past : List Event} {jobs : List Int} {child : Int}
      (reply : (startedNotice child).Reply) :
    Ledger past jobs → child ∈ uncollected past → child ∉ jobs →
    Ledger (past ++ [⟨startedNotice child, reply⟩]) (jobs ++ [child])
  | completed {past : List Event} {event : Event} {front back : List Int} {c : Completion}
      (reply : (completedNotice c).Reply) :
    Ledger (past ++ [event]) (front ++ c.process :: back) → Collects event c →
    Ledger (past ++ [event] ++ [⟨completedNotice c, reply⟩]) (front ++ back)
  | other {past : List Event} {jobs : List Int} (event : Event) :
    ¬ IsNotice event.call → Ledger past jobs → Ledger (past ++ [event]) jobs

def IsRefusal : Event → Prop
  | ⟨.wait _, w⟩ => w.outcome = .error .noChild
  | ⟨.poll _, .error e⟩ => e = .noChild
  | _ => False

/-! ## Texts that are no notices -/

/-- A text with a character that no notice has. -/
def Marked (text : String) : Prop := 'h' ∈ text.toList ∨ '[' ∈ text.toList

instance (text : String) : Decidable (Marked text) := inferInstanceAs (Decidable (_ ∨ _))

theorem marked_append (s t : String) : Marked (s ++ t) ↔ Marked s ∨ Marked t := by
  simp only [Marked, String.toList_append, List.mem_append]
  tauto

theorem not_marked_toString (n : Int) : ¬ Marked (toString n) := by
  rintro (h | h)
  · exact absurd (Text.isDigit_of_mem_int h) (by decide)
  · exact absurd (Text.isDigit_of_mem_int h) (by decide)

theorem not_marked_backgrounded (child : Int) : ¬ Marked (backgroundedMessage child ++ "\n") := by
  simp only [backgroundedMessage, marked_append, not_marked_toString]
  decide

theorem not_marked_completed (c : Completion) : ¬ Marked (c.message ++ "\n") := by
  simp only [Completion.message, marked_append, not_marked_toString]
  decide

theorem not_isNotice_write {text : String} (marked : Marked text) (descriptor : Nat) :
    ¬ IsNotice (.write descriptor text.toUTF8) := by
  rintro (⟨child, same⟩ | ⟨c, same⟩)
  · injection same with _ same
    rw [String.toByteArray_inj.mp same] at marked
    exact not_marked_backgrounded child marked
  · injection same with _ same
    rw [String.toByteArray_inj.mp same] at marked
    exact not_marked_completed c marked

/-! ## What events keep -/

theorem uncollected_append (past : List Event) (event : Event) :
    uncollected (past ++ [event]) = collect (uncollected past) event := by
  rw [uncollected, List.foldl_append]
  rfl

/-- These are the children that are not collected, each once, and these the jobs that are open; no
reply has said that there is no such child. -/
structure Holds (children jobs : List Int) (past : List Event) : Prop where
  counted : uncollected past = children.toFinset
  distinct : children.Nodup
  ledger : Ledger past jobs
  answered : ∀ event ∈ past, ¬ IsRefusal event

def Quiet : Call → Prop
  | .fork | .wait _ | .poll _ | .sleep _ => False
  | c => ¬ IsNotice c

theorem quiet_write {text : String} (marked : Marked text) (descriptor : Nat) :
    Quiet (.write descriptor text.toUTF8) :=
  not_isNotice_write marked descriptor

theorem holds_nil : Holds [] [] [] where
  counted := rfl
  distinct := List.nodup_nil
  ledger := .nil
  answered := by simp

namespace Holds
variable {children front back jobs : List Int} {past : List Event} {child : Int}

theorem mem_uncollected (holds : Holds (front ++ child :: back) jobs past) :
    child ∈ uncollected past := by
  rw [holds.counted]
  simp

theorem answered_append (holds : Holds children jobs past) {event : Event}
    (h : ¬ IsRefusal event) : ∀ event' ∈ past ++ [event], ¬ IsRefusal event' := by
  simp only [List.forall_mem_append, List.forall_mem_singleton]
  exact ⟨holds.answered, h⟩

theorem unchanged (holds : Holds children jobs past) {event : Event}
    (ordinary : ¬ IsNotice event.call) (refusal : ¬ IsRefusal event)
    (kept : ∀ set, collect set event = set) : Holds children jobs (past ++ [event]) where
  counted := by rw [uncollected_append, kept, holds.counted]
  distinct := holds.distinct
  ledger := .other event ordinary holds.ledger
  answered := holds.answered_append refusal

theorem quiet (holds : Holds children jobs past) {c : Call} (quiet : Quiet c) (reply : c.Reply) :
    Holds children jobs (past ++ [⟨c, reply⟩]) := by
  have ordinary : ¬ IsNotice c := by
    cases c <;> first | exact quiet | exact quiet.elim
  have refusal : ¬ IsRefusal ⟨c, reply⟩ := by
    cases c <;> first | exact id | exact quiet.elim
  have kept (set : Finset Int) : collect set ⟨c, reply⟩ = set := by
    cases c <;> first | rfl | exact quiet.elim
  exact holds.unchanged ordinary refusal kept

theorem forked (holds : Holds children jobs past) (h : child ∉ uncollected past) :
    Holds (child :: children) jobs (past ++ [⟨.fork, .ok (.parent child)⟩]) where
  counted := by
    rw [uncollected_append, List.toFinset_cons, ← holds.counted]
    rfl
  distinct := by
    rw [holds.counted, List.mem_toFinset] at h
    exact List.nodup_cons.mpr ⟨h, holds.distinct⟩
  ledger := .other _ id holds.ledger
  answered := holds.answered_append id

theorem collected {event : Event} {c : Completion} (collects : Collects event c)
    (holds : Holds (front ++ c.process :: back) jobs past) :
    Holds (front ++ back) jobs (past ++ [event]) where
  counted := by
    have fresh : c.process ∉ (front ++ back).toFinset := by
      rw [List.mem_toFinset]
      exact (List.nodup_cons.mp (List.nodup_middle.mp holds.distinct)).1
    have taken : collect (uncollected past) event = (uncollected past).erase c.process := by
      cases collects with
      | waited child h => simp only [collect, h]
      | polled => rfl
    rw [uncollected_append, taken, holds.counted, List.toFinset_eq_of_perm _ _ List.perm_middle,
      List.toFinset_cons, Finset.erase_insert fresh]
  distinct := (List.nodup_cons.mp (List.nodup_middle.mp holds.distinct)).2
  ledger := .other event (by cases collects <;> exact id) holds.ledger
  answered := by
    apply holds.answered_append
    cases collects with
    | waited child h => simp [IsRefusal, h]
    | polled => exact id

theorem started (holds : Holds (child :: children) jobs past) (fresh : child ∉ jobs)
    (reply : (startedNotice child).Reply) :
    Holds (child :: children) (jobs ++ [child]) (past ++ [⟨startedNotice child, reply⟩]) where
  counted := by
    rw [uncollected_append, ← holds.counted]
    rfl
  distinct := holds.distinct
  ledger := by
    have own : child ∈ uncollected past := by
      rw [holds.counted]
      simp
    exact .started reply holds.ledger own fresh
  answered := holds.answered_append id

theorem completed {event : Event} {c : Completion}
    (holds : Holds children (front ++ c.process :: back) (past ++ [event]))
    (collects : Collects event c) (reply : (completedNotice c).Reply) :
    Holds children (front ++ back) (past ++ [event] ++ [⟨completedNotice c, reply⟩]) where
  counted := by
    rw [uncollected_append, ← holds.counted]
    rfl
  distinct := holds.distinct
  ledger := .completed reply holds.ledger collects
  answered := holds.answered_append id

theorem perm {children' : List Int} (holds : Holds children jobs past)
    (same : children.Perm children') : Holds children' jobs past where
  counted := holds.counted.trans (List.toFinset_eq_of_perm _ _ same)
  distinct := same.nodup_iff.mp holds.distinct
  ledger := holds.ledger
  answered := holds.answered

end Holds

end CommandShell.Reaping
