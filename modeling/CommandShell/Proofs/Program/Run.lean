import CommandShell.Program
import Mathlib.Logic.Relation

/-!
# Runs of programs

A running process has the calls it has made, each with its reply, and the program that is left. The
processes of a run take their steps in any order; a fork leaves the parent and a new process, which
has made no call of its own. Rules say which replies a process may get after what it has done so
far.

Safety is the postcondition read backwards through the tree of a program: every call along every
branch that the rules allow is permitted where it is made. A step keeps it for every process, so it
holds along every run.
-/

set_option autoImplicit false

namespace CommandShell

/-- A call and its reply. -/
structure Event where
  call : Call
  reply : call.Reply

/-- A process with what it has done since it was forked, and what it is about to do. -/
structure Running (α : Type) where
  past : List Event
  rest : Program α

abbrev Rules := List Event → (c : Call) → c.Reply → Prop

variable {α β σ : Type} {rules : Rules}

/-- One process gets a reply. -/
inductive Step (rules : Rules) : List (Running α) → List (Running α) → Prop
  | reply {before after : List (Running α)} {past : List Event} {c : Call}
      {next : c.Reply → Program α} (reply : c.Reply) :
    c ≠ .fork → rules past c reply →
    Step rules (before ++ ⟨past, .call c next⟩ :: after)
      (before ++ ⟨past ++ [⟨c, reply⟩], next reply⟩ :: after)
  | refused {before after : List (Running α)} {past : List Event}
      {next : Except Errno Forked → Program α} (e : Errno) :
    rules past .fork (.error e) →
    Step rules (before ++ ⟨past, .call .fork next⟩ :: after)
      (before ++ ⟨past ++ [⟨.fork, .error e⟩], next (.error e)⟩ :: after)
  | forked {before after : List (Running α)} {past : List Event}
      {next : Except Errno Forked → Program α} (child : Int) :
    rules past .fork (.ok (.parent child)) → rules past .fork (.ok .child) →
    Step rules (before ++ ⟨past, .call .fork next⟩ :: after)
      (before ++ ⟨past ++ [⟨.fork, .ok (.parent child)⟩], next (.ok (.parent child))⟩ ::
        ⟨[], next (.ok .child)⟩ :: after)

abbrev Reaches (rules : Rules) : List (Running α) → List (Running α) → Prop :=
  Relation.ReflTransGen (Step rules)

/-- The past of a process that goes on after an event. The child of a fork has none. -/
def goOn (past : List Event) : Event → List Event
  | ⟨.fork, .ok .child⟩ => []
  | event => past ++ [event]

theorem goOn_of_ne_fork {past : List Event} {c : Call} (h : c ≠ .fork) (reply : c.Reply) :
    goOn past ⟨c, reply⟩ = past ++ [⟨c, reply⟩] := by
  cases c with
  | fork => exact absurd rfl h
  | _ => rfl

namespace Program

/-- Every call is permitted where it is made, and the result comes with a past as wanted. -/
def Safe (rules : Rules) (permits : List Event → Call → Prop) (wanted : α → List Event → Prop) :
    List Event → Program α → Prop
  | past, .done a => wanted a past
  | past, .call c next => permits past c ∧
      ∀ reply, rules past c reply → Safe rules permits wanted (goOn past ⟨c, reply⟩) (next reply)

variable {permits : List Event → Call → Prop}

theorem safe_mono {P Q : α → List Event → Prop} (h : ∀ a past, P a past → Q a past)
    (p : Program α) (past : List Event) (safe : p.Safe rules permits P past) :
    p.Safe rules permits Q past := by
  induction p generalizing past with
  | done a => exact h a past safe
  | call c next ih => exact ⟨safe.1, fun reply allowed => ih reply _ (safe.2 reply allowed)⟩

theorem safe_bind {P : α → List Event → Prop} {Q : β → List Event → Prop} (f : α → Program β)
    (p : Program α) (past : List Event) (safe : p.Safe rules permits P past)
    (h : ∀ a past, P a past → (f a).Safe rules permits Q past) :
    (p >>= f).Safe rules permits Q past := by
  induction p generalizing past with
  | done a => exact h a past safe
  | call c next ih => exact ⟨safe.1, fun reply allowed => ih reply _ (safe.2 reply allowed)⟩

theorem safe_print {P : List Event → Prop} {descriptor : Nat} {text : String} {past : List Event}
    (asked : permits past (.write descriptor text.toUTF8))
    (written : ∀ reply, rules past (.write descriptor text.toUTF8) reply →
      P (past ++ [⟨.write descriptor text.toUTF8, reply⟩]))
    (crash : ∀ past, P past → permits past .crash) :
    (print descriptor text).Safe rules permits (fun _ => P) past := by
  rw [print_eq]
  refine ⟨asked, fun reply allowed => ?_⟩
  have later := written reply allowed
  dsimp only
  split
  · exact later
  · exact ⟨crash _ later, nofun⟩

end Program

def Running.Safe (rules : Rules) (permits : List Event → Call → Prop)
    (wanted : α → List Event → Prop) (p : Running α) : Prop :=
  p.rest.Safe rules permits wanted p.past

section Runs
variable {permits : List Event → Call → Prop} {wanted : α → List Event → Prop}

theorem safe_step {system system' : List (Running α)} (step : Step rules system system')
    (safe : ∀ p ∈ system, p.Safe rules permits wanted) :
    ∀ p ∈ system', p.Safe rules permits wanted := by
  cases step with
  | @reply before after past c next reply ordinary allowed =>
    simp only [List.forall_mem_append, List.forall_mem_cons] at safe ⊢
    obtain ⟨front, this, back⟩ := safe
    have later := this.2 reply allowed
    rw [goOn_of_ne_fork ordinary] at later
    exact ⟨front, later, back⟩
  | @refused before after past next e allowed =>
    simp only [List.forall_mem_append, List.forall_mem_cons] at safe ⊢
    obtain ⟨front, this, back⟩ := safe
    exact ⟨front, this.2 (.error e) allowed, back⟩
  | @forked before after past next child allowed allowed' =>
    simp only [List.forall_mem_append, List.forall_mem_cons] at safe ⊢
    obtain ⟨front, this, back⟩ := safe
    exact ⟨front, this.2 (.ok (.parent child)) allowed, this.2 (.ok .child) allowed', back⟩

theorem safe_reaches {system system' : List (Running α)} (run : Reaches rules system system')
    (safe : ∀ p ∈ system, p.Safe rules permits wanted) :
    ∀ p ∈ system', p.Safe rules permits wanted := by
  induction run with
  | refl => exact safe
  | tail _ step ih => exact safe_step step ih

/-- A safe program leads every process of its runs only to calls that are permitted and to results
that are wanted. -/
theorem safe_of_reaches {program : Program α} {system : List (Running α)}
    (run : Reaches rules [⟨[], program⟩] system) (safe : program.Safe rules permits wanted []) :
    ∀ p ∈ system, p.Safe rules permits wanted :=
  safe_reaches run (by simpa [Running.Safe] using safe)

theorem Running.Safe.permitted {p : Running α} (safe : p.Safe rules permits wanted) {c : Call}
    {next : c.Reply → Program α} (pending : p.rest = .call c next) : permits p.past c := by
  rw [Running.Safe, pending] at safe
  exact safe.1

theorem Running.Safe.past {p : Running α} (safe : p.Safe rules permits wanted)
    {holds : List Event → Prop} (called : ∀ past c, permits past c → holds past)
    (ended : ∀ a past, wanted a past → holds past) : holds p.past := by
  obtain ⟨past, rest⟩ := p
  cases rest with
  | done a => exact ended a past safe
  | call c next => exact called past c safe.1

end Runs

/-- From a state and a past as `P` has them, the task is safe and ends as `Q` has it. -/
def Meets (rules : Rules) (permits : List Event → Call → Prop) (P : σ → List Event → Prop)
    (task : StateT σ Program α) (Q : α → σ → List Event → Prop) : Prop :=
  ∀ state past, P state past →
    (task state).Safe rules permits (fun result past => Q result.1 result.2 past) past

namespace Meets
variable {permits : List Event → Call → Prop} {P : σ → List Event → Prop}

theorem pure {Q : α → σ → List Event → Prop} (a : α)
    (h : ∀ state past, P state past → Q a state past) : Meets rules permits P (pure a) Q := h

theorem bind {M : α → σ → List Event → Prop} {Q : β → σ → List Event → Prop}
    {task : StateT σ Program α} {f : α → StateT σ Program β} (first : Meets rules permits P task M)
    (rest : ∀ a, Meets rules permits (M a) (f a) Q) : Meets rules permits P (task >>= f) Q := by
  intro state past h
  apply Program.safe_bind _ _ past (first state past h)
  intro result past h
  exact rest result.1 result.2 past h

theorem lift {Q : α → σ → List Event → Prop} {p : Program α}
    (h : ∀ state past, P state past → p.Safe rules permits (fun a past => Q a state past) past) :
    Meets rules permits P (StateT.lift p) Q := by
  intro state past start
  exact Program.safe_bind _ p past (h state past start) fun _ _ h => h

theorem get {Q : σ → σ → List Event → Prop} (h : ∀ state past, P state past → Q state state past) :
    Meets rules permits P get Q := h

theorem modify {Q : Unit → σ → List Event → Prop} {f : σ → σ}
    (h : ∀ state past, P state past → Q () (f state) past) :
    Meets rules permits P (modify f) Q := h

theorem weaken {Q Q' : α → σ → List Event → Prop} {task : StateT σ Program α}
    (meets : Meets rules permits P task Q)
    (h : ∀ a state past, Q a state past → Q' a state past) : Meets rules permits P task Q' := by
  intro state past start
  have weaker (result : α × σ) (past : List Event) := h result.1 result.2 past
  exact Program.safe_mono weaker _ past (meets state past start)

theorem strengthen {P' : σ → List Event → Prop} {Q : α → σ → List Event → Prop}
    {task : StateT σ Program α} (meets : Meets rules permits P task Q)
    (h : ∀ state past, P' state past → P state past) : Meets rules permits P' task Q :=
  fun state past start => meets state past (h state past start)

end Meets

/-! ## Actions that may fail -/

section Actions
variable {ε : Type} {permits : List Event → Call → Prop} {P : σ → List Event → Prop}

def outcomes (D : α → σ → List Event → Prop) (F : σ → List Event → Prop) :
    Except ε α → σ → List Event → Prop
  | .ok a => D a
  | .error _ => F

theorem outcomes_same {P : σ → List Event → Prop} {result : Except ε α} {state : σ}
    {past : List Event} : outcomes (fun _ => P) P result state past ↔ P state past := by
  cases result with
  | ok a => exact Iff.rfl
  | error e => exact Iff.rfl

theorem outcomes_of_done {D : α → σ → List Event → Prop} {F : σ → List Event → Prop}
    {result : Except ε α} {state : σ} {past : List Event}
    (h : outcomes D (fun _ _ => False) result state past) : outcomes D F result state past := by
  cases result with
  | ok a => exact h
  | error e => exact h.elim

theorem meets_run_bind {M : α → σ → List Event → Prop} {D : β → σ → List Event → Prop}
    {F : σ → List Event → Prop} {action : ExceptT ε (StateT σ Program) α}
    {f : α → ExceptT ε (StateT σ Program) β}
    (first : Meets rules permits P action.run (outcomes M F))
    (rest : ∀ a, Meets rules permits (M a) (f a).run (outcomes D F)) :
    Meets rules permits P (action >>= f).run (outcomes D F) := by
  rw [ExceptT.run_bind]
  apply Meets.bind first
  intro result
  cases result with
  | error e => exact Meets.pure _ fun _ _ h => h
  | ok a => exact rest a

theorem meets_run_lift {D : α → σ → List Event → Prop} {F : σ → List Event → Prop}
    {task : StateT σ Program α} (meets : Meets rules permits P task D) :
    Meets rules permits P (ExceptT.lift task : ExceptT ε (StateT σ Program) α).run
      (outcomes D F) :=
  Meets.bind meets fun a => Meets.pure (Except.ok a) fun _ _ h => h

end Actions

end CommandShell
