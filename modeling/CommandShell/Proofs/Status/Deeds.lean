import CommandShell.Proofs.Descriptors.Table

/-!
# Runs with the lives of the children

A run of a process is recorded with the runs of its children: where it forks, the record has what
the child does in all its life and how that ends, if it does. The system answers as it is documented
to: a fork succeeds, and its child is none that is still to be collected; a child that is waited for
ends as its record says, and there is no such child only where none is recorded; the system gives
out only descriptors that are not open, making a pipe and moving a descriptor succeed, and so does
closing an end of a pipe. A process that leaves ends with the low eight bits of its status, one that
becomes another program with some code of eight bits, one that crashes with the code for this, and any
process may be ended by a signal.
-/

set_option autoImplicit false

namespace CommandShell

abbrev Telling (ending : Ending) := { w : Wait // w.outcome = .ok ending }

/-- What a process has done: it got a reply, or it forked. -/
inductive Deed where
  | did (event : Event)
  /-- With the child's number, what the child does, and how it ends if it ends. -/
  | forked (child : Int) (life : List Deed) (ending : Option Ending)

def Call.IsStill : Call → Prop
  | .fork | .wait _ | .poll _ => False
  | _ => True

theorem Call.IsInert.isStill {c : Call} (h : c.IsInert) : c.IsStill := by
  cases c <;> first | exact h.elim | trivial

namespace Deed

def event : Deed → Event
  | did event => event
  | forked child _ _ => Shell.forks (.ok child)

/-- What a deed does to the children that are not collected, each with its ending. -/
def collect (fates : Int → Option (Option Ending)) : Deed → Int → Option (Option Ending)
  | forked child _ ending => Function.update fates child (some ending)
  | did ⟨.wait child, w⟩ =>
    match w.outcome with
    | .ok _ => Function.update fates child none
    | .error _ => fates
  | did ⟨.poll child, .ok (.ended _)⟩ => Function.update fates child none
  | _ => fates

@[simp] theorem collect_telling (fates : Int → Option (Option Ending)) (child : Int)
    {ending : Ending} (w : Telling ending) :
    collect fates (did ⟨.wait child, w.1⟩) = Function.update fates child none := by
  simp only [collect, w.2]

end Deed

def fates (past : List Deed) : Int → Option (Option Ending) := past.foldl Deed.collect fun _ => none

theorem fates_append (past : List Deed) (deed : Deed) :
    fates (past ++ [deed]) = deed.collect (fates past) := by
  rw [fates, List.foldl_append]
  rfl

def Still (deeds : List Deed) : Prop := ∀ deed ∈ deeds, deed.event.call.IsStill

theorem still_of_events {deeds : List Deed} {kind : Call → Prop}
    (h : ∀ event ∈ deeds.map Deed.event, kind event.call) (le : ∀ c, kind c → c.IsStill) :
    Still deeds := fun _ member => le _ (h _ (List.mem_map_of_mem member))

theorem Still.append {front back : List Deed} (h : Still front) (h' : Still back) :
    Still (front ++ back) := List.forall_mem_append.mpr ⟨h, h'⟩

theorem fates_of_still {past deeds : List Deed} (still : Still deeds) :
    fates (past ++ deeds) = fates past := by
  induction deeds generalizing past with
  | nil => rw [List.append_nil]
  | cons deed deeds ih =>
    obtain ⟨first, rest⟩ := List.forall_mem_cons.mp still
    rw [List.append_cons, ih rest, fates_append]
    cases deed with
    | forked => exact first.elim
    | did event =>
      obtain ⟨c, reply⟩ := event
      cases c <;> first | rfl | exact first.elim

theorem deeds_of_plain {deeds : List Deed} {trace : List Event}
    (same : deeds.map Deed.event = trace) (plain : ∀ event ∈ trace, event.call ≠ .fork) :
    deeds = trace.map Deed.did := by
  subst same
  rw [List.map_map]
  refine (List.map_id' deeds).symm.trans (List.map_congr_left fun deed member => ?_)
  cases deed with
  | did event => rfl
  | forked => exact absurd rfl (plain _ (List.mem_map_of_mem member))

def descriptors (inherited : Descriptors) (past : List Deed) : Descriptors :=
  inherited.after 0 (past.map Deed.event)

theorem descriptors_append (inherited : Descriptors) (past : List Deed) (deed : Deed) :
    descriptors inherited (past ++ [deed]) =
      (descriptors inherited past).effect past.length deed.event := by
  rw [descriptors, List.map_append, Descriptors.after_append, List.length_map, Nat.zero_add]
  rfl

def IsPipeEnd : Option Source → Prop
  | some (.reader _) | some (.writer _) => True
  | _ => False

/-- An answer to waiting for a child with this fate: it has ended so, or still runs, or there is no such
child; or the wait is interrupted. -/
def Tells (fate : Option (Option Ending)) : Except Errno WaitStatus → Prop
  | .ok (.ended ending) => fate = some (some ending)
  | .ok _ => fate ≠ none
  | .error e => e = .interrupted ∨ e = .noChild ∧ fate = none

/-- The answers of the system to a process with this past. A fork is no plain call. -/
def Answers (inherited : Descriptors) (past : List Deed) : (c : Call) → c.Reply → Prop
  | .fork, _ => False
  | .wait child, w => ∀ answer ∈ w.answers, Tells (fates past child) answer
  | .poll child, .ok (.ended ending) => fates past child = some (some ending)
  | .poll child, .ok _ => fates past child ≠ none
  | .poll child, .error e => e = .noChild → fates past child = none
  | .pipe, .error _ => False
  | .duplicate .., .error _ => False
  | .close d, .error _ => ¬ IsPipeEnd (descriptors inherited past d)
  | c, reply => (descriptors inherited past).Fresh ⟨c, reply⟩

section Waiting
variable {inherited : Descriptors} {past : List Deed} {child : Int} {w : Wait}

theorem fate_of_waited {ending : Ending} (answers : Answers inherited past (.wait child) w)
    (h : w.outcome = .ok ending) : fates past child = some (some ending) :=
  answers _ (Wait.mem_of_ok h)

theorem answers_ended {ending : Ending} (h : fates past child = some (some ending)) :
    Answers inherited past (.wait child) (.ended ending) := List.forall_mem_singleton.mpr h

theorem fate_of_missed {e : Errno} (answers : Answers inherited past (.wait child) w)
    (h : w.outcome = .error e) : e = .noChild ∧ fates past child = none :=
  (answers _ (Wait.mem_of_error h).1).resolve_left (Wait.mem_of_error h).2

theorem answers_missing (h : fates past child = none) :
    Answers inherited past (.wait child) .missing := List.forall_mem_singleton.mpr (.inr ⟨rfl, h⟩)

end Waiting

variable {α β σ ε : Type}

/-- A process that is about to go on with the program may end like this. -/
inductive EndsAs : Program α → Option Ending → Prop
  | running (p : Program α) : EndsAs p none
  | killed (p : Program α) (signal : Signal) (core : Bool) :
    EndsAs p (some (.signaled signal core))
  | left (status : Int) (next : Empty → Program α) :
    EndsAs (.call (.exit status) next) (some (.exited (status % 256)))
  | crashed (next : Empty → Program α) : EndsAs (.call .crash next) (some (.exited crashStatus))
  | became (file : String) (argv : List String) (environment : Variables)
    (next : Errno → Program α) (code : Int) : 0 ≤ code → code ≤ 255 →
    EndsAs (.call (.exec file argv environment) next) (some (.exited code))

/-- A process that has inherited these descriptors and done this goes on with the first program,
does these deeds, and comes to the second program. -/
inductive Runs : Descriptors → List Deed → Program α → List Deed → Program α → Prop
  | stay (inherited : Descriptors) (past : List Deed) (p : Program α) :
    Runs inherited past p [] p
  | did {inherited : Descriptors} {past deeds : List Deed} {c : Call}
    {next : c.Reply → Program α} {q : Program α} {reply : c.Reply} :
    Answers inherited past c reply →
    Runs inherited (past ++ [.did ⟨c, reply⟩]) (next reply) deeds q →
    Runs inherited past (.call c next) (.did ⟨c, reply⟩ :: deeds) q
  | forked {inherited : Descriptors} {past deeds life : List Deed} {child : Int}
    {ending : Option Ending} {next : Except Errno Forked → Program α} {q last : Program α} :
    fates past child = none →
    Runs (descriptors inherited past) [] (next (.ok .child)) life last → EndsAs last ending →
    Runs inherited (past ++ [.forked child life ending]) (next (.ok (.parent child))) deeds q →
    Runs inherited past (.call .fork next) (.forked child life ending :: deeds) q

namespace Runs
variable {inherited : Descriptors} {past front back deeds : List Deed} {p q r : Program α}

theorem path (runs : Runs inherited past p deeds q) : p.Path (deeds.map Deed.event) q := by
  induction runs with
  | stay => exact .stay _
  | did _ _ ih => exact .call _ ih
  | forked _ _ _ _ _ ih => exact .call _ ih

theorem rest (runs : Runs inherited past p (front ++ back) q)
    (path : p.Path (front.map Deed.event) r) : Runs inherited (past ++ front) r back q := by
  -- A deed tells its event, and the event which way the path goes on.
  induction front generalizing past p with
  | nil =>
    obtain ⟨⟩ := path
    simpa using runs
  | cons deed front ih =>
    rw [List.append_cons]
    cases runs with
    | did _ later =>
      cases path with
      | call _ path => exact ih later path
    | forked _ _ _ later =>
      cases path with
      | call _ path => exact ih later path

theorem not_mem_child (runs : Runs inherited past p deeds q) :
    (⟨.fork, .ok .child⟩ : Event) ∉ deeds.map Deed.event := by
  induction runs with
  | stay => exact List.not_mem_nil
  | @did _ _ _ c _ _ reply answers _ ih =>
    rw [List.map_cons, List.mem_cons, not_or]
    refine ⟨fun same => ?_, ih⟩
    cases same
    exact answers
  | forked _ _ _ _ _ ih =>
    rw [List.map_cons, List.mem_cons, not_or]
    exact ⟨nofun, ih⟩

end Runs

/-- In some run of a process that has inherited these descriptors and done this, the task does these
deeds and returns. -/
def Does (inherited : Descriptors) (past : List Deed) (task : StateT σ Program α) (state : σ)
    (deeds : List Deed) (a : α) (state' : σ) : Prop :=
  ∃ (β : Type) (k : α × σ → Program β) (back : List Deed) (q : Program β),
    Runs inherited past (task state >>= k) (deeds ++ back) q ∧
      Gives task state (deeds.map Deed.event) a state'

namespace Does
variable {inherited : Descriptors} {past deeds : List Deed} {state state' : σ}
  {task : StateT σ Program α} {a : α}

theorem gives (h : Does inherited past task state deeds a state') :
    Gives task state (deeds.map Deed.event) a state' := by
  obtain ⟨_, _, _, _, -, given⟩ := h
  exact given

theorem bind {f : α → StateT σ Program β} {b : β}
    (h : Does inherited past (task >>= f) state deeds b state') :
    ∃ front a middle back, deeds = front ++ back ∧ Does inherited past task state front a middle ∧
      Does inherited (past ++ front) (f a) middle back b state' := by
  obtain ⟨γ, k, rest, q, runs, given⟩ := h
  obtain ⟨_, a, middle, _, same, first, second⟩ := gives_bind.mp given
  obtain ⟨front, back, rfl, rfl, rfl⟩ := List.map_eq_append_iff.mp same
  have whole : Runs inherited past (task state >>= fun result => f result.1 result.2 >>= k)
      (front ++ (back ++ rest)) q := by
    rw [← List.append_assoc, ← bind_assoc]
    exact runs
  exact ⟨front, a, middle, back, rfl, ⟨γ, _, _, q, whole, first⟩,
    ⟨γ, k, rest, q, whole.rest (first.bind _), second⟩⟩

theorem run_bind {action : ExceptT ε (StateT σ Program) α}
    {f : α → ExceptT ε (StateT σ Program) β} {result : Except ε β}
    (h : Does inherited past (action >>= f).run state deeds result state') :
    (∃ e, result = .error e ∧ Does inherited past action.run state deeds (.error e) state') ∨
      ∃ front a middle back, deeds = front ++ back ∧
        Does inherited past action.run state front (.ok a) middle ∧
        Does inherited (past ++ front) (f a).run middle back result state' := by
  rw [ExceptT.run_bind] at h
  obtain ⟨front, outcome, middle, back, rfl, first, second⟩ := h.bind
  cases outcome with
  | error e =>
    obtain ⟨none, rfl, rfl⟩ := gives_pure.mp second.gives
    obtain rfl := List.map_eq_nil_iff.mp none
    exact .inl ⟨e, rfl, by rwa [List.append_nil]⟩
  | ok a => exact .inr ⟨front, a, middle, back, rfl, first, second⟩

theorem run_lift_bind {f : α → ExceptT ε (StateT σ Program) β} {result : Except ε β}
    (h : Does inherited past (ExceptT.lift task >>= f).run state deeds result state') :
    ∃ front a middle back, deeds = front ++ back ∧ Does inherited past task state front a middle ∧
      Does inherited (past ++ front) (f a).run middle back result state' := by
  rw [CommandShell.run_lift_bind] at h
  exact h.bind

theorem pure {a b : α}
    (h : Does inherited past (pure a : StateT σ Program α) state deeds b state') :
    deeds = [] ∧ a = b ∧ state = state' := by
  obtain ⟨none, rfl, rfl⟩ := gives_pure.mp h.gives
  exact ⟨List.map_eq_nil_iff.mp none, rfl, rfl⟩

theorem answered {deed : Deed} {c : Call} {reply : c.Reply}
    (h : Does inherited past task state (deed :: deeds) a state') (same : deed.event = ⟨c, reply⟩)
    (plain : c ≠ .fork) :
    deed = .did ⟨c, reply⟩ ∧ Answers inherited past c reply := by
  obtain ⟨γ, k, back, q, runs, -⟩ := h
  generalize task state >>= k = p at runs
  cases runs with
  | did answers =>
    cases same
    exact ⟨rfl, answers⟩
  | forked =>
    cases same
    exact absurd rfl plain

theorem answered_alone {c : Call} {reply : c.Reply}
    (h : Does inherited past task state deeds a state')
    (same : deeds.map Deed.event = [⟨c, reply⟩]) (plain : c ≠ .fork) :
    deeds = [.did ⟨c, reply⟩] ∧ Answers inherited past c reply := by
  obtain ⟨deed, rfl, alone⟩ := List.map_eq_singleton_iff.mp same
  obtain ⟨rfl, answers⟩ := h.answered alone plain
  exact ⟨rfl, answers⟩

end Does

/-- In some run of a process that has inherited these descriptors and done this, the task does these
deeds and then comes to the call. -/
def AboutTo (inherited : Descriptors) (past : List Deed) (task : StateT σ Program α) (state : σ)
    (deeds : List Deed) (c : Call) : Prop :=
  ∃ (β : Type) (k : α × σ → Program β) (q : Program β),
    Runs inherited past (task state >>= k) deeds q ∧ Calls task state (deeds.map Deed.event) c

namespace AboutTo
variable {inherited : Descriptors} {past deeds : List Deed} {state : σ} {task : StateT σ Program α}
  {c : Call}

theorem calls (h : AboutTo inherited past task state deeds c) :
    Calls task state (deeds.map Deed.event) c := by
  obtain ⟨_, _, _, -, asked⟩ := h
  exact asked

theorem not_mem_child (h : AboutTo inherited past task state deeds c) :
    (⟨.fork, .ok .child⟩ : Event) ∉ deeds.map Deed.event := by
  obtain ⟨_, _, _, runs, -⟩ := h
  exact runs.not_mem_child

theorem bind {f : α → StateT σ Program β} (h : AboutTo inherited past (task >>= f) state deeds c) :
    AboutTo inherited past task state deeds c ∨ ∃ front a middle back, deeds = front ++ back ∧
      Does inherited past task state front a middle ∧
      AboutTo inherited (past ++ front) (f a) middle back c := by
  obtain ⟨γ, k, q, runs, asked⟩ := h
  have whole :
      Runs inherited past (task state >>= fun result => f result.1 result.2 >>= k) deeds q := by
    rw [← bind_assoc]
    exact runs
  obtain asked | ⟨_, a, middle, _, same, first, second⟩ := calls_bind.mp asked
  · exact .inl ⟨γ, _, q, whole, asked⟩
  · obtain ⟨front, back, rfl, rfl, rfl⟩ := List.map_eq_append_iff.mp same
    exact .inr ⟨front, a, middle, back, rfl, ⟨γ, _, back, q, whole, first⟩,
      ⟨γ, k, q, whole.rest (first.bind _), second⟩⟩

end AboutTo

end CommandShell
