import CommandShell.Proofs.Descriptors.Wiring

/-!
# Where a process crashes

What a process has to say must be taken, or the process crashes. For what it does itself, and apart
from its children, this is the one reason: a crash comes right after a write that was refused. To put
its descriptors in place a child has nothing to say.
-/

set_option autoImplicit false

namespace CommandShell
open Program Shell

variable {α β σ ε : Type} {trace front back : List Event} {c : Call}

/-- The events of a process that was at no fork the child, so that they are its own. -/
def Unforked (trace : List Event) : Prop := ⟨.fork, .ok .child⟩ ∉ trace

@[simp] theorem unforked_nil : Unforked [] := List.not_mem_nil

@[simp] theorem unforked_append :
    Unforked (front ++ back) ↔ Unforked front ∧ Unforked back := by
  simp [Unforked]

@[simp] theorem unforked_forks {reply : Except Errno Int} :
    Unforked (forks reply :: trace) ↔ Unforked trace := by
  cases reply <;> simp [Unforked, forks, Except.map]

@[simp] theorem unforked_cons {reply : c.Reply} (other : c ≠ .fork) :
    Unforked (⟨c, reply⟩ :: trace) ↔ Unforked trace := by
  have apart : (⟨.fork, .ok .child⟩ : Event) ≠ ⟨c, reply⟩ := by
    intro same
    cases same
    exact other rfl
  simp [Unforked, apart]

theorem Unforked.goOn {event : Event} (h : Unforked [event]) (past : List Event) :
    goOn past event = past ++ [event] := by
  obtain ⟨c, reply⟩ := event
  cases c with
  | fork =>
    rcases reply with e | _ | child
    · rfl
    · exact absurd (List.mem_singleton_self _) h
    · rfl
  | _ => rfl

/-- The last event is a write that was refused. -/
def WriteRefused (trace : List Event) : Prop :=
  ∃ before descriptor bytes reply, trace = before ++ [⟨.write descriptor bytes, reply⟩] ∧
    ¬ isTaken reply

theorem WriteRefused.after (h : WriteRefused back) (front : List Event) :
    WriteRefused (front ++ back) := by
  obtain ⟨before, descriptor, bytes, reply, rfl, refused⟩ := h
  exact ⟨front ++ before, descriptor, bytes, reply, (List.append_assoc ..).symm, refused⟩

def ownRules : Rules := fun _ c reply => Unforked [⟨c, reply⟩]

def CrashesOnly (there : List Event → Prop) (past : List Event) (c : Call) : Prop :=
  c = .crash → there past

variable {there : List Event → Prop}

/-- Whatever the replies, what the task does in its own process crashes only there. -/
def Guards (there : List Event → Prop) (task : StateT σ Program α) : Prop :=
  Meets ownRules (CrashesOnly there) (fun _ _ => True) task fun _ _ _ => True

theorem Program.Safe.crashes {p : Program α} {past : List Event} {wanted : α → List Event → Prop}
    (safe : p.Safe ownRules (CrashesOnly there) wanted past) (asks : p.Asks trace .crash)
    (own : Unforked trace) : there (past ++ trace) := by
  induction p generalizing past trace with
  | done a => exact (asks_done asks).elim
  | call c next ih =>
    obtain ⟨rfl, same⟩ | ⟨reply, rest, rfl, later⟩ := asks_call.mp asks
    · rw [List.append_nil]
      exact safe.1 same
    · obtain ⟨first, rest⟩ := unforked_append.mp (List.singleton_append.symm ▸ own)
      have after := safe.2 reply first
      rw [first.goOn] at after
      rw [List.append_cons]
      exact ih reply after later rest

theorem Guards.crashed {task : StateT σ Program α} {state : σ} (guards : Guards there task)
    (crashes : Calls task state trace .crash) (own : Unforked trace) : there trace :=
  (guards state [] trivial).crashes crashes own

/-! ## Programs -/

def Call.IsSure : Call → Prop
  | .crash => False
  | _ => True

namespace Program

def Guards (there : List Event → Prop) (p : Program α) : Prop :=
  ∀ past, p.Safe ownRules (CrashesOnly there) (fun _ _ => True) past

namespace Guards

theorem pure (a : α) : Guards there (pure a : Program α) := fun _ => trivial

theorem bind {p : Program α} {f : α → Program β} (first : p.Guards there)
    (rest : ∀ a, (f a).Guards there) : (p >>= f).Guards there :=
  fun past => safe_bind f p past (first past) fun a past _ => rest a past

theorem sure {p : Program α} (only : p.Only Call.IsSure) : p.Guards there := by
  induction p with
  | done a => exact pure a
  | call c next ih =>
    refine fun past => ⟨?_, fun reply _ => ih reply (only.2 reply) _⟩
    rintro rfl
    exact only.1.elim

theorem perform {c : Call} (sure : c.IsSure) : (perform c).Guards there :=
  .sure (only_perform sure)

theorem print (descriptor : Nat) (text : String) :
    (print descriptor text).Guards WriteRefused := by
  intro past
  rw [print_eq]
  refine ⟨nofun, fun reply _ => ?_⟩
  dsimp only
  split
  case isTrue => trivial
  case isFalse refused => exact ⟨fun _ => ⟨past, descriptor, _, reply, rfl, refused⟩, nofun⟩

end Guards

end Program

/-! ## Tasks -/

namespace Guards

theorem pure (a : α) : Guards there (pure a : StateT σ Program α) :=
  Meets.pure a fun _ _ h => h

theorem get : Guards there (get : StateT σ Program σ) := Meets.get fun _ _ h => h

theorem modify (f : σ → σ) : Guards there (modify f : StateT σ Program Unit) :=
  Meets.modify fun _ _ h => h

theorem bind {task : StateT σ Program α} {f : α → StateT σ Program β} (first : Guards there task)
    (rest : ∀ a, Guards there (f a)) : Guards there (task >>= f) := Meets.bind first rest

theorem lift {p : Program α} (guards : p.Guards there) :
    Guards there (StateT.lift p : StateT σ Program α) := Meets.lift fun _ past _ => guards past

theorem run_bind {action : ExceptT ε (StateT σ Program) α}
    {f : α → ExceptT ε (StateT σ Program) β} (first : Guards there action.run)
    (rest : ∀ a, Guards there (f a).run) : Guards there (action >>= f).run := by
  rw [ExceptT.run_bind]
  apply first.bind
  intro result
  cases result with
  | error e => exact pure _
  | ok a => exact rest a

theorem run_lift {task : StateT σ Program α} (guards : Guards there task) :
    Guards there (ExceptT.lift task : ExceptT ε (StateT σ Program) α).run :=
  guards.bind fun a => pure (Except.ok a)

end Guards

/-! ## What a shell does itself -/

namespace Shell

theorem guards_perform {c : Call} (sure : c.IsSure) : Guards there (perform c) :=
  .lift (.perform sure)

theorem guards_log (logger : Option Logger) (level : LogLevel) (text : String) :
    (Logger.log logger level text).Guards there := by
  rw [Logger.log]
  split
  · cases logger with
    | none => exact .pure ()
    | some logger =>
      apply (Program.Guards.perform (c := .self) trivial).bind
      intro process
      apply (Program.Guards.perform (c := .now) trivial).bind
      intro seconds
      apply (Program.Guards.perform (c := .write 2 _) trivial).bind
      intro reply
      cases reply with
      | error e => exact .pure ()
      | ok _ =>
        exact (Program.Guards.perform (c := .write logger.file _) trivial).bind fun _ => .pure ()
  · exact .pure ()

theorem guards_attempt {operation : String} {call : Program (Except Errno α)}
    (guards : call.Guards there) : Guards there (attempt operation call).run := by
  apply (Guards.lift guards).run_lift.run_bind
  intro reply
  cases reply with
  | ok a => exact .pure _
  | error e => exact .pure _

theorem guards_spawn (body : Task Int) : Guards there (spawn body).run := by
  intro shell past _
  refine ⟨nofun, fun reply own => ?_⟩
  rcases reply with e | _ | child
  · trivial
  · exact absurd (List.mem_singleton_self _) own
  · trivial

theorem guards_await (child : Int) : Guards there (await child).run :=
  (guards_attempt (.sure (only_waitFor trivial))).run_bind fun _ => .pure _

theorem guards_spawn_await (body : Task Int) : Guards there (spawn body >>= await).run :=
  (guards_spawn body).run_bind guards_await

theorem guards_awaitSides (leftChild : Int) (rightChild : Except ShellError Int) :
    Guards there (awaitSides leftChild rightChild).run := by
  have last : Guards there (awaitRight rightChild).run := by
    cases rightChild with
    | error e => exact .pure _
    | ok child => exact guards_await child
  apply (guards_await leftChild).run_lift.run_bind
  intro waited
  cases waited with
  | ok status => exact last
  | error e =>
    apply Guards.get.run_lift.run_bind
    intro shell
    exact (Guards.lift (guards_log _ _ _)).run_lift.run_bind fun _ => last

/-- Nothing that a process itself does for a pipe has to be taken, so it crashes nowhere. -/
theorem guards_evaluatePipe (left right : Action Int) :
    Guards there (evaluatePipe left right).run := by
  have closes (descriptor : Nat) : Guards there (perform (.close descriptor)) :=
    guards_perform trivial
  apply (guards_attempt (.perform (c := .pipe) trivial)).run_bind
  rintro ⟨reader, writer⟩
  apply (guards_spawn _).run_lift.run_bind
  intro leftChild
  cases leftChild with
  | error e =>
    apply (closes writer).run_lift.run_bind
    intro _
    exact (closes reader).run_lift.run_bind fun _ => .pure _
  | ok leftChild =>
    apply (guards_spawn _).run_lift.run_bind
    intro rightChild
    apply (closes reader).run_lift.run_bind
    intro _
    exact (closes writer).run_lift.run_bind fun _ => guards_awaitSides leftChild rightChild

/-! ## Reports -/

theorem guards_report (text : String) : Guards WriteRefused (report text) := .lift (.print 2 _)

theorem guards_reported (text : String) (status : Int) :
    Guards WriteRefused (do report text; return status) :=
  (guards_report text).bind fun _ => .pure status

theorem guards_orReport {action : Action Int} (guards : Guards WriteRefused action.run) :
    Guards WriteRefused (orReport action) := by
  apply guards.bind
  intro result
  cases result with
  | ok status => exact .pure status
  | error e => exact guards_reported _ 1

theorem guards_changeDirectory (arguments : List String) :
    Guards WriteRefused (changeDirectory arguments) := by
  have entered (target : String) : Guards WriteRefused (changeDirectory.enter target) := by
    apply (guards_perform (c := .changeDirectory target) trivial).bind
    intro reply
    cases reply with
    | ok _ => exact .pure 0
    | error e => exact guards_reported _ _
  apply Guards.get.bind
  intro shell
  rcases arguments with _ | ⟨directory, _ | ⟨_, _⟩⟩
  · dsimp only
    split
    · exact guards_reported _ _
    · exact guards_reported _ _
    · exact entered _
    · exact entered _
  · exact entered _
  · exact guards_reported _ _

theorem guards_awaitEach (logger : Option Logger) (jobs : List Job) :
    (JobTable.awaitEach logger jobs).Guards WriteRefused := by
  induction jobs with
  | nil => exact .pure []
  | cons job rest ih =>
    apply (Program.Guards.sure (only_waitFor trivial)).bind
    intro outcome
    cases outcome with
    | ok ending =>
      apply (Program.Guards.print 2 _).bind
      intro _
      exact ih.bind fun _ => .pure _
    | error e =>
      dsimp only
      split
      · exact (guards_log _ _ _).bind fun _ => ih
      · exact (guards_log _ _ _).bind fun _ => ih

theorem guards_reapEach (logger : Option Logger) (jobs : List Job) :
    (JobTable.reapEach logger jobs).Guards WriteRefused := by
  induction jobs with
  | nil => exact .pure _
  | cons job rest ih =>
    have stays : (JobTable.reapEach logger rest >>= fun result =>
        pure (result.1, job :: result.2)).Guards WriteRefused := ih.bind fun _ => .pure _
    apply (Program.Guards.perform (c := .poll job.process) trivial).bind
    intro reply
    cases reply with
    | ok notice =>
      dsimp only
      split
      · apply (Program.Guards.print 2 _).bind
        intro _
        exact ih.bind fun _ => .pure _
      · exact stays
    | error e =>
      dsimp only
      split
      · exact (guards_log _ _ _).bind fun _ => ih
      · exact (guards_log _ _ _).bind fun _ => stays

theorem guards_awaitJobs : Guards WriteRefused awaitJobs := by
  apply Guards.get.bind
  intro shell
  apply (Guards.lift ((guards_awaitEach _ _).bind fun _ => .pure _)).bind
  intro _
  exact (Guards.modify _).bind fun _ => .pure _

theorem guards_reap : Guards WriteRefused reap := by
  apply Guards.get.bind
  intro shell
  apply (Guards.lift ((guards_reapEach _ _).bind fun _ => .pure _)).bind
  intro _
  exact (Guards.modify _).bind fun _ => .pure _

theorem guards_waitForJobs (arguments : List String) :
    Guards WriteRefused (waitForJobs arguments) := by
  cases arguments with
  | nil => exact guards_awaitJobs.bind fun _ => .pure 0
  | cons argument rest => exact guards_reported _ 1

theorem guards_evaluateSimple (c : SimpleCommand) : Guards WriteRefused (evaluateSimple c).run := by
  by_cases cd : c.program = "cd"
  · rw [evaluateSimple, builtin?, if_pos cd]
    exact (guards_changeDirectory _).run_lift
  by_cases wait : c.program = "wait"
  · rw [evaluateSimple, builtin?, if_neg cd, if_pos wait]
    exact (guards_waitForJobs _).run_lift
  · rw [evaluateSimple, builtin?_eq_none cd wait]
    exact guards_spawn_await _

theorem guards_startJob (job : Command) (body : Action Int) :
    Guards WriteRefused (startJob job body).run := by
  apply (guards_spawn _).run_bind
  intro child
  apply (Guards.lift (.print 2 _)).run_lift.run_bind
  intro _
  exact (Guards.modify _).run_lift

end Shell

theorem Work.guards (w : Work) : Guards WriteRefused w.action.run := by
  cases w with
  | simple c => exact guards_evaluateSimple c
  | subshell parts body => exact guards_spawn_await _
  | pipe left right => exact guards_evaluatePipe _ _
  | background job => exact (guards_startJob job _).run_bind fun _ => .pure _

theorem Plan.guards (p : Plan) : Guards WriteRefused p.run.run := by
  induction p with
  | done status => exact .pure _
  | work w next ih => exact w.guards.run_bind ih

/-- Whatever the system replies, a process that evaluates a command crashes only right after a write
of its own that was refused. -/
theorem Command.guards_evaluate (c : Command) : Guards WriteRefused c.evaluate.run := by
  rw [evaluate, ← run_planFrom]
  exact Plan.guards _

theorem Shell.guards_run (c : Command) : Guards WriteRefused (Shell.run c) := by
  apply guards_reap.bind
  intro _
  apply c.guards_evaluate.bind
  intro _
  exact (Guards.modify _).bind fun _ => .pure _

/-! ## What children do first -/

namespace Shell

theorem guards_move (source target : Nat) : Guards there (move source target).run :=
  (guards_attempt (.perform (c := .duplicate source target) trivial)).run_bind
    fun _ => guards_attempt (.perform (c := .close source) trivial)

theorem guards_openAny (r : Option Redirection) (access : Redirection → Access) (target : Nat) :
    Guards there (openAny r access target).run := by
  cases r with
  | none => exact .pure _
  | some r =>
    apply (guards_perform (c := .openFile r.filename (access r)) trivial).run_lift.run_bind
    intro reply
    cases reply with
    | error e => exact .pure _
    | ok d =>
      by_cases same : d = target
      · simpa [same] using Guards.pure (Except.ok ())
      · simpa [same] using guards_move d target

theorem guards_redirect (parts : StageParts) : Guards there (redirect parts).run := by
  rw [redirect_eq]
  exact (guards_openAny _ _ _).run_bind fun _ => guards_openAny _ _ _

theorem guards_connect (used target unused : Nat) :
    Guards there (connect used target unused).run :=
  (guards_move used target).run_bind
    fun _ => guards_attempt (.perform (c := .close unused) trivial)

end Shell

end CommandShell
