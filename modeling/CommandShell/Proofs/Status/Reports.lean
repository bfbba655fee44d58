import CommandShell.Proofs.Jobs.Children
import CommandShell.Proofs.Status.Tracking

/-!
# Reports on background jobs

A process that starts with a table on record keeps it so, whatever it evaluates: it lists the
children that it starts for jobs, collects each other child itself, and takes a job off the table
with the child. So what it reports of a job is what its child came to.
-/

set_option autoImplicit false

namespace CommandShell
open Shell Reaping

variable {α β σ ε : Type} {inherited : Descriptors} {past deeds : List Deed}

/-- Where the task starts as `P` has it, it ends as `Q` has it, and what it reports as completed has
come to this. -/
structure Accounts (started : Command → Prop) (P : σ → List Deed → Prop) (task : StateT σ Program α)
    (Q : α → σ → List Deed → Prop) : Prop where
  ends {inherited : Descriptors} {past deeds : List Deed} {state state' : σ} {a : α} :
    P state past → Does inherited past task state deeds a state' → Q a state' (past ++ deeds)
  reports {inherited : Descriptors} {past deeds : List Deed} {state : σ} {completion : Completion} :
    P state past → AboutTo inherited past task state deeds (completedNotice completion) →
    Reported started (past ++ deeds) completion

namespace Accounts
variable {started : Command → Prop} {P P' : σ → List Deed → Prop} {Q Q' : α → σ → List Deed → Prop}
  {R : β → σ → List Deed → Prop} {task : StateT σ Program α}

theorem pure (a : α) (h : ∀ state past, P state past → Q a state past) :
    Accounts started P (pure a) Q where
  ends holds done := by
    obtain ⟨rfl, rfl, rfl⟩ := done.pure
    rw [List.append_nil]
    exact h _ _ holds
  reports _ asked := (calls_pure asked.calls).elim

theorem modify {f : σ → σ} {P' : σ → List Deed → Prop}
    (h : ∀ state past, P state past → P' (f state) past) :
    Accounts started P (modify f : StateT σ Program Unit) fun _ => P' where
  ends holds done := by
    obtain ⟨none, rfl⟩ := gives_modify.mp done.gives
    obtain rfl := List.map_eq_nil_iff.mp none
    rw [List.append_nil]
    exact h _ _ holds
  reports _ asked := (calls_pure asked.calls).elim

theorem get : Accounts started P (get : StateT σ Program σ) fun found state past =>
    found = state ∧ P state past where
  ends holds done := by
    obtain ⟨none, rfl, rfl⟩ := gives_get.mp done.gives
    obtain rfl := List.map_eq_nil_iff.mp none
    rw [List.append_nil]
    exact ⟨rfl, holds⟩
  reports _ asked := (calls_pure asked.calls).elim

theorem bind {f : α → StateT σ Program β} (first : Accounts started P task Q)
    (rest : ∀ a, Accounts started (Q a) (f a) R) : Accounts started P (task >>= f) R where
  ends holds done := by
    obtain ⟨front, a, middle, back, rfl, begun, later⟩ := done.bind
    rw [← List.append_assoc]
    exact (rest a).ends (first.ends holds begun) later
  reports holds asked := by
    obtain asked | ⟨front, a, middle, back, rfl, begun, later⟩ := asked.bind
    · exact first.reports holds asked
    · rw [← List.append_assoc]
      exact (rest a).reports (first.ends holds begun) later

theorem weaken (h : Accounts started P task Q) (strong : ∀ state past, P' state past → P state past)
    (weak : ∀ a state past, Q a state past → Q' a state past) : Accounts started P' task Q' where
  ends holds done := weak _ _ _ (h.ends (strong _ _ holds) done)
  reports holds asked := h.reports (strong _ _ holds) asked

theorem perform {c : Call} {P : Shell → List Deed → Prop} {Q : c.Reply → Shell → List Deed → Prop}
    (plain : c ≠ .fork) (silent : ∀ completion, c ≠ completedNotice completion)
    (h : ∀ inherited past shell reply, P shell past → Answers inherited past c reply →
      Q reply shell (past ++ [Deed.did ⟨c, reply⟩])) : Accounts started P (Shell.perform c) Q where
  ends holds done := by
    obtain ⟨rfl, answers, rfl⟩ := done.perform plain
    exact h _ _ _ _ holds answers
  reports _ asked := absurd (calls_perform.mp asked.calls).2 (silent _)

theorem inert (keeps : Keeps Call.IsInert task)
    (kept : ∀ state past deeds, Still deeds → P state past → P state (past ++ deeds)) :
    Accounts started P task fun _ => P where
  ends holds done := by
    obtain ⟨inert, rfl⟩ := keeps.given done.gives
    exact kept _ _ _ (still_of_events inert fun _ => Call.IsInert.isStill) holds
  reports _ asked := absurd rfl ((keeps.called asked.calls).isOwn.ne_completed _)

theorem run_lift {P : σ → List Deed → Prop} {task : StateT σ Program α}
    (h : Accounts started P task fun _ => P) :
    Accounts started P (ExceptT.lift task : ExceptT ε (StateT σ Program) α).run fun _ => P :=
  bind h fun a => pure (Except.ok a) fun _ _ holds => holds

theorem run_bind {P : σ → List Deed → Prop} {action : ExceptT ε (StateT σ Program) α}
    {f : α → ExceptT ε (StateT σ Program) β} (first : Accounts started P action.run fun _ => P)
    (rest : ∀ a, Accounts started P (f a).run fun _ => P) :
    Accounts started P (action >>= f).run fun _ => P := by
  rw [ExceptT.run_bind]
  apply bind first
  intro result
  cases result with
  | error e => exact pure _ fun _ _ holds => holds
  | ok a => exact rest a

end Accounts

/-! ## Collecting jobs -/

abbrev Records (started : Command → Prop) (task : Shell.Task α) : Prop :=
  Accounts started (fun shell past => Tracked started past shell.jobs.jobs) task
    fun _ shell past => Tracked started past shell.jobs.jobs

theorem lift_bind (p : Program α) (f : α → Program β) :
    (StateT.lift (p >>= f) : StateT σ Program β) =
      StateT.lift p >>= fun a => StateT.lift (f a) := by
  funext state
  change (p >>= f) >>= _ = (p >>= fun a => Program.done (a, state)) >>= _
  rw [bind_assoc, bind_assoc]
  rfl

variable {started : Command → Prop}

theorem accounts_completed (completion : Completion) (jobs : List Job) :
    Accounts started (fun _ past => Reported started past completion ∧ Tracked started past jobs)
      (StateT.lift (Program.reportLine completion.message) : Shell.Task Unit)
      fun _ _ past => Tracked started past jobs where
  ends holds done := by
    have written : (Program.reportLine completion.message).Only Call.IsStill :=
      Program.only_print trivial trivial
    obtain ⟨still, -⟩ := (keeps_lift written).given done.gives
    exact holds.2.still (still_of_events still fun _ => id)
  reports holds asked := by
    obtain ⟨-, same⟩ | ⟨_, -, -, same⟩ := Program.asks_print.mp (calls_lift.mp asked.calls)
    · obtain rfl := completedNotice_injective same
      exact holds.1.append _
    · cases same

theorem accounts_wait (job : Job) (jobs : List Job) :
    Accounts started (fun _ past => Tracked started past (job :: jobs))
      (StateT.lift (Program.waitFor job.process) : Shell.Task _)
      fun outcome _ past => ∃ ending, outcome = .ok ending ∧
        Reported started past ⟨job.process, ending.status⟩ ∧ Tracked started past jobs where
  ends tracked done := by
    obtain ⟨w, single, rfl⟩ := Program.returns_waitFor.mp (gives_lift.mp done.gives).1
    obtain ⟨rfl, answers⟩ := done.answered_alone single nofun
    obtain ⟨ending, told⟩ := tracked.waited List.mem_cons_self answers
    have first : Tracked started _ ([] ++ job :: jobs) := tracked
    obtain ⟨reported, others⟩ := first.collected (.waited job.process told) rfl answers
    exact ⟨ending, told, reported.append _, others⟩
  reports _ asked := nomatch (Program.asks_waitFor.mp (calls_lift.mp asked.calls)).2

theorem accounts_awaitEach (logger : Option Logger) (jobs : List Job) :
    Accounts started (fun _ past => Tracked started past jobs)
      (StateT.lift (JobTable.awaitEach logger jobs) : Shell.Task _) fun _ _ _ => True := by
  induction jobs with
  | nil => exact .pure [] fun _ _ _ => trivial
  | cons job rest ih =>
    rw [JobTable.awaitEach, lift_bind]
    apply (accounts_wait job rest).bind
    intro reply
    cases reply with
    | error e => exact ⟨nofun, nofun⟩
    | ok ending =>
      dsimp only
      rw [lift_bind]
      refine ((accounts_completed ⟨job.process, ending.status⟩ rest).weaken ?_
        fun _ _ _ => id).bind ?_
      · rintro _ past ⟨_, same, reported⟩
        cases same
        exact reported
      · intro _
        rw [lift_bind]
        exact ih.bind fun completed => .pure _ fun _ _ => id

def Polled (started : Command → Prop) (front : List Job) (job : Job) (back : List Job)
    (past : List Deed) : Except Errno WaitStatus → Prop
  | .ok (.ended ending) =>
    Reported started past ⟨job.process, ending.status⟩ ∧ Tracked started past (front ++ back)
  | .ok _ => Tracked started past (front ++ job :: back)
  | .error e => e ≠ .noChild ∧ Tracked started past (front ++ job :: back)

theorem accounts_poll (front : List Job) (job : Job) (back : List Job) :
    Accounts started (fun _ past => Tracked started past (front ++ job :: back))
      (perform (.poll job.process))
      fun reply _ past => Polled started front job back past reply := by
  refine .perform nofun nofun fun inherited past _ reply tracked answers => ?_
  have kept (same : ∀ fates, Deed.collect fates (.did ⟨.poll job.process, reply⟩) = fates) :
      Tracked started (past ++ [Deed.did ⟨.poll job.process, reply⟩]) (front ++ job :: back) :=
    tracked.keep fun _ _ => by rw [fates_append, same]
  rcases reply with e | ending | signal | _ | _
  · refine ⟨?_, kept fun _ => rfl⟩
    rintro rfl
    exact tracked.known (show job ∈ front ++ job :: back by simp) (answers rfl)
  · obtain ⟨reported, others⟩ := tracked.collected (.polled job.process ending) rfl answers
    exact ⟨reported.append _, others⟩
  · exact kept fun _ => rfl
  · exact kept fun _ => rfl
  · exact kept fun _ => rfl

theorem accounts_reapEach (logger : Option Logger) (front jobs : List Job) :
    Accounts started (fun _ past => Tracked started past (front ++ jobs))
      (StateT.lift (JobTable.reapEach logger jobs) : Shell.Task _)
      fun result _ past => Tracked started past (front ++ result.2) := by
  induction jobs generalizing front with
  | nil => exact .pure _ fun _ _ => id
  | cons job rest ih =>
    -- A job that goes on is one more in front of the others.
    have stays : Accounts started (fun _ past => Tracked started past (front ++ job :: rest))
        (StateT.lift (JobTable.reapEach logger rest >>= fun result =>
          pure (result.1, job :: result.2)) : Shell.Task _)
        fun result _ past => Tracked started past (front ++ result.2) := by
      rw [List.append_cons, lift_bind]
      apply (ih (front ++ [job])).bind
      intro result
      refine .pure _ fun _ _ tracked => ?_
      rwa [List.append_assoc] at tracked
    rw [JobTable.reapEach, lift_bind]
    apply (accounts_poll front job rest).bind
    intro reply
    rcases reply with e | ending | signal | _ | _
    · by_cases gone : e = .noChild
      · exact ⟨fun polled => absurd gone polled.1, fun polled => absurd gone polled.1⟩
      · dsimp only
        rw [if_neg gone, lift_bind]
        have logged := only_log logger .error ("回收后台任务 " ++ job.text ++ " 失败: " ++ e.text)
        refine ((Accounts.inert (keeps_lift logged) fun _ _ _ quiet tracked =>
          tracked.still quiet).weaken (fun _ _ polled => polled.2) fun _ _ _ => id).bind fun _ => ?_
        exact stays
    · dsimp only [WaitStatus.status?]
      rw [lift_bind]
      apply (accounts_completed ⟨job.process, ending.status⟩ (front ++ rest)).bind
      intro _
      rw [lift_bind]
      exact (ih front).bind fun _ => .pure _ fun _ _ => id
    · exact stays
    · exact stays
    · exact stays

theorem records_awaitJobs : Records started awaitJobs := by
  apply Accounts.get.bind
  intro found
  have awaited : Accounts started
      (fun shell past => found = shell ∧ Tracked started past shell.jobs.jobs)
      (StateT.lift (found.jobs.awaitAll found.logger)) fun result _ _ => result.2 = {} := by
    rw [JobTable.awaitAll, lift_bind]
    refine ((accounts_awaitEach found.logger found.jobs.jobs).weaken ?_ fun _ _ _ => id).bind
      fun completed => .pure _ fun _ _ _ => rfl
    rintro _ past ⟨rfl, tracked⟩
    exact tracked
  apply awaited.bind
  rintro ⟨completed, table⟩
  have emptied : Accounts started (fun _ _ => table = {})
      (modify fun shell : Shell => { shell with jobs := table })
      fun _ shell past => Tracked started past shell.jobs.jobs := by
    refine .modify fun shell past same => ?_
    rw [same]
    exact .nil past
  exact emptied.bind fun _ => .pure _ fun _ _ => id

theorem records_reap : Records started Shell.reap := by
  apply Accounts.get.bind
  intro found
  have reaped : Accounts started
      (fun shell past => found = shell ∧ Tracked started past shell.jobs.jobs)
      (StateT.lift (found.jobs.reap found.logger))
      fun result _ past => Tracked started past result.2.jobs := by
    rw [JobTable.reap, lift_bind]
    refine ((accounts_reapEach found.logger [] found.jobs.jobs).weaken ?_ fun _ _ _ => id).bind
      fun result => .pure _ fun _ _ => id
    rintro _ past ⟨rfl, tracked⟩
    exact tracked
  apply reaped.bind
  intro result
  have kept : Accounts started (fun _ past => Tracked started past result.2.jobs)
      (modify fun shell : Shell => { shell with jobs := result.2 })
      fun _ shell past => Tracked started past shell.jobs.jobs :=
    .modify fun _ _ => id
  exact kept.bind fun _ => .pure _ fun _ _ => id

theorem records_inert {task : Shell.Task α} (keeps : Keeps Call.IsInert task) :
    Records started task :=
  .inert keeps fun _ _ _ still tracked => tracked.still still

theorem records_waitForJobs (arguments : List String) :
    Records started (waitForJobs arguments) := by
  cases arguments with
  | nil => exact records_awaitJobs.bind fun _ => .pure _ fun _ _ => id
  | cons _ _ => exact (records_inert (keeps_report _)).bind fun _ => .pure _ fun _ _ => id

/-! ## Commands -/

theorem still_of_moved {vars : Variables} {arguments : List String} {trace : List Event}
    {status : Int} (moved : Moved vars arguments trace status) :
    ∀ event ∈ trace, event.call.IsStill := by
  cases moved with
  | entered => simp [Call.IsStill]
  | refused _ _ _ reported =>
    exact List.forall_mem_cons.mpr ⟨trivial, fun event member => (reported event member).isStill⟩
  | nowhere _ reported => exact fun event member => (reported event member).isStill

theorem records_changeDirectory (arguments : List String) :
    Records started (changeDirectory arguments) where
  ends tracked done := by
    obtain ⟨moved, rfl⟩ := gives_changeDirectory done.gives
    exact tracked.still (still_of_events (still_of_moved moved) fun _ => id)
  reports _ asked :=
    absurd rfl (((keeps_changeDirectory arguments).called asked.calls).isOwn.ne_completed _)

theorem records_spawn_await (body : Shell.Task Int) :
    Records started (spawn body >>= await).run where
  ends tracked done := by
    obtain ⟨child, life, ending, _, rfl, -, rfl, fresh, -⟩ := done.spawn_await
    exact tracked.foreground fresh
  reports _ asked := by
    obtain starting | ⟨_, same, -⟩ := calls_spawn_await asked.calls
    · exact absurd rfl (starting.isOwn.ne_completed _)
    · exact absurd (same ▸ List.mem_cons_self) asked.not_mem_child

theorem records_evaluateSimple (c : SimpleCommand) :
    Records started (evaluateSimple c).run := by
  by_cases cd : c.program = "cd"
  · rw [evaluateSimple, builtin?, if_pos cd]
    exact (records_changeDirectory c.arguments).run_lift
  by_cases wait : c.program = "wait"
  · rw [evaluateSimple, builtin?, if_neg cd, if_pos wait]
    exact (records_waitForJobs c.arguments).run_lift
  · rw [evaluateSimple, builtin?_eq_none cd wait]
    exact records_spawn_await _

theorem records_evaluatePipe (left right : Action Int) :
    Records started (evaluatePipe left right).run where
  ends tracked done := by
    obtain ⟨⟨_, _, _, _, _, _, _, _, _, _, _, _, -, fresh, fresh', -, -, -⟩, rfl⟩ := done.evaluatePipe
    exact tracked.pipe fresh fresh'
  reports _ asked := by
    have own := asked.not_mem_child
    obtain starting | ⟨-, same⟩ | ⟨_, _, _, same, -⟩ | ⟨_, _, _, _, same, -⟩ :=
      calls_evaluatePipe asked.calls
    · exact absurd rfl (starting.isOwn.ne_completed _)
    · cases same
    · simp [same] at own
    · simp [same] at own

theorem records_startJob {job : Command} (own : started job) :
    Records started (startJob job job.evaluate).run where
  ends tracked done := by
    obtain ⟨child, life, ending, reply, rfl, -, rfl, fresh, lives⟩ := done.startJob
    rw [← List.singleton_append, ← List.append_assoc]
    refine (tracked.add fresh _ ⟨_, job, _, own, rfl, lives⟩).still ?_
    simp [Still, Deed.event, startedNotice, Call.IsStill]
  reports _ asked := by
    obtain starting | ⟨_, same, -⟩ := calls_startJob asked.calls
    · exact absurd rfl (starting.isOwn.ne_completed _)
    · exact absurd (same ▸ List.mem_cons_self) asked.not_mem_child

theorem records_action {w : Work} (own : ∀ job, w = .background job → started job) :
    Records started w.action.run := by
  cases w with
  | simple c => exact records_evaluateSimple c
  | subshell parts body => exact records_spawn_await _
  | pipe left right => exact records_evaluatePipe _ _
  | background job => exact (records_startJob (own job rfl)).run_bind fun _ => .pure _ fun _ _ => id

theorem records_plan {works : List Work} {p : Plan} (within : p.Within works)
    (own : ∀ job, .background job ∈ works → started job) : Records started p.run.run := by
  induction within with
  | done works status => exact .pure _ fun _ _ => id
  | work _ ih =>
    have first : ∀ job, _ = Work.background job → started job :=
      fun job same => own job (same ▸ List.mem_cons_self)
    exact (records_action first).run_bind fun status =>
      ih status fun job member => own job (List.mem_cons_of_mem _ member)
  | skip w _ ih => exact ih fun job member => own job (List.mem_cons_of_mem w member)

theorem records_evaluate {c : Command} (own : ∀ job, .background job ∈ c.surface → started job) :
    Records started c.evaluate.run := by
  rw [Command.evaluate, ← Command.run_planFrom]
  exact records_plan (c.within_surface none) own

theorem records_run {c : Command} (own : ∀ job, .background job ∈ c.surface → started job) :
    Records started (Shell.run c) := by
  have noted (status : Int) : Records started
      (modify fun shell => { shell with vars := shell.vars.setStatus status }) :=
    .modify fun _ _ => id
  apply records_reap.bind
  intro _
  apply (records_evaluate own).bind
  intro result
  exact (noted _).bind fun _ => .pure _ fun _ _ => id

/-! ## Sessions -/

abbrev Recording (task : Session.Task α) : Prop :=
  Accounts (fun _ => True)
    (fun session past => Tracked (fun _ => True) past session.shell.jobs.jobs) task
    fun _ session past => Tracked (fun _ => True) past session.shell.jobs.jobs

theorem recording_onShell {task : Shell.Task α} (h : Records (fun _ => True) task) :
    Recording (Session.onShell task) where
  ends tracked done := by
    obtain ⟨γ, k, back, q, runs, given⟩ := done
    obtain ⟨_, ⟨a, shell⟩, _, same, returns, rest⟩ := Program.returns_bind.mp given
    obtain ⟨rfl, equal⟩ := Program.returns_done.mp rest
    cases equal
    rw [List.append_nil] at same
    -- For the task, what the session makes of its result is what follows.
    rw [Session.onShell, bind_assoc] at runs
    exact h.ends tracked ⟨γ, _, back, q, runs, same ▸ returns⟩
  reports tracked asked := by
    obtain ⟨γ, k, q, runs, asks⟩ := asked
    obtain asks | ⟨_, _, _, _, _, rest⟩ := Program.asks_bind.mp asks
    · rw [Session.onShell, bind_assoc] at runs
      exact h.reports tracked ⟨γ, _, q, runs, asks⟩
    · exact (Program.asks_done rest).elim

theorem recording_inert {task : Session.Task α} (keeps : Keeps Call.IsInert task) :
    Recording task :=
  .inert keeps fun _ _ _ still tracked => tracked.still still

theorem keeps_reportError (e : ShellError) : Keeps Call.IsInert (Session.reportError e) := by
  apply keeps_get.bind
  intro session
  apply (keeps_lift (only_log session.shell.logger .error e.message)).bind
  intro _
  exact keeps_lift (only_reportLine ((marked_append _ _).mpr (.inr (marked_error _ _))))

theorem keeps_printLine (text : String) :
    Keeps Call.IsInert (StateT.lift (Program.printLine text) : Session.Task Unit) :=
  keeps_lift (Program.only_print (fun _ same => nomatch same) trivial)

theorem recording_runTokens (tokens : List Token) : Recording (Session.runTokens tokens) := by
  have numbered : Recording
      (modify fun session => { session with number := session.number + 1 }) := .modify fun _ _ => id
  rw [Session.runTokens]
  cases Command.parse tokens with
  | error e => exact recording_inert (keeps_reportError (.parse e))
  | ok command =>
    apply numbered.bind
    intro _
    apply (recording_onShell (records_run fun _ _ => trivial)).bind
    intro result
    cases result with
    | error e => exact recording_inert (keeps_reportError e)
    | ok status => exact .pure _ fun _ _ => id

theorem recording_enterLine (line : String) : Recording (Session.enterLine line) := by
  have remembered : Recording
      (modify fun session => { session with history := session.history.add line }) :=
    .modify fun _ _ => id
  rw [Session.enterLine]
  split
  · exact .pure _ fun _ _ => id
  apply remembered.bind
  intro _
  apply (recording_inert keeps_get).bind
  intro session
  dsimp only
  split
  · exact .pure _ fun _ _ => id
  split
  · exact (recording_inert (keeps_printLine _)).bind fun _ => recording_runTokens _
  · exact recording_runTokens _

theorem recording_perform (operation : Operation) : Recording operation.perform := by
  cases operation with
  | evaluate c =>
    have evaluated : Recording (Session.onShell c.evaluate.run) :=
      recording_onShell (records_evaluate fun _ _ => trivial)
    exact evaluated.bind fun _ => .pure _ fun _ _ => id
  | run c =>
    have ran : Recording (Session.onShell (Shell.run c)) :=
      recording_onShell (records_run fun _ _ => trivial)
    exact ran.bind fun _ => .pure _ fun _ _ => id
  | reap => exact (recording_onShell records_reap).bind fun _ => .pure _ fun _ _ => id
  | enterLine line => exact recording_enterLine line

theorem recording_performAll (operations : List Operation) :
    Recording (Operation.performAll operations) := by
  induction operations with
  | nil => exact .pure _ fun _ _ => id
  | cons operation rest ih => exact (recording_perform operation).bind fun _ => ih

end CommandShell
