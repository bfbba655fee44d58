import CommandShell.Proofs.Jobs.Collecting
import CommandShell.Proofs.Jobs.Notices

/-!
# The children of a process are its jobs

A foreground child is collected before the command that started it returns, whatever becomes of that
command; a background child enters the table and leaves it when it is collected; and a new process
forgets the table of its parent. So wherever a command returns, the children that its process has
not collected are just its jobs.
-/

set_option autoImplicit false

namespace CommandShell.Reaping
open Shell

variable {α β : Type} {landmark : Landmark}

/-! ## Commands -/

theorem leads_pure (a : α) : Leads landmark [] (pure a : Action α).run fun _ => steady [] :=
  Meets.pure _ fun _ _ holds => holds

theorem leads_bind {action : Action α} {f : α → Action β}
    (first : Leads landmark [] action.run fun _ => steady [])
    (rest : ∀ a, Leads landmark [] (f a).run fun _ => steady []) :
    Leads landmark [] (action >>= f).run fun _ => steady [] := by
  rw [ExceptT.run_bind]
  apply Meets.bind first
  intro result
  cases result with
  | error e => exact Meets.pure _ fun _ _ holds => holds
  | ok a => exact rest a

theorem leads_failed (e : ShellError) :
    Leads landmark [] (do report e.message; return 1 : Shell.Task Int) fun _ => steady [] :=
  (calm_bind (calm_report e.message) fun _ => calm_pure 1).leads []

theorem leads_orReport {action : Action Int}
    (h : Leads landmark [] action.run fun _ => steady []) :
    Leads landmark [] (orReport action) fun _ => steady [] := by
  apply Meets.bind h
  intro result
  cases result with
  | ok status => exact Meets.pure _ fun _ _ holds => holds
  | error e => exact leads_failed e

theorem leads_waitForJobs (arguments : List String) :
    Leads landmark [] (waitForJobs arguments) fun _ shell past =>
      steady [] shell past ∧ (arguments = [] → shell.jobs = {}) := by
  cases arguments with
  | nil =>
    apply Meets.bind leads_awaitJobs
    intro completed
    exact Meets.pure 0 fun _ _ h => ⟨h.1, fun _ => h.2⟩
  | cons argument rest =>
    have refused : Leads landmark [] (waitForJobs (argument :: rest)) fun _ => steady [] :=
      Calm.leads (calm_bind (calm_report "wait: usage: wait") fun _ => calm_pure 1) []
    exact refused.weaken fun _ _ _ holds => ⟨holds, nofun⟩

theorem leads_evaluateSimple (c : SimpleCommand) :
    Leads landmark [] (evaluateSimple c).run fun _ shell past =>
      steady [] shell past ∧ ((Returning.evaluate (.simple c) none).waits → shell.jobs = {}) := by
  by_cases cd : c.program = "cd"
  · have other : (Returning.evaluate (.simple c) none).waits = false := by
      simp [Returning.waits, cd]
    have changed : Leads landmark [] (ExceptT.lift (changeDirectory c.arguments) : Action Int).run
        (outcomes (fun _ => steady []) (steady [])) :=
      meets_run_lift ((calm_changeDirectory c.arguments).leads [])
    rw [evaluateSimple, builtin?, if_pos cd, other]
    exact changed.weaken fun _ _ _ h => ⟨outcomes_same.mp h, nofun⟩
  by_cases wait : c.program = "wait"
  · have waited : Leads landmark [] (ExceptT.lift (waitForJobs c.arguments) : Action Int).run
        (outcomes (fun _ shell past => steady [] shell past ∧
          (c.arguments = [] → shell.jobs = {})) fun _ _ => False) :=
      meets_run_lift (leads_waitForJobs c.arguments)
    rw [evaluateSimple, builtin?, if_neg cd, if_pos wait]
    apply waited.weaken
    intro result shell past h
    have done := outcomes_same.mp (outcomes_of_done h)
    exact ⟨done.1, fun waits => done.2 (by simpa [Returning.waits, wait] using waits)⟩
  · have other : (Returning.evaluate (.simple c) none).waits = false := by
      simp [Returning.waits, wait]
    rw [evaluateSimple, builtin?, if_neg cd, if_neg wait, other]
    have external : Leads landmark [] (spawn (runProgram c) >>= await).run
        (outcomes (fun _ => steady []) (steady [])) :=
      leads_spawn_await (Calm.leads (calm_runProgram c) [])
    exact external.weaken fun _ _ _ h => ⟨outcomes_same.mp h, nofun⟩

/-- Between the notice of a job and its entry the table lacks it. -/
def announced (child : Int) (shell : Shell) (past : List Event) : Prop :=
  Holds (child :: shell.jobs.processes) (shell.jobs.processes ++ [child]) past

theorem leads_reported (child : Int) :
    Leads landmark [child] (StateT.lift (Program.reportLine (backgroundedMessage child)))
      fun _ => announced child := by
  apply Meets.lift
  intro shell past holds
  have fresh : child ∉ shell.jobs.processes := (List.nodup_cons.mp holds.distinct).1
  exact Program.safe_print ⟨Holds.orderly holds, trivial⟩
    (fun reply _ => Holds.started holds fresh reply) fun _ holds => holds.orderly.permits_crash

theorem meets_listed (child : Int) (job : Command) :
    Meets rules (Permits landmark) (announced child)
      (modify fun shell => { shell with jobs := (shell.jobs.add child job.text).1 } :
        Shell.Task Unit) fun _ => steady [] := by
  apply Meets.modify
  intro shell past holds
  have table : (shell.jobs.add child job.text).1.processes = shell.jobs.processes ++ [child] :=
    List.map_append
  rw [steady, List.nil_append, table]
  exact holds.perm (List.perm_append_singleton child _).symm

section Bodies
variable {action : Action Int} (h : Leads landmark [] action.run fun _ => steady [])
include h

theorem leads_runBody (parts : StageParts) :
    Leads landmark [] (runBody parts action) fun _ => steady [] := by
  apply Meets.bind ((calm_redirect parts).leads [])
  intro result
  cases result with
  | error e => exact leads_failed e
  | ok _ =>
    have assigned : Leads landmark [] (modify fun shell => { shell with
        environment := assign parts.locals shell.environment
        vars := assign parts.locals shell.vars }) fun _ => steady [] :=
      Meets.modify fun _ _ holds => holds
    apply Meets.bind (Calm.leads (calm_requireSettable parts.locals) [])
    intro _
    exact Meets.bind assigned fun _ => leads_orReport h

theorem leads_evaluateSubshell (parts : StageParts) :
    Leads landmark [] (evaluateSubshell parts action).run fun _ => steady [] :=
  (leads_spawn_await (leads_runBody h parts)).weaken fun _ _ _ => outcomes_same.mp

theorem leads_runSide (used target unused : Nat) :
    Leads landmark [] (runSide used target unused action) fun _ => steady [] := by
  apply Meets.bind ((calm_connect used target unused).leads [])
  intro result
  cases result with
  | error e => exact leads_failed e
  | ok _ => exact leads_orReport h

theorem leads_startJob (job : Command) :
    Leads landmark [] (startJob job action).run fun _ => steady [] := by
  have started : Leads landmark [] (startJob job action).run
      (outcomes (fun _ => steady []) (steady [])) := by
    apply meets_run_bind (leads_spawn (leads_orReport h) [])
    intro child
    apply meets_run_bind (meets_run_lift (leads_reported child))
    intro _
    exact meets_run_lift (meets_listed child job)
  exact started.weaken fun _ _ _ => outcomes_same.mp

end Bodies

/-! ## Pipes -/

def startedChild : Except ShellError Int → List Int
  | .ok child => [child]
  | .error _ => []

theorem leads_opened :
    Leads landmark [] (attempt "pipe" (Program.perform .pipe)).run
      (outcomes (fun _ => steady []) (steady [])) :=
  ((calm_attempt (silent_perform (c := .pipe) id)).leads []).weaken fun _ _ _ => outcomes_same.mpr

theorem leads_outcome_spawn {body : Shell.Task Int}
    (h : Leads landmark [] body fun _ => steady []) (extra : List Int) :
    Leads landmark extra (outcome (spawn body)).run
      (outcomes (fun forked => steady (startedChild forked ++ extra)) (steady [])) := by
  apply meets_run_lift
  apply (leads_spawn h extra).weaken
  intro forked shell past holds
  cases forked with
  | ok child => exact holds
  | error e => exact holds

theorem leads_close (descriptor : Nat) (extra : List Int) :
    Leads landmark extra (ExceptT.lift (perform (.close descriptor)) : Action _).run
      (outcomes (fun _ => steady extra) (steady [])) :=
  meets_run_lift ((calm_perform (c := .close descriptor) id).leads extra)

theorem leads_outcome_await (extra : List Int) (child : Int) :
    Leads landmark (extra ++ [child]) (outcome (await child)).run
      (outcomes (fun _ => steady extra) (steady [])) := by
  apply meets_run_lift
  apply (leads_await extra [] child).weaken
  intro result shell past h
  rw [List.append_nil] at h
  exact outcomes_same.mp (outcomes_of_done h)

theorem leads_pipe_end (rightChild : Except ShellError Int) :
    Leads landmark (startedChild rightChild)
      (match rightChild with
        | .error e => throw e
        | .ok child => await child : Action Int).run
      (outcomes (fun _ => steady []) (steady [])) := by
  cases rightChild with
  | error e => exact Meets.pure _ fun _ _ holds => holds
  | ok child => exact (leads_await [] [] child).weaken fun _ _ _ => outcomes_of_done

theorem leads_awaitSides (leftChild : Int) (rightChild : Except ShellError Int) :
    Leads landmark (startedChild rightChild ++ [leftChild]) (awaitSides leftChild rightChild).run
      (outcomes (fun _ => steady []) (steady [])) := by
  apply meets_run_bind (leads_outcome_await (startedChild rightChild) leftChild)
  intro waited
  cases waited with
  | ok status => exact leads_pipe_end rightChild
  | error e =>
    apply meets_run_bind (meets_run_lift (Calm.leads calm_get _))
    intro shell
    have warned : Calm landmark (StateT.lift (Logger.warn shell.logger
        ("等待管道左侧 " ++ toString leftChild ++ " 失败: " ++ e.message))) :=
      calm_lift (silent_log shell.logger .warn _)
    exact meets_run_bind (meets_run_lift (Calm.leads warned _)) fun _ => leads_pipe_end rightChild

theorem leads_evaluatePipe {left right : Action Int}
    (hl : Leads landmark [] left.run fun _ => steady [])
    (hr : Leads landmark [] right.run fun _ => steady []) :
    Leads landmark [] (evaluatePipe left right).run fun _ => steady [] := by
  have evaluated : Leads landmark [] (evaluatePipe left right).run
      (outcomes (fun _ => steady []) (steady [])) := by
    apply meets_run_bind leads_opened
    rintro ⟨reader, writer⟩
    apply meets_run_bind (leads_outcome_spawn (leads_runSide hl writer standardOutput reader) [])
    intro started
    cases started with
    | error e =>
      apply meets_run_bind (leads_close writer _)
      intro _
      apply meets_run_bind (leads_close reader _)
      intro _
      exact Meets.pure _ fun _ _ holds => holds
    | ok leftChild =>
      apply meets_run_bind (leads_outcome_spawn (leads_runSide hr reader standardInput writer) _)
      intro rightChild
      apply meets_run_bind (leads_close reader _)
      intro _
      apply meets_run_bind (leads_close writer _)
      intro _
      exact leads_awaitSides leftChild rightChild
  exact evaluated.weaken fun _ _ _ => outcomes_same.mp

/-! ## Returns -/

theorem Holds.accounted {past : List Event} (holds : steady [] landmark.shell past)
    (emptied : landmark.returning.waits → landmark.shell.jobs = {}) : Accounted landmark past where
  children := holds.counted
  distinct := holds.distinct
  ledger := holds.ledger
  emptied waits := by
    have none := holds.counted
    rw [emptied waits] at none
    exact none

theorem leads_noting {what : Returning} {task : Shell.Task α}
    (h : Leads landmark [] task fun _ shell past =>
      steady [] shell past ∧ (what.waits → shell.jobs = {})) :
    Leads landmark [] (Noted.noting (Noted.mark landmark what) task) fun _ => steady [] := by
  have marked : Meets rules (Permits landmark)
      (fun shell past => steady [] shell past ∧ (what.waits → shell.jobs = {}))
      (Noted.mark landmark what) fun _ => steady [] := by
    rintro shell past ⟨holds, emptied⟩
    by_cases found : landmark = ⟨what, shell⟩
    · rw [Noted.mark, if_pos found]
      subst found
      exact ⟨⟨Holds.orderly holds, Holds.accounted holds emptied⟩,
        fun reply _ => Holds.unchanged holds id id fun _ => rfl⟩
    · rw [Noted.mark, if_neg found]
      exact holds
  apply Meets.bind h
  intro result
  apply Meets.bind marked
  intro _
  exact Meets.pure result fun _ _ holds => holds

theorem leads_notingAction {what : Returning} {action : Action α} (other : what.waits = false)
    (h : Leads landmark [] action.run fun _ => steady []) :
    Leads landmark [] (Noted.notingAction (Noted.mark landmark what) action).run
      fun _ => steady [] := by
  apply leads_noting
  apply h.weaken
  intro _ shell past holds
  rw [other]
  exact ⟨holds, nofun⟩

theorem leads_evaluateFrom (c : Command) (carried : Option Int) :
    Leads landmark [] (Noted.evaluateFrom (Noted.mark landmark) c carried).run
      fun _ => steady [] := by
  induction c generalizing carried with
  | simple c =>
    rw [Noted.evaluateFrom.eq_def]
    cases carried with
    | some status => exact leads_notingAction rfl (leads_pure status)
    | none => exact leads_noting (leads_evaluateSimple c)
  | subshell parts body body_ih =>
    rw [Noted.evaluateFrom.eq_def]
    apply leads_notingAction rfl
    cases carried with
    | some status => exact leads_pure status
    | none => exact leads_evaluateSubshell (body_ih none) parts
  | pipe left right left_ih right_ih =>
    rw [Noted.evaluateFrom.eq_def]
    apply leads_notingAction rfl
    cases carried with
    | some status => exact leads_pure status
    | none => exact leads_evaluatePipe (left_ih none) (right_ih none)
  | andOr op left right left_ih right_ih =>
    rw [Noted.evaluateFrom.eq_def]
    apply leads_notingAction rfl
    cases carried with
    | some status => exact right_ih _
    | none => exact leads_bind (left_ih none) fun status => right_ih _
  | ended separator left left_ih =>
    rw [Noted.evaluateFrom.eq_def]
    apply leads_notingAction rfl
    cases carried with
    | some status => exact leads_pure status
    | none =>
      cases separator with
      | sequence => exact left_ih none
      | background => exact leads_bind (leads_startJob (left_ih none) left) fun _ => leads_pure 0
  | list separator left right left_ih right_ih =>
    rw [Noted.evaluateFrom.eq_def]
    apply leads_notingAction rfl
    cases carried with
    | some status => exact leads_pure status
    | none =>
      cases separator with
      | sequence => exact leads_bind (left_ih none) fun _ => right_ih none
      | background => exact leads_bind (leads_startJob (left_ih none) left) fun _ => right_ih none

theorem leads_noted_reap :
    Leads landmark [] (Noted.reap (Noted.mark landmark)) fun _ => steady [] :=
  leads_noting (leads_reap.weaken fun _ _ _ holds => ⟨holds, nofun⟩)

theorem leads_run (c : Command) :
    Leads landmark [] (Noted.run (Noted.mark landmark) c) fun _ => steady [] := by
  have kept (status : Int) : Leads landmark []
      (modify fun shell => { shell with vars := shell.vars.setStatus status }) fun _ => steady [] :=
    Meets.modify fun _ _ holds => holds
  apply leads_noting
  apply Meets.bind leads_noted_reap
  intro _
  apply Meets.bind (leads_evaluateFrom c none)
  intro result
  apply Meets.bind (kept _)
  intro _
  exact Meets.pure result fun _ _ holds => ⟨holds, nofun⟩

/-! ## Sessions -/

def settled (session : Session) (past : List Event) : Prop := steady [] session.shell past

abbrev Settles (landmark : Landmark) (task : Session.Task α) : Prop :=
  Meets rules (Permits landmark) settled task fun _ => settled

theorem settles_pure (a : α) : Settles landmark (pure a) := Meets.pure a fun _ _ holds => holds

theorem settles_get : Settles landmark get := Meets.get fun _ _ holds => holds

theorem settles_lift {p : Program α} (silent : Silent landmark p) :
    Settles landmark (StateT.lift p) :=
  Meets.lift fun _ past holds => silent _ _ past holds

theorem settles_onShell {task : Shell.Task α} (h : Leads landmark [] task fun _ => steady []) :
    Settles landmark (Session.onShell task) := by
  intro session past holds
  exact Program.safe_bind _ _ past (h session.shell past holds) fun _ _ holds => holds

theorem marked_error (look : Appearance) (text : String) :
    Marked (look.error ("bsh: " ++ text)) := by
  rw [Appearance.error, Appearance.paint]
  split
  · simp only [Colour.paint, Colour.start, marked_append]
    exact .inl (.inl (.inl (.inl (by decide))))
  · exact (marked_append _ _).mpr (.inl (by decide))

theorem settles_reportError (e : ShellError) : Settles landmark (Session.reportError e) := by
  apply Meets.bind settles_get
  intro session
  apply Meets.bind (settles_lift (silent_log session.shell.logger .error e.message))
  intro _
  exact settles_lift (silent_reportLine ((marked_append _ _).mpr (.inr (marked_error _ _))))

theorem settles_runTokens (tokens : List Token) :
    Settles landmark (Noted.runTokens (Noted.mark landmark) tokens) := by
  have numbered : Settles landmark
      (modify fun session => { session with number := session.number + 1 }) :=
    Meets.modify fun _ _ holds => holds
  rw [Noted.runTokens]
  cases Command.parse tokens with
  | error e => exact settles_reportError (.parse e)
  | ok command =>
    apply Meets.bind numbered
    intro _
    apply Meets.bind (settles_onShell (leads_run command))
    intro result
    cases result with
    | error e => exact settles_reportError e
    | ok status => exact settles_pure ()

theorem quiet_write_output (bytes : ByteArray) : Quiet (.write 1 bytes) := by
  rintro (⟨_, h⟩ | ⟨_, h⟩) <;> cases h

theorem silent_printLine (text : String) : Silent landmark (Program.printLine text) :=
  fun _ _ _ holds => Program.safe_print (holds.permits_quiet (quiet_write_output _))
    (fun reply _ => holds.quiet (quiet_write_output _) reply)
    fun _ holds => holds.orderly.permits_crash

theorem settles_enterLine (line : String) :
    Settles landmark (Noted.enterLine (Noted.mark landmark) line) := by
  have remembered : Settles landmark
      (modify fun session => { session with history := session.history.add line }) :=
    Meets.modify fun _ _ holds => holds
  rw [Noted.enterLine]
  split
  · exact settles_pure ()
  · apply Meets.bind remembered
    intro _
    apply Meets.bind settles_get
    intro session
    dsimp only
    split
    · exact settles_pure ()
    · split
      · apply Meets.bind (settles_lift (silent_printLine _))
        intro _
        exact settles_runTokens _
      · exact settles_runTokens _

theorem settles_perform (operation : Operation) :
    Settles landmark (Noted.perform (Noted.mark landmark) operation) := by
  cases operation with
  | evaluate c =>
    exact Meets.bind (settles_onShell (leads_evaluateFrom c none)) fun _ => settles_pure ()
  | run c => exact Meets.bind (settles_onShell (leads_run c)) fun _ => settles_pure ()
  | reap => exact Meets.bind (settles_onShell leads_noted_reap) fun _ => settles_pure ()
  | enterLine line => exact settles_enterLine line

theorem settles_performAll (operations : List Operation) :
    Settles landmark (Noted.performAll (Noted.mark landmark) operations) := by
  induction operations with
  | nil => exact settles_pure ()
  | cons operation rest ih => exact Meets.bind (settles_perform operation) fun _ => ih

/-! ## Runs -/

theorem settled_fresh {session : Session} (fresh : session.shell.jobs = {}) :
    settled session [] := by
  rw [settled, steady, fresh]
  exact holds_nil

/-- Whatever is asked of a session without jobs, and however its processes take their turns:
wherever evaluating, running a tree or collecting has just returned, in the shell or in a process
that it has forked, the children that this process has not collected are the jobs of its table, each
once, and these are just the jobs that it has reported as started and not as completed; after
waiting for all jobs there are none. At all times a process waits for and asks after its own
children only, no reply has said that there is no such child, and it has reported only its own jobs,
each when it had been collected. -/
theorem children_are_jobs (landmark : Landmark) (operations : List Operation) (session : Session)
    (fresh : session.shell.jobs = {}) :
    (Noted.performAll (Noted.mark landmark) operations session).Padded
        (Operation.performAll operations session) ∧
      ∀ system,
        Reaches rules [⟨[], Noted.performAll (Noted.mark landmark) operations session⟩] system →
        ∀ p ∈ system, (∃! jobs, Ledger p.past jobs) ∧ (∀ event ∈ p.past, ¬ IsRefusal event) ∧
          (∀ child next, p.rest = .call (.wait child) next → child ∈ uncollected p.past) ∧
          (∀ child next, p.rest = .call (.poll child) next → child ∈ uncollected p.past) ∧
          ∀ time next, p.rest = .call (.sleep time) next → Accounted landmark p.past := by
  constructor
  · exact Noted.padded_performAll (Noted.padded_mark landmark) operations session
  · intro system run p member
    have settles : Settles landmark (Noted.performAll (Noted.mark landmark) operations) :=
      settles_performAll operations
    have safe := safe_of_reaches run (settles session [] (settled_fresh fresh)) p member
    have orderly : Orderly p.past :=
      safe.past (fun _ _ permits => permits.1) fun _ _ holds => Holds.orderly holds
    obtain ⟨jobs, ledger⟩ := orderly.ledger
    refine ⟨⟨jobs, ledger, fun jobs' other => other.unique ledger⟩, orderly.answered, ?_, ?_, ?_⟩
    · intro child next pending
      exact (safe.permitted pending).2
    · intro child next pending
      exact (safe.permitted pending).2
    · intro time next pending
      exact (safe.permitted pending).2

def background : Command := .ended .background (.simple { program := "x" })

def freshSession : Session where
  shell := {}
  look := ⟨.standard, false⟩

def afterBackground : Landmark where
  returning := .evaluate background none
  shell := { jobs := ⟨[⟨7, 1, "x"⟩]⟩ }

/-- The shell starts the child 7, reports it, and stands to account when the line has been
evaluated, while the child has yet to run. -/
theorem children_are_jobs_background : freshSession.shell.jobs = {} ∧
    ∃ system, Reaches rules [⟨[], Noted.performAll (Noted.mark afterBackground)
        [.evaluate background] freshSession⟩] system ∧
      ∃ p ∈ system, p.past = [⟨.fork, .ok (.parent 7)⟩, ⟨startedNotice 7, .ok ()⟩] ∧
        (∃ next, p.rest = .call (.sleep 0) next) ∧ Accounted afterBackground p.past := by
  have forked : Step rules [⟨[], Noted.performAll (Noted.mark afterBackground)
      [.evaluate background] freshSession⟩] _ :=
    @Step.forked _ rules [] [] _ _ 7 (Finset.notMem_empty 7) trivial
  have run := (Relation.ReflTransGen.single forked).tail
    (@Step.reply _ rules [] [_] _ _ _ (Except.ok ()) nofun trivial)
  have sound := (children_are_jobs afterBackground [.evaluate background] freshSession rfl).2
    _ run _ List.mem_cons_self
  exact ⟨rfl, _, run, _, List.mem_cons_self, rfl, ⟨_, rfl⟩, sound.2.2.2.2 0 _ rfl⟩

end CommandShell.Reaping
