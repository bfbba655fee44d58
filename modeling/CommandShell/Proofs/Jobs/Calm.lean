import CommandShell.Proofs.Evaluation.Noted
import CommandShell.Proofs.Jobs.Ledger

/-!
# What a shell does beside its children

Most of what a shell does starts no child, collects none and reports no job: it works on
descriptors, directories and the log, shows errors, and becomes other programs. Such a task keeps
the children, the open jobs and the table of its shell as they are.
-/

set_option autoImplicit false

namespace CommandShell

def JobTable.processes (table : JobTable) : List Int := table.jobs.map Job.process

namespace Reaping
open Shell

variable {α β : Type}

/-- The notices are in order, and no reply has said that there is no such child. -/
structure Orderly (past : List Event) : Prop where
  ledger : ∃ jobs, Ledger past jobs
  answered : ∀ event ∈ past, ¬ IsRefusal event

/-- The children that are not collected are the jobs of the table, each once, and the notices leave
just these open; after waiting for all jobs there are none. -/
structure Accounted (landmark : Landmark) (past : List Event) : Prop where
  children : uncollected past = landmark.shell.jobs.processes.toFinset
  distinct : landmark.shell.jobs.processes.Nodup
  ledger : Ledger past landmark.shell.jobs.processes
  emptied : landmark.returning.waits → uncollected past = ∅

/-- A process asks after its own children only, and stands to account where it sleeps to note the
return that is looked for. -/
def Answerable (landmark : Landmark) (past : List Event) : Call → Prop
  | .wait child => child ∈ uncollected past
  | .poll child => child ∈ uncollected past
  | .sleep _ => Accounted landmark past
  | _ => True

def Permits (landmark : Landmark) (past : List Event) (c : Call) : Prop :=
  Orderly past ∧ Answerable landmark past c

variable {landmark : Landmark} {children jobs : List Int} {past : List Event}

theorem Holds.orderly (holds : Holds children jobs past) : Orderly past :=
  ⟨⟨jobs, holds.ledger⟩, holds.answered⟩

theorem Holds.permits_quiet (holds : Holds children jobs past) {c : Call} (quiet : Quiet c) :
    Permits landmark past c := by
  have answerable : Answerable landmark past c := by
    cases c <;> trivial
  exact ⟨holds.orderly, answerable⟩

def Silent (landmark : Landmark) (p : Program α) : Prop :=
  ∀ children jobs past, Holds children jobs past →
    p.Safe rules (Permits landmark) (fun _ past => Holds children jobs past) past

theorem silent_pure (a : α) : Silent landmark (pure a) := fun _ _ _ holds => holds

theorem silent_bind {p : Program α} {f : α → Program β} (first : Silent landmark p)
    (rest : ∀ a, Silent landmark (f a)) : Silent landmark (p >>= f) := by
  intro children jobs past holds
  apply Program.safe_bind f p past (first children jobs past holds)
  intro a past holds
  exact rest a children jobs past holds

theorem silent_perform {c : Call} (quiet : Quiet c) : Silent landmark (Program.perform c) := by
  intro children jobs past holds
  have ordinary : c ≠ .fork := by
    rintro rfl
    exact quiet
  constructor
  · exact holds.permits_quiet quiet
  · intro reply _
    rw [goOn_of_ne_fork ordinary]
    exact holds.quiet quiet reply

theorem Orderly.permits_crash (orderly : Orderly past) : Permits landmark past .crash :=
  ⟨orderly, trivial⟩

theorem silent_crash : Silent landmark (Program.crash : Program α) :=
  fun _ _ _ holds => ⟨holds.orderly.permits_crash, nofun⟩

theorem silent_reportLine {text : String} (marked : Marked text) :
    Silent landmark (Program.reportLine text) := by
  intro children jobs past holds
  have quiet := quiet_write ((marked_append text "\n").mpr (.inl marked)) 2
  exact Program.safe_print (holds.permits_quiet quiet) (fun reply _ => holds.quiet quiet reply)
    fun _ holds => holds.orderly.permits_crash

theorem marked_logLine (process : Int) (level : LogLevel) (moment : Moment) (text : String) :
    Marked (logLine process level moment text) := by
  simp only [logLine, marked_append]
  exact .inl (.inl (.inl (.inl (.inl (.inl (.inl (.inl (by decide))))))))

theorem silent_always (logger : Option Logger) (level : LogLevel) (text : String) :
    Silent landmark (Logger.always logger level text) := by
  cases logger with
  | none => exact silent_pure ()
  | some logger =>
    apply silent_bind (silent_perform (c := .self) id)
    intro process
    apply silent_bind (silent_perform (c := .now) id)
    intro seconds
    have line (descriptor : Nat) :=
      quiet_write (marked_logLine process level (.ofSeconds seconds) text) descriptor
    apply silent_bind (silent_perform (line 2))
    intro reply
    cases reply with
    | error e => exact silent_pure ()
    | ok _ => exact silent_bind (silent_perform (line logger.file)) fun _ => silent_pure ()

theorem silent_log (logger : Option Logger) (level : LogLevel) (text : String) :
    Silent landmark (Logger.log logger level text) := by
  rw [Logger.log]
  split
  · exact silent_always logger level text
  · exact silent_pure ()

/-! ## Tasks of a shell -/

def frame (table : JobTable) (children jobs : List Int) (shell : Shell) (past : List Event) :
    Prop :=
  shell.jobs = table ∧ Holds children jobs past

def Calm (landmark : Landmark) (task : Shell.Task α) : Prop :=
  ∀ table children jobs, Meets rules (Permits landmark) (frame table children jobs) task
    fun _ => frame table children jobs

theorem calm_pure (a : α) : Calm landmark (pure a) :=
  fun _ _ _ => Meets.pure a fun _ _ h => h

theorem calm_bind {task : Shell.Task α} {f : α → Shell.Task β} (first : Calm landmark task)
    (rest : ∀ a, Calm landmark (f a)) : Calm landmark (task >>= f) :=
  fun table children jobs => Meets.bind (first table children jobs)
    fun a => rest a table children jobs

theorem calm_lift {p : Program α} (silent : Silent landmark p) :
    Calm landmark (StateT.lift p : Shell.Task α) :=
  fun _ children jobs => Meets.lift fun _ past h =>
    Program.safe_mono (fun _ _ holds => ⟨h.1, holds⟩) p past (silent children jobs past h.2)

theorem calm_perform {c : Call} (quiet : Quiet c) : Calm landmark (Shell.perform c) :=
  calm_lift (silent_perform quiet)

theorem calm_get : Calm landmark (get : Shell.Task Shell) :=
  fun _ _ _ => Meets.get fun _ _ h => h

theorem calm_modify {f : Shell → Shell} (kept : ∀ shell, (f shell).jobs = shell.jobs) :
    Calm landmark (modify f : Shell.Task Unit) :=
  fun _ _ _ => Meets.modify fun shell _ h => ⟨(kept shell).trans h.1, h.2⟩

theorem calm_report (text : String) : Calm landmark (report text) :=
  calm_lift (silent_reportLine ((marked_append _ _).mpr (.inl (by decide))))

theorem calm_run_pure (a : α) : Calm landmark (pure a : Action α).run := calm_pure (Except.ok a)

theorem calm_run_throw (e : ShellError) : Calm landmark (throw e : Action α).run :=
  calm_pure (Except.error e)

theorem calm_run_bind {action : Action α} {f : α → Action β} (first : Calm landmark action.run)
    (rest : ∀ a, Calm landmark (f a).run) : Calm landmark (action >>= f).run := by
  rw [ExceptT.run_bind]
  apply calm_bind first
  intro result
  cases result with
  | error e => exact calm_pure (Except.error e)
  | ok a => exact rest a

theorem calm_run_lift {task : Shell.Task α} (calm : Calm landmark task) :
    Calm landmark (ExceptT.lift task : Action α).run :=
  calm_bind calm fun a => calm_pure (Except.ok a)

theorem calm_attempt {operation : String} {call : Program (Except Errno α)}
    (silent : Silent landmark call) : Calm landmark (attempt operation call).run := by
  apply calm_run_bind (calm_run_lift (calm_lift silent))
  intro reply
  cases reply with
  | error e => exact calm_run_throw _
  | ok a => exact calm_run_pure a

theorem calm_move (source target : Nat) : Calm landmark (move source target).run :=
  calm_run_bind (calm_attempt (silent_perform (c := .duplicate source target) id))
    fun _ => calm_attempt (silent_perform (c := .close source) id)

theorem calm_openOn (r : Redirection) (access : Access) (target : Nat) :
    Calm landmark (openOn r access target).run := by
  apply calm_run_bind (calm_run_lift (calm_perform (c := .openFile r.filename access) id))
  intro reply
  cases reply with
  | error e => exact calm_run_throw _
  | ok descriptor =>
    by_cases h : descriptor ≠ target
    · simpa only [if_pos h] using calm_move descriptor target
    · simpa only [if_neg h] using calm_run_pure ()

theorem calm_redirect (parts : StageParts) : Calm landmark (redirect parts).run := by
  obtain ⟨locals, input, output⟩ := parts
  cases input with
  | none =>
    cases output with
    | none => exact calm_run_pure ()
    | some o => exact calm_openOn o o.operator.outputAccess standardOutput
  | some i =>
    have read : Calm landmark (openOn i .read standardInput).run :=
      calm_openOn i .read standardInput
    cases output with
    | none => exact calm_run_bind read fun _ => calm_run_pure ()
    | some o =>
      exact calm_run_bind read fun _ => calm_openOn o o.operator.outputAccess standardOutput

theorem calm_connect (used target unused : Nat) : Calm landmark (connect used target unused).run :=
  calm_run_bind (calm_move used target)
    fun _ => calm_attempt (silent_perform (c := .close unused) id)

theorem calm_requireSettable (locals : List Assignment) :
    Calm landmark (requireSettable locals) := by
  rw [requireSettable]
  split
  · exact calm_pure ()
  · exact calm_lift silent_crash

theorem calm_runProgram (c : SimpleCommand) : Calm landmark (runProgram c) := by
  apply calm_bind (calm_redirect c.parts)
  intro result
  cases result with
  | error e => exact calm_bind (calm_report e.message) fun _ => calm_pure 1
  | ok _ =>
    refine calm_bind (calm_requireSettable c.parts.locals) fun _ => ?_
    refine calm_bind (calm_modify fun _ => rfl) fun _ => ?_
    cases c.argv.findSome? zeroByte? with
    | some position => exact calm_bind (calm_report _) fun _ => calm_pure 1
    | none =>
      apply calm_bind calm_get
      intro shell
      apply calm_bind (calm_perform (c := .exec c.program c.argv shell.environment) id)
      intro e
      by_cases h : e = .noSuchFile
      · simpa only [if_pos h] using calm_bind (calm_report _) fun _ => calm_pure 127
      · simpa only [if_neg h] using calm_bind (calm_report _) fun _ => calm_pure 126

theorem calm_enter (target : String) : Calm landmark (changeDirectory.enter target) := by
  apply calm_bind (calm_perform (c := .changeDirectory target) id)
  intro reply
  cases reply with
  | ok _ => exact calm_pure 0
  | error e => exact calm_bind (calm_report _) fun _ => calm_pure _

theorem calm_changeDirectory (arguments : List String) :
    Calm landmark (changeDirectory arguments) := by
  apply calm_bind calm_get
  intro shell
  match arguments, shell.vars.get? "HOME" with
  | _ :: _ :: _, _ => exact calm_bind (calm_report _) fun _ => calm_pure 1
  | [], none => exact calm_bind (calm_report _) fun _ => calm_pure 1
  | [], some home => exact calm_enter home
  | [directory], home => exact calm_enter (Variables.expandTilde home directory)

end Reaping

end CommandShell
