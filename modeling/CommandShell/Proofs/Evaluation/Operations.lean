import CommandShell.Proofs.Jobs.Calm
import CommandShell.Proofs.Jobs.Notices
import CommandShell.Proofs.Program.Path

/-!
# What the operations of a shell do

For each operation, the calls that it makes before it returns, its result and the shell that it
leaves, and the calls that it may come to. A fork returns in the parent only: what the child does
goes on from the history of the fork, and ends when the child leaves.
-/

set_option autoImplicit false

namespace CommandShell
open Reaping

/-- Calls that touch no descriptor and no directory, start nothing and report no job as completed.
-/
def Call.IsInert : Call → Prop
  | .write descriptor bytes =>
    ∀ completion, Call.write descriptor bytes ≠ completedNotice completion
  | .self | .now | .crash => True
  | _ => False

def Call.IsWaiting : Call → Prop
  | .wait _ | .poll _ => True
  | c => c.IsInert

def Call.IsStarting : Call → Prop
  | .fork | .close _ => True
  | c => c.IsWaiting

def Call.IsCollecting (c : Call) : Prop :=
  c.IsWaiting ∨ ∃ completion, c = completedNotice completion

def Call.IsMoving : Call → Prop
  | .changeDirectory _ => True
  | c => c.IsInert

/-- Calls that a process makes on its own behalf while it evaluates a command, but for reports on
jobs. -/
def Call.IsOwn : Call → Prop
  | .fork | .pipe | .close _ | .changeDirectory _ => True
  | c => c.IsWaiting

theorem Call.IsInert.isWaiting {c : Call} (h : c.IsInert) : c.IsWaiting := by
  cases c <;> first | exact h | trivial

theorem Call.IsWaiting.isOwn {c : Call} (h : c.IsWaiting) : c.IsOwn := by
  cases c <;> trivial

theorem Call.IsInert.isOwn {c : Call} (h : c.IsInert) : c.IsOwn := h.isWaiting.isOwn

theorem Call.IsInert.isMoving {c : Call} (h : c.IsInert) : c.IsMoving := by
  cases c <;> first | exact h | trivial

theorem Call.IsMoving.isOwn {c : Call} (h : c.IsMoving) : c.IsOwn := by
  cases c <;> first | exact h | trivial

theorem Call.IsWaiting.isStarting {c : Call} (h : c.IsWaiting) : c.IsStarting := by
  cases c <;> first | exact h | trivial

theorem Call.IsInert.isStarting {c : Call} (h : c.IsInert) : c.IsStarting := h.isWaiting.isStarting

theorem Call.IsStarting.isOwn {c : Call} (h : c.IsStarting) : c.IsOwn := by
  cases c <;> first | exact h | trivial

theorem Call.IsInert.isCollecting {c : Call} (h : c.IsInert) : c.IsCollecting := .inl h.isWaiting

theorem Call.IsCollecting.forms {c : Call} (h : c.IsCollecting) :
    (∃ descriptor bytes, c = .write descriptor bytes) ∨ c = .self ∨ c = .now ∨ c = .crash ∨
      (∃ child, c = .wait child) ∨ ∃ child, c = .poll child := by
  obtain waiting | ⟨completion, rfl⟩ := h
  · cases c with
    | write | self | now | crash | wait | poll => simp
    | _ => exact waiting.elim
  · exact .inl ⟨_, _, rfl⟩

theorem Call.IsOwn.ne_completed {c : Call} (h : c.IsOwn) (completion : Completion) :
    c ≠ completedNotice completion := by
  rintro rfl
  exact h completion rfl

def Call.IsLast : Call → Prop
  | .exit _ | .exec .. => True
  | _ => False

theorem Call.IsOwn.not_isLast {c : Call} (h : c.IsOwn) : ¬ c.IsLast := by
  cases c <;> first | exact id | exact h.elim

theorem Call.IsCollecting.not_isLast {c : Call} (h : c.IsCollecting) : ¬ c.IsLast := by
  obtain ⟨_, _, rfl⟩ | rfl | rfl | rfl | ⟨_, rfl⟩ | ⟨_, rfl⟩ := h.forms <;> exact id

namespace Shell
open Program

variable {α β : Type} {shell shell' : Shell} {trace : List Event} {c : Call}
  {result : Except ShellError Int}

/-! ## Reports -/

theorem isInert_write {text : String} (marked : Marked text) (descriptor : Nat) :
    (Call.write descriptor text.toUTF8).IsInert :=
  fun completion same => not_isNotice_write marked descriptor (.inr ⟨completion, same⟩)

theorem only_reportLine {text : String} (marked : Marked text) :
    (reportLine text).Only Call.IsInert :=
  only_print (isInert_write ((marked_append _ _).mpr (.inl marked)) 2) trivial

theorem only_always (logger : Option Logger) (level : LogLevel) (text : String) :
    (Logger.always logger level text).Only Call.IsInert := by
  cases logger with
  | none => trivial
  | some logger =>
    apply (only_perform (c := .self) trivial).bind
    intro process
    apply (only_perform (c := .now) trivial).bind
    intro seconds
    have line (descriptor : Nat) :=
      isInert_write (marked_logLine process level (.ofSeconds seconds) text) descriptor
    apply (only_perform (line 2)).bind
    intro reply
    cases reply with
    | error e => trivial
    | ok _ => exact (only_perform (line logger.file)).bind fun _ => trivial

theorem only_log (logger : Option Logger) (level : LogLevel) (text : String) :
    (Logger.log logger level text).Only Call.IsInert := by
  rw [Logger.log]
  split
  · exact only_always logger level text
  · trivial

theorem keeps_report (text : String) : Keeps Call.IsInert (report text) :=
  keeps_lift (only_reportLine ((marked_append _ _).mpr (.inl (by decide))))

/-! ## Single calls -/

theorem gives_perform {c : Call} {reply : c.Reply} :
    Gives (perform c) shell trace reply shell' ↔ trace = [⟨c, reply⟩] ∧ shell = shell' := by
  rw [perform, gives_lift, returns_perform]

theorem calls_perform {c c' : Call} :
    Calls (perform c) shell trace c' ↔ trace = [] ∧ c = c' := by
  rw [perform, calls_lift, asks_perform]

theorem gives_attempt {operation : String} {call : Program (Except Errno α)}
    {result : Except ShellError α}
    (h : Gives (attempt operation call).run shell trace result shell') :
    ∃ reply, call.Returns trace reply ∧ result = reply.mapError (.system operation) ∧
      shell = shell' := by
  obtain ⟨_, reply, _, _, rfl, called, rest⟩ := gives_run_lift_bind.mp h
  obtain ⟨returns, rfl⟩ := gives_lift.mp called
  cases reply with
  | ok a =>
    obtain ⟨rfl, rfl, rfl⟩ := gives_run_pure.mp rest
    exact ⟨_, by simpa using returns, rfl, rfl⟩
  | error e =>
    obtain ⟨rfl, rfl, rfl⟩ := gives_run_throw.mp rest
    exact ⟨_, by simpa using returns, rfl, rfl⟩

theorem calls_attempt {operation : String} {call : Program (Except Errno α)}
    (h : Calls (attempt operation call).run shell trace c) : call.Asks trace c := by
  obtain asked | ⟨_, reply, _, _, rfl, -, rest⟩ := calls_run_lift_bind.mp h
  · exact calls_lift.mp asked
  · cases reply <;> exact (calls_pure rest).elim

theorem keeps_attempt {kind : Call → Prop} {operation : String}
    {call : Program (Except Errno α)} (only : call.Only kind) :
    Keeps kind (attempt operation call).run := by
  apply (keeps_lift only).run_lift.run_bind
  intro reply
  cases reply with
  | ok a => exact keeps_pure _
  | error e => exact keeps_pure _

theorem keeps_await (child : Int) : Keeps Call.IsWaiting (await child).run := by
  have waits : (waitFor child).Only Call.IsWaiting := only_waitFor trivial
  exact (keeps_attempt waits).run_bind fun _ => keeps_pure _

def awaited (reply : Except Errno Ending) : Except ShellError Int :=
  (reply.map Ending.status).mapError (.system "waitpid")

theorem gives_await {child : Int} (h : Gives (await child).run shell trace result shell') :
    ∃ w : Wait, trace = [⟨.wait child, w⟩] ∧ result = awaited w.outcome ∧ shell' = shell := by
  obtain ⟨e, rfl, failed⟩ | ⟨_, ending, _, _, rfl, waited, rest⟩ := gives_run_bind.mp h
  · obtain ⟨reply, returns, same, rfl⟩ := gives_attempt failed
    obtain ⟨w, rfl, rfl⟩ := returns_waitFor.mp returns
    refine ⟨w, rfl, ?_, rfl⟩
    cases answer : w.outcome with
    | ok _ =>
      rw [answer] at same
      cases same
    | error _ =>
      rw [answer] at same
      cases same
      rfl
  · obtain ⟨reply, returns, same, rfl⟩ := gives_attempt waited
    obtain ⟨w, rfl, rfl⟩ := returns_waitFor.mp returns
    obtain ⟨rfl, rfl, rfl⟩ := gives_run_pure.mp rest
    refine ⟨w, rfl, ?_, rfl⟩
    cases answer : w.outcome with
    | error _ =>
      rw [answer] at same
      cases same
    | ok _ =>
      rw [answer] at same
      cases same
      rfl

/-! ## Forks -/

def born : List Event := [⟨.fork, .ok .child⟩, ⟨.setDisposition Signal.ofKeys .usual, ()⟩]

def life (body : Task Int) : Action Int := do
  let _ ← perform (.setDisposition Signal.ofKeys .usual)
  modify fun shell => { shell with jobs := {} }
  let status ← body
  nomatch ← perform (.exit status)

theorem not_gives_life {body : Task Int} : ¬ Gives (life body).run shell trace result shell' := by
  intro h
  obtain ⟨_, _, _, _, rfl, -, rest⟩ := gives_run_lift_bind.mp h
  obtain ⟨_, _, _, _, rfl, -, rest⟩ := gives_run_lift_bind.mp rest
  obtain ⟨_, _, _, _, rfl, -, rest⟩ := gives_run_lift_bind.mp rest
  obtain ⟨_, never, _⟩ := gives_run_lift_bind.mp rest
  exact never.elim

theorem calls_life {body : Task Int} (h : Calls (life body).run shell trace c) :
    (trace = [] ∧ c = .setDisposition Signal.ofKeys .usual) ∨
    ∃ own, trace = ⟨.setDisposition Signal.ofKeys .usual, ()⟩ :: own ∧
      (Calls body { shell with jobs := {} } own c ∨
        ∃ status last, Gives body { shell with jobs := {} } own status last ∧
          c = .exit status) := by
  obtain asked | ⟨_, _, _, _, rfl, disposed, rest⟩ := calls_run_lift_bind.mp h
  · obtain ⟨rfl, rfl⟩ := calls_perform.mp asked
    exact .inl ⟨rfl, rfl⟩
  obtain ⟨rfl, rfl⟩ := gives_perform.mp disposed
  obtain asked | ⟨_, _, _, _, rfl, forgot, rest⟩ := calls_run_lift_bind.mp rest
  · exact (calls_pure asked).elim
  obtain ⟨rfl, rfl⟩ := gives_modify.mp forgot
  refine .inr ⟨_, rfl, ?_⟩
  obtain asked | ⟨front, status, last, back, rfl, returned, rest⟩ := calls_run_lift_bind.mp rest
  · exact .inl asked
  obtain asked | ⟨_, never, _⟩ := calls_run_lift_bind.mp rest
  · obtain ⟨rfl, rfl⟩ := calls_perform.mp asked
    exact .inr ⟨status, last, by simpa using returned, rfl⟩
  · exact never.elim

def leave (status : Int) : Action Int := do
  nomatch ← perform (.exit status)

theorem run_life (body : Task Int) : (life body).run = (do
    let _ ← perform (.setDisposition Signal.ofKeys .usual)
    modify fun shell => { shell with jobs := {} }
    let status ← body
    (leave status).run) := by
  refine run_lift_bind.trans (bind_congr fun _ => ?_)
  refine run_lift_bind.trans (bind_congr fun _ => ?_)
  exact run_lift_bind

theorem life_bind (body : Task Int) (shell : Shell)
    (k : Except ShellError Int × Shell → Program β) :
    (life body).run shell >>= k = .call (.setDisposition Signal.ofKeys .usual) fun _ =>
      body { shell with jobs := {} } >>= fun result => (leave result.1).run result.2 >>= k := by
  have assoc := Program.bind_assoc (body { shell with jobs := {} })
    (fun result => (leave result.1).run result.2) k
  rw [run_life]
  exact congrArg (Program.call _) (funext fun _ => assoc)

def forked (reply : Except Errno Int) : Except ShellError Int := reply.mapError (.system "fork")

def forks (reply : Except Errno Int) : Event := ⟨.fork, reply.map Forked.parent⟩

theorem gives_spawn {body : Task Int} (h : Gives (spawn body).run shell trace result shell') :
    ∃ reply, trace = [forks reply] ∧ result = forked reply ∧ shell' = shell := by
  obtain ⟨e, rfl, failed⟩ | ⟨_, side, _, _, rfl, attempted, rest⟩ := gives_run_bind.mp h
  · obtain ⟨reply, returns, same, rfl⟩ := gives_attempt failed
    cases reply with
    | ok _ => cases same
    | error _ =>
      cases same
      exact ⟨.error _, returns_perform.mp returns, rfl, rfl⟩
  · obtain ⟨reply, returns, same, rfl⟩ := gives_attempt attempted
    obtain rfl := returns_perform.mp returns
    cases reply with
    | error _ => cases same
    | ok _ =>
      cases same
      cases side with
      | child => exact (not_gives_life rest).elim
      | parent child =>
        obtain ⟨rfl, rfl, rfl⟩ := gives_run_pure.mp rest
        exact ⟨.ok child, rfl, rfl, rfl⟩

theorem calls_spawn {body : Task Int} (h : Calls (spawn body).run shell trace c) :
    (trace = [] ∧ c = .fork) ∨
      ∃ own, trace = ⟨.fork, .ok .child⟩ :: own ∧ Calls (life body).run shell own c := by
  obtain asked | ⟨_, side, _, _, rfl, attempted, rest⟩ := calls_run_bind.mp h
  · obtain ⟨rfl, rfl⟩ := asks_perform.mp (calls_attempt asked)
    exact .inl ⟨rfl, rfl⟩
  · obtain ⟨reply, returns, same, rfl⟩ := gives_attempt attempted
    obtain rfl := returns_perform.mp returns
    cases reply with
    | error _ => cases same
    | ok _ =>
      cases same
      cases side with
      | parent child => exact (calls_pure rest).elim
      | child => exact .inr ⟨_, rfl, rest⟩

theorem spawn_bind {body : Task Int} {shell : Shell}
    {k : Except ShellError Int × Shell → Program β} :
    (spawn body).run shell >>= k = .call .fork fun
      | .error e => k (.error (.system "fork" e), shell)
      | .ok (.parent child) => k (.ok child, shell)
      | .ok .child => (life body).run shell >>= k := by
  refine congrArg (Program.call .fork) (funext fun reply => ?_)
  rcases reply with e | _ | child <;> rfl

inductive Waited : List Event → Except ShellError Int → Prop
  | unstarted (e : Errno) : Waited [forks (.error e)] (.error (.system "fork" e))
  | started (child : Int) (w : Wait) :
    Waited [forks (.ok child), ⟨.wait child, w⟩] (awaited w.outcome)

theorem gives_spawn_await {body : Task Int}
    (h : Gives (spawn body >>= await).run shell trace result shell') :
    Waited trace result ∧ shell' = shell := by
  obtain ⟨e, rfl, failed⟩ | ⟨_, child, _, _, rfl, started, rest⟩ := gives_run_bind.mp h
  · obtain ⟨reply, rfl, same, rfl⟩ := gives_spawn failed
    cases reply with
    | ok _ => cases same
    | error e =>
      cases same
      exact ⟨.unstarted e, rfl⟩
  · obtain ⟨reply, rfl, same, rfl⟩ := gives_spawn started
    cases reply with
    | error _ => cases same
    | ok _ =>
      cases same
      obtain ⟨w, rfl, rfl, rfl⟩ := gives_await rest
      exact ⟨.started child w, rfl⟩

theorem calls_spawn_await {body : Task Int}
    (h : Calls (spawn body >>= await).run shell trace c) : c.IsStarting ∨
      ∃ own, trace = ⟨.fork, .ok .child⟩ :: own ∧ Calls (life body).run shell own c := by
  obtain asked | ⟨_, child, _, _, rfl, started, rest⟩ := calls_run_bind.mp h
  · obtain ⟨rfl, rfl⟩ | forked := calls_spawn asked
    · exact .inl trivial
    · exact .inr forked
  · exact .inl ((keeps_await child).called rest).isStarting

/-! ## Built-in commands -/

def destination? (vars : Variables) : List String → Option String
  | [] => vars.get? "HOME"
  | [directory] => some (Variables.expandTilde (vars.get? "HOME") directory)
  | _ => none

inductive Moved (vars : Variables) (arguments : List String) : List Event → Int → Prop
  | entered (target : String) : destination? vars arguments = some target →
    Moved vars arguments [⟨.changeDirectory target, .ok ()⟩] 0
  | refused (target : String) (e : Errno) {report : List Event} :
    destination? vars arguments = some target → (∀ event ∈ report, event.call.IsInert) →
    Moved vars arguments (⟨.changeDirectory target, .error e⟩ :: report) e.number
  | nowhere {report : List Event} : destination? vars arguments = none →
    (∀ event ∈ report, event.call.IsInert) → Moved vars arguments report 1

theorem gives_reported {text : String} {status given : Int}
    (h : Gives (do report text; return status) shell trace given shell') :
    (∀ event ∈ trace, event.call.IsInert) ∧ given = status ∧ shell' = shell := by
  obtain ⟨_, _, _, _, rfl, reported, rest⟩ := gives_bind.mp h
  obtain ⟨rfl, rfl, rfl⟩ := gives_pure.mp rest
  obtain ⟨inert, rfl⟩ := (keeps_report text).given reported
  exact ⟨by simpa using inert, rfl, rfl⟩

theorem gives_enter {vars : Variables} {arguments : List String} {target : String} {status : Int}
    (there : destination? vars arguments = some target)
    (h : Gives (changeDirectory.enter target) shell trace status shell') :
    Moved vars arguments trace status ∧ shell' = shell := by
  obtain ⟨_, reply, _, _, rfl, asked, rest⟩ := gives_bind.mp h
  obtain ⟨rfl, rfl⟩ := gives_perform.mp asked
  cases reply with
  | ok _ =>
    obtain ⟨rfl, rfl, rfl⟩ := gives_pure.mp rest
    exact ⟨.entered target there, rfl⟩
  | error e =>
    obtain ⟨inert, rfl, rfl⟩ := gives_reported rest
    exact ⟨.refused target e there inert, rfl⟩

theorem gives_changeDirectory {arguments : List String} {status : Int}
    (h : Gives (changeDirectory arguments) shell trace status shell') :
    Moved shell.vars arguments trace status ∧ shell' = shell := by
  obtain ⟨_, _, _, _, rfl, got, rest⟩ := gives_bind.mp h
  obtain ⟨rfl, rfl, rfl⟩ := gives_get.mp got
  rw [List.nil_append]
  rcases arguments with _ | ⟨directory, _ | ⟨_, _⟩⟩
  · cases home : shell.vars.get? "HOME" with
    | none =>
      rw [home] at rest
      obtain ⟨inert, rfl, rfl⟩ := gives_reported rest
      exact ⟨.nowhere home inert, rfl⟩
    | some target =>
      rw [home] at rest
      exact gives_enter home rest
  · exact gives_enter rfl rest
  · obtain ⟨inert, rfl, rfl⟩ := gives_reported rest
    exact ⟨.nowhere rfl inert, rfl⟩

theorem keeps_changeDirectory (arguments : List String) :
    Keeps Call.IsMoving (changeDirectory arguments) := by
  have reported (text : String) (status : Int) :
      Keeps Call.IsMoving (do report text; return status) :=
    ((keeps_report text).bind fun _ => keeps_pure status).mono fun _ => Call.IsInert.isMoving
  have entered (target : String) : Keeps Call.IsMoving (changeDirectory.enter target) := by
    apply (keeps_lift (only_perform trivial)).bind
    intro reply
    cases reply with
    | ok _ => exact keeps_pure _
    | error e => exact reported _ _
  apply keeps_get.bind
  intro shell
  rcases arguments with _ | ⟨directory, _ | ⟨_, _⟩⟩
  · dsimp only
    split
    · exact reported _ _
    · exact reported _ _
    · exact entered _
    · exact entered _
  · exact entered _
  · exact reported _ _

theorem only_awaitEach (logger : Option Logger) (jobs : List Job) :
    (JobTable.awaitEach logger jobs).Only Call.IsCollecting := by
  have logged (level : LogLevel) (text : String) :
      (Logger.log logger level text).Only Call.IsCollecting :=
    (only_log logger level text).mono fun _ => Call.IsInert.isCollecting
  induction jobs with
  | nil => trivial
  | cons job rest ih =>
    have waits : (waitFor job.process).Only Call.IsCollecting := only_waitFor (.inl trivial)
    apply waits.bind
    intro reply
    cases reply with
    | ok ending =>
      have completed : (reportLine (Completion.message ⟨job.process, ending.status⟩)).Only
          Call.IsCollecting :=
        only_print (.inr ⟨_, rfl⟩) (.inl trivial)
      exact completed.bind fun _ => ih.bind fun _ => trivial
    | error e =>
      dsimp only
      split
      · exact (logged .warn _).bind fun _ => ih
      · exact (logged .error _).bind fun _ => ih

theorem gives_awaitJobs {completed : List Completion}
    (h : Gives awaitJobs shell trace completed shell') :
    (∀ event ∈ trace, event.call.IsCollecting) ∧ shell' = { shell with jobs := {} } := by
  obtain ⟨_, _, _, _, rfl, got, rest⟩ := gives_bind.mp h
  obtain ⟨rfl, rfl, rfl⟩ := gives_get.mp got
  obtain ⟨_, _, _, _, rfl, waited, rest⟩ := gives_bind.mp rest
  obtain ⟨returns, rfl⟩ := gives_lift.mp waited
  obtain ⟨front, _, _, rfl, collected, done⟩ := returns_bind.mp returns
  obtain ⟨rfl, same⟩ := returns_done.mp done
  cases same
  obtain ⟨_, _, _, _, rfl, emptied, rest⟩ := gives_bind.mp rest
  obtain ⟨rfl, rfl⟩ := gives_modify.mp emptied
  obtain ⟨rfl, rfl, rfl⟩ := gives_pure.mp rest
  exact ⟨by simpa using ((only_awaitEach shell.logger shell.jobs.jobs).path collected).1, rfl⟩

theorem only_awaitJobs (shell : Shell) : (awaitJobs shell).Only Call.IsCollecting := by
  have collected : (shell.jobs.awaitAll shell.logger).Only Call.IsCollecting :=
    (only_awaitEach shell.logger shell.jobs.jobs).bind fun _ => trivial
  exact (keeps_lift collected shell).1.bind fun _ => trivial

theorem only_waitForJobs (arguments : List String) (shell : Shell) :
    (waitForJobs arguments shell).Only Call.IsCollecting := by
  cases arguments with
  | nil => exact (only_awaitJobs shell).bind fun _ => trivial
  | cons _ _ =>
    have reported := (keeps_report "wait: usage: wait" shell).1
    exact (reported.mono fun _ => Call.IsInert.isCollecting).bind fun _ => trivial

inductive Collected (arguments : List String) (shell : Shell) : List Event → Int → Shell → Prop
  | all {trace : List Event} : arguments = [] → (∀ event ∈ trace, event.call.IsCollecting) →
    Collected arguments shell trace 0 { shell with jobs := {} }
  | misused {trace : List Event} : arguments ≠ [] → (∀ event ∈ trace, event.call.IsInert) →
    Collected arguments shell trace 1 shell

theorem gives_waitForJobs {arguments : List String} {status : Int}
    (h : Gives (waitForJobs arguments) shell trace status shell') :
    Collected arguments shell trace status shell' := by
  cases arguments with
  | nil =>
    obtain ⟨_, _, _, _, rfl, waited, rest⟩ := gives_bind.mp h
    obtain ⟨rfl, rfl, rfl⟩ := gives_pure.mp rest
    obtain ⟨collecting, rfl⟩ := gives_awaitJobs waited
    exact .all rfl (by simpa using collecting)
  | cons _ _ =>
    obtain ⟨inert, rfl, rfl⟩ := gives_reported h
    exact .misused (List.cons_ne_nil _ _) inert

/-! ## Pipes -/

def awaitRight : Except ShellError Int → Action Int
  | .error e => throw e
  | .ok child => await child

theorem keeps_awaitSides (leftChild : Int) (rightChild : Except ShellError Int) :
    Keeps Call.IsWaiting (awaitSides leftChild rightChild).run := by
  have last : Keeps Call.IsWaiting (awaitRight rightChild).run := by
    cases rightChild with
    | error e => exact keeps_pure _
    | ok child => exact keeps_await child
  apply (keeps_await leftChild).run_lift.run_bind
  intro waited
  cases waited with
  | ok status => exact last
  | error e =>
    apply keeps_get.run_lift.run_bind
    intro shell
    have logged := (only_log shell.logger .warn
      ("等待管道左侧 " ++ toString leftChild ++ " 失败: " ++ e.message)).mono
      fun _ => Call.IsInert.isWaiting
    exact (keeps_lift logged).run_lift.run_bind fun _ => last

inductive Settled : Except Errno Int → List Event → Except ShellError Int → Prop
  | unstarted (e : Errno) (trace : List Event) :
    Settled (.error e) trace (.error (.system "fork" e))
  | ended (child : Int) (front : List Event) (w : Wait) :
    Settled (.ok child) (front ++ [⟨.wait child, w⟩]) (awaited w.outcome)

theorem gives_awaitSides {leftChild : Int} {reply : Except Errno Int}
    (h : Gives (awaitSides leftChild (forked reply)).run shell trace result shell') :
    Settled reply trace result := by
  have last {shell : Shell} (front : List Event) {back : List Event}
      (settled : Gives (awaitRight (forked reply)).run shell back result shell') :
      Settled reply (front ++ back) result := by
    cases reply with
    | error e =>
      obtain ⟨rfl, rfl, rfl⟩ := gives_run_throw.mp settled
      exact .unstarted e _
    | ok child =>
      obtain ⟨w, rfl, rfl, -⟩ := gives_await settled
      exact .ended child front w
  obtain ⟨front, waited, _, _, rfl, -, rest⟩ := gives_run_lift_bind.mp h
  cases waited with
  | ok _ => exact last front rest
  | error e =>
    obtain ⟨got, _, _, _, rfl, -, logging⟩ := gives_run_lift_bind.mp rest
    obtain ⟨logged, _, _, _, rfl, -, settled⟩ := gives_run_lift_bind.mp logging
    rw [← List.append_assoc, ← List.append_assoc]
    exact last _ settled

inductive Piped : List Event → Except ShellError Int → Prop
  | unopened (e : Errno) : Piped [⟨.pipe, .error e⟩] (.error (.system "pipe" e))
  | unstarted (reader writer : Nat) (e : Errno) (closed closed' : Except Errno Unit) :
    Piped [⟨.pipe, .ok (reader, writer)⟩, forks (.error e), ⟨.close writer, closed⟩,
      ⟨.close reader, closed'⟩] (.error (.system "fork" e))
  | started (reader writer : Nat) (leftChild : Int) (reply : Except Errno Int)
    (closed closed' : Except Errno Unit) {rest : List Event} {result : Except ShellError Int} :
    (∀ event ∈ rest, event.call.IsWaiting) → Settled reply rest result →
    Piped (⟨.pipe, .ok (reader, writer)⟩ :: forks (.ok leftChild) :: forks reply ::
      ⟨.close reader, closed⟩ :: ⟨.close writer, closed'⟩ :: rest) result

theorem gives_evaluatePipe {left right : Action Int}
    (h : Gives (evaluatePipe left right).run shell trace result shell') :
    Piped trace result ∧ shell' = shell := by
  obtain ⟨e, rfl, failed⟩ | ⟨_, ⟨reader, writer⟩, _, _, rfl, opened, rest⟩ := gives_run_bind.mp h
  · obtain ⟨reply, returns, same, rfl⟩ := gives_attempt failed
    obtain rfl := returns_perform.mp returns
    cases reply with
    | ok _ => cases same
    | error e =>
      cases same
      exact ⟨.unopened e, rfl⟩
  obtain ⟨reply, returns, same, rfl⟩ := gives_attempt opened
  obtain rfl := returns_perform.mp returns
  cases reply with
  | error _ => cases same
  | ok _ =>
    cases same
    obtain ⟨_, _, _, _, rfl, forkedLeft, later⟩ := gives_run_lift_bind.mp rest
    obtain ⟨leftReply, rfl, rfl, rfl⟩ := gives_spawn forkedLeft
    cases leftReply with
    | error e =>
      obtain ⟨_, closed, _, _, rfl, asked, closing⟩ := gives_run_lift_bind.mp later
      obtain ⟨rfl, rfl⟩ := gives_perform.mp asked
      obtain ⟨_, closed', _, _, rfl, asked', last⟩ := gives_run_lift_bind.mp closing
      obtain ⟨rfl, rfl⟩ := gives_perform.mp asked'
      obtain ⟨rfl, rfl, rfl⟩ := gives_run_throw.mp last
      exact ⟨.unstarted reader writer e closed closed', rfl⟩
    | ok leftChild =>
      obtain ⟨_, _, _, _, rfl, forkedRight, after⟩ := gives_run_lift_bind.mp later
      obtain ⟨rightReply, rfl, rfl, rfl⟩ := gives_spawn forkedRight
      obtain ⟨_, closed, _, _, rfl, asked, closing⟩ := gives_run_lift_bind.mp after
      obtain ⟨rfl, rfl⟩ := gives_perform.mp asked
      obtain ⟨_, closed', _, _, rfl, asked', last⟩ := gives_run_lift_bind.mp closing
      obtain ⟨rfl, rfl⟩ := gives_perform.mp asked'
      have settled := gives_awaitSides last
      obtain ⟨inert, rfl⟩ := (keeps_awaitSides leftChild _).given last
      exact ⟨.started reader writer leftChild rightReply closed closed' inert settled, rfl⟩

theorem calls_evaluatePipe {left right : Action Int}
    (h : Calls (evaluatePipe left right).run shell trace c) : c.IsStarting ∨
      (trace = [] ∧ c = .pipe) ∨
      (∃ reader writer own,
        trace = ⟨.pipe, .ok (reader, writer)⟩ :: ⟨.fork, .ok .child⟩ :: own ∧
        Calls (life (runSide writer standardOutput reader left)).run shell own c) ∨
      ∃ reader writer leftChild own,
        trace = ⟨.pipe, .ok (reader, writer)⟩ :: forks (.ok leftChild) ::
          ⟨.fork, .ok .child⟩ :: own ∧
        Calls (life (runSide reader standardInput writer right)).run shell own c := by
  have closing (descriptor : Nat) : Keeps Call.IsStarting (perform (.close descriptor)) :=
    keeps_lift (only_perform trivial)
  obtain asked | ⟨_, ⟨reader, writer⟩, _, _, rfl, opened, rest⟩ := calls_run_bind.mp h
  · obtain ⟨rfl, rfl⟩ := asks_perform.mp (calls_attempt asked)
    exact .inr (.inl ⟨rfl, rfl⟩)
  obtain ⟨reply, returns, same, rfl⟩ := gives_attempt opened
  obtain rfl := returns_perform.mp returns
  cases reply with
  | error _ => cases same
  | ok _ =>
    cases same
    obtain asked | ⟨_, _, _, _, rfl, forkedLeft, later⟩ := calls_run_lift_bind.mp rest
    · obtain ⟨rfl, rfl⟩ | ⟨own, rfl, lived⟩ := calls_spawn asked
      · exact .inl trivial
      · exact .inr (.inr (.inl ⟨reader, writer, own, rfl, lived⟩))
    obtain ⟨leftReply, rfl, rfl, rfl⟩ := gives_spawn forkedLeft
    cases leftReply with
    | error e =>
      obtain asked | ⟨_, _, _, _, -, -, between⟩ := calls_run_lift_bind.mp later
      · exact .inl ((closing writer).called asked)
      obtain asked | ⟨_, _, _, _, -, -, last⟩ := calls_run_lift_bind.mp between
      · exact .inl ((closing reader).called asked)
      · exact (calls_pure last).elim
    | ok leftChild =>
      obtain asked | ⟨_, _, _, _, rfl, forkedRight, after⟩ := calls_run_lift_bind.mp later
      · obtain ⟨rfl, rfl⟩ | ⟨own, rfl, lived⟩ := calls_spawn asked
        · exact .inl trivial
        · exact .inr (.inr (.inr ⟨reader, writer, leftChild, own, rfl, lived⟩))
      obtain asked | ⟨_, _, _, _, -, -, between⟩ := calls_run_lift_bind.mp after
      · exact .inl ((closing reader).called asked)
      obtain asked | ⟨_, _, _, _, -, -, last⟩ := calls_run_lift_bind.mp between
      · exact .inl ((closing writer).called asked)
      · exact .inl ((keeps_awaitSides leftChild _).called last).isStarting

/-! ## Background jobs -/

inductive Started : List Event → Except ShellError Unit → Prop
  | unstarted (e : Errno) : Started [forks (.error e)] (.error (.system "fork" e))
  | started (child : Int) (reply : (startedNotice child).Reply) :
    Started [forks (.ok child), ⟨startedNotice child, reply⟩] (.ok ())

def startedJobs (job : Command) (jobs : JobTable) : List Event → JobTable
  | ⟨.fork, .ok (.parent child)⟩ :: _ => (jobs.add child job.text).1
  | _ => jobs

theorem gives_startJob {job : Command} {body : Action Int} {given : Except ShellError Unit}
    (h : Gives (startJob job body).run shell trace given shell') :
    Started trace given ∧ shell' = { shell with jobs := startedJobs job shell.jobs trace } := by
  obtain ⟨e, rfl, failed⟩ | ⟨_, child, _, _, rfl, started, rest⟩ := gives_run_bind.mp h
  · obtain ⟨reply, rfl, same, rfl⟩ := gives_spawn failed
    cases reply with
    | ok _ => cases same
    | error e =>
      cases same
      exact ⟨.unstarted e, rfl⟩
  obtain ⟨reply, rfl, same, rfl⟩ := gives_spawn started
  cases reply with
  | error _ => cases same
  | ok _ =>
    cases same
    obtain ⟨_, _, _, _, rfl, reported, adding⟩ := gives_run_lift_bind.mp rest
    obtain ⟨returns, rfl⟩ := gives_lift.mp reported
    obtain ⟨reply, -, rfl⟩ := returns_print.mp returns
    obtain ⟨_, same, added⟩ := gives_run_lift.mp adding
    obtain ⟨rfl, rfl⟩ := gives_modify.mp added
    cases same
    exact ⟨.started child reply, rfl⟩

theorem calls_startJob {job : Command} {body : Action Int}
    (h : Calls (startJob job body).run shell trace c) : c.IsStarting ∨
      ∃ own, trace = ⟨.fork, .ok .child⟩ :: own ∧ Calls (life (orReport body)).run shell own c := by
  have announced (child : Int) :
      (Program.reportLine (backgroundedMessage child)).Only Call.IsInert := by
    refine only_print (fun completion => ?_) trivial
    exact startedNotice_ne child completion
  obtain asked | ⟨_, child, _, _, rfl, started, rest⟩ := calls_run_bind.mp h
  · obtain ⟨rfl, rfl⟩ | forked := calls_spawn asked
    · exact .inl trivial
    · exact .inr forked
  obtain asked | ⟨_, _, _, _, rfl, _, rest⟩ := calls_run_lift_bind.mp rest
  · exact .inl (Call.IsInert.isStarting ((keeps_lift (announced child)).called asked))
  · exact (calls_pure (calls_run_lift.mp rest)).elim

/-! ## Simple commands -/

theorem builtin?_eq_none {program : String} (cd : program ≠ "cd") (wait : program ≠ "wait") :
    builtin? program = none := by
  rw [builtin?, if_neg cd, if_neg wait]

inductive Ran (c : SimpleCommand) (shell : Shell) :
    List Event → Except ShellError Int → Shell → Prop
  | moved {trace : List Event} {status : Int} : c.program = "cd" →
    Moved shell.vars c.arguments trace status → Ran c shell trace (.ok status) shell
  | collected {trace : List Event} {status : Int} {shell' : Shell} : c.program = "wait" →
    Collected c.arguments shell trace status shell' → Ran c shell trace (.ok status) shell'
  | external {trace : List Event} {result : Except ShellError Int} : c.program ≠ "cd" →
    c.program ≠ "wait" → Waited trace result → Ran c shell trace result shell

theorem gives_evaluateSimple {c : SimpleCommand}
    (h : Gives (evaluateSimple c).run shell trace result shell') :
    Ran c shell trace result shell' := by
  by_cases cd : c.program = "cd"
  · rw [evaluateSimple, builtin?, if_pos cd] at h
    obtain ⟨status, rfl, changed⟩ := gives_run_lift.mp h
    obtain ⟨moved, rfl⟩ := gives_changeDirectory changed
    exact .moved cd moved
  by_cases wait : c.program = "wait"
  · rw [evaluateSimple, builtin?, if_neg cd, if_pos wait] at h
    obtain ⟨status, rfl, waited⟩ := gives_run_lift.mp h
    exact .collected wait (gives_waitForJobs waited)
  · rw [evaluateSimple, builtin?_eq_none cd wait] at h
    obtain ⟨waited, rfl⟩ := gives_spawn_await h
    exact .external cd wait waited

/-- The calls of a simple command: those of `cd`, of `wait`, and of a process that starts a program,
or of the child that is to become it. -/
theorem calls_evaluateSimple {command : SimpleCommand}
    (h : Calls (evaluateSimple command).run shell trace c) :
    command.program = "cd" ∧ Calls (changeDirectory command.arguments) shell trace c ∨
      command.program = "wait" ∧ Calls (waitForJobs command.arguments) shell trace c ∨
      command.program ≠ "cd" ∧ command.program ≠ "wait" ∧ (c.IsStarting ∨ ∃ own,
        trace = ⟨.fork, .ok .child⟩ :: own ∧ Calls (life (runProgram command)).run shell own c) := by
  by_cases cd : command.program = "cd"
  · rw [evaluateSimple, builtin?, if_pos cd] at h
    exact .inl ⟨cd, calls_run_lift.mp h⟩
  by_cases wait : command.program = "wait"
  · rw [evaluateSimple, builtin?, if_neg cd, if_pos wait] at h
    exact .inr (.inl ⟨wait, calls_run_lift.mp h⟩)
  · rw [evaluateSimple, builtin?_eq_none cd wait] at h
    exact .inr (.inr ⟨cd, wait, calls_spawn_await h⟩)

end Shell

end CommandShell
