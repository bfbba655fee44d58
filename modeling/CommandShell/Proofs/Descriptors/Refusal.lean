import CommandShell.Proofs.Evaluation.Frame
import CommandShell.Proofs.Evaluation.Parts
import CommandShell.Proofs.Machine.Storage
import CommandShell.Proofs.Status.Passing

/-!
# Redirections that fail

The child that is to do the work of a stage opens the input before the output. Where one of them
cannot be opened it shows this, leaves with 1 and does nothing else: no file has been made or
emptied, none of the assignments of the stage is in place, and nothing of its work has begun. The
parent goes on as it was, with the status 1. Where the child cannot even show its error it crashes,
which makes a difference to the status alone.
-/

set_option autoImplicit false

namespace CommandShell
open Shell

variable {shell shell' : Shell} {trace wiring : List Event} {parts : StageParts} {path : String}
  {access : Access} {c : Call} {e : Errno}

/-- The wiring leads a child to the opening of this file: of the input first, and of the output once
the input is in place, if there is one. -/
inductive OpensAt (parts : StageParts) : List Event → String → Access → Prop
  | input {r : Redirection} : parts.input = some r → OpensAt parts [] r.filename .read
  | output {r : Redirection} : parts.input = none → parts.output = some r →
    OpensAt parts [] r.filename r.operator.outputAccess
  | outputNext {input output : Redirection} (d : Nat) : parts.input = some input →
    parts.output = some output → OpensAt parts (opening input .read standardInput d)
      output.filename output.operator.outputAccess

def refusal (path : String) (access : Access) (e : Errno) : Event :=
  ⟨.openFile path access, .error e⟩

/-! ## Opening -/

theorem opens_openOn {r : Redirection} {access' : Access} {target : Nat}
    (h : Calls (openOn r access target).run shell trace (.openFile path access')) :
    trace = [] ∧ path = r.filename ∧ access' = access := by
  obtain asked | ⟨_, reply, _, back, rfl, -, later⟩ := calls_run_lift_bind.mp h
  · obtain ⟨rfl, same⟩ := calls_perform.mp asked
    cases same
    exact ⟨rfl, rfl, rfl⟩
  cases reply with
  | error e => exact (calls_pure later).elim
  | ok d =>
    by_cases there : d = target
    · dsimp only at later
      rw [if_neg (not_not_intro there)] at later
      exact (calls_pure later).elim
    · dsimp only at later
      rw [if_pos there] at later
      exact ((keeps_move (P := Call.IsApart) trivial trivial).called later).elim

theorem opens_openAny {r : Option Redirection} {accessOf : Redirection → Access} {target : Nat}
    (h : Calls (openAny r accessOf target).run shell trace (.openFile path access)) :
    ∃ file, r = some file ∧ trace = [] ∧ path = file.filename ∧ access = accessOf file := by
  cases r with
  | none => exact (calls_pure h).elim
  | some file => exact ⟨file, rfl, opens_openOn h⟩

theorem opens_redirect (h : Calls (redirect parts).run shell trace (.openFile path access)) :
    OpensAt parts trace path access := by
  rw [redirect_eq] at h
  obtain asked | ⟨front, _, _, back, rfl, placed, asked⟩ := calls_run_bind.mp h
  · obtain ⟨file, there, rfl, rfl, rfl⟩ := opens_openAny asked
    exact .input there
  obtain ⟨file, there, rfl, rfl, rfl⟩ := opens_openAny asked
  obtain ⟨⟨_, opens⟩, -⟩ := gives_openAny 0 placed
  rw [List.append_nil]
  generalize same : parts.input = input at opens
  cases opens with
  | none => exact .output same there
  | some r d => exact .outputNext d same there

theorem gives_opening (r : Redirection) (access : Access) (target d : Nat) (shell : Shell) :
    Gives (openOn r access target).run shell (opening r access target d) (.ok ()) shell := by
  apply gives_run_lift_bind.mpr
  refine ⟨[⟨.openFile r.filename access, .ok d⟩], .ok d, shell,
    if d = target then [] else moving d target, rfl, gives_perform.mpr ⟨rfl, rfl⟩, ?_⟩
  by_cases there : d = target
  · rw [if_pos there]
    dsimp only
    rw [if_neg (not_not_intro there)]
    exact .stay _
  · rw [if_neg there]
    dsimp only
    rw [if_pos there]
    exact .call _ (.call _ (.stay _))

theorem gives_refused (r : Redirection) (access : Access) (target : Nat) (e : Errno)
    (shell : Shell) : Gives (openOn r access target).run shell [refusal r.filename access e]
      (.error (.redirect r.filename e)) shell :=
  .call (c := .openFile ..) (.error e) (.stay _)

theorem OpensAt.gives (opens : OpensAt parts wiring path access) (e : Errno) (shell : Shell) :
    Gives (redirect parts).run shell (wiring ++ [refusal path access e])
      (.error (.redirect path e)) shell := by
  rw [redirect_eq]
  cases opens with
  | @input r there =>
    rw [there]
    exact gives_run_bind.mpr (.inl ⟨_, rfl, gives_refused r .read standardInput e shell⟩)
  | @output r none there =>
    rw [none, there]
    exact gives_run_bind.mpr (.inr ⟨[], (), shell, _, rfl, .stay _,
      gives_refused r _ standardOutput e shell⟩)
  | @outputNext input output d there there' =>
    rw [there, there']
    exact gives_run_bind.mpr (.inr ⟨_, (), shell, _, rfl, gives_opening input .read standardInput d
      shell, gives_refused output _ standardOutput e shell⟩)

theorem OpensAt.spares {Files : Type} (storage : Storage Files)
    (opens : OpensAt parts wiring path access) : storage.Spares wiring := by
  cases opens with
  | input | output => exact Storage.spares_nil
  | @outputNext input output d _ _ =>
    refine Storage.spares_cons.mpr ⟨fun _ _ changes => storage.read changes, ?_⟩
    split
    · exact Storage.spares_nil
    · exact Storage.spares_of_apart (by simp [moving, Call.IsApart])

/-! ## Stages -/

/-- A stage that a child is started for, and what the child does. -/
inductive Redirected : Command → StageParts → Shell.Task Int → Prop
  | program {c : SimpleCommand} : c.program ≠ "cd" → c.program ≠ "wait" →
    Redirected (.simple c) c.parts (runProgram c)
  | subshell (parts : StageParts) (body : Command) :
    Redirected (.subshell parts body) parts (runBody parts body.evaluate)

namespace Redirected
variable {command : Command} {body : Shell.Task Int}

theorem evaluate (stage : Redirected command parts body) :
    command.evaluate = (do await (← spawn body)) := by
  cases stage with
  | program cd wait =>
    rw [Command.evaluate, Command.evaluateFrom, evaluateSimple, builtin?_eq_none cd wait]
  | subshell => rfl

theorem wired (stage : Redirected command parts body) :
    ∃ rest, body = onceWired (redirect parts) rest := by
  cases stage with
  | program => exact ⟨_, rfl⟩
  | subshell => exact ⟨_, rfl⟩

theorem opens (stage : Redirected command parts body)
    (h : Calls body shell trace (.openFile path access)) (own : ⟨.fork, .ok .child⟩ ∉ trace) :
    OpensAt parts trace path access := by
  cases stage with
  | program cd wait =>
    obtain asked | inert | ⟨-, same⟩ := calls_runProgram h
    · exact opens_redirect asked
    · exact inert.elim
    · cases same
  | subshell parts body =>
    obtain asked | inert | ⟨front, back, rfl, -, later⟩ := calls_onceWired (keeps_redirect parts) h
    · exact opens_redirect asked
    · exact inert.elim
    obtain asked | ⟨_, _, _, _, rfl, required, granted⟩ := calls_bind.mp later
    · exact ((keeps_requireSettable _).called asked).elim
    obtain ⟨-, rfl, rfl⟩ := gives_requireSettable required
    obtain asked | ⟨_, _, _, back, rfl, assigned, evaluating⟩ := calls_bind.mp granted
    · exact (calls_pure asked).elim
    obtain asked | inert := calls_orReport evaluating
    · have own : ⟨.fork, .ok .child⟩ ∉ back := by
        simp only [List.mem_append, not_or] at own
        exact own.2.2.2
      obtain own | collecting := body.own_evaluate asked own
      · exact own.elim
      · have forms := collecting.forms
        simp at forms
    · exact inert.elim

end Redirected

/-! ## The child that gives up -/

theorem gives_awaited (child : Int) {ending : Ending} (w : Telling ending) (shell : Shell) :
    Gives (await child).run shell [⟨.wait child, w.1⟩] (.ok ending.status) shell := by
  have waited : Gives (attempt "waitpid" (Program.waitFor child)).run shell [⟨.wait child, w.1⟩]
      (.ok ending) shell := by
    refine gives_run_lift_bind.mpr ⟨_, .ok ending, shell, [],
      (List.append_nil _).symm, ?_, .stay _⟩
    exact gives_lift.mpr ⟨Program.returns_waitFor.mpr ⟨w.1, rfl, w.2⟩, rfl⟩
  exact gives_run_bind.mpr (.inr ⟨_, ending, shell, [], (List.append_nil _).symm, waited,
    .stay _⟩)

def complaint (error : ShellError) : Call := .write 2 ("bsh: " ++ error.message ++ "\n").toUTF8

/-- What is left of the life of a child that gives up: it shows the error and leaves with 1, or it
crashes where this is refused, unless a signal ends it before. -/
inductive Complains (error : ShellError) : List Deed → Ending → Prop
  | left (reply : (complaint error).Reply) : Program.isTaken reply →
    Complains error [.did ⟨complaint error, reply⟩] (.exited 1)
  | crashed (reply : (complaint error).Reply) : ¬ Program.isTaken reply →
    Complains error [.did ⟨complaint error, reply⟩] (.exited crashStatus)
  | killed (signal : Signal) (core : Bool) : Complains error [] (.signaled signal core)
  | killedAfter (reply : (complaint error).Reply) (signal : Signal) (core : Bool) :
    Complains error [.did ⟨complaint error, reply⟩] (.signaled signal core)

theorem Runs.stopped {α : Type} {inherited : Descriptors} {past back : List Deed} {c : Call}
    {next : c.Reply → Program α} {last : Program α}
    (runs : Runs inherited past (.call c next) back last) (never : c.Reply → False) :
    back = [] ∧ last = .call c next := by
  cases runs with
  | stay => exact ⟨rfl, rfl⟩
  | @did _ _ _ _ _ _ reply => exact (never reply).elim
  | forked => exact (never (.ok .child)).elim

theorem Runs.complains {α : Type} {inherited : Descriptors} {past back : List Deed}
    {error : ShellError} {last : Program α} {ending : Ending}
    (runs : Runs inherited past (finish (.error error, shell)) back last)
    (ends : EndsAs last (some ending)) : Complains error back ending := by
  rw [finish] at runs
  cases runs with
  | stay =>
    cases ends with
    | killed _ signal core => exact .killed signal core
  | @did _ _ _ _ _ _ reply _ later =>
    dsimp only at later
    by_cases taken : Program.isTaken reply
    · rw [if_pos taken, leaving] at later
      obtain ⟨rfl, rfl⟩ := later.stopped Empty.elim
      cases ends with
      | killed _ signal core => exact .killedAfter reply signal core
      | left => exact .left reply taken
    · rw [if_neg taken, Program.crash] at later
      obtain ⟨rfl, rfl⟩ := later.stopped Empty.elim
      cases ends with
      | killed _ signal core => exact .killedAfter reply signal core
      | crashed => exact .crashed reply taken

def refused (wiring : List Event) (path : String) (access : Access) (e : Errno) : List Event :=
  wiring ++ [refusal path access e]

theorem OpensAt.spares_refused {Files : Type} (storage : Storage Files)
    (opens : OpensAt parts wiring path access) (e : Errno) :
    storage.Spares (refused wiring path access e) :=
  Storage.spares_append.mpr ⟨opens.spares storage, Storage.spares_refused path access e⟩

theorem OpensAt.plain (opens : OpensAt parts wiring path access) :
    ∀ event ∈ wiring, event.call ≠ .fork := by
  cases opens with
  | input | output => simp
  | outputNext d =>
    rw [opening]
    split <;> simp [moving]

namespace Redirected
variable {Files : Type} {command : Command} {body : Shell.Task Int}

theorem refused_path {α : Type} (stage : Redirected command parts body)
    (opens : OpensAt parts wiring path access) (e : Errno) (shell : Shell) :
    (body shell >>= fun result => leaving result.1).Path (refused wiring path access e)
      (finish (α := α) (.error (.redirect path e), shell)) := by
  obtain ⟨rest, rfl⟩ := stage.wired
  rw [← reported_finish]
  exact (Program.Path.bind (opens.gives e shell) _).bind _

theorem gives_refused (stage : Redirected command parts body)
    (opens : OpensAt parts wiring path access) (e : Errno) (shell : Shell)
    {reply : (complaint (.redirect path e)).Reply} (taken : Program.isTaken reply) :
    Gives body shell (refused wiring path access e ++ [⟨complaint (.redirect path e), reply⟩]) 1
      shell := by
  obtain ⟨rest, rfl⟩ := stage.wired
  refine gives_bind.mpr ⟨_, _, shell, _, rfl, opens.gives e shell, ?_⟩
  have reported : Gives (report (ShellError.redirect path e).message) shell
      [⟨complaint (.redirect path e), reply⟩] () shell :=
    gives_lift.mpr ⟨Program.returns_print.mpr ⟨reply, taken, rfl⟩, rfl⟩
  exact gives_bind.mpr ⟨_, (), shell, [], rfl, reported, .stay _⟩

theorem lives (stage : Redirected command parts body) {inherited : Descriptors}
    {life front back : List Deed} {ending : Ending} {reply : Except Errno Nat}
    (h : Lives inherited body shell life (some ending))
    (same : life = front ++ .did ⟨.openFile path access, reply⟩ :: back) :
    ∃ wiring, front = disposing ++ wiring.map Deed.did ∧ OpensAt parts wiring path access ∧
      ∀ e, reply = .error e → Complains (.redirect path e) back ending := by
  obtain ⟨β, k, last, runs, ends⟩ := h
  subst same
  obtain ⟨own, trace, opens⟩ : ∃ own, front.map Deed.event =
      ⟨.setDisposition Signal.ofKeys .usual, ()⟩ :: own ∧ OpensAt parts own path access := by
    have whole := runs.path
    have inner := runs.not_mem_child
    rw [List.map_append] at whole inner
    obtain ⟨q, before, after⟩ := whole.split
    obtain ⟨next, rfl⟩ : ∃ next, q = .call (.openFile path access) next := by
      cases after with
      | call => exact ⟨_, rfl⟩
    have asks := Program.asks_bind.mp ⟨next, before⟩
    obtain asked | ⟨_, _, _, _, given, _⟩ := asks
    · obtain ⟨-, same⟩ | ⟨own, trace, asked | ⟨_, _, _, same⟩⟩ := calls_life asked
      · cases same
      · refine ⟨own, trace, stage.opens asked fun member => inner ?_⟩
        rw [trace]
        exact List.mem_append_left _ (List.mem_cons_of_mem _ member)
      · cases same
    · exact (not_gives_life given).elim
  refine ⟨own, ?_, opens, ?_⟩
  · refine deeds_of_plain trace (List.forall_mem_cons.mpr ⟨nofun, opens.plain⟩)
  · rintro e rfl
    have gone := (life_path body shell k).append
      (stage.refused_path opens e { shell with jobs := {} })
    have trace' : (front ++ [Deed.did (refusal path access e)]).map Deed.event =
        [⟨.setDisposition Signal.ofKeys .usual, ()⟩] ++ refused own path access e := by
      rw [List.map_append, trace]
      rfl
    rw [← trace'] at gone
    rw [List.append_cons] at runs
    exact (runs.rest gone).complains ends

end Redirected

/-- With a file that it cannot open, the child of the stage gives up: it goes on to show this and to
leave with 1, in the shell that it was given and with the files as they were. It crashes where this is
refused. -/
structure GivesUp {Files : Type} (storage : Storage Files) (command : Command)
    (body : Shell.Task Int) (shell : Shell) (wiring : List Event) (path : String) (access : Access)
    (e : Errno) : Prop where
  leaves : (command.evaluate.run shell).Path (born ++ refused wiring path access e)
    (finish (.error (.redirect path e), { shell with jobs := {} }))
  unchanged : ∀ reply, Program.isTaken reply → Gives body { shell with jobs := {} }
    (refused wiring path access e ++ [⟨complaint (.redirect path e), reply⟩]) 1
    { shell with jobs := {} }
  crashes : ∀ reply, ¬ Program.isTaken reply → (command.evaluate.run shell).Path
    (born ++ refused wiring path access e ++ [⟨complaint (.redirect path e), reply⟩]) Program.crash
  spares : storage.Spares (born ++ refused wiring path access e)

/-- A process has evaluated a stage, and is as it was. Its child has opened the input before the
output; if it could not open one of them, all that it did by then left the files as they were, and
then it gave up. -/
structure Survives {Files : Type} (storage : Storage Files) (inherited : Descriptors)
    (past : List Deed) (parts : StageParts) (shell : Shell) (deeds : List Deed)
    (result : Except ShellError Int) (shell' : Shell) (child : Int) (life : List Deed)
    (ending : Ending) : Prop where
  waits : ∃ w : Telling ending, deeds = [.forked child life (some ending), .did ⟨.wait child, w.1⟩]
  status : result = .ok ending.status
  keeps : shell' = shell
  table : descriptors inherited (past ++ deeds) = descriptors inherited past
  stays : directories (deeds.map Deed.event) = []
  spares : storage.Spares (deeds.map Deed.event)
  opened : ∀ front path access reply back,
    life = front ++ .did ⟨.openFile path access, reply⟩ :: back →
    ∃ wiring, front = disposing ++ wiring.map Deed.did ∧ OpensAt parts wiring path access ∧
      ∀ e, reply = .error e →
        storage.Spares (born ++ refused wiring path access e) ∧
          Complains (.redirect path e) back ending

/-- The line `V=1 (x) < in > out`. -/
def copyingParts : StageParts :=
  { locals := [⟨"V", "1"⟩], input := some ⟨.input, "in"⟩, output := some ⟨.output, "out"⟩ }
def copying : Command := .subshell copyingParts (.simple { program := "x" })

def copyingInput : List Event := opening ⟨.input, "in"⟩ .read standardInput 3

def copyingLife (reply : Except Errno Unit) : List Deed :=
  disposing ++ copyingInput.map Deed.did ++ [.did (refusal "out" .truncate .isDirectory),
    .did ⟨complaint (.redirect "out" .isDirectory), reply⟩]

def copyingDeeds : List Deed :=
  [.forked 9 (copyingLife (.ok ())) (some (.exited 1)), .did ⟨.wait 9, .ended (.exited 1)⟩]

def unshownDeeds : List Deed :=
  [.forked 9 (copyingLife (.error .noSpace)) (some (.exited crashStatus)),
    .did ⟨.wait 9, .ended (.exited crashStatus)⟩]

end CommandShell
