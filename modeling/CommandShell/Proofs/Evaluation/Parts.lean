import CommandShell.Proofs.Descriptors.Wiring
import CommandShell.Proofs.Evaluation.Plan

/-!
# The processes that evaluate parts of a command

The body of a subshell, the sides of a pipe and a background job are evaluated each by a child. A
child frames what it evaluates: it takes the usual signals, wires its descriptors, and leaves with
what came of the part. Every other call that is made for a command is made for a simple command or
opens a pipe, in a process that evaluates the part that holds it; and the way to this process
tells what it goes on with after the part.
-/

set_option autoImplicit false

namespace CommandShell
open Shell

def Call.IsFraming : Call → Prop
  | .exit _ | .setDisposition .. | .openFile .. | .duplicate .. => True
  | c => c.IsStarting

theorem Call.IsStarting.isFraming {c : Call} (h : c.IsStarting) : c.IsFraming := by
  cases c <;> first | exact h | trivial

theorem Call.IsInert.isFraming {c : Call} (h : c.IsInert) : c.IsFraming := h.isStarting.isFraming

theorem Call.IsWiring.isFraming {c : Call} (h : c.IsWiring) : c.IsFraming := by
  cases c <;> first | exact h | trivial

def leaving {α : Type} (status : Int) : Program α := .call (.exit status) nofun

/-- A child that has come to a result leaves with the status, or shows the error and leaves with 1.
Where the error cannot be shown, it crashes. -/
def finish {α : Type} : Except ShellError Int × Shell → Program α
  | (.ok status, _) => leaving status
  | (.error e, _) => .call (.write 2 ("bsh: " ++ e.message ++ "\n").toUTF8) fun reply =>
    if Program.isTaken reply then leaving 1 else Program.crash

/-- From the start of a piece of work the events lead to a child that goes on with this part of it
in this shell. -/
inductive Child (shell : Shell) : Work → List Event → Command → Shell → Prop
  | subshell {parts : StageParts} {wiring : List Event} (body : Command) :
    Gives (redirect parts).run { shell with jobs := {} } wiring (.ok ()) { shell with jobs := {} } →
    parts.locals.all isSettable →
    Child shell (.subshell parts body) (born ++ wiring) body
      { shell with
        environment := assign parts.locals shell.environment
        vars := assign parts.locals shell.vars
        jobs := {} }
  | left (left right : Command) (reader writer : Nat) :
    Child shell (.pipe left right)
      (⟨.pipe, .ok (reader, writer)⟩ :: (born ++ connecting writer standardOutput reader)) left
      { shell with jobs := {} }
  | right (left right : Command) (reader writer : Nat) (leftChild : Int) :
    Child shell (.pipe left right)
      (⟨.pipe, .ok (reader, writer)⟩ :: forks (.ok leftChild) ::
        (born ++ connecting reader standardInput writer)) right { shell with jobs := {} }
  | background (job : Command) : Child shell (.background job) born job { shell with jobs := {} }

variable {α : Type} {shell shell' middle : Shell} {trace front : List Event} {c : Call} {w : Work}
  {part : Command}

/-! ## What a child goes on with -/

theorem leaving_bind {β : Type} (status : Int) (k : α → Program β) :
    leaving status >>= k = leaving status :=
  congrArg (Program.call _) (funext nofun)

theorem crash_bind {β : Type} (k : α → Program β) : Program.crash >>= k = Program.crash :=
  congrArg (Program.call _) (funext nofun)

theorem finish_bind {β : Type} (result : Except ShellError Int × Shell) (k : α → Program β) :
    finish result >>= k = finish result := by
  obtain ⟨e | status, _⟩ := result
  · refine congrArg (Program.call _) (funext fun reply => ?_)
    dsimp only
    split
    · exact leaving_bind 1 k
    · exact crash_bind k
  · exact leaving_bind status k

theorem bind_finish_bind {β : Type} (p : Program (Except ShellError Int × Shell))
    (k : α → Program β) : p >>= finish >>= k = p >>= finish := by
  simp only [bind_assoc, finish_bind]

theorem life_path (body : Shell.Task Int) (shell : Shell)
    (k : Except ShellError Int × Shell → Program α) :
    ((life body).run shell >>= k).Path [⟨.setDisposition Signal.ofKeys .usual, ()⟩]
      (body { shell with jobs := {} } >>= fun result => leaving result.1) := by
  have left (status : Int) (shell : Shell) :
      (leave status).run shell >>= k = leaving status :=
    congrArg (Program.call _) (funext nofun)
  rw [life_bind]
  refine .call (c := .setDisposition ..) () ?_
  simp only [left]
  exact .stay _

theorem spawn_path (body : Shell.Task Int) (k : Except ShellError Int × Shell → Program α) :
    ((spawn body).run shell >>= k).Path born
      (body { shell with jobs := {} } >>= fun result => leaving result.1) := by
  rw [spawn_bind]
  exact .call (c := .fork) (.ok .child) (life_path body shell k)

theorem spawn_bind_path (body : Shell.Task Int) (f : Int → Action α) :
    ((spawn body >>= f).run shell).Path born
      (body { shell with jobs := {} } >>= fun result => leaving result.1) := by
  rw [ExceptT.run_bind]
  exact spawn_path body _

theorem outcome_spawn_path (body : Shell.Task Int) (f : Except ShellError Int → Action α) :
    ((outcome (spawn body) >>= f).run shell).Path born
      (body { shell with jobs := {} } >>= fun result => leaving result.1) := by
  rw [outcome, run_lift_bind]
  exact spawn_path body _

theorem outcome_spawn_path_parent {body : Shell.Task Int} {f : Except ShellError Int → Action α}
    {child : Int} {q : Program (Except ShellError α × Shell)}
    (rest : ((f (.ok child)).run shell).Path trace q) :
    ((outcome (spawn body) >>= f).run shell).Path (forks (.ok child) :: trace) q := by
  rw [outcome, run_lift_bind]
  change ((spawn body).run shell >>= fun result => (f result.1).run result.2).Path _ _
  rw [spawn_bind]
  exact .call (c := .fork) (.ok (.parent child)) rest

theorem pipe_path {f : Nat × Nat → Action α} {ends : Nat × Nat}
    {q : Program (Except ShellError α × Shell)} (rest : ((f ends).run shell).Path trace q) :
    ((attempt "pipe" (Program.perform .pipe) >>= f).run shell).Path
      (⟨.pipe, .ok ends⟩ :: trace) q :=
  .call (c := .pipe) (.ok ends) rest

theorem reported_finish (e : ShellError) (shell : Shell) :
    (do report e.message; return 1 : Shell.Task Int) shell >>= (fun result => leaving result.1) =
      finish (α := α) (.error e, shell) := by
  refine congrArg (Program.call _) (funext fun reply => ?_)
  simp only [Program.bind]
  split
  · rfl
  · exact congrArg (Program.call _) (funext nofun)

theorem orReport_finish (action : Action Int) (shell : Shell) :
    (orReport action shell >>= fun result => leaving result.1) =
      action.run shell >>= finish (α := α) := by
  refine (Program.bind_assoc _ _ _).trans (bind_congr fun result => ?_)
  obtain ⟨e | status, after⟩ := result
  · exact reported_finish e after
  · rfl

theorem onceWired_path {wiring : Action Unit} {rest : Shell.Task Int}
    (wired : Gives wiring.run shell trace (.ok ()) shell') :
    (onceWired wiring rest shell).Path trace (rest shell') :=
  Program.Path.bind wired _

theorem gives_connecting (used target unused : Nat) (shell : Shell) :
    Gives (connect used target unused).run shell (connecting used target unused) (.ok ()) shell :=
  .call _ (.call _ (.call _ (.stay _)))

theorem runSide_path (used target unused : Nat) (side : Action Int) (shell : Shell) :
    (runSide used target unused side shell >>= fun result => leaving result.1).Path
      (connecting used target unused) (side.run shell >>= finish (α := α)) := by
  rw [← orReport_finish]
  exact (onceWired_path (gives_connecting used target unused shell)).bind _

theorem runBody_path {parts : StageParts} (body : Action Int)
    (wired : Gives (redirect parts).run shell trace (.ok ()) shell)
    (settable : parts.locals.all isSettable) :
    (runBody parts body shell >>= fun result => leaving result.1).Path trace
      (body.run { shell with
        environment := assign parts.locals shell.environment
        vars := assign parts.locals shell.vars } >>= finish (α := α)) := by
  rw [← orReport_finish, runBody_eq settable]
  exact (onceWired_path wired).bind _

/-! ## What its parent goes on with -/

theorem alike_spawn (body body' : Shell.Task Int) (shell : Shell) :
    ((spawn body).run shell).Alike ((spawn body').run shell) := by
  rw [← Program.bind_done ((spawn body).run shell), ← Program.bind_done ((spawn body').run shell),
    spawn_bind, spawn_bind]
  refine .call .fork fun reply other => ?_
  rcases reply with e | _ | child
  · exact .refl _
  · exact (other rfl).elim
  · exact .refl _

theorem alike_run_bind {β : Type} {action action' : Action β} {f g : β → Action α}
    (first : ∀ shell, (action.run shell).Alike (action'.run shell))
    (rest : ∀ b shell, ((f b).run shell).Alike ((g b).run shell)) (shell : Shell) :
    ((action >>= f).run shell).Alike ((action' >>= g).run shell) := by
  rw [ExceptT.run_bind, ExceptT.run_bind]
  refine (first shell).bind fun result => ?_
  obtain ⟨e | b, _⟩ := result
  · exact .refl _
  · exact rest b _

theorem alike_outcome_spawn (body body' : Shell.Task Int) (shell : Shell) :
    ((outcome (spawn body)).run shell).Alike ((outcome (spawn body')).run shell) :=
  (alike_spawn body body' shell).bind fun _ => .refl _

theorem alike_evaluatePipe (left left' right right' : Action Int) (shell : Shell) :
    ((evaluatePipe left right).run shell).Alike ((evaluatePipe left' right').run shell) := by
  refine alike_run_bind (fun _ => .refl _) (fun ends => ?_) shell
  refine alike_run_bind (alike_outcome_spawn _ _) fun started => ?_
  cases started with
  | error e => exact fun _ => .refl _
  | ok child => exact alike_run_bind (alike_outcome_spawn _ _) fun _ _ => .refl _

/-- A piece of work around what one of its children evaluates. With any action in the place of the
part, the child does this and leaves with what comes of it, while for the process itself it makes no
difference which action it is. -/
structure Around (around : Action Int → Action Int) (w : Work) (shell : Shell)
    (front : List Event) (part : Command) (shell' : Shell) : Prop where
  whole : around part.evaluate = w.action
  child : ∀ inner, ((around inner).run shell).Path front (inner.run shell' >>= finish)
  parent : ∀ inner inner', ((around inner).run shell).Alike ((around inner').run shell)

theorem Child.around (child : Child shell w front part shell') :
    ∃ around, Around around w shell front part shell' := by
  cases child with
  | @subshell parts wiring body wired settable =>
    refine ⟨evaluateSubshell parts, rfl, fun inner => ?_, fun inner inner' => ?_⟩
    · exact (spawn_bind_path (runBody parts _) _).append (runBody_path _ wired settable)
    · exact alike_run_bind (alike_spawn _ _) (fun _ _ => .refl _) shell
  | left left right reader writer =>
    refine ⟨fun inner => evaluatePipe inner right.evaluate, rfl, fun inner => pipe_path ?_,
      fun inner inner' => alike_evaluatePipe ..⟩
    exact (outcome_spawn_path (runSide writer standardOutput reader _) _).append (runSide_path ..)
  | right left right reader writer leftChild =>
    refine ⟨fun inner => evaluatePipe left.evaluate inner, rfl,
      fun inner => pipe_path (outcome_spawn_path_parent ?_),
      fun inner inner' => alike_evaluatePipe ..⟩
    exact (outcome_spawn_path (runSide reader standardInput writer _) _).append (runSide_path ..)
  | background job =>
    refine ⟨fun inner => do
      startJob part inner
      return 0, rfl, fun inner => ?_, fun inner inner' => ?_⟩
    · rw [← orReport_finish, startJob, bind_assoc]
      exact spawn_bind_path (orReport _) _
    · refine alike_run_bind (fun shell => ?_) (fun _ _ => .refl _) shell
      exact alike_run_bind (alike_spawn _ _) (fun _ _ => .refl _) shell

theorem Child.path (child : Child shell w front part shell') :
    (w.action.run shell).Path front (part.evaluate.run shell' >>= finish) := by
  obtain ⟨around, holds⟩ := child.around
  rw [← holds.whole]
  exact holds.child part.evaluate

/-! ## Where the calls are made -/

theorem calls_child {body : Shell.Task Int} {own : List Event} (other : ¬ c.IsFraming)
    (h : Calls (life body).run shell own c) :
    ∃ rest, ⟨.fork, .ok .child⟩ :: own = born ++ rest ∧
      Calls body { shell with jobs := {} } rest c := by
  obtain ⟨-, rfl⟩ | ⟨rest, rfl, asked | ⟨_, _, -, rfl⟩⟩ := calls_life h
  · exact (other trivial).elim
  · exact ⟨rest, rfl, asked⟩
  · exact (other trivial).elim

theorem calls_reporting {action : Action Int} (other : ¬ c.IsFraming)
    (h : Calls (orReport action) shell trace c) : Calls action.run shell trace c :=
  (calls_orReport h).resolve_right fun inert => other inert.isFraming

theorem calls_runSide {used target unused : Nat} {side : Action Int} (other : ¬ c.IsFraming)
    (h : Calls (runSide used target unused side) shell trace c) :
    ∃ back, trace = connecting used target unused ++ back ∧ Calls side.run shell back c := by
  obtain wires | ⟨front, back, rfl, wired, rest⟩ := wiring_or_later (keeps_connect _ _ _) h
  · exact (other wires.isFraming).elim
  obtain ⟨rfl, -⟩ := gives_connect wired
  exact ⟨back, rfl, calls_reporting other rest⟩

theorem calls_runBody {parts : StageParts} {body : Action Int} (other : ¬ c.IsFraming)
    (h : Calls (runBody parts body) shell trace c) :
    ∃ wiring back, trace = wiring ++ back ∧
      Gives (redirect parts).run shell wiring (.ok ()) shell ∧ parts.locals.all isSettable ∧
      Calls body.run { shell with
        environment := assign parts.locals shell.environment
        vars := assign parts.locals shell.vars } back c := by
  obtain wires | ⟨front, back, rfl, wired, rest⟩ := wiring_or_later (keeps_redirect parts) h
  · exact (other wires.isFraming).elim
  obtain asked | ⟨_, _, _, _, rfl, required, granted⟩ := calls_bind.mp rest
  · exact (other ((keeps_requireSettable _).called asked).isFraming).elim
  obtain ⟨settable, rfl, rfl⟩ := gives_requireSettable required
  obtain asked | ⟨_, _, _, _, rfl, assigned, later⟩ := calls_bind.mp granted
  · exact (calls_pure asked).elim
  obtain ⟨rfl, rfl⟩ := gives_modify.mp assigned
  exact ⟨front, _, rfl, wired, settable, calls_reporting other later⟩

theorem calls_simple {command : SimpleCommand} (other : ¬ c.IsFraming)
    (h : Calls (evaluateSimple command).run shell trace c) :
    command.program = "cd" ∧ Calls (changeDirectory command.arguments) shell trace c ∨
      command.program = "wait" ∧ Calls (waitForJobs command.arguments) shell trace c ∨
      (command.program ≠ "cd" ∧ command.program ≠ "wait" ∧
        c = .exec command.program command.argv
          (assign command.parts.locals shell.environment) ∧
        ∃ wiring, trace = born ++ wiring ∧ Gives (redirect command.parts).run
          { shell with jobs := {} } wiring (.ok ()) { shell with jobs := {} }) := by
  obtain changing | collecting | ⟨cd, wait, own | ⟨own, rfl, lived⟩⟩ := calls_evaluateSimple h
  · exact .inl changing
  · exact .inr (.inl collecting)
  · exact (other own.isFraming).elim
  obtain ⟨wiring, same, asked⟩ := calls_child other lived
  obtain wires | inert | ⟨wired, rfl⟩ := calls_runProgram asked
  · exact (other ((keeps_redirect _).called wires).isFraming).elim
  · exact (other inert.isFraming).elim
  · exact .inr (.inr ⟨cd, wait, rfl, wiring, same, wired⟩)

theorem exec_simple {command : SimpleCommand} {file : String} {argv : List String}
    {environment : Variables}
    (h : Calls (evaluateSimple command).run shell trace (.exec file argv environment)) :
    command.program ≠ "cd" ∧ command.program ≠ "wait" ∧ file = command.program ∧
      argv = command.argv ∧ environment = assign command.parts.locals shell.environment ∧
      ∃ wiring, trace = born ++ wiring ∧ Gives (redirect command.parts).run
        { shell with jobs := {} } wiring (.ok ()) { shell with jobs := {} } := by
  obtain ⟨-, changing⟩ | ⟨-, collecting⟩ | ⟨cd, wait, same, child⟩ := calls_simple id h
  · exact ((keeps_changeDirectory _).called changing).elim
  · exact (((only_waitForJobs _ shell).asked collecting).not_isLast trivial).elim
  · cases same
    exact ⟨cd, wait, rfl, rfl, rfl, child⟩

/-- Every call for a piece of work that does not frame its children is made by a simple command, or
opens the pipe that the piece of work is, or is made by a child that evaluates a part. -/
theorem calls_action (other : ¬ c.IsFraming) (h : Calls w.action.run shell trace c) :
    (∃ command, w = .simple command) ∨
    (∃ left right, w = .pipe left right ∧ trace = [] ∧ c = .pipe) ∨
    ∃ front back part shell', trace = front ++ back ∧ part ∈ w.parts ∧
      Child shell w front part shell' ∧ Calls part.evaluate.run shell' back c := by
  cases w with
  | simple command => exact .inl ⟨command, rfl⟩
  | subshell parts body =>
    obtain own | ⟨own, rfl, lived⟩ := calls_spawn_await h
    · exact (other own.isFraming).elim
    obtain ⟨rest, same, asked⟩ := calls_child other lived
    obtain ⟨wiring, back, rfl, wired, settable, evaluated⟩ := calls_runBody other asked
    exact .inr (.inr ⟨_, back, body, _, by rw [same, List.append_assoc], List.mem_singleton_self _,
      .subshell body wired settable, evaluated⟩)
  | pipe left right =>
    obtain own | opens | ⟨reader, writer, own, rfl, lived⟩ |
      ⟨reader, writer, child, own, rfl, lived⟩ := calls_evaluatePipe h
    · exact (other own.isFraming).elim
    · exact .inr (.inl ⟨left, right, rfl, opens⟩)
    · obtain ⟨rest, same, asked⟩ := calls_child other lived
      obtain ⟨back, rfl, evaluated⟩ := calls_runSide other asked
      exact .inr (.inr ⟨_, back, left, _, by rw [same]; simp, List.mem_cons_self,
        .left left right reader writer, evaluated⟩)
    · obtain ⟨rest, same, asked⟩ := calls_child other lived
      obtain ⟨back, rfl, evaluated⟩ := calls_runSide other asked
      exact .inr (.inr ⟨_, back, right, _, by rw [same]; simp,
        List.mem_cons_of_mem _ (List.mem_singleton_self _),
        .right left right reader writer child, evaluated⟩)
  | background job =>
    obtain asked | ⟨_, _, _, _, rfl, -, rest⟩ := calls_run_bind.mp h
    · obtain own | ⟨own, rfl, lived⟩ := calls_startJob asked
      · exact (other own.isFraming).elim
      obtain ⟨rest, same, asked⟩ := calls_child other lived
      exact .inr (.inr ⟨_, rest, job, _, same, List.mem_singleton_self _, .background job,
        calls_reporting other asked⟩)
    · exact (calls_pure rest).elim

def Work.locals : Work → List Assignment
  | .subshell parts _ => parts.locals
  | _ => []

/-- From the start of evaluating a command the events lead to a process that starts to evaluate the
part of it in this shell. The scope has the assignments of the subshells on the way, from the
outermost to the innermost. -/
inductive Inside : Command → Shell → List Event → List Assignment → Command → Shell → Prop
  | here (c : Command) (shell : Shell) : Inside c shell [] [] c shell
  | child {c next part : Command} {shell middle shell' last : Shell} {turns : List Turn} {w : Work}
    {front back : List Event} {scope : List Assignment} :
    c.plan.Comes turns w → Worked shell turns middle → Child middle w front next shell' →
    Inside next shell' back scope part last →
    Inside c shell (turns.flatMap Turn.events ++ (front ++ back)) (w.locals ++ scope) part last

/-- After these events a process that evaluates the command or a part of it has come to this piece
of work, in this shell. -/
inductive Arrives (c : Command) (shell : Shell) :
    List Event → List Assignment → Work → Shell → Prop
  | intro {front : List Event} {scope : List Assignment} {part : Command} {shell' middle : Shell}
    {turns : List Turn} {w : Work} :
    Inside c shell front scope part shell' → part.plan.Comes turns w → Worked shell' turns middle →
    Arrives c shell (front ++ turns.flatMap Turn.events) scope w middle

/-- Every call in the course of a command that does not frame children is made by a process that has
come to a simple command, or opens the pipe that the process has come to. -/
theorem calls_evaluate {command : Command} (other : ¬ c.IsFraming)
    (h : Calls command.evaluate.run shell trace c) :
    ∃ front own scope w middle, trace = front ++ own ∧ Arrives command shell front scope w middle ∧
      Calls w.action.run middle own c ∧
      ((∃ command, w = .simple command) ∨
        ∃ left right, w = .pipe left right ∧ own = [] ∧ c = .pipe) := by
  -- A chain holds its sides' pieces of work, so the induction goes over the parts of these pieces.
  induction command using Command.surface_induction generalizing shell trace with
  | step command ih =>
    rw [Command.evaluate, ← Command.run_planFrom] at h
    obtain ⟨turns, w, middle, own, comes, worked, rfl, asked⟩ := Plan.calls_run h
    have there := (command.within_surface none).comes comes
    have here : Arrives command shell (turns.flatMap Turn.events) [] w middle :=
      .intro (.here command shell) comes worked
    obtain simple | opens | ⟨front, back, part, shell', rfl, member, child, evaluated⟩ :=
      calls_action other asked
    · exact ⟨_, own, [], w, middle, rfl, here, asked, .inl simple⟩
    · exact ⟨_, own, [], w, middle, rfl, here, asked, .inr opens⟩
    · obtain ⟨_, own', _, w', middle', rfl, ⟨inside, comes', worked'⟩, asked', place⟩ :=
        ih w there part member evaluated
      refine ⟨_, own', _, w', middle', ?_, .intro (.child comes worked child inside) comes' worked',
        asked', place⟩
      simp only [List.append_assoc]

/-! ## What the processes on the way go on with -/

theorem state_bind_bind {β γ : Type} (task : Shell.Task α) (f : α → Shell.Task β) (shell : Shell)
    (k : β × Shell → Program γ) : (task >>= f) shell >>= k =
      task shell >>= fun result => f result.1 result.2 >>= k :=
  Program.bind_assoc _ _ _

theorem Plan.Comes.path {p : Plan} {turns : List Turn} (comes : p.Comes turns w)
    (worked : Worked shell turns middle) :
    ∃ next : Int → Plan, (p.run.run shell).Path (turns.flatMap Turn.events)
      ((w.action >>= fun status => (next status).run).run middle) := by
  induction comes generalizing shell with
  | here w next =>
    cases worked
    exact ⟨next, .stay _⟩
  | later _ _ ih =>
    cases worked with
    | cons first worked =>
      obtain ⟨next, path⟩ := ih worked
      refine ⟨next, ?_⟩
      rw [Plan.run, ExceptT.run_bind]
      exact (Program.Path.bind first _).append path

theorem Child.forked (child : Child shell w front part shell') :
    (⟨.fork, .ok .child⟩ : Event) ∈ front := by
  cases child <;> simp [born]

theorem Inside.path {command : Command} {scope : List Assignment} {last : Shell}
    (inside : Inside command shell front scope part last) :
    front = [] ∧ part = command ∧ last = shell ∨
      (⟨.fork, .ok .child⟩ : Event) ∈ front ∧
        (command.evaluate.run shell).Path front (part.evaluate.run last >>= finish) := by
  induction inside with
  | here c shell => exact .inl ⟨rfl, rfl, rfl⟩
  | @child c next part shell middle shell' last turns w front back scope comes worked child _ ih =>
    refine .inr ⟨by simp [child.forked], ?_⟩
    obtain ⟨rest, arrived⟩ := comes.path worked
    rw [ExceptT.run_bind] at arrived
    rw [Command.evaluate, ← Command.run_planFrom]
    have forked := arrived.append (child.path.bind _)
    rw [bind_finish_bind] at forked
    rw [← List.append_assoc]
    obtain ⟨rfl, rfl, rfl⟩ | ⟨-, path⟩ := ih
    · rwa [List.append_nil]
    · have deeper := forked.append (path.bind finish)
      rwa [bind_finish_bind] at deeper

theorem Arrives.path {command : Command} {scope : List Assignment}
    (arrives : Arrives command shell trace scope w middle) :
    ∃ k : Except ShellError Int × Shell → Program (Except ShellError Int × Shell),
      (command.evaluate.run shell).Path trace (w.action.run middle >>= k) := by
  obtain ⟨inside, comes, worked⟩ := arrives
  obtain ⟨next, arrived⟩ := comes.path worked
  rw [ExceptT.run_bind, Command.plan, Command.run_planFrom] at arrived
  obtain ⟨rfl, rfl, rfl⟩ | ⟨-, path⟩ := inside.path
  · exact ⟨_, arrived⟩
  · have deeper := path.append (arrived.bind finish)
    rw [state_bind_bind] at deeper
    exact ⟨_, deeper⟩

end CommandShell
