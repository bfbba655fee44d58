import CommandShell.Shell.Session

/-!
# Evaluation with notes

Evaluating a command, running a tree and collecting the ended jobs, with a note made at every
return, in whichever process that is. A note may be any task; where it only sleeps, these are the
functions themselves with sleeps put in. So what is shown of the moments at which they sleep is
shown of the moments at which the functions return.
-/

set_option autoImplicit false

namespace CommandShell

inductive Returning where
  | evaluate (c : Command) (carried : Option Int)
  | run (c : Command)
  | reap
  deriving DecidableEq, Repr

def Returning.waits : Returning → Bool
  | .evaluate (.simple c) none => c.program = "wait" ∧ c.arguments = []
  | _ => false

/-- A return that is looked for: what returns, and the shell that it leaves. -/
structure Landmark where
  returning : Returning
  shell : Shell
  deriving DecidableEq, Repr

inductive Operation where
  | evaluate (c : Command)
  | run (c : Command)
  | reap
  | enterLine (line : String)
  deriving DecidableEq, Repr

namespace Operation

def perform : Operation → Session.Task Unit
  | evaluate c => do let _ ← Session.onShell c.evaluate.run
  | run c => do let _ ← Session.onShell (Shell.run c)
  | reap => do let _ ← Session.onShell Shell.reap
  | enterLine line => Session.enterLine line

def performAll : List Operation → Session.Task Unit
  | [] => pure ()
  | operation :: rest => do
    operation.perform
    performAll rest

end Operation

namespace Shell.Noted
open Command

def noting {α : Type} (note : Task Unit) (task : Task α) : Task α := do
  let result ← task
  note
  return result

def notingAction {α : Type} (note : Task Unit) (action : Action α) : Action α :=
  ExceptT.mk (noting note action.run)

/-- Sleeps at the return that is looked for. The shell does so nowhere else. -/
def mark (landmark : Landmark) (what : Returning) : Task Unit := fun shell =>
  if landmark = ⟨what, shell⟩ then Program.call (.sleep 0) fun _ => pure ((), shell)
  else pure ((), shell)

variable (note : Returning → Task Unit)

def evaluateFrom : Command → Option Int → Action Int := fun c carried =>
  notingAction (note (.evaluate c carried)) <| match c, carried with
    | andOr op left right, carried => do
      let status ← match carried with
        | some status => pure status
        | none => evaluateFrom left none
      evaluateFrom right (if op.proceeds status then none else some status)
    | _, some status => pure status
    | simple c, none => evaluateSimple c
    | subshell parts body, none => evaluateSubshell parts (evaluateFrom body none)
    | pipe left right, none => evaluatePipe (evaluateFrom left none) (evaluateFrom right none)
    | ended .sequence left, none => evaluateFrom left none
    | ended .background left, none => do
      startJob left (evaluateFrom left none)
      return 0
    | list .sequence left right, none => do
      let _ ← evaluateFrom left none
      evaluateFrom right none
    | list .background left right, none => do
      startJob left (evaluateFrom left none)
      evaluateFrom right none

def reap : Task (List Completion) := noting (note .reap) Shell.reap

def run (c : Command) : Task (Except ShellError Int) :=
  noting (note (.run c)) do
    let _ ← reap note
    let result ← (evaluateFrom note c none).run
    let status := match result with
      | .ok status => status
      | .error _ => 1
    modify fun shell => { shell with vars := shell.vars.setStatus status }
    return result

def runTokens (tokens : List Token) : Session.Task Unit := do
  match Command.parse tokens with
  | .error e => Session.reportError (.parse e)
  | .ok command =>
    modify fun session => { session with number := session.number + 1 }
    if let .error e ← Session.onShell (run note command) then
      Session.reportError e

def enterLine (line : String) : Session.Task Unit := do
  if Text.isBlankLine line then return
  modify fun session => { session with history := session.history.add line }
  let session ← get
  let tokens := Token.lex (session.shell.vars.expand line)
  if tokens.isEmpty then return
  if session.dumpsTokens then
    Program.printLine (Token.listing tokens)
  runTokens note tokens

def perform : Operation → Session.Task Unit
  | .evaluate c => do let _ ← Session.onShell (evaluateFrom note c none).run
  | .run c => do let _ ← Session.onShell (run note c)
  | .reap => do let _ ← Session.onShell (reap note)
  | .enterLine line => enterLine note line

def performAll : List Operation → Session.Task Unit
  | [] => pure ()
  | operation :: rest => do
    perform note operation
    performAll rest

end Shell.Noted

/-! ## Notes that only sleep -/

namespace Program
variable {α β σ : Type}

/-- The first program is the second with sleeps put in. -/
inductive Padded : Program α → Program α → Prop
  | done (a : α) : Padded (.done a) (.done a)
  | call (c : Call) {next next' : c.Reply → Program α} :
    (∀ reply, Padded (next reply) (next' reply)) → Padded (.call c next) (.call c next')
  | sleep (time : Nat) {next : Unit → Program α} {p : Program α} :
    Padded (next ()) p → Padded (.call (.sleep time) next) p

theorem Padded.refl (p : Program α) : p.Padded p := by
  induction p with
  | done a => exact .done a
  | call c next ih => exact .call c ih

theorem Padded.bind {p q : Program α} {f g : α → Program β} (h : p.Padded q)
    (rest : ∀ a, (f a).Padded (g a)) : (p >>= f).Padded (q >>= g) := by
  induction h with
  | done a => exact rest a
  | call c _ ih => exact .call c ih
  | sleep time _ ih => exact .sleep time ih

end Program

def Padded {α σ : Type} (task plain : StateT σ Program α) : Prop :=
  ∀ state, (task state).Padded (plain state)

section Padding
variable {α β σ : Type}

theorem padded_refl (task : StateT σ Program α) : Padded task task :=
  fun state => .refl (task state)

theorem padded_bind {task plain : StateT σ Program α} {f g : α → StateT σ Program β}
    (h : Padded task plain) (rest : ∀ a, Padded (f a) (g a)) :
    Padded (task >>= f) (plain >>= g) :=
  fun state => (h state).bind fun result => rest result.1 result.2

theorem padded_onShell {task plain : Shell.Task α} (h : Padded task plain) :
    Padded (Session.onShell task) (Session.onShell plain) :=
  fun session => (h session.shell).bind fun _ => .refl _

end Padding

namespace Shell.Noted
open Command

section Actions
variable {α β : Type}

theorem padded_run_bind {action plain : Action α} {f g : α → Action β}
    (h : Padded action.run plain.run) (rest : ∀ a, Padded (f a).run (g a).run) :
    Padded (action >>= f).run (plain >>= g).run := by
  rw [ExceptT.run_bind, ExceptT.run_bind]
  apply padded_bind h
  intro result
  cases result with
  | error e => exact padded_refl _
  | ok a => exact rest a

theorem padded_run_lift {task plain : Task α} (h : Padded task plain) :
    Padded (ExceptT.lift task : Action α).run (ExceptT.lift plain : Action α).run :=
  padded_bind (f := fun a => pure (Except.ok a)) h fun _ => padded_refl _

theorem padded_spawn {body plain : Task Int} (h : Padded body plain) :
    Padded (spawn body).run (spawn plain).run := by
  apply padded_run_bind (padded_refl _)
  intro side
  cases side with
  | parent child => exact padded_refl _
  | child =>
    apply padded_run_bind (padded_refl _)
    intro _
    apply padded_run_bind (padded_refl _)
    intro _
    exact padded_run_bind (padded_run_lift h) fun _ => padded_refl _

variable {action plain : Action Int} (h : Padded action.run plain.run)
include h

theorem padded_orReport : Padded (orReport action) (orReport plain) :=
  padded_bind h fun _ => padded_refl _

theorem padded_runBody (parts : StageParts) :
    Padded (runBody parts action) (runBody parts plain) := by
  apply padded_bind (padded_refl _)
  intro result
  cases result with
  | error e => exact padded_refl _
  | ok _ =>
    apply padded_bind (padded_refl _)
    intro _
    exact padded_bind (padded_refl _) fun _ => padded_orReport h

theorem padded_runSide (used target unused : Nat) :
    Padded (runSide used target unused action) (runSide used target unused plain) := by
  apply padded_bind (padded_refl _)
  intro result
  cases result with
  | error e => exact padded_refl _
  | ok _ => exact padded_orReport h

theorem padded_evaluateSubshell (parts : StageParts) :
    Padded (evaluateSubshell parts action).run (evaluateSubshell parts plain).run :=
  padded_run_bind (padded_spawn (padded_runBody h parts)) fun _ => padded_refl _

theorem padded_evaluatePipe {right plainRight : Action Int}
    (h' : Padded right.run plainRight.run) :
    Padded (evaluatePipe action right).run (evaluatePipe plain plainRight).run := by
  apply padded_run_bind (padded_refl _)
  intro ends
  apply padded_run_bind (padded_run_lift (padded_spawn (padded_runSide h _ _ _)))
  intro started
  cases started with
  | error e => exact padded_refl _
  | ok leftChild =>
    exact padded_run_bind (padded_run_lift (padded_spawn (padded_runSide h' _ _ _)))
      fun _ => padded_refl _

theorem padded_startJob (job : Command) :
    Padded (startJob job action).run (startJob job plain).run :=
  padded_run_bind (padded_spawn (padded_orReport h)) fun _ => padded_refl _

end Actions

section Notes
variable {note : Returning → Task Unit}
  (asleep : ∀ what shell, (note what shell).Padded (pure ((), shell)))
include asleep

theorem padded_noting {α : Type} {task plain : Task α} (h : Padded task plain) (what : Returning) :
    Padded (noting (note what) task) plain := by
  rw [← bind_pure plain]
  refine padded_bind h fun a shell => ?_
  exact (asleep what shell).bind (g := fun result => pure (a, result.2)) fun _ => .refl _

theorem padded_evaluateFrom (c : Command) (carried : Option Int) :
    Padded (evaluateFrom note c carried).run (c.evaluateFrom carried).run := by
  induction c generalizing carried with
  | simple c =>
    rw [evaluateFrom.eq_def]
    apply padded_noting asleep
    cases carried <;> exact padded_refl _
  | subshell parts body body_ih =>
    rw [evaluateFrom.eq_def]
    apply padded_noting asleep
    cases carried with
    | some status => exact padded_refl _
    | none => exact padded_evaluateSubshell (body_ih none) parts
  | pipe left right left_ih right_ih =>
    rw [evaluateFrom.eq_def]
    apply padded_noting asleep
    cases carried with
    | some status => exact padded_refl _
    | none => exact padded_evaluatePipe (left_ih none) (right_ih none)
  | andOr op left right left_ih right_ih =>
    rw [evaluateFrom.eq_def]
    apply padded_noting asleep
    cases carried with
    | some status => exact right_ih _
    | none => exact padded_run_bind (left_ih none) fun status => right_ih _
  | ended separator left left_ih =>
    rw [evaluateFrom.eq_def]
    apply padded_noting asleep
    cases carried with
    | some status => cases separator <;> exact padded_refl _
    | none =>
      cases separator with
      | sequence => exact left_ih none
      | background =>
        exact padded_run_bind (padded_startJob (left_ih none) left) fun _ => padded_refl _
  | list separator left right left_ih right_ih =>
    rw [evaluateFrom.eq_def]
    apply padded_noting asleep
    cases carried with
    | some status => cases separator <;> exact padded_refl _
    | none =>
      cases separator with
      | sequence => exact padded_run_bind (left_ih none) fun _ => right_ih none
      | background =>
        exact padded_run_bind (padded_startJob (left_ih none) left) fun _ => right_ih none

theorem padded_reap : Padded (reap note) Shell.reap := padded_noting asleep (padded_refl _) _

theorem padded_run (c : Command) : Padded (run note c) (Shell.run c) := by
  apply padded_noting asleep
  apply padded_bind (padded_reap asleep)
  intro _
  exact padded_bind (padded_evaluateFrom asleep c none) fun _ => padded_refl _

theorem padded_runTokens (tokens : List Token) :
    Padded (runTokens note tokens) (Session.runTokens tokens) := by
  rw [runTokens, Session.runTokens]
  cases Command.parse tokens with
  | error e => exact padded_refl _
  | ok command =>
    apply padded_bind (padded_refl _)
    intro _
    exact padded_bind (padded_onShell (padded_run asleep command)) fun _ => padded_refl _

theorem padded_enterLine (line : String) :
    Padded (enterLine note line) (Session.enterLine line) := by
  rw [enterLine, Session.enterLine]
  split
  · exact padded_refl _
  apply padded_bind (padded_refl _)
  intro _
  apply padded_bind (padded_refl _)
  intro session
  dsimp only
  split
  · exact padded_refl _
  split
  · exact padded_bind (padded_refl _) fun _ => padded_runTokens asleep _
  · exact padded_runTokens asleep _

theorem padded_perform (operation : Operation) :
    Padded (perform note operation) operation.perform := by
  cases operation with
  | evaluate c =>
    exact padded_bind (padded_onShell (padded_evaluateFrom asleep c none))
      fun _ => padded_refl _
  | run c => exact padded_bind (padded_onShell (padded_run asleep c)) fun _ => padded_refl _
  | reap => exact padded_bind (padded_onShell (padded_reap asleep)) fun _ => padded_refl _
  | enterLine line => exact padded_enterLine asleep line

/-- The operations with notes that only sleep are the operations with sleeps put in: they make the
same other calls and come to the same results. -/
theorem padded_performAll (operations : List Operation) :
    Padded (performAll note operations) (Operation.performAll operations) := by
  induction operations with
  | nil => exact padded_refl _
  | cons operation rest ih => exact padded_bind (padded_perform asleep operation) fun _ => ih

end Notes

theorem padded_mark (landmark : Landmark) (what : Returning) (shell : Shell) :
    (mark landmark what shell).Padded (pure ((), shell)) := by
  rw [mark]
  split
  · exact .sleep 0 (.refl _)
  · exact .refl _

end Shell.Noted

end CommandShell
