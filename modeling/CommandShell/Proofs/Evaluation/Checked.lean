import CommandShell.Proofs.Descriptors.Wiring
import CommandShell.Proofs.Evaluation.Frame

/-!
# Evaluation with checks

Evaluating a command with a check made at every call, in whichever process that is. A check is any
task, and is told which assignments the subshells around make. Where it does nothing at the shells
that evaluation comes to under these assignments, evaluation with checks is evaluation. Which shells
these are is known beforehand: each has the stores of the first one, under the assignments.
-/

set_option autoImplicit false

namespace CommandShell
open Shell

/-! ## Tasks that are the same from one shell -/

theorem Program.bind_congr_of_returns {α β : Type} {p : Program α} {f g : α → Program β}
    (same : ∀ trace a, p.Returns trace a → f a = g a) : p >>= f = p >>= g := by
  induction p with
  | done a => exact same [] a (.stay _)
  | call c next ih =>
    exact congrArg (call c) (funext fun reply =>
      ih reply fun trace a returns => same _ a (.call reply returns))

namespace Shell
variable {α β : Type} {shell : Shell}

theorem bind_congr_at {task task' : Task α} {f g : α → Task β} (first : task shell = task' shell)
    (rest : ∀ trace a shell', Gives task' shell trace a shell' → f a shell' = g a shell') :
    (task >>= f) shell = (task' >>= g) shell := by
  change task shell >>= _ = task' shell >>= _
  rw [first]
  exact Program.bind_congr_of_returns fun trace result returns =>
    rest trace result.1 result.2 returns

theorem run_bind_congr_at {action action' : Action α} {f g : α → Action β}
    (first : action.run shell = action'.run shell)
    (rest : ∀ trace a shell', Gives action'.run shell trace (.ok a) shell' →
      (f a).run shell' = (g a).run shell') :
    (action >>= f).run shell = (action' >>= g).run shell := by
  rw [ExceptT.run_bind, ExceptT.run_bind]
  apply bind_congr_at first
  intro trace result shell' given
  cases result with
  | error e => rfl
  | ok a => exact rest trace a shell' given

theorem spawn_congr {body body' : Task Int}
    (same : body { shell with jobs := {} } = body' { shell with jobs := {} }) :
    (spawn body).run shell = (spawn body').run shell := by
  rw [← Program.bind_done ((spawn body).run shell), ← Program.bind_done ((spawn body').run shell),
    spawn_bind, spawn_bind]
  congr 1
  funext reply
  rcases reply with e | _ | child
  · rfl
  · dsimp only
    rw [life_bind, life_bind, same]
  · rfl

variable {action action' : Action Int}

theorem orReport_congr (same : action.run shell = action'.run shell) :
    orReport action shell = orReport action' shell :=
  bind_congr_at same fun _ _ _ _ => rfl

theorem onceWired_congr {wiring : Action Unit} {rest rest' : Task Int}
    (keeps : Keeps Call.IsWiring wiring.run) (same : rest shell = rest' shell) :
    onceWired wiring rest shell = onceWired wiring rest' shell := by
  apply bind_congr_at rfl
  intro trace result shell' given
  obtain ⟨-, rfl⟩ := keeps.given given
  cases result with
  | error e => rfl
  | ok _ => exact same

theorem runSide_congr (used target unused : Nat) (same : action.run shell = action'.run shell) :
    runSide used target unused action shell = runSide used target unused action' shell :=
  onceWired_congr (keeps_connect used target unused) (orReport_congr same)

theorem runBody_congr (parts : StageParts)
    (same : action.run { shell with
        environment := assign parts.locals shell.environment
        vars := assign parts.locals shell.vars } =
      action'.run { shell with
        environment := assign parts.locals shell.environment
        vars := assign parts.locals shell.vars }) :
    runBody parts action shell = runBody parts action' shell := by
  apply onceWired_congr (keeps_redirect parts)
  apply bind_congr_at rfl
  intro _ _ _ required
  obtain ⟨-, -, rfl⟩ := gives_requireSettable required
  apply bind_congr_at rfl
  intro _ _ _ assigned
  obtain ⟨-, rfl⟩ := gives_modify.mp assigned
  exact orReport_congr same

theorem evaluateSubshell_congr (parts : StageParts)
    (same : action.run { shell with
        environment := assign parts.locals shell.environment
        vars := assign parts.locals shell.vars
        jobs := {} } =
      action'.run { shell with
        environment := assign parts.locals shell.environment
        vars := assign parts.locals shell.vars
        jobs := {} }) :
    (evaluateSubshell parts action).run shell = (evaluateSubshell parts action').run shell :=
  run_bind_congr_at (spawn_congr (runBody_congr parts same)) fun _ _ _ _ => rfl

theorem outcome_congr {α : Type} {action action' : Action α}
    (same : action.run shell = action'.run shell) :
    (outcome action).run shell = (outcome action').run shell :=
  bind_congr_at (f := fun a => pure (Except.ok a)) same fun _ _ _ _ => rfl

theorem evaluatePipe_congr {right right' : Action Int}
    (left : action.run { shell with jobs := {} } = action'.run { shell with jobs := {} })
    (same : right.run { shell with jobs := {} } = right'.run { shell with jobs := {} }) :
    (evaluatePipe action right).run shell = (evaluatePipe action' right').run shell := by
  apply run_bind_congr_at rfl
  rintro _ ⟨reader, writer⟩ _ opened
  obtain ⟨_, -, -, rfl⟩ := gives_attempt opened
  apply run_bind_congr_at (outcome_congr (spawn_congr (runSide_congr _ _ _ left)))
  intro _ started _ given
  obtain ⟨_, -, forked⟩ := gives_run_lift.mp given
  obtain ⟨_, -, -, rfl⟩ := gives_spawn forked
  cases started with
  | error e => rfl
  | ok child =>
    exact run_bind_congr_at (outcome_congr (spawn_congr (runSide_congr _ _ _ same)))
      fun _ _ _ _ => rfl

theorem startJob_congr (job : Command)
    (same : action.run { shell with jobs := {} } = action'.run { shell with jobs := {} }) :
    (startJob job action).run shell = (startJob job action').run shell :=
  run_bind_congr_at (spawn_congr (orReport_congr same)) fun _ _ _ _ => rfl

/-! ## The stores of a shell -/

def Stores (vars environment : Variables) (scope : List Assignment) (shell : Shell) : Prop :=
  shell.vars = assign scope vars ∧ shell.environment = assign scope environment

theorem assign_append (locals locals' : List Assignment) (vars : Variables) :
    assign (locals ++ locals') vars = assign locals' (assign locals vars) :=
  List.foldl_append

theorem Stores.append {vars environment : Variables} {scope : List Assignment}
    (stores : Stores vars environment scope shell) (locals : List Assignment) (jobs : JobTable) :
    Stores vars environment (scope ++ locals) { shell with
      environment := assign locals shell.environment
      vars := assign locals shell.vars
      jobs } := by
  rw [Stores, assign_append, assign_append, stores.1, stores.2]
  exact ⟨rfl, rfl⟩

end Shell

theorem Worked.stores {vars environment : Variables} {scope : List Assignment} {shell shell' : Shell}
    {turns : List Turn} (worked : Worked shell turns shell')
    (stores : Stores vars environment scope shell) : Stores vars environment scope shell' := by
  rw [worked.frame.2]
  exact stores

namespace Command

/-- The status of a command, with a check at each call. The scope has the assignments of the subshells
around the command, from the outermost to the innermost. -/
def checkedFrom (check : List Assignment → Shell.Task Unit) :
    Command → List Assignment → Option Int → Action Int := fun c scope carried => do
  ExceptT.lift (check scope)
  match c, carried with
  | andOr op left right, carried => do
    let status ← match carried with
      | some status => pure status
      | none => checkedFrom check left scope none
    checkedFrom check right scope (if op.proceeds status then none else some status)
  | _, some status => pure status
  | simple c, none => evaluateSimple c
  | subshell parts body, none =>
    evaluateSubshell parts (checkedFrom check body (scope ++ parts.locals) none)
  | pipe left right, none =>
    evaluatePipe (checkedFrom check left scope none) (checkedFrom check right scope none)
  | ended .sequence left, none => checkedFrom check left scope none
  | ended .background left, none => do
    startJob left (checkedFrom check left scope none)
    return 0
  | list .sequence left right, none => do
    let _ ← checkedFrom check left scope none
    checkedFrom check right scope none
  | list .background left right, none => do
    startJob left (checkedFrom check left scope none)
    checkedFrom check right scope none

section Checks
variable {vars environment : Variables} {check : List Assignment → Shell.Task Unit}
  {scope : List Assignment} {shell : Shell}

theorem stores_evaluateFrom {c : Command} {carried : Option Int} {shell' : Shell}
    {trace : List Event} {result : Except ShellError Int}
    (h : Gives (c.evaluateFrom carried).run shell trace result shell')
    (stores : Stores vars environment scope shell) : Stores vars environment scope shell' := by
  rw [← run_planFrom] at h
  obtain ⟨_, -, worked, -⟩ := Plan.gives_run h
  exact worked.stores stores

variable (passes : ∀ scope shell, Stores vars environment scope shell →
  check scope shell = pure ((), shell))
include passes

theorem run_passed {f : Unit → Action Int} (stores : Stores vars environment scope shell) :
    (ExceptT.lift (check scope) >>= f).run shell = (f ()).run shell := by
  rw [run_lift_bind]
  change check scope shell >>= _ = _
  rw [passes scope shell stores]
  rfl

/-- Where a check does nothing at any shell with the stores of the first one under the assignments,
evaluation with checks is evaluation: the same program, and so the same behaviour of the system. -/
theorem run_checkedFrom (c : Command) (carried : Option Int)
    (stores : Stores vars environment scope shell) :
    (c.checkedFrom check scope carried).run shell = (c.evaluateFrom carried).run shell := by
  -- A child has no jobs, and its stores may be those of an inner scope.
  induction c generalizing scope carried shell with
  | simple c =>
    rw [checkedFrom.eq_def, run_passed passes stores]
    cases carried <;> rfl
  | subshell parts body ih =>
    rw [checkedFrom.eq_def, run_passed passes stores]
    cases carried with
    | some status => rfl
    | none =>
      exact evaluateSubshell_congr parts (ih none (stores.append parts.locals {}))
  | pipe left right left_ih right_ih =>
    rw [checkedFrom.eq_def, run_passed passes stores]
    cases carried with
    | some status => rfl
    | none => exact evaluatePipe_congr (left_ih none stores) (right_ih none stores)
  | andOr op left right left_ih right_ih =>
    rw [checkedFrom.eq_def, run_passed passes stores]
    cases carried with
    | some status => exact right_ih _ stores
    | none =>
      apply run_bind_congr_at (left_ih none stores)
      intro _ status _ given
      exact right_ih _ (stores_evaluateFrom given stores)
  | ended separator left left_ih =>
    rw [checkedFrom.eq_def, run_passed passes stores]
    cases carried with
    | some status => cases separator <;> rfl
    | none =>
      cases separator with
      | sequence => exact left_ih none stores
      | background =>
        exact run_bind_congr_at (startJob_congr left (left_ih none stores)) fun _ _ _ _ => rfl
  | list separator left right left_ih right_ih =>
    rw [checkedFrom.eq_def, run_passed passes stores]
    cases carried with
    | some status => cases separator <;> rfl
    | none =>
      cases separator with
      | sequence =>
        apply run_bind_congr_at (left_ih none stores)
        intro _ _ _ given
        exact right_ih none (stores_evaluateFrom given stores)
      | background =>
        apply run_bind_congr_at (startJob_congr left (left_ih none stores))
        intro _ _ _ given
        obtain ⟨-, rfl⟩ := gives_startJob given
        exact right_ih none stores

end Checks

end Command

end CommandShell
