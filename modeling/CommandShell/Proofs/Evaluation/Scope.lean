import CommandShell.Proofs.Evaluation.Checked
import CommandShell.Proofs.Evaluation.Parts

/-!
# The scope of assignments

A shell keeps its environment twice: among its variables and as what it hands to programs. The
assignments of a subshell go to both copies, in the child that evaluates the body; those of a
simple command go to the second copy alone, in the child that becomes the program. So the copies
agree wherever a command is evaluated, and both hold what the first shell had under the assignments
of the subshells around, whatever has been done before or is done beside.
-/

set_option autoImplicit false

namespace CommandShell
open Shell Program

namespace Shell

/-- The variables are the environment, but for the status. -/
def Agrees (shell : Shell) : Prop :=
  ∀ name, name ≠ Variables.statusName → shell.vars.get? name = shell.environment.get? name

/-- Of several assignments to a name the last one counts. -/
def assigned? (locals : List Assignment) (name : String) : Option String :=
  (locals.reverse.find? (·.name = name)).map Assignment.value

theorem get?_assign (locals : List Assignment) (vars : Variables) (name : String) :
    (assign locals vars).get? name = (assigned? locals name).or (vars.get? name) := by
  induction locals generalizing vars with
  | nil => rfl
  | cons a rest ih =>
    have first : (vars.set a.name a.value).get? name =
        (if a.name = name then some a.value else none).or (vars.get? name) := by
      split_ifs with same
      · subst same
        exact Variables.get?_set_self ..
      · exact Variables.get?_set_of_ne vars a.value (Ne.symm same)
    rw [assign, List.foldl_cons, ← assign, ih, first, ← Option.or_assoc]
    congr 1
    simp only [assigned?, List.reverse_cons, List.find?_append, Option.map_or,
      List.find?_singleton, decide_eq_true_eq]
    split_ifs <;> rfl

theorem agrees_ofEnvironment (environment : Variables) (logger : Option Logger) :
    (ofEnvironment environment logger).Agrees :=
  fun _ other => Variables.get?_set_of_ne environment _ other

theorem Stores.agrees {shell shell' : Shell} {scope : List Assignment}
    (stores : Stores shell.vars shell.environment scope shell') (agrees : shell.Agrees) :
    shell'.Agrees := by
  intro name other
  rw [stores.1, stores.2, get?_assign, get?_assign, agrees name other]

end Shell

variable {shell shell' middle : Shell} {trace front : List Event} {c : Call} {w : Work}
  {part command : Command} {turns : List Turn} {scope : List Assignment}

/-! ## The copies in the processes of a command -/

theorem Child.stores {vars environment : Variables} (child : Child shell w front part shell')
    (stores : Stores vars environment scope shell) :
    Stores vars environment (scope ++ w.locals) shell' := by
  cases child with
  | subshell => exact stores.append ..
  | left | right | background => exact stores.append [] {}

theorem Inside.stores {vars environment : Variables} {outer : List Assignment}
    (inside : Inside command shell front scope part shell')
    (stores : Stores vars environment outer shell) :
    Stores vars environment (outer ++ scope) shell' := by
  induction inside generalizing outer with
  | here => rwa [List.append_nil]
  | child _ worked child _ ih =>
    rw [← List.append_assoc]
    exact ih (child.stores (worked.stores stores))

theorem Arrives.stores (arrives : Arrives command shell trace scope w middle) :
    Stores shell.vars shell.environment scope middle := by
  obtain ⟨inside, -, worked⟩ := arrives
  have there : Stores shell.vars shell.environment ([] ++ scope) _ := inside.stores ⟨rfl, rfl⟩
  exact worked.stores there

/-! ## Where `cd` goes -/

namespace Shell
variable {arguments : List String} {target : String}

theorem destination?_congr {vars vars' : Variables} (home : vars.get? "HOME" = vars'.get? "HOME")
    (arguments : List String) : destination? vars arguments = destination? vars' arguments := by
  rcases arguments with _ | ⟨_, _ | ⟨_, _⟩⟩ <;> simp [destination?, home]

theorem changeDirectory_eq (arguments : List String) (shell : Shell) :
    ∃ c next, changeDirectory arguments shell = .call c next ∧
      ∀ target, c = .changeDirectory target ↔ destination? shell.vars arguments = some target := by
  have got (f : Shell → Shell.Task Int) : (get >>= f) shell = f shell shell := rfl
  rw [changeDirectory, got]
  rcases arguments with _ | ⟨directory, _ | ⟨_, _⟩⟩
  · cases home : shell.vars.get? "HOME" with
    | none => exact ⟨_, _, rfl, by simp [destination?, home]⟩
    | some target => exact ⟨_, _, rfl, by simp [destination?, home]⟩
  · exact ⟨_, _, rfl, by simp [destination?]⟩
  · exact ⟨_, _, rfl, by simp [destination?]⟩

theorem calls_changeDirectory
    (h : Calls (changeDirectory arguments) shell trace (.changeDirectory target)) :
    trace = [] := by
  have entered {place : String} {trace : List Event}
      (h : Calls (changeDirectory.enter place) shell trace (.changeDirectory target)) :
      trace = [] := by
    obtain asked | ⟨_, reply, _, _, rfl, -, rest⟩ := calls_bind.mp h
    · exact (calls_perform.mp asked).1
    cases reply with
    | ok _ => exact (calls_pure rest).elim
    | error e => exact (called_reported rest).elim
  obtain asked | ⟨_, _, _, _, rfl, got, rest⟩ := calls_bind.mp h
  · exact (calls_pure asked).elim
  obtain ⟨rfl, rfl, rfl⟩ := gives_get.mp got
  rcases arguments with _ | ⟨directory, _ | ⟨_, _⟩⟩
  · dsimp only at rest
    split at rest
    · exact (called_reported rest).elim
    · exact (called_reported rest).elim
    · exact entered rest
    · exact entered rest
  · exact entered rest
  · exact (called_reported rest).elim

theorem run_evaluateSimple_cd {c : SimpleCommand} (cd : c.program = "cd") :
    (evaluateSimple c).run = changeDirectory c.arguments >>= fun status => pure (.ok status) := by
  rw [evaluateSimple, builtin?, if_pos cd]
  rfl

end Shell

theorem Arrives.enters {cd : SimpleCommand} (named : cd.program = "cd")
    (arrives : Arrives command shell trace scope (.simple cd) middle) (target : String) :
    Calls command.evaluate.run shell trace (.changeDirectory target) ↔
      destination? middle.vars cd.arguments = some target := by
  obtain ⟨k, path⟩ := arrives.path
  obtain ⟨c, next, same, goes⟩ := changeDirectory_eq cd.arguments middle
  rw [Work.action, run_evaluateSimple_cd named, state_bind_bind, same, Program.call_bind] at path
  rw [Calls, path.asks_iff, ← goes]
  constructor
  · rintro ⟨_, same⟩
    cases same
    rfl
  · rintro rfl
    exact ⟨_, rfl⟩

/-- From a shell whose variables are its environment, however the system behaves: a check that does
nothing where the two agree and hold what the assignments of the subshells around leave of the first
environment does nothing anywhere, so this is how every command is evaluated, in whichever process.
A program that is executed is a simple command in the tree, and finds in its environment what the
last of these assignments and its own to each name has set, or what was there before. And each `cd`
goes where its arguments say by the home directory of this environment, less its own
assignments. -/
theorem scope_evaluate (c : Command) {shell : Shell} (agrees : shell.Agrees) :
    (∀ check : List Assignment → Shell.Task Unit,
      (∀ scope shell', shell'.Agrees → shell'.environment = assign scope shell.environment →
        check scope shell' = pure ((), shell')) →
      (c.checkedFrom check [] none).run shell = c.evaluate.run shell) ∧
    (∀ trace file argv environment,
      Calls c.evaluate.run shell trace (.exec file argv environment) →
      ∃ front own scope command middle, trace = front ++ own ∧
        Arrives c shell front scope (.simple command) middle ∧ file = command.program ∧
        argv = command.argv ∧
        environment = assign (scope ++ command.parts.locals) shell.environment ∧
        ∀ name, environment.get? name =
          (assigned? (scope ++ command.parts.locals) name).or (shell.environment.get? name)) ∧
    (∀ trace scope command middle, Arrives c shell trace scope (.simple command) middle →
      command.program = "cd" → ∀ target,
      (Calls c.evaluate.run shell trace (.changeDirectory target) ↔
        destination? (assign scope shell.environment) command.arguments = some target)) ∧
    ∀ trace target, Calls c.evaluate.run shell trace (.changeDirectory target) →
      ∃ scope command middle, Arrives c shell trace scope (.simple command) middle ∧
        command.program = "cd" := by
  refine ⟨fun check passes => ?_, ?_, ?_, ?_⟩
  · have unseen (scope : List Assignment) (shell' : Shell)
        (stores : Stores shell.vars shell.environment scope shell') :
        check scope shell' = pure ((), shell') :=
      passes scope shell' (stores.agrees agrees) stores.2
    exact Command.run_checkedFrom unseen c none ⟨rfl, rfl⟩
  · intro trace file argv environment asked
    obtain ⟨front, own, scope, _, middle, rfl, arrives, executed, ⟨command, rfl⟩ |
      ⟨_, _, -, -, same⟩⟩ := calls_evaluate id asked
    · obtain ⟨-, -, rfl, rfl, rfl, -⟩ := exec_simple executed
      rw [arrives.stores.2, ← assign_append]
      exact ⟨front, own, scope, command, middle, rfl, arrives, rfl, rfl, rfl, get?_assign _ _⟩
    · cases same
  · intro trace scope command middle arrives named target
    have home : middle.vars.get? "HOME" = (assign scope shell.environment).get? "HOME" := by
      rw [← arrives.stores.2]
      exact arrives.stores.agrees agrees "HOME" (by decide)
    rw [arrives.enters named, destination?_congr home]
  · intro trace target asked
    obtain ⟨front, own, scope, _, middle, rfl, arrives, changing, ⟨command, rfl⟩ |
      ⟨_, _, -, -, same⟩⟩ := calls_evaluate id asked
    · obtain ⟨named, changing⟩ | ⟨-, collecting⟩ | ⟨-, -, same, -⟩ := calls_simple id changing
      · obtain rfl := calls_changeDirectory changing
        rw [List.append_nil]
        exact ⟨scope, command, middle, arrives, named⟩
      · have forms := ((only_waitForJobs _ middle).asked collecting).forms
        simp at forms
      · cases same
    · cases same

/-- The line `HOME=/b (HOME=/c cd; HOME=/d x)`. -/
def homing : Command :=
  .subshell { locals := [⟨"HOME", "/b"⟩] }
    (.list .sequence (.simple { parts := { locals := [⟨"HOME", "/c"⟩] }, program := "cd" })
      (.simple { parts := { locals := [⟨"HOME", "/d"⟩] }, program := "x" }))

def homingShell : Shell := .ofEnvironment ⟨[("HOME", "/a")]⟩ none

def homingHistory : List Event :=
  born ++ [⟨.changeDirectory "/b", .ok ()⟩] ++ born

/-- The directory is the subshell's, and the program finds its own. -/
theorem scope_evaluate_homing : homingShell.Agrees ∧
    Calls homing.evaluate.run homingShell born (.changeDirectory "/b") ∧
    Calls homing.evaluate.run homingShell homingHistory (.exec "x" ["x"] ⟨[("HOME", "/d")]⟩) ∧
    (∃ scope command middle,
      Arrives homing homingShell born scope (.simple command) middle ∧ command.program = "cd") ∧
    ∃ front own scope command middle, homingHistory = front ++ own ∧
      Arrives homing homingShell front scope (.simple command) middle ∧ "x" = command.program ∧
      ["x"] = command.argv ∧
      (⟨[("HOME", "/d")]⟩ : Variables) =
        assign (scope ++ command.parts.locals) homingShell.environment ∧
      ∀ name, Variables.get? ⟨[("HOME", "/d")]⟩ name =
        (assigned? (scope ++ command.parts.locals) name).or
          (homingShell.environment.get? name) := by
  have agrees : homingShell.Agrees := agrees_ofEnvironment _ _
  have changes : Calls homing.evaluate.run homingShell born (.changeDirectory "/b") :=
    ⟨_, .call _ (.call _ (.stay _))⟩
  have executes : Calls homing.evaluate.run homingShell homingHistory
      (.exec "x" ["x"] ⟨[("HOME", "/d")]⟩) :=
    ⟨_, .call _ (.call _ (.call _ (.call _ (.call _ (.stay _)))))⟩
  obtain ⟨-, executed, -, changed⟩ := scope_evaluate homing agrees
  exact ⟨agrees, changes, executes, changed _ _ changes, executed _ _ _ _ executes⟩

end CommandShell
