import CommandShell.Proofs.Evaluation.Plan
import CommandShell.Proofs.Variables.Status

/-!
# What a command changes in its own process

Evaluating a command leaves the variables and the environment as they are. The directories that the
process enters are those of the `cd` commands on the surface of the tree that succeeded, and its
table of jobs changes with the background jobs started there and with each `wait` for all of them.
Nothing that stands under a pipe, a subshell or a background job changes any of this.
-/

set_option autoImplicit false

namespace CommandShell
open Shell Reaping

def Event.entered? : Event → Option String
  | ⟨.changeDirectory path, .ok ()⟩ => some path
  | _ => none

def directories (trace : List Event) : List String := trace.filterMap Event.entered?

theorem directories_append (front back : List Event) :
    directories (front ++ back) = directories front ++ directories back :=
  List.filterMap_append

theorem directories_of_collecting {trace : List Event}
    (h : ∀ event ∈ trace, event.call.IsCollecting) : directories trace = [] := by
  rw [directories, List.filterMap_eq_nil_iff]
  rintro ⟨c, reply⟩ member
  obtain ⟨_, _, rfl⟩ | rfl | rfl | rfl | ⟨_, rfl⟩ | ⟨_, rfl⟩ := (h _ member).forms <;> rfl

theorem directories_of_inert {trace : List Event} (h : ∀ event ∈ trace, event.call.IsInert) :
    directories trace = [] :=
  directories_of_collecting fun event member => (h event member).isCollecting

namespace Turn

/-- What a piece of work enters: the directory of a `cd` that succeeds. -/
def entered (vars : Variables) (turn : Turn) : List String :=
  match turn.work with
  | .simple c =>
    if c.program = "cd" ∧ directories turn.events ≠ [] then (destination? vars c.arguments).toList
    else []
  | _ => []

def jobs (turn : Turn) (table : JobTable) : JobTable :=
  match turn.work with
  | .simple c => if c.program = "wait" ∧ c.arguments = [] then {} else table
  | .background job => startedJobs job table turn.events
  | _ => table

end Turn

namespace Work
variable {w : Work} {shell shell' : Shell} {trace : List Event} {result : Except ShellError Int}

theorem directories_of_waited (h : Waited trace result) : directories trace = [] := by
  cases h <;> rfl

theorem directories_of_moved {vars : Variables} {arguments : List String} {status : Int}
    (h : Moved vars arguments trace status) :
    directories trace = if directories trace ≠ [] then (destination? vars arguments).toList
      else [] := by
  cases h with
  | entered target there => simp [there, directories, Event.entered?]
  | refused target e _ inert =>
    have none := directories_of_inert inert
    simp_all [directories, Event.entered?]
  | nowhere _ inert => simp [directories_of_inert inert]

theorem directories_of_piped (h : Piped trace result) : directories trace = [] := by
  cases h with
  | unopened => rfl
  | unstarted => rfl
  | started _ _ _ reply _ _ waiting _ =>
    have rest := directories_of_collecting fun event member => .inl (waiting event member)
    cases reply <;> exact rest

theorem Outcome.frame (h : Outcome shell w trace result shell') :
    directories trace = Turn.entered shell.vars ⟨w, trace, result⟩ ∧
      shell' = { shell with jobs := Turn.jobs ⟨w, trace, result⟩ shell.jobs } := by
  cases h with
  | simple ran =>
    cases ran with
    | moved cd moved =>
      have entered := directories_of_moved moved
      exact ⟨by simpa [Turn.entered, cd] using entered, by simp [Turn.jobs, cd]⟩
    | collected wait collected =>
      cases collected with
      | all none collecting =>
        have stays := directories_of_collecting collecting
        exact ⟨by simp [Turn.entered, wait, stays], by simp [Turn.jobs, wait, none]⟩
      | misused some inert =>
        have stays := directories_of_inert inert
        exact ⟨by simp [Turn.entered, wait, stays], by simp [Turn.jobs, some]⟩
    | external cd wait waited =>
      have none := directories_of_waited waited
      exact ⟨by simp [Turn.entered, cd, none], by simp [Turn.jobs, wait]⟩
  | subshell waited => exact ⟨directories_of_waited waited, rfl⟩
  | pipe piped => exact ⟨directories_of_piped piped, rfl⟩
  | background started =>
    cases started with
    | unstarted => exact ⟨rfl, rfl⟩
    | started => exact ⟨rfl, rfl⟩

end Work

theorem Worked.frame {shell shell' : Shell} {turns : List Turn} (h : Worked shell turns shell') :
    directories (turns.flatMap Turn.events) = turns.flatMap (Turn.entered shell.vars) ∧
      shell' = { shell with
        jobs := turns.foldl (fun table turn => turn.jobs table) shell.jobs } := by
  induction h with
  | nil shell => exact ⟨rfl, rfl⟩
  | cons first _ ih =>
    obtain ⟨entered, rfl⟩ := (Work.gives_action first).frame
    obtain ⟨later, rfl⟩ := ih
    exact ⟨by rw [List.flatMap_cons, directories_append, entered, later, List.flatMap_cons], rfl⟩

namespace Command

/-- However the system behaves, a command that has been evaluated has changed nothing but the
directory of its process and the table of jobs, and these just by work on its surface: the
directories entered are those of the `cd` commands that succeeded, in order, and the table has got
the background jobs that were started, and has been emptied by each `wait` for all of them. -/
theorem evaluate_frame {c : Command} {shell shell' : Shell} {trace : List Event}
    {result : Except ShellError Int} (h : Gives c.evaluate.run shell trace result shell') :
    ∃ turns, (turns.map Turn.work).Sublist c.surface ∧ c.plan.Takes turns result ∧
      Worked shell turns shell' ∧ trace = turns.flatMap Turn.events ∧
      directories trace = turns.flatMap (Turn.entered shell.vars) ∧
      shell' = { shell with
        jobs := turns.foldl (fun table turn => turn.jobs table) shell.jobs } := by
  rw [evaluate, ← run_planFrom] at h
  obtain ⟨turns, takes, worked, rfl⟩ := Plan.gives_run h
  exact ⟨turns, (within_surface c none).takes takes, takes, worked, rfl, worked.frame⟩

/-- The line `cd /a; x &`. -/
def enterAndStart : Command :=
  .list .sequence (.simple { program := "cd", arguments := ["/a"] })
    (.ended .background (.simple { program := "x" }))

def enteredAndStarted : List Event :=
  [⟨.changeDirectory "/a", .ok ()⟩, ⟨.fork, .ok (.parent 7)⟩, ⟨startedNotice 7, .ok ()⟩]

def afterStart : Shell where
  jobs := ⟨[⟨7, 1, "x"⟩]⟩

/-- One directory is entered, and one job is in the table. -/
theorem evaluate_frame_enterAndStart :
    Gives enterAndStart.evaluate.run {} enteredAndStarted (.ok 0) afterStart ∧
      ∃ turns, (turns.map Turn.work).Sublist enterAndStart.surface ∧
        enterAndStart.plan.Takes turns (.ok 0) ∧ Worked {} turns afterStart ∧
        enteredAndStarted = turns.flatMap Turn.events ∧
        ["/a"] = turns.flatMap (Turn.entered {}) ∧
        afterStart = { jobs := turns.foldl (fun table turn => turn.jobs table) {} } := by
  have given : Gives enterAndStart.evaluate.run {} enteredAndStarted (.ok 0) afterStart :=
    .call _ (.call _ (.call _ (.stay _)))
  exact ⟨given, evaluate_frame given⟩

end Command

/-! ## Running a whole tree -/

theorem Shell.gives_run {c : Command} {shell shell' : Shell} {trace : List Event}
    {result : Except ShellError Int} :
    Gives (Shell.run c) shell trace result shell' ↔
      ∃ reaped completed middle own last, trace = reaped ++ own ∧
        Gives reap shell reaped completed middle ∧ Gives c.evaluate.run middle own result last ∧
        shell' = { last with vars := last.vars.setStatus (exitStatus result) } := by
  constructor
  · intro h
    obtain ⟨reaped, completed, middle, _, rfl, collected, rest⟩ := gives_bind.mp h
    obtain ⟨own, given, last, _, rfl, evaluated, rest⟩ := gives_bind.mp rest
    obtain ⟨_, _, _, _, rfl, kept, rest⟩ := gives_bind.mp rest
    obtain ⟨rfl, rfl⟩ := gives_modify.mp kept
    obtain ⟨rfl, rfl, rfl⟩ := gives_pure.mp rest
    refine ⟨reaped, completed, middle, own, last, by simp, collected, evaluated, ?_⟩
    cases given <;> rfl
  · rintro ⟨reaped, completed, middle, own, last, rfl, collected, evaluated, rfl⟩
    refine gives_bind.mpr ⟨reaped, completed, middle, own, rfl, collected,
      gives_bind.mpr ⟨own, result, last, [], by simp, evaluated, ?_⟩⟩
    refine gives_bind.mpr ⟨[], (), _, [], rfl, gives_modify.mpr ⟨rfl, rfl⟩,
      gives_pure.mpr ⟨rfl, rfl, ?_⟩⟩
    cases result <;> rfl

/-- Running a tree keeps what comes of it as the status, also where it is abandoned. -/
theorem Shell.status_run {c : Command} {shell shell' : Shell} {trace : List Event}
    {result : Except ShellError Int} (h : Gives (Shell.run c) shell trace result shell') :
    shell'.vars.get? Variables.statusName = some (toString (exitStatus result)) ∧
      (Variables.isStatus (exitStatus result) = true →
        shell'.vars.status = exitStatus result) := by
  obtain ⟨_, _, _, _, last, -, -, -, rfl⟩ := gives_run.mp h
  have kept := last.vars.get?_setStatus (exitStatus result)
  exact ⟨kept, Variables.status_of_text kept⟩

end CommandShell
