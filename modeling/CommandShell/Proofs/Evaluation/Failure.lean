import CommandShell.Proofs.Evaluation.Crashes
import CommandShell.Proofs.Evaluation.Frame
import CommandShell.Proofs.Evaluation.Parts

/-!
# Failed pipes

A pipe that cannot be opened is an error of the process that evaluates it. The error abandons what
this process evaluates: nothing comes after it, and what has been done stays done. A child shows the
error and leaves with 1, so to its parent it is as if the part had ended with status 1; but where the
error cannot be shown, the child crashes, and to its parent the part has ended with the status for
this. At the top the error is handed on, and the status that is kept is 1.
-/

set_option autoImplicit false

namespace CommandShell
open Shell Program Reaping

variable {shell shell' middle last : Shell} {trace front : List Event} {c : Call} {w : Work}
  {part command : Command} {turns : List Turn} {scope : List Assignment}
  {result : Except ShellError Int} {e : Errno}

/-! ## What a process has done itself -/

theorem unforked_of_collecting (h : ∀ event ∈ trace, event.call.IsCollecting) :
    Unforked trace := by
  intro member
  have forms := (h _ member).forms
  simp at forms

theorem unforked_of_inert (h : ∀ event ∈ trace, event.call.IsInert) : Unforked trace :=
  unforked_of_collecting fun event member => (h event member).isCollecting

theorem Shell.Waited.unforked (h : Waited trace result) : Unforked trace := by
  cases h <;> simp

theorem Shell.Moved.unforked {vars : Variables} {arguments : List String} {status : Int}
    (h : Moved vars arguments trace status) : Unforked trace := by
  cases h with
  | entered => simp
  | refused _ _ _ inert => simp [unforked_of_inert inert]
  | nowhere _ inert => exact unforked_of_inert inert

theorem Shell.Piped.unforked (h : Piped trace result) : Unforked trace := by
  cases h with
  | unopened => simp
  | unstarted => simp
  | started _ _ _ _ _ _ waiting =>
    simp [unforked_of_collecting fun event member => .inl (waiting event member)]

theorem Work.Outcome.unforked (h : Outcome shell w trace result shell') : Unforked trace := by
  cases h with
  | simple ran =>
    cases ran with
    | moved _ moved => exact moved.unforked
    | collected _ collected =>
      cases collected with
      | all _ collecting => exact unforked_of_collecting collecting
      | misused _ inert => exact unforked_of_inert inert
    | external _ _ waited => exact waited.unforked
  | subshell waited => exact waited.unforked
  | pipe piped => exact piped.unforked
  | background started =>
    cases started with
    | unstarted => simp
    | started child =>
      have other : startedNotice child ≠ .fork := nofun
      simp [other]

theorem Worked.unforked (worked : Worked shell turns shell') :
    Unforked (turns.flatMap Turn.events) := by
  induction worked with
  | nil => exact unforked_nil
  | cons first _ ih =>
    exact unforked_append.mpr ⟨(Work.gives_action first).unforked, ih⟩

theorem Inside.forked (inside : Inside command shell front scope part last) :
    (front = [] ∧ scope = [] ∧ part = command ∧ last = shell) ∨
      ∃ before own outer w middle, front = before ++ own ∧ scope = outer ++ w.locals ∧
        Arrives command shell before outer w middle ∧ Child middle w own part last := by
  induction inside with
  | here => exact .inl ⟨rfl, rfl, rfl, rfl⟩
  | @child c next part shell middle shell' last turns w front back scope comes worked child _ ih =>
    obtain ⟨rfl, rfl, rfl, rfl⟩ | ⟨_, own, outer, w', middle', rfl, rfl, ⟨inside, comes', worked'⟩,
      child'⟩ := ih
    · exact .inr ⟨_, front, [], w, middle, by simp, by simp,
        .intro (.here c shell) comes worked, child⟩
    · exact .inr ⟨_, own, _, w', middle', by simp, by simp,
        .intro (.child comes worked child inside) comes' worked', child'⟩

/-! ## Errors -/

theorem Plan.Comes.fails {p : Plan} {error : ShellError} (comes : p.Comes turns w)
    (worked : Worked shell turns middle)
    (failed : Gives w.action.run middle trace (.error error) last) :
    Gives p.run.run shell (turns.flatMap Turn.events ++ trace) (.error error) last := by
  obtain ⟨next, path⟩ := comes.path worked
  exact path.append (gives_run_bind.mpr (.inl ⟨error, rfl, failed⟩))

theorem Command.gives_unopened {left right : Command}
    (comes : command.plan.Comes turns (.pipe left right)) (worked : Worked shell turns middle)
    (e : Errno) : Gives command.evaluate.run shell
      (turns.flatMap Turn.events ++ [⟨.pipe, .error e⟩]) (.error (.system "pipe" e)) middle := by
  rw [evaluate, ← run_planFrom]
  exact comes.fails worked (.call (c := .pipe) (.error e) (.stay _))

def Event.IsRefused : Event → Prop
  | ⟨.fork, .error _⟩ => True
  | ⟨.wait _, w⟩ => ∃ e, w.outcome = .error e
  | _ => False

/-- The last event is a pipe that was not opened, and this is the error. -/
def Unopened (trace : List Event) (error : ShellError) : Prop :=
  ∃ front e, trace = front ++ [⟨.pipe, .error e⟩] ∧ error = .system "pipe" e

theorem awaited_of_granted {child : Int} {w : Wait}
    (granted : ¬ Event.IsRefused ⟨.wait child, w⟩) :
    ∃ status, awaited w.outcome = .ok status := by
  cases ended : w.outcome with
  | ok ending => exact ⟨ending.status, rfl⟩
  | error e => exact (granted ⟨e, ended⟩).elim

theorem Shell.Waited.granted (h : Waited trace result)
    (granted : ∀ event ∈ trace, ¬ event.IsRefused) : ∃ status, result = .ok status := by
  cases h with
  | unstarted e => exact (granted _ List.mem_cons_self trivial).elim
  | started child w =>
    exact awaited_of_granted (granted ⟨.wait child, w⟩ (List.mem_cons_of_mem _ List.mem_cons_self))

theorem Shell.Settled.granted {reply : Except Errno Int} (h : Settled reply trace result)
    (forked : ¬ (forks reply).IsRefused) (granted : ∀ event ∈ trace, ¬ event.IsRefused) :
    ∃ status, result = .ok status := by
  cases h with
  | unstarted e => exact (forked trivial).elim
  | ended child front w =>
    exact awaited_of_granted (granted ⟨.wait child, w⟩ (List.mem_append_right _ List.mem_cons_self))

/-- Where no fork and no wait is refused, a piece of work fails only by a pipe that is not opened, and
this is the last that it does. -/
theorem Work.Outcome.unopened {error : ShellError}
    (h : Outcome shell w trace (.error error) shell')
    (granted : ∀ event ∈ trace, ¬ event.IsRefused) : Unopened trace error := by
  generalize failed : Except.error error = result at h
  cases h with
  | simple ran =>
    cases ran with
    | moved | collected => cases failed
    | external _ _ waited =>
      obtain ⟨_, rfl⟩ := waited.granted granted
      cases failed
  | subshell waited =>
    obtain ⟨_, rfl⟩ := waited.granted granted
    cases failed
  | pipe piped =>
    cases piped with
    | unopened e =>
      cases failed
      exact ⟨[], e, rfl, rfl⟩
    | unstarted =>
      exact (granted _ (List.mem_cons_of_mem _ List.mem_cons_self) trivial).elim
    | started _ _ _ reply _ _ _ settled =>
      simp only [List.forall_mem_cons] at granted
      obtain ⟨-, -, forked, -, -, granted⟩ := granted
      obtain ⟨_, rfl⟩ := settled.granted forked granted
      cases failed
  | background started =>
    cases started with
    | unstarted => exact (granted _ List.mem_cons_self trivial).elim
    | started => cases failed

theorem Plan.Takes.unopened {p : Plan} {error : ShellError} (takes : p.Takes turns (.error error))
    (worked : Worked shell turns last)
    (granted : ∀ event ∈ turns.flatMap Turn.events, ¬ event.IsRefused) :
    Unopened (turns.flatMap Turn.events) error := by
  generalize failed : Except.error error = result at takes
  induction takes generalizing shell with
  | done => cases failed
  | failed w next events e =>
    cases failed
    cases worked with
    | cons first _ =>
      rw [List.flatMap_singleton] at granted ⊢
      exact (Work.gives_action first).unopened granted
  | work events _ ih =>
    cases worked with
    | cons _ later =>
      rw [List.flatMap_cons] at granted ⊢
      obtain ⟨front, e, same, rfl⟩ :=
        ih later (fun event member => granted event (List.mem_append_right _ member)) failed
      exact ⟨events ++ front, e, by rw [same, List.append_assoc], rfl⟩

/-! ## Where a pipe fails -/

theorem calls_pipe (h : Calls command.evaluate.run shell trace .pipe) :
    ∃ before scope part first turns left right last, trace = before ++ turns.flatMap Turn.events ∧
      Inside command shell before scope part first ∧ part.plan.Comes turns (.pipe left right) ∧
      Worked first turns last := by
  obtain ⟨_, own, scope, _, last, rfl, ⟨inside, comes, worked⟩, asked, ⟨simple, rfl⟩ |
    ⟨left, right, rfl, rfl, -⟩⟩ := calls_evaluate id h
  · obtain ⟨-, changing⟩ | ⟨-, collecting⟩ | ⟨-, -, same, -⟩ := calls_simple id asked
    · exact ((keeps_changeDirectory _).called changing).elim
    · have forms := ((only_waitForJobs _ last).asked collecting).forms
      simp at forms
    · cases same
  · rw [List.append_nil]
    exact ⟨_, scope, _, _, _, left, right, last, rfl, inside, comes, worked⟩

/-- The line `cd /a; x | y`. -/
def enterAndPipe : Command :=
  .list .sequence (.simple { program := "cd", arguments := ["/a"] })
    (.pipe (.simple { program := "x" }) (.simple { program := "y" }))

def enclosed : Command := .subshell {} enterAndPipe

def enteredDirectory : List Event := [⟨.changeDirectory "/a", .ok ()⟩]

def unshown : List Event :=
  born ++ enteredDirectory ++ [⟨.pipe, .error .tooManyOpen⟩,
    ⟨.write 2 ("bsh: " ++ (ShellError.system "pipe" .tooManyOpen).message ++ "\n").toUTF8,
      .error .noSpace⟩]

end CommandShell
