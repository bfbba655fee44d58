import CommandShell.Proofs.Evaluation.Operations

/-!
# What a process does for a command, piece by piece

Sequences and connectives only put pieces of work together: each piece is a simple command, a
subshell, a pipe or the start of a background job, and comes next as the status of the one before it
says. The pieces are those parts of the command that stand under no pipe, no subshell and no
background job, in order, less those that are skipped and those behind a failure.
-/

set_option autoImplicit false

namespace CommandShell
open Shell

inductive Work where
  | simple (command : SimpleCommand)
  | subshell (parts : StageParts) (body : Command)
  | pipe (left right : Command)
  | background (job : Command)

namespace Work

def action : Work → Action Int
  | simple c => evaluateSimple c
  | subshell parts body => evaluateSubshell parts body.evaluate
  | pipe left right => evaluatePipe left.evaluate right.evaluate
  | background job => do
    startJob job job.evaluate
    return 0

def parts : Work → List Command
  | simple _ => []
  | subshell _ body => [body]
  | pipe left right => [left, right]
  | background job => [job]

inductive Outcome (shell : Shell) : Work → List Event → Except ShellError Int → Shell → Prop
  | simple {c : SimpleCommand} {trace : List Event} {result : Except ShellError Int}
    {shell' : Shell} : Ran c shell trace result shell' →
    Outcome shell (.simple c) trace result shell'
  | subshell {parts : StageParts} {body : Command} {trace : List Event}
    {result : Except ShellError Int} : Waited trace result →
    Outcome shell (.subshell parts body) trace result shell
  | pipe {left right : Command} {trace : List Event} {result : Except ShellError Int} :
    Piped trace result → Outcome shell (.pipe left right) trace result shell
  | background {job : Command} {trace : List Event} {given : Except ShellError Unit} :
    Started trace given → Outcome shell (.background job) trace (given.map fun _ => 0)
      { shell with jobs := startedJobs job shell.jobs trace }

theorem gives_action {w : Work} {shell shell' : Shell} {trace : List Event}
    {result : Except ShellError Int} (h : Gives w.action.run shell trace result shell') :
    Outcome shell w trace result shell' := by
  cases w with
  | simple c => exact .simple (gives_evaluateSimple h)
  | subshell parts body =>
    obtain ⟨waited, rfl⟩ := gives_spawn_await h
    exact .subshell waited
  | pipe left right =>
    obtain ⟨piped, rfl⟩ := gives_evaluatePipe h
    exact .pipe piped
  | background job =>
    obtain ⟨e, rfl, failed⟩ | ⟨_, _, _, _, rfl, begun, rest⟩ := gives_run_bind.mp h
    · obtain ⟨started, rfl⟩ := gives_startJob failed
      exact .background started
    · obtain ⟨rfl, rfl, rfl⟩ := gives_run_pure.mp rest
      obtain ⟨started, rfl⟩ := gives_startJob begun
      rw [List.append_nil]
      exact .background started

end Work

/-- The parts of a command that stand under no pipe, no subshell and no background job. -/
def Command.surface : Command → List Work
  | simple c => [.simple c]
  | subshell parts body => [.subshell parts body]
  | pipe left right => [.pipe left right]
  | andOr _ left right => left.surface ++ right.surface
  | ended .sequence left => left.surface
  | ended .background left => [.background left]
  | list .sequence left right => left.surface ++ right.surface
  | list .background left right => .background left :: right.surface

theorem Command.surface_induction {P : Command → Prop}
    (step : ∀ c : Command, (∀ w ∈ c.surface, ∀ part ∈ w.parts, P part) → P c) (c : Command) :
    P c := by
  -- The induction carries the premise of the step, for a sequence has no children of its own.
  apply step c
  induction c with
  | simple c => simp [surface, Work.parts]
  | subshell parts body ih => simpa [surface, Work.parts] using step body ih
  | pipe left right left_ih right_ih =>
    simpa [surface, Work.parts] using ⟨step left left_ih, step right right_ih⟩
  | andOr op left right left_ih right_ih =>
    exact List.forall_mem_append.mpr ⟨left_ih, right_ih⟩
  | ended separator left ih =>
    cases separator with
    | sequence => exact ih
    | background => simpa [surface, Work.parts] using step left ih
  | list separator left right left_ih right_ih =>
    cases separator with
    | sequence => exact List.forall_mem_append.mpr ⟨left_ih, right_ih⟩
    | background =>
      exact List.forall_mem_cons.mpr ⟨by simpa [Work.parts] using step left left_ih, right_ih⟩

inductive Plan where
  | done (status : Int)
  | work (work : Work) (next : Int → Plan)

namespace Plan

def bind : Plan → (Int → Plan) → Plan
  | done status, f => f status
  | work w next, f => work w fun status => (next status).bind f

def run : Plan → Action Int
  | done status => pure status
  | work w next => w.action >>= fun status => (next status).run

theorem run_bind (p : Plan) (f : Int → Plan) :
    (p.bind f).run = p.run >>= fun status => (f status).run := by
  induction p with
  | done status => simp [bind, run]
  | work w next ih => simp [bind, run, ih]

end Plan

/-- The pieces of work of a command, where a command to the right of a connective may be carried a
status. -/
def Command.planFrom : Command → Option Int → Plan
  | andOr op left right, carried =>
    Plan.bind
      (match carried with
        | some status => .done status
        | none => left.planFrom none)
      fun status => right.planFrom (if op.proceeds status then none else some status)
  | _, some status => .done status
  | simple c, none => .work (.simple c) .done
  | subshell parts body, none => .work (.subshell parts body) .done
  | pipe left right, none => .work (.pipe left right) .done
  | ended .sequence left, none => left.planFrom none
  | ended .background left, none => .work (.background left) .done
  | list .sequence left right, none => (left.planFrom none).bind fun _ => right.planFrom none
  | list .background left right, none => .work (.background left) fun _ => right.planFrom none

def Command.plan (c : Command) : Plan := c.planFrom none

theorem Command.planFrom_carried {c : Command} {status : Int}
    (other : ∀ op left right, c = .andOr op left right → False) :
    c.planFrom (some status) = .done status := by
  rw [planFrom]
  exact other

theorem Command.run_planFrom (c : Command) (carried : Option Int) :
    (c.planFrom carried).run = c.evaluateFrom carried := by
  have alone (w : Work) : (Plan.work w .done).run = w.action := bind_pure w.action
  induction c, carried using planFrom.induct with
  | case1 op left right carried left_ih right_ih =>
    cases carried with
    | some status => exact right_ih status
    | none => simp only [planFrom, evaluateFrom, Plan.run_bind, left_ih, right_ih]
  | case2 c status other =>
    rw [planFrom_carried other, evaluateFrom]
    · rfl
    · exact other
  | case3 | case4 | case5 | case7 => exact alone _
  | case6 left ih => exact ih
  | case8 left right left_ih right_ih =>
    simp only [planFrom, evaluateFrom, Plan.run_bind, left_ih, right_ih]
  | case9 left right ih => simp [planFrom, evaluateFrom, Plan.run, Work.action, ih, evaluate]

def exitStatus : Except ShellError Int → Int
  | .ok status => status
  | .error _ => 1

/-- A piece of work and what came of it. -/
structure Turn where
  work : Work
  events : List Event
  result : Except ShellError Int

namespace Plan

inductive Takes : Plan → List Turn → Except ShellError Int → Prop
  | done (status : Int) : Takes (done status) [] (.ok status)
  | failed (w : Work) (next : Int → Plan) (events : List Event) (e : ShellError) :
    Takes (work w next) [⟨w, events, .error e⟩] (.error e)
  | work {w : Work} {next : Int → Plan} {status : Int} {turns : List Turn}
    {result : Except ShellError Int} (events : List Event) :
    Takes (next status) turns result →
    Takes (work w next) (⟨w, events, .ok status⟩ :: turns) result

inductive Comes : Plan → List Turn → Work → Prop
  | here (w : Work) (next : Int → Plan) : Comes (work w next) [] w
  | later {w w' : Work} {next : Int → Plan} {status : Int} {turns : List Turn}
    (events : List Event) :
    Comes (next status) turns w' → Comes (work w next) (⟨w, events, .ok status⟩ :: turns) w'

end Plan

inductive Worked : Shell → List Turn → Shell → Prop
  | nil (shell : Shell) : Worked shell [] shell
  | cons {shell middle shell' : Shell} {turn : Turn} {turns : List Turn} :
    Gives turn.work.action.run shell turn.events turn.result middle →
    Worked middle turns shell' → Worked shell (turn :: turns) shell'

namespace Plan
variable {p : Plan} {f : Int → Plan} {shell shell' : Shell} {turns : List Turn}
  {trace : List Event} {c : Call} {w : Work} {result : Except ShellError Int}

theorem gives_run (h : Gives p.run.run shell trace result shell') :
    ∃ turns, p.Takes turns result ∧ Worked shell turns shell' ∧
      trace = turns.flatMap Turn.events := by
  induction p generalizing shell trace with
  | done status =>
    obtain ⟨rfl, rfl, rfl⟩ := gives_run_pure.mp h
    exact ⟨[], .done status, .nil shell, rfl⟩
  | work w next ih =>
    obtain ⟨e, rfl, failed⟩ | ⟨front, status, _, _, rfl, worked, rest⟩ := gives_run_bind.mp h
    · exact ⟨_, .failed w next trace e, .cons failed (.nil _), by simp⟩
    · obtain ⟨turns, takes, later, rfl⟩ := ih status rest
      exact ⟨_, .work front takes, .cons worked later, rfl⟩

theorem calls_run (h : Calls p.run.run shell trace c) :
    ∃ turns w middle own, p.Comes turns w ∧ Worked shell turns middle ∧
      trace = turns.flatMap Turn.events ++ own ∧ Calls w.action.run middle own c := by
  induction p generalizing shell trace with
  | done status => exact (calls_pure h).elim
  | work w next ih =>
    obtain asked | ⟨front, status, _, _, rfl, worked, rest⟩ := calls_run_bind.mp h
    · exact ⟨[], w, shell, trace, .here w next, .nil shell, rfl, asked⟩
    · obtain ⟨turns, w', middle, own, comes, later, rfl, asked⟩ := ih status rest
      exact ⟨_, w', middle, own, .later front comes, .cons worked later, by simp, asked⟩

/-! ## Plans and the surface -/

/-- The plan does no work beside these pieces, and keeps their order. -/
inductive Within : List Work → Plan → Prop
  | done (works : List Work) (status : Int) : Within works (done status)
  | work {works : List Work} {w : Work} {next : Int → Plan} :
    (∀ status, Within works (next status)) → Within (w :: works) (work w next)
  | skip {works : List Work} (w : Work) {p : Plan} : Within works p → Within (w :: works) p

theorem within_alone (w : Work) : Within [w] (.work w .done) := .work fun status => .done [] status

namespace Within
variable {works works' : List Work}

theorem append (works : List Work) (h : Within works' p) : Within (works ++ works') p := by
  induction works with
  | nil => exact h
  | cons w _ ih => exact .skip w ih

theorem bind (h : Within works p) (k : ∀ status, Within works' (f status)) :
    Within (works ++ works') (p.bind f) := by
  induction h with
  | done works status => exact (k status).append works
  | work _ ih => exact .work ih
  | skip w _ ih => exact .skip w ih

theorem takes (within : Within works p) (h : p.Takes turns result) :
    (turns.map Turn.work).Sublist works := by
  induction within generalizing turns with
  | done works status =>
    cases h
    exact List.nil_sublist works
  | work _ ih =>
    cases h with
    | failed => exact (List.nil_sublist _).cons_cons _
    | work events takes => exact (ih _ takes).cons_cons _
  | skip w _ ih => exact (ih h).cons w

theorem comes (within : Within works p) (h : p.Comes turns w) : w ∈ works := by
  induction within generalizing turns with
  | done works status => cases h
  | work _ ih =>
    cases h with
    | here => exact List.mem_cons_self
    | later events comes => exact List.mem_cons_of_mem _ (ih _ comes)
  | skip w' _ ih => exact List.mem_cons_of_mem w' (ih h)

end Within

end Plan

theorem Command.within_surface (c : Command) (carried : Option Int) :
    Plan.Within c.surface (c.planFrom carried) := by
  induction c, carried using planFrom.induct with
  | case1 op left right carried left_ih right_ih =>
    cases carried with
    | some status => exact (right_ih status).append _
    | none => exact left_ih.bind right_ih
  | case2 c status other =>
    rw [planFrom_carried other]
    exact .done _ status
  | case3 | case4 | case5 | case7 => exact Plan.within_alone _
  | case6 left ih => exact ih
  | case8 left right left_ih right_ih => exact left_ih.bind fun _ => right_ih
  | case9 left right ih => exact .work fun _ => ih

/-- What a process itself calls while it evaluates a command; its children do the rest. -/
theorem Command.own_evaluate {command : Command} {shell : Shell} {trace : List Event} {c : Call}
    (h : Calls command.evaluate.run shell trace c) (own : ⟨.fork, .ok .child⟩ ∉ trace) :
    c.IsOwn ∨ c.IsCollecting := by
  rw [evaluate, ← run_planFrom] at h
  obtain ⟨turns, w, middle, trace, -, -, rfl, asked⟩ := Plan.calls_run h
  rw [List.mem_append, not_or] at own
  have other {rest : List Event} (born : trace = ⟨.fork, .ok .child⟩ :: rest) : False :=
    own.2 (born ▸ List.mem_cons_self)
  cases w with
  | simple command =>
    obtain ⟨-, changing⟩ | ⟨-, collecting⟩ | ⟨-, -, starting | ⟨_, rfl, _⟩⟩ :=
      calls_evaluateSimple asked
    · exact .inl ((keeps_changeDirectory _).called changing).isOwn
    · exact .inr ((only_waitForJobs _ _).asked collecting)
    · exact .inl starting.isOwn
    · exact (other rfl).elim
  | subshell parts body =>
    obtain starting | ⟨_, rfl, _⟩ := calls_spawn_await asked
    · exact .inl starting.isOwn
    · exact (other rfl).elim
  | pipe left right =>
    obtain starting | ⟨-, rfl⟩ | ⟨_, _, _, rfl, _⟩ | ⟨_, _, _, _, rfl, _⟩ :=
      calls_evaluatePipe asked
    · exact .inl starting.isOwn
    · exact .inl trivial
    · simp at own
    · simp at own
  | background job =>
    obtain asked | ⟨_, _, _, _, rfl, -, rest⟩ := calls_run_bind.mp asked
    · obtain starting | ⟨_, rfl, _⟩ := calls_startJob asked
      · exact .inl starting.isOwn
      · exact (other rfl).elim
    · exact (calls_pure rest).elim

end CommandShell
