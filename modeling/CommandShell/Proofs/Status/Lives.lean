import CommandShell.Proofs.Evaluation.Crashes
import CommandShell.Proofs.Status.Deeds

/-!
# The children of a process in its runs

What each operation does in a run: a fork starts a child that is none of those still there, the
child works on its own from then on, and waiting for it gives what its record says. A child that has
ended by itself has come to the end of its work or has crashed on the way, for its own children do
not end it.
-/

set_option autoImplicit false

namespace CommandShell
open Shell Reaping

variable {α β σ ε : Type} {inherited : Descriptors} {past deeds : List Deed}

/-- In some run of a process that has inherited these descriptors, a child that works like this
lives and ends like this. -/
def Lives (inherited : Descriptors) (body : Shell.Task Int) (shell : Shell) (life : List Deed)
    (ending : Option Ending) : Prop :=
  ∃ (β : Type) (k : Except ShellError Int × Shell → Program β) (last : Program β),
    Runs inherited [] ((Shell.life body).run shell >>= k) life last ∧ EndsAs last ending

theorem Does.spawn {body : Shell.Task Int} {shell shell' : Shell} {result : Except ShellError Int}
    (h : Does inherited past (spawn body).run shell deeds result shell') :
    ∃ child life ending, deeds = [.forked child life ending] ∧ result = .ok child ∧
      shell' = shell ∧ fates past child = none ∧
      Lives (descriptors inherited past) body shell life ending := by
  obtain ⟨reply, single, rfl, rfl⟩ := gives_spawn h.gives
  obtain ⟨deed, rfl, same⟩ := List.map_eq_singleton_iff.mp single
  obtain ⟨γ, k, back, q, runs, -⟩ := h
  rw [spawn_bind] at runs
  cases runs with
  | did answers => exact answers.elim
  | forked fresh lived ends _ =>
    cases reply with
    | error e => cases same
    | ok child =>
      cases same
      exact ⟨_, _, _, rfl, rfl, rfl, fresh, γ, k, _, lived, ends⟩

theorem answers_wait {child : Int} {ending : Option Ending} {w : Wait}
    (answers : Answers inherited past (.wait child) w) (fate : fates past child = some ending) :
    ∃ e, ending = some e ∧ w.outcome = .ok e := by
  cases told : w.outcome with
  | ok e =>
    have known := fate_of_waited answers told
    rw [fate] at known
    cases known
    exact ⟨e, rfl, rfl⟩
  | error e =>
    have none := (fate_of_missed answers told).2
    rw [fate] at none
    cases none

theorem Does.await {child : Int} {ending : Option Ending} {shell shell' : Shell}
    {result : Except ShellError Int}
    (h : Does inherited past (await child).run shell deeds result shell')
    (fate : fates past child = some ending) :
    ∃ (e : Ending) (w : Telling e), ending = some e ∧ deeds = [.did ⟨.wait child, w.1⟩] ∧
      result = .ok e.status ∧ shell' = shell := by
  obtain ⟨w, single, rfl, rfl⟩ := gives_await h.gives
  obtain ⟨rfl, answers⟩ := h.answered_alone single nofun
  obtain ⟨e, rfl, ended⟩ := answers_wait answers fate
  exact ⟨e, ⟨w, ended⟩, rfl, rfl, by rw [ended]; rfl, rfl⟩

theorem fates_forked (past : List Deed) (child : Int) (life : List Deed) (ending : Option Ending) :
    fates (past ++ [Deed.forked child life ending]) child = some ending := by
  simp [fates_append, Deed.collect]

theorem Does.spawn_await {body : Shell.Task Int} {shell shell' : Shell}
    {result : Except ShellError Int}
    (h : Does inherited past (Shell.spawn body >>= Shell.await).run shell deeds result shell') :
    ∃ (child : Int) (life : List Deed) (ending : Ending) (w : Telling ending),
      deeds = [.forked child life (some ending), .did ⟨.wait child, w.1⟩] ∧
      result = .ok ending.status ∧ shell' = shell ∧ fates past child = none ∧
      Lives (descriptors inherited past) body shell life (some ending) := by
  obtain ⟨e, rfl, failed⟩ | ⟨front, child, middle, back, rfl, started, waited⟩ := h.run_bind
  · obtain ⟨_, _, _, _, same, _⟩ := failed.spawn
    cases same
  obtain ⟨child, life, ending, rfl, same, rfl, fresh, lives⟩ := started.spawn
  cases same
  obtain ⟨e, w, rfl, rfl, rfl, rfl⟩ := waited.await (fates_forked past child life ending)
  exact ⟨child, life, e, w, rfl, rfl, rfl, fresh, lives⟩

/-! ## Pipes -/

theorem Does.outcome {action : Action α} {shell shell' : Shell} {f : Except ShellError α → Action β}
    {result : Except ShellError β}
    (h : Does inherited past (Shell.outcome action >>= f).run shell deeds result shell') :
    ∃ front given middle back, deeds = front ++ back ∧
      Does inherited past action.run shell front given middle ∧
      Does inherited (past ++ front) (f given).run middle back result shell' := h.run_lift_bind

theorem Does.perform {c : Call} {reply : c.Reply} {shell shell' : Shell}
    (h : Does inherited past (Shell.perform c) shell deeds reply shell') (plain : c ≠ .fork) :
    deeds = [.did ⟨c, reply⟩] ∧ Answers inherited past c reply ∧ shell' = shell := by
  obtain ⟨single, rfl⟩ := gives_perform.mp h.gives
  obtain ⟨rfl, answers⟩ := h.answered_alone single plain
  exact ⟨rfl, answers, rfl⟩

theorem Does.awaitSides {leftChild rightChild : Int} {leftEnding rightEnding : Option Ending}
    {shell shell' : Shell} {result : Except ShellError Int}
    (h : Does inherited past (Shell.awaitSides leftChild (.ok rightChild)).run shell deeds result
      shell')
    (leftFate : fates past leftChild = some leftEnding)
    (rightFate : fates past rightChild = some rightEnding) (apart : rightChild ≠ leftChild) :
    ∃ (left right : Ending) (w : Telling left) (w' : Telling right),
      leftEnding = some left ∧ rightEnding = some right ∧
      deeds = [.did ⟨.wait leftChild, w.1⟩, .did ⟨.wait rightChild, w'.1⟩] ∧
      result = .ok right.status ∧ shell' = shell := by
  obtain ⟨front, given, middle, back, rfl, first, rest⟩ := h.outcome
  obtain ⟨left, w, rfl, rfl, rfl, rfl⟩ := first.await leftFate
  have fate : fates (past ++ [Deed.did ⟨.wait leftChild, w.1⟩]) rightChild = some rightEnding := by
    simpa [fates_append, apart] using rightFate
  obtain ⟨right, w', rfl, rfl, rfl, rfl⟩ := Does.await rest fate
  exact ⟨left, right, w, w', rfl, rfl, rfl, rfl, rfl⟩

def piping (reader writer : Nat) (leftChild rightChild : Int) (leftLife rightLife : List Deed)
    {leftEnding rightEnding : Ending} (closed closed' : Except Errno Unit)
    (w : Telling leftEnding) (w' : Telling rightEnding) : List Deed :=
  [Deed.did ⟨.pipe, .ok (reader, writer)⟩, .forked leftChild leftLife (some leftEnding),
    .forked rightChild rightLife (some rightEnding), .did ⟨.close reader, closed⟩,
    .did ⟨.close writer, closed'⟩, .did ⟨.wait leftChild, w.1⟩, .did ⟨.wait rightChild, w'.1⟩]

/-- A pipe starts each side once, waits for both, and has the status of the right one. -/
inductive Connected (inherited : Descriptors) (past : List Deed) (left right : Action Int)
    (shell : Shell) : List Deed → Except ShellError Int → Prop
  | intro (reader writer : Nat) (leftChild rightChild : Int) (leftLife rightLife : List Deed)
    (leftEnding rightEnding : Ending) (closed closed' : Except Errno Unit)
    (w : Telling leftEnding) (w' : Telling rightEnding) :
    (descriptors inherited past).Fresh ⟨.pipe, .ok (reader, writer)⟩ →
    fates past leftChild = none → fates past rightChild = none → rightChild ≠ leftChild →
    Lives ((descriptors inherited past).withPipe past.length reader writer)
      (runSide writer standardOutput reader left) shell leftLife (some leftEnding) →
    Lives ((descriptors inherited past).withPipe past.length reader writer)
      (runSide reader standardInput writer right) shell rightLife (some rightEnding) →
    Connected inherited past left right shell
      (piping reader writer leftChild rightChild leftLife rightLife closed closed' w w')
      (.ok rightEnding.status)

theorem Does.evaluatePipe {left right : Action Int} {shell shell' : Shell}
    {result : Except ShellError Int}
    (h : Does inherited past (Shell.evaluatePipe left right).run shell deeds result shell') :
    Connected inherited past left right shell deeds result ∧ shell' = shell := by
  obtain ⟨e, rfl, failed⟩ | ⟨_, ⟨reader, writer⟩, _, _, rfl, opened, later⟩ := h.run_bind
  · obtain ⟨reply, returns, same, rfl⟩ := gives_attempt failed.gives
    obtain ⟨rfl, answers⟩ := failed.answered_alone (Program.returns_perform.mp returns) nofun
    cases reply with
    | error _ => exact answers.elim
    | ok _ => cases same
  obtain ⟨returns, rfl⟩ := gives_attempt_ok opened.gives
  obtain ⟨rfl, fresh⟩ := opened.answered_alone (Program.returns_perform.mp returns) nofun
  obtain ⟨_, _, _, _, rfl, startedLeft, next⟩ := later.outcome
  obtain ⟨leftChild, leftLife, leftEnding, rfl, rfl, rfl, unused, leftLives⟩ := startedLeft.spawn
  obtain ⟨_, _, _, _, rfl, startedRight, after⟩ := next.outcome
  obtain ⟨rightChild, rightLife, rightEnding, rfl, rfl, rfl, unused', rightLives⟩ :=
    startedRight.spawn
  obtain ⟨_, closed, _, _, rfl, asked, closing⟩ := after.run_lift_bind
  obtain ⟨rfl, -, rfl⟩ := asked.perform nofun
  obtain ⟨_, closed', _, _, rfl, asked', waiting⟩ := closing.run_lift_bind
  obtain ⟨rfl, -, rfl⟩ := asked'.perform nofun
  -- The left child is still there, so the right one has another number.
  have apart : rightChild ≠ leftChild := by
    rintro rfl
    rw [fates_forked] at unused'
    cases unused'
  have leftFate := fates_forked (past ++ [Deed.did ⟨.pipe, .ok (reader, writer)⟩]) leftChild leftLife
    leftEnding
  have rightFate := fates_forked (past ++ [Deed.did ⟨.pipe, .ok (reader, writer)⟩] ++
    [.forked leftChild leftLife leftEnding]) rightChild rightLife rightEnding
  obtain ⟨leftEnding, rightEnding, w, w', rfl, rfl, rfl, rfl, rfl⟩ :=
    waiting.awaitSides
      (by simpa only [fates_append, Deed.collect, Function.update_of_ne apart.symm] using leftFate)
      (by simpa only [fates_append, Deed.collect] using rightFate) apart
  simp only [descriptors_append, Deed.event, Descriptors.effect]
    at leftLives rightLives
  exact ⟨.intro reader writer leftChild rightChild leftLife rightLife leftEnding rightEnding closed
    closed' w w' fresh (by simpa only [fates_append, Deed.collect] using unused)
    (by simpa only [fates_append, Deed.collect, Function.update_of_ne apart] using unused') apart
    leftLives rightLives, rfl⟩

/-! ## Background jobs -/

theorem Does.startJob {job : Command} {body : Action Int} {shell shell' : Shell}
    {given : Except ShellError Unit}
    (h : Does inherited past (Shell.startJob job body).run shell deeds given shell') :
    ∃ child life ending reply,
      deeds = [.forked child life ending, .did ⟨startedNotice child, reply⟩] ∧ given = .ok () ∧
      shell' = { shell with jobs := (shell.jobs.add child job.text).1 } ∧
      fates past child = none ∧
      Lives (descriptors inherited past) (Shell.orReport body) shell life ending := by
  obtain ⟨started, rfl⟩ := gives_startJob h.gives
  obtain ⟨e, rfl, failed⟩ | ⟨_, child, _, back, rfl, begun, rest⟩ := h.run_bind
  · obtain ⟨_, _, _, _, same, _⟩ := failed.spawn
    cases same
  obtain ⟨child, life, ending, rfl, same, rfl, fresh, lives⟩ := begun.spawn
  cases same
  generalize events : ([Deed.forked child life ending] ++ back).map Deed.event = trace at started
  cases started with
  | unstarted => cases events
  | started child' reply =>
    obtain ⟨same, reported⟩ := List.cons_eq_cons.mp events
    cases same
    obtain ⟨rfl, -⟩ := rest.answered_alone reported nofun
    exact ⟨child, life, ending, reply, rfl, rfl, rfl, fresh, lives⟩

/-! ## How children end -/

/-- The task leaves it to the children that it forks to end. -/
def Stays (task : Shell.Task α) : Prop :=
  ∀ shell trace c, Calls task shell trace c → ⟨.fork, .ok .child⟩ ∉ trace → ¬ c.IsLast

theorem EndsAs.last {p : Program α} {code : Int} (h : EndsAs p (some (.exited code))) :
    (∃ next, p = .call .crash next ∧ code = crashStatus) ∨
    ∃ c next, p = .call c next ∧ c.IsLast ∧ ∀ status, c = .exit status → code = status % 256 := by
  cases h with
  | crashed next => exact .inl ⟨next, rfl, rfl⟩
  | left status next =>
    refine .inr ⟨.exit status, next, rfl, trivial, fun status' same => ?_⟩
    cases same
    rfl
  | became file argv environment next code _ _ =>
    exact .inr ⟨.exec file argv environment, next, rfl, trivial, fun _ same => nomatch same⟩

def disposing : List Deed := [.did ⟨.setDisposition Signal.ofKeys .usual, ()⟩]

theorem still_disposing : Still disposing := List.forall_mem_singleton.mpr trivial

namespace Lives
variable {body : Shell.Task Int} {shell : Shell} {life : List Deed}

theorem exited {code : Int} (h : Lives inherited body shell life (some (.exited code)))
    (stays : Stays body) :
    (∃ own, life = disposing ++ own ∧
      AboutTo inherited disposing body { shell with jobs := {} } own .crash ∧
      code = crashStatus) ∨
    ∃ own status last, life = disposing ++ own ∧
      Does inherited disposing body { shell with jobs := {} } own status last ∧
      code = status % 256 := by
  obtain ⟨γ, k, final, runs, ends⟩ := h
  rw [life_bind] at runs
  obtain ⟨next, rfl, rfl⟩ | ⟨c, next, rfl, isLast, leaves⟩ := ends.last
  · cases runs with
    | @did _ _ own _ _ _ _ _ runs =>
      obtain asked | ⟨_, _, _, -, -, leaving⟩ := Program.asks_bind.mp ⟨next, runs.path⟩
      · exact .inl ⟨own, rfl, ⟨_, _, _, runs, asked⟩, rfl⟩
      · obtain ⟨-, same⟩ | ⟨never, -⟩ := Program.asks_call.mp leaving
        · cases same
        · exact never.elim
  · cases runs with
    | stay => exact isLast.elim
    | @did _ _ own _ _ _ _ _ runs =>
      -- The last call is the body's or the exit after it, and the body makes none.
      obtain asked | ⟨_, ⟨status, last⟩, _, same, returns, leaving⟩ :=
        Program.asks_bind.mp ⟨next, runs.path⟩
      · exact (stays _ _ c asked runs.not_mem_child isLast).elim
      obtain ⟨rfl, rfl⟩ | ⟨never, -⟩ := Program.asks_call.mp leaving
      · rw [List.append_nil] at same
        rw [← List.append_nil own] at runs
        exact .inr ⟨own, status, last, rfl, ⟨γ, _, [], _, runs, by rw [same]; exact returns⟩,
          leaves status rfl⟩
      · exact never.elim

end Lives

end CommandShell
