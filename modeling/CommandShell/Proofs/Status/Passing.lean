import CommandShell.Proofs.Status.Lives

/-!
# Statuses pass through processes unchanged

Every status that comes of a command fits into eight bits, whatever it is made of. So the status
with which a child leaves is not cut short, and what its parent reads is what came of the command in
the child.
-/

set_option autoImplicit false

namespace CommandShell
open Shell

variable {α β : Type} {inherited : Descriptors} {past deeds life : List Deed} {shell shell' : Shell}

/-! ## What children do themselves -/

theorem Call.IsWiring.not_isLast {c : Call} (h : c.IsWiring) : ¬ c.IsLast := by
  cases c <;> first | exact id | exact h.elim

theorem Call.IsWiring.isStill {c : Call} (h : c.IsWiring) : c.IsStill := by
  cases c <;> trivial

theorem stays_evaluate (c : Command) : Stays c.evaluate.run := by
  intro shell trace call asked own
  obtain own | collecting := c.own_evaluate asked own
  · exact own.not_isLast
  · exact collecting.not_isLast

theorem stays_orReport {action : Action Int} (stays : Stays action.run) :
    Stays (orReport action) := by
  intro shell trace c asked own
  obtain asked | inert := calls_orReport asked
  · exact stays shell trace c asked own
  · exact inert.isOwn.not_isLast

theorem stays_onceWired {wiring : Action Unit} {rest : Shell.Task Int}
    (keeps : Keeps Call.IsWiring wiring.run) (stays : Stays rest) :
    Stays (onceWired wiring rest) := by
  intro shell trace c asked own
  obtain wires | ⟨front, back, rfl, -, asked⟩ := wiring_or_later keeps asked
  · exact wires.not_isLast
  · exact stays shell back c asked fun member => own (List.mem_append_right front member)

theorem stays_runSide {used target unused : Nat} {side : Action Int} (stays : Stays side.run) :
    Stays (runSide used target unused side) :=
  stays_onceWired (keeps_connect used target unused) (stays_orReport stays)

theorem stays_runBody {parts : StageParts} {body : Action Int} (stays : Stays body.run) :
    Stays (runBody parts body) := by
  apply stays_onceWired (keeps_redirect parts)
  intro shell trace c asked own
  obtain asked | ⟨_, _, _, _, rfl, required, granted⟩ := calls_bind.mp asked
  · exact ((keeps_requireSettable _).called asked).isOwn.not_isLast
  obtain ⟨-, rfl, rfl⟩ := gives_requireSettable required
  obtain asked | ⟨_, _, _, _, rfl, assigned, later⟩ := calls_bind.mp granted
  · exact (calls_pure asked).elim
  obtain ⟨rfl, rfl⟩ := gives_modify.mp assigned
  exact stays_orReport stays _ _ c later own

/-! ## The range of statuses -/

def IsByte (status : Int) : Prop := 0 ≤ status ∧ status ≤ 255

theorem EndsAs.isByte {p : Program α} {ending : Ending} (h : EndsAs p (some ending)) :
    IsByte ending.status := by
  cases h with
  | killed p signal core =>
    have := signal.le_last
    simp only [IsByte, Ending.status]
    omega
  | left status next =>
    simp only [IsByte, Ending.status]
    omega
  | crashed => exact ⟨by decide, by decide⟩
  | became file argv environment next code least most => exact ⟨least, most⟩

theorem Lives.isByte {body : Shell.Task Int} {ending : Ending}
    (h : Lives inherited body shell life (some ending)) : IsByte ending.status := by
  obtain ⟨_, _, _, -, ends⟩ := h
  exact ends.isByte

theorem Shell.Moved.isByte {vars : Variables} {arguments : List String} {trace : List Event}
    {status : Int} (h : Moved vars arguments trace status) : IsByte status := by
  cases h with
  | entered => exact ⟨by omega, by omega⟩
  | refused target e =>
    have := e.number_lt
    exact ⟨by omega, by omega⟩
  | nowhere => exact ⟨by omega, by omega⟩

theorem isByte_simple {c : SimpleCommand} {status : Int}
    (h : Does inherited past (evaluateSimple c).run shell deeds (.ok status) shell') :
    IsByte status := by
  generalize same : Except.ok status = result at h
  have ran := gives_evaluateSimple h.gives
  cases ran with
  | moved _ moved =>
    cases same
    exact moved.isByte
  | collected _ collected =>
    cases same
    cases collected with
    | all => exact ⟨by omega, by omega⟩
    | misused => exact ⟨by omega, by omega⟩
  | external cd wait _ =>
    rw [evaluateSimple, builtin?_eq_none cd wait] at h
    obtain ⟨_, _, ending, _, rfl, rfl, -, -, lives⟩ := h.spawn_await
    cases same
    exact lives.isByte

theorem isByte_action {w : Work} {status : Int}
    (h : Does inherited past w.action.run shell deeds (.ok status) shell') : IsByte status := by
  cases w with
  | simple c => exact isByte_simple h
  | subshell parts body =>
    obtain ⟨_, _, ending, _, rfl, same, rfl, -, lives⟩ := h.spawn_await
    cases same
    exact lives.isByte
  | pipe left right =>
    generalize same : Except.ok status = result at h
    obtain ⟨connected, rfl⟩ := h.evaluatePipe
    obtain ⟨_, _, _, _, _, _, _, ending, _, _, _, _, -, -, -, -, -, lives⟩ := connected
    cases same
    exact lives.isByte
  | background job =>
    obtain ⟨e, same, -⟩ | ⟨_, _, _, _, rfl, -, rest⟩ := h.run_bind
    · cases same
    · obtain ⟨-, same, -⟩ := gives_run_pure.mp rest.gives
      cases same
      exact ⟨by omega, by omega⟩

def Plan.Bounded : Plan → Prop
  | .done status => IsByte status
  | .work _ next => ∀ status, IsByte status → (next status).Bounded

theorem Plan.Bounded.bind {p : Plan} {f : Int → Plan} (bounded : p.Bounded)
    (rest : ∀ status, IsByte status → (f status).Bounded) : (p.bind f).Bounded := by
  induction p with
  | done status => exact rest status bounded
  | work w next ih => exact fun status byte => ih status (bounded status byte)

theorem bounded_planFrom (c : Command) (carried : Option Int)
    (byte : ∀ status, carried = some status → IsByte status) : (c.planFrom carried).Bounded := by
  have alone (w : Work) : (Plan.work w .done).Bounded := fun _ byte => byte
  induction c, carried using Command.planFrom.induct with
  | case1 op left right carried left_ih right_ih =>
    have next (status : Int) (byte : IsByte status) :
        (right.planFrom (if op.proceeds status then none else some status)).Bounded := by
      apply right_ih
      split
      · simp
      · simpa using byte
    cases carried with
    | some status => exact next status (byte status rfl)
    | none => exact (left_ih (by simp)).bind next
  | case2 c status other =>
    rw [Command.planFrom_carried other]
    exact byte status rfl
  | case3 | case4 | case5 | case7 => exact alone _
  | case6 left ih => exact ih (by simp)
  | case8 left right left_ih right_ih =>
    exact (left_ih (by simp)).bind fun _ _ => right_ih (by simp)
  | case9 left right ih => exact fun _ _ => ih (by simp)

theorem Plan.Bounded.isByte {p : Plan} (bounded : p.Bounded) {status : Int}
    (h : Does inherited past p.run.run shell deeds (.ok status) shell') : IsByte status := by
  induction p generalizing past shell deeds with
  | done status' =>
    obtain ⟨-, same, -⟩ := gives_run_pure.mp h.gives
    cases same
    exact bounded
  | work w next ih =>
    obtain ⟨e, same, -⟩ | ⟨front, status', _, _, rfl, worked, rest⟩ := h.run_bind
    · cases same
    · exact ih status' (bounded status' (isByte_action worked)) rest

theorem isByte_evaluate {c : Command} {status : Int}
    (h : Does inherited past c.evaluate.run shell deeds (.ok status) shell') : IsByte status := by
  rw [Command.evaluate, ← Command.run_planFrom] at h
  exact (bounded_planFrom c none (by simp)).isByte h

/-- What the system tells of a child that has ended fits into eight bits, as documented. -/
def Event.IsSound : Event → Prop
  | ⟨.wait _, w⟩ => ∀ ending, w.outcome = .ok ending → IsByte ending.status
  | _ => True

section Sound
variable {trace : List Event} {status : Int}

theorem isByte_awaited (child : Int) {w : Wait} (same : awaited w.outcome = .ok status)
    (sound : Event.IsSound ⟨.wait child, w⟩) : IsByte status := by
  cases told : w.outcome with
  | error e =>
    rw [told] at same
    cases same
  | ok ending =>
    rw [told] at same
    cases same
    exact sound ending told

theorem Work.Outcome.isByte {w : Work} (h : Outcome shell w trace (.ok status) shell')
    (sound : ∀ event ∈ trace, event.IsSound) : IsByte status := by
  have waited {trace : List Event} {result : Except ShellError Int} (h : Waited trace result)
      (same : result = .ok status) (sound : ∀ event ∈ trace, event.IsSound) : IsByte status := by
    cases h with
    | unstarted => cases same
    | started child => exact isByte_awaited child same (sound _ (by simp))
  generalize same : Except.ok status = result at h
  cases h with
  | simple ran =>
    cases ran with
    | moved _ moved =>
      cases same
      exact moved.isByte
    | collected _ collected =>
      cases same
      cases collected with
      | all => exact ⟨by omega, by omega⟩
      | misused => exact ⟨by omega, by omega⟩
    | external _ _ h => exact waited h same.symm sound
  | subshell h => exact waited h same.symm sound
  | pipe piped =>
    cases piped with
    | unopened | unstarted => cases same
    | started _ _ _ _ _ _ _ settled =>
      cases settled with
      | unstarted => cases same
      | ended child front reply => exact isByte_awaited child same.symm (sound _ (by simp))
  | background started =>
    cases started with
    | unstarted => cases same
    | started =>
      cases same
      exact (⟨by decide, by decide⟩ : IsByte 0)

theorem Plan.Bounded.takes {p : Plan} {turns : List Turn} (bounded : p.Bounded)
    (takes : p.Takes turns (.ok status)) (worked : Worked shell turns shell')
    (sound : ∀ event ∈ turns.flatMap Turn.events, event.IsSound) : IsByte status := by
  generalize same : Except.ok status = result at takes
  induction takes generalizing shell with
  | done status' =>
    cases same
    exact bounded
  | failed => cases same
  | work events _ ih =>
    cases worked with
    | cons first later =>
      rw [List.flatMap_cons, List.forall_mem_append] at sound
      exact ih (bounded _ ((Work.gives_action first).isByte sound.1)) later sound.2 same

theorem isByte_exitStatus_of_sound {c : Command} {result : Except ShellError Int}
    (h : Gives c.evaluate.run shell trace result shell')
    (sound : ∀ event ∈ trace, event.IsSound) : IsByte (exitStatus result) := by
  rw [Command.evaluate, ← Command.run_planFrom] at h
  obtain ⟨turns, takes, worked, rfl⟩ := Plan.gives_run h
  cases result with
  | ok status => exact (bounded_planFrom c none (by simp)).takes takes worked sound
  | error e => exact (⟨by decide, by decide⟩ : IsByte 1)

end Sound

/-! ## Children that evaluate commands -/

/-- In its life a child evaluates the command, and this comes of it; it starts no other children. -/
def Evaluates (inherited : Descriptors) (life : List Deed) (c : Command) (shell : Shell)
    (result : Except ShellError Int) : Prop :=
  ∃ front deeds back shell', life = front ++ deeds ++ back ∧ Still front ∧ Still back ∧
    Does inherited front c.evaluate.run shell deeds result shell'

theorem isByte_exitStatus {c : Command} {result : Except ShellError Int}
    (h : Does inherited past c.evaluate.run shell deeds result shell') :
    IsByte (exitStatus result) := by
  cases result with
  | ok status => exact isByte_evaluate h
  | error e => exact (⟨by decide, by decide⟩ : IsByte 1)

theorem IsByte.emod {status : Int} (h : IsByte status) : status % 256 = status := by
  obtain ⟨least, most⟩ := h
  omega

theorem WriteRefused.afterDeeds {back : List Deed} (h : WriteRefused (back.map Deed.event))
    (front : List Deed) : WriteRefused ((front ++ back).map Deed.event) := by
  rw [List.map_append]
  exact h.after _

theorem Does.orReport {action : Action Int} {status : Int}
    (h : Does inherited past (Shell.orReport action) shell deeds status shell') :
    ∃ front result middle back, deeds = front ++ back ∧ Still back ∧
      Does inherited past action.run shell front result middle ∧ status = exitStatus result := by
  obtain ⟨front, result, middle, back, rfl, done, rest⟩ := h.bind
  cases result with
  | ok status =>
    obtain ⟨rfl, rfl, -⟩ := rest.pure
    exact ⟨front, _, middle, [], rfl, nofun, done, rfl⟩
  | error e =>
    obtain ⟨inert, rfl, -⟩ := gives_reported rest.gives
    have still : Still back := still_of_events inert fun _ => Call.IsInert.isStill
    exact ⟨front, _, middle, back, rfl, still, done, rfl⟩

theorem Does.onceWired {wiring : Action Unit} {rest : Shell.Task Int} {status : Int}
    (keeps : Keeps Call.IsWiring wiring.run)
    (h : Does inherited past (Shell.onceWired wiring rest) shell deeds status shell') :
    ∃ front given back, deeds = front ++ back ∧ Still front ∧
      Does inherited past wiring.run shell front given shell ∧
      match given with
      | .error _ => status = 1 ∧ Still back
      | .ok () => Does inherited (past ++ front) rest shell back status shell' := by
  obtain ⟨front, given, middle, back, rfl, done, later⟩ := h.bind
  obtain ⟨wires, rfl⟩ := keeps.given done.gives
  refine ⟨front, given, back, rfl, still_of_events wires fun _ => Call.IsWiring.isStill, done, ?_⟩
  cases given with
  | error e =>
    obtain ⟨inert, rfl, -⟩ := gives_reported later.gives
    exact ⟨rfl, still_of_events inert fun _ => Call.IsInert.isStill⟩
  | ok _ => exact later

theorem Does.closing {d : Nat} {result : Except ShellError Unit}
    (h : Does inherited past (attempt "close" (Program.perform (.close d))).run shell deeds result
      shell') (ends : IsPipeEnd (descriptors inherited past d)) :
    result = .ok () ∧ deeds = [.did ⟨.close d, .ok ()⟩] ∧ shell' = shell := by
  obtain ⟨reply, returns, rfl, rfl⟩ := gives_attempt h.gives
  obtain ⟨rfl, answers⟩ := h.answered_alone (Program.returns_perform.mp returns) nofun
  cases reply with
  | ok _ => exact ⟨rfl, rfl, rfl⟩
  | error e => exact absurd ends answers

theorem Does.duplicating {source target : Nat} {result : Except ShellError Unit}
    (h : Does inherited past (attempt "dup2" (Program.perform (.duplicate source target))).run shell
      deeds result shell') :
    result = .ok () ∧ deeds = [.did ⟨.duplicate source target, .ok ()⟩] ∧ shell' = shell := by
  obtain ⟨reply, returns, rfl, rfl⟩ := gives_attempt h.gives
  obtain ⟨rfl, answers⟩ := h.answered_alone (Program.returns_perform.mp returns) nofun
  cases reply with
  | ok _ => exact ⟨rfl, rfl, rfl⟩
  | error e => exact answers.elim

theorem AboutTo.onceWired {wiring : Action Unit} {rest : Shell.Task Int}
    (keeps : Keeps Call.IsWiring wiring.run) (guards : Guards (fun _ => False) wiring.run)
    (h : AboutTo inherited past (Shell.onceWired wiring rest) shell deeds .crash) :
    ∃ front given back, deeds = front ++ back ∧ Still front ∧
      Does inherited past wiring.run shell front given shell ∧
      match given with
      | .error _ => Still back ∧ WriteRefused (back.map Deed.event)
      | .ok () => AboutTo inherited (past ++ front) rest shell back .crash := by
  obtain asked | ⟨front, given, middle, back, rfl, done, later⟩ := h.bind
  · exact (guards.crashed asked.calls asked.not_mem_child).elim
  obtain ⟨wires, rfl⟩ := keeps.given done.gives
  refine ⟨front, given, back, rfl, still_of_events wires fun _ => Call.IsWiring.isStill, done, ?_⟩
  cases given with
  | error e =>
    have told : AboutTo inherited (past ++ front)
      (do Shell.report e.message; return 1 : Shell.Task Int) middle back .crash := later
    have inert := ((keeps_report _).bind fun _ => keeps_pure _).before told.calls
    exact ⟨still_of_events inert fun _ => Call.IsInert.isStill,
      (guards_reported _ _).crashed told.calls told.not_mem_child⟩
  | ok _ => exact later

section Assigning
variable {locals : List Assignment} {f : Shell → Shell} {rest : Shell.Task Int}

theorem Does.assigned {status : Int}
    (h : Does inherited past (do requireSettable locals; modify f; rest) shell deeds status shell') :
    Does inherited past rest (f shell) deeds status shell' := by
  obtain ⟨_, _, _, _, rfl, required, granted⟩ := h.bind
  obtain ⟨-, none, rfl⟩ := gives_requireSettable required.gives
  obtain rfl := List.map_eq_nil_iff.mp none
  obtain ⟨_, _, _, _, rfl, assigned, later⟩ := granted.bind
  obtain ⟨none, rfl⟩ := gives_modify.mp assigned.gives
  obtain rfl := List.map_eq_nil_iff.mp none
  simpa using later

theorem AboutTo.assigned
    (h : AboutTo inherited past (do requireSettable locals; modify f; rest) shell deeds .crash) :
    (¬ locals.all isSettable ∧ deeds = []) ∨ AboutTo inherited past rest (f shell) deeds .crash := by
  by_cases settable : locals.all isSettable
  · rw [requireSettable_eq settable, pure_bind] at h
    obtain asked | ⟨_, _, _, _, rfl, assigned, later⟩ := h.bind
    · exact (calls_pure asked.calls).elim
    obtain ⟨none, rfl⟩ := gives_modify.mp assigned.gives
    obtain rfl := List.map_eq_nil_iff.mp none
    exact .inr (by simpa using later)
  · obtain asked | ⟨_, _, _, _, rfl, required, -⟩ := h.bind
    · exact .inl ⟨settable, List.map_eq_nil_iff.mp (calls_requireSettable asked.calls)⟩
    · exact absurd (gives_requireSettable required.gives).1 settable

end Assigning

theorem AboutTo.orReport {c : Command}
    (h : AboutTo inherited past (Shell.orReport c.evaluate) shell deeds .crash) :
    (∀ left right, c ≠ .pipe left right) ∧ WriteRefused (deeds.map Deed.event) := by
  refine ⟨?_, (guards_orReport c.guards_evaluate).crashed h.calls h.not_mem_child⟩
  rintro left right rfl
  obtain asked | ⟨_, _, _, _, rfl, done, told⟩ := h.bind
  · have guards : Guards (fun _ => False) (evaluatePipe left.evaluate right.evaluate).run :=
      guards_evaluatePipe _ _
    exact guards.crashed asked.calls asked.not_mem_child
  · obtain ⟨connected, -⟩ := Does.evaluatePipe done
    cases connected with
    | intro => exact calls_pure told.calls

theorem Does.connect {used target unused : Nat} {result : Except ShellError Unit}
    (h : Does inherited past (Shell.connect used target unused).run shell deeds result shell')
    (usedEnd : IsPipeEnd (descriptors inherited past used))
    (unusedEnd : IsPipeEnd (descriptors inherited past unused)) (apart : unused ≠ used) :
    result = .ok () ∧ shell' = shell := by
  have moved {result : Except ShellError Unit} {deeds : List Deed} {middle : Shell}
      (h : Does inherited past (Shell.move used target).run shell deeds result middle) :
      result = .ok () ∧ deeds = (moving used target).map .did ∧ middle = shell := by
    obtain ⟨e, rfl, failed⟩ | ⟨_, _, _, _, rfl, duplicated, closed⟩ := h.run_bind
    · cases failed.duplicating.1
    obtain ⟨-, rfl, rfl⟩ := duplicated.duplicating
    have there : IsPipeEnd (descriptors inherited
        (past ++ [Deed.did ⟨.duplicate used target, .ok ()⟩]) used) := by
      simp only [descriptors_append, Deed.event, Descriptors.effect, Function.update_apply]
      split <;> assumption
    obtain ⟨rfl, rfl, rfl⟩ := closed.closing there
    exact ⟨rfl, rfl, rfl⟩
  obtain ⟨e, rfl, failed⟩ | ⟨_, _, _, _, rfl, front, closed⟩ := h.run_bind
  · cases (moved failed).1
  obtain ⟨-, rfl, rfl⟩ := moved front
  have there : IsPipeEnd (descriptors inherited (past ++
      [Deed.did ⟨.duplicate used target, .ok ()⟩] ++ [Deed.did ⟨.close used, .ok ()⟩]) unused) := by
    simp only [descriptors_append, Deed.event, Descriptors.effect, Function.update_apply,
      if_neg apart]
    split <;> assumption
  rw [List.append_assoc] at there
  obtain ⟨rfl, -, rfl⟩ := closed.closing there
  exact ⟨rfl, rfl⟩

/-- A child that was to evaluate the command was ended by a signal, or left with what came of it, or
crashed because something that it had to say was refused. A pipe has nothing to say. -/
def Passed (inherited : Descriptors) (life : List Deed) (c : Command) (shell : Shell)
    (ending : Ending) : Prop :=
  (∃ signal core, ending = .signaled signal core) ∨
    (∃ result, Evaluates inherited life c shell result ∧ ending = .exited (exitStatus result)) ∨
    (∀ left right, c ≠ .pipe left right) ∧ WriteRefused (life.map Deed.event) ∧
      ending = .exited crashStatus

/-- In its life a child could not put its redirections on the standard descriptors, and started no
other children. It left with 1, or the error that it had to tell was refused. -/
def Unredirected (inherited : Descriptors) (life : List Deed) (parts : StageParts) (shell : Shell)
    (ending : Ending) : Prop :=
  (∃ front deeds back e shell', life = front ++ deeds ++ back ∧ Still life ∧
    Does inherited front (redirect parts).run shell deeds (.error e) shell') ∧
  (ending = .exited 1 ∨ WriteRefused (life.map Deed.event) ∧ ending = .exited crashStatus)

/-- A child crashed because its assignments cannot be made, and started no other children. -/
def Unassigned (life : List Deed) (parts : StageParts) (ending : Ending) : Prop :=
  ¬ parts.locals.all isSettable ∧ Still life ∧ ending = .exited crashStatus

theorem Does.passed {c : Command} {status : Int} (still : Still past)
    (h : Does inherited past (Shell.orReport c.evaluate) shell deeds status shell') :
    ∃ result, Evaluates inherited (past ++ deeds) c shell result ∧
      Ending.exited (status % 256) = .exited (exitStatus result) := by
  obtain ⟨own, result, middle, back, rfl, quiet, done, rfl⟩ := h.orReport
  refine ⟨result, ⟨past, own, back, middle, ?_, still, quiet, done⟩, ?_⟩
  · rw [List.append_assoc]
  · rw [(isByte_exitStatus done).emod]

namespace Lives
variable {c : Command} {ending : Ending}

theorem orReport (h : Lives inherited (Shell.orReport c.evaluate) shell life (some ending)) :
    Passed inherited life c { shell with jobs := {} } ending := by
  cases ending with
  | signaled signal core => exact .inl ⟨signal, core, rfl⟩
  | exited code =>
    obtain ⟨own, rfl, crashes, rfl⟩ | ⟨own, status, last, rfl, done, rfl⟩ :=
      h.exited (stays_orReport (stays_evaluate c))
    · obtain ⟨alone, refused⟩ := crashes.orReport
      exact .inr (.inr ⟨alone, refused.afterDeeds disposing, rfl⟩)
    · exact .inr (.inl (done.passed still_disposing))

theorem runSide {used target unused : Nat}
    (h : Lives inherited (Shell.runSide used target unused c.evaluate) shell life (some ending))
    (usedEnd : IsPipeEnd (inherited used)) (unusedEnd : IsPipeEnd (inherited unused))
    (apart : unused ≠ used) : Passed inherited life c { shell with jobs := {} } ending := by
  cases ending with
  | signaled signal core => exact .inl ⟨signal, core, rfl⟩
  | exited code =>
    obtain ⟨own, rfl, crashes, rfl⟩ | ⟨own, status, last, rfl, done, rfl⟩ :=
      h.exited (stays_runSide (stays_evaluate c))
    · obtain ⟨front, given, back, rfl, still, connected, later⟩ :=
        crashes.onceWired (keeps_connect used target unused) (guards_connect used target unused)
      obtain ⟨rfl, -⟩ := connected.connect usedEnd unusedEnd apart
      have evaluated : AboutTo inherited _ (Shell.orReport c.evaluate) _ back .crash := later
      obtain ⟨alone, refused⟩ := evaluated.orReport
      exact .inr (.inr ⟨alone, (refused.afterDeeds front).afterDeeds disposing, rfl⟩)
    · obtain ⟨front, given, back, rfl, still, connected, later⟩ :=
        done.onceWired (keeps_connect used target unused)
      obtain ⟨rfl, -⟩ := connected.connect usedEnd unusedEnd apart
      have evaluated : Does inherited _ (Shell.orReport c.evaluate) _ back status last := later
      obtain ⟨result, evaluates, same⟩ := evaluated.passed (still_disposing.append still)
      exact .inr (.inl ⟨result, by rwa [List.append_assoc] at evaluates, same⟩)

theorem runBody {parts : StageParts}
    (h : Lives inherited (Shell.runBody parts c.evaluate) shell life (some ending)) :
    Unredirected inherited life parts { shell with jobs := {} } ending ∨
      Unassigned life parts ending ∨
      Passed inherited life c
        { shell with
          environment := assign parts.locals shell.environment
          vars := assign parts.locals shell.vars
          jobs := {} } ending := by
  cases ending with
  | signaled signal core => exact .inr (.inr (.inl ⟨signal, core, rfl⟩))
  | exited code =>
    obtain ⟨own, rfl, crashes, rfl⟩ | ⟨own, status, last, rfl, done, rfl⟩ :=
      h.exited (stays_runBody (stays_evaluate c))
    · obtain ⟨front, given, back, rfl, still, redirected, later⟩ :=
        crashes.onceWired (keeps_redirect parts) (guards_redirect parts)
      cases given with
      | error e =>
        obtain ⟨quiet, refused⟩ := later
        exact .inl ⟨⟨disposing, front, back, e, _, by rw [List.append_assoc],
          still_disposing.append (still.append quiet), redirected⟩,
          .inr ⟨(refused.afterDeeds front).afterDeeds disposing, rfl⟩⟩
      | ok _ =>
        obtain ⟨unsettable, rfl⟩ | evaluated := AboutTo.assigned later
        · rw [List.append_nil]
          exact .inr (.inl ⟨unsettable, still_disposing.append still, rfl⟩)
        · obtain ⟨alone, refused⟩ := evaluated.orReport
          exact .inr (.inr (.inr (.inr ⟨alone, (refused.afterDeeds front).afterDeeds disposing, rfl⟩)))
    · obtain ⟨front, given, back, rfl, still, redirected, later⟩ :=
        done.onceWired (keeps_redirect parts)
      cases given with
      | error e =>
        obtain ⟨rfl, quiet⟩ := later
        exact .inl ⟨⟨disposing, front, back, e, _, by rw [List.append_assoc],
          still_disposing.append (still.append quiet), redirected⟩, .inl rfl⟩
      | ok _ =>
        obtain ⟨result, evaluates, same⟩ :=
          (Does.assigned later).passed (still_disposing.append still)
        exact .inr (.inr (.inr (.inl ⟨result, by rwa [List.append_assoc] at evaluates, same⟩)))

end Lives

/-! ## Stages and pipelines -/

theorem Does.subshell {parts : StageParts} {body : Command} {result : Except ShellError Int}
    (h : Does inherited past (Command.subshell parts body).evaluate.run shell deeds result shell') :
    ∃ (child : Int) (life : List Deed) (ending : Ending) (w : Telling ending),
      deeds = [.forked child life (some ending), .did ⟨.wait child, w.1⟩] ∧
      result = .ok ending.status ∧
      (Unredirected (descriptors inherited past) life parts { shell with jobs := {} } ending ∨
        Unassigned life parts ending ∨
        Passed (descriptors inherited past) life body
          { shell with
            environment := assign parts.locals shell.environment
            vars := assign parts.locals shell.vars
            jobs := {} } ending) := by
  obtain ⟨child, life, ending, w, rfl, rfl, -, -, lives⟩ := h.spawn_await
  exact ⟨child, life, ending, w, rfl, rfl, lives.runBody⟩

theorem isPipeEnd_reader (table : Descriptors) (place : Nat) {reader writer : Nat}
    (apart : reader ≠ writer) : IsPipeEnd (table.withPipe place reader writer reader) := by
  simp [Descriptors.withPipe, apart, IsPipeEnd]

theorem isPipeEnd_writer (table : Descriptors) (place reader writer : Nat) :
    IsPipeEnd (table.withPipe place reader writer writer) := by
  simp [Descriptors.withPipe, IsPipeEnd]

theorem Does.pipe {left right : Command} {result : Except ShellError Int}
    (h : Does inherited past (Command.pipe left right).evaluate.run shell deeds result shell') :
    ∃ (reader writer : Nat) (leftChild rightChild : Int) (leftLife rightLife : List Deed)
      (leftEnding rightEnding : Ending) (closed closed' : Except Errno Unit)
      (w : Telling leftEnding) (w' : Telling rightEnding),
      deeds = piping reader writer leftChild rightChild leftLife rightLife closed closed' w w' ∧
      result = .ok rightEnding.status ∧
      Passed ((descriptors inherited past).withPipe past.length reader writer) leftLife left
        { shell with jobs := {} } leftEnding ∧
      Passed ((descriptors inherited past).withPipe past.length reader writer) rightLife right
        { shell with jobs := {} } rightEnding := by
  obtain ⟨connected, rfl⟩ := h.evaluatePipe
  obtain ⟨reader, writer, leftChild, rightChild, leftLife, rightLife, leftEnding, rightEnding,
    closed, closed', w, w', ⟨-, -, apart⟩, -, -, -, leftLives, rightLives⟩ := connected
  have reads := isPipeEnd_reader (descriptors inherited past) past.length apart
  have writes := isPipeEnd_writer (descriptors inherited past) past.length reader writer
  exact ⟨reader, writer, leftChild, rightChild, leftLife, rightLife, leftEnding, rightEnding,
    closed, closed', w, w', rfl, rfl, leftLives.runSide writes reads apart,
    rightLives.runSide reads writes apart.symm⟩

/-- By these deeds a process starts each stage of a pipeline once, itself or by the child that it
has for the stages to the right, and the status is the last stage's; but where that child is ended
by a signal, the status tells this, and where the last stage's child crashes, the status is a
crash's. -/
inductive Pipeline : Descriptors → List Deed → Command → Shell → List Deed → Int → Prop
  | last {inherited : Descriptors} {past deeds : List Deed} {c : Command} {shell shell' : Shell}
    {result : Except ShellError Int} : (∀ left right, c ≠ .pipe left right) →
    Does inherited past c.evaluate.run shell deeds result shell' →
    Pipeline inherited past c shell deeds (exitStatus result)
  | killed {inherited : Descriptors} {past leftLife rightLife : List Deed} {left : Command}
    {shell : Shell} {reader writer : Nat} {leftChild rightChild : Int} {leftEnding : Ending}
    {closed closed' : Except Errno Unit} (w : Telling leftEnding) (right : Command)
    (signal : Signal) (core : Bool) (w' : Telling (.signaled signal core)) :
    Passed ((descriptors inherited past).withPipe past.length reader writer) leftLife left
      { shell with jobs := {} } leftEnding →
    Pipeline inherited past (.pipe left right) shell
      (piping reader writer leftChild rightChild leftLife rightLife closed closed' w w')
      (128 + signal.number)
  | crashed {inherited : Descriptors} {past leftLife rightLife : List Deed} {left right : Command}
    {shell : Shell} {reader writer : Nat} {leftChild rightChild : Int} {leftEnding : Ending}
    {closed closed' : Except Errno Unit} (w : Telling leftEnding)
    (w' : Telling (.exited crashStatus)) :
    Passed ((descriptors inherited past).withPipe past.length reader writer) leftLife left
      { shell with jobs := {} } leftEnding →
    (∀ left' right', right ≠ .pipe left' right') → WriteRefused (rightLife.map Deed.event) →
    Pipeline inherited past (.pipe left right) shell
      (piping reader writer leftChild rightChild leftLife rightLife closed closed' w w') crashStatus
  | pipe {inherited : Descriptors} {past leftLife deeds : List Deed} {left right : Command}
    {shell : Shell} {reader writer : Nat} {leftChild rightChild : Int} {leftEnding : Ending}
    {closed closed' : Except Errno Unit} {status : Int} (w : Telling leftEnding)
    (front back : List Deed) (w' : Telling (.exited status)) :
    Passed ((descriptors inherited past).withPipe past.length reader writer) leftLife left
      { shell with jobs := {} } leftEnding →
    Still front → Still back →
    Pipeline ((descriptors inherited past).withPipe past.length reader writer) front right
      { shell with jobs := {} } deeds status →
    Pipeline inherited past (.pipe left right) shell
      (piping reader writer leftChild rightChild leftLife (front ++ deeds ++ back) closed closed' w
        w') status

theorem pipeline_evaluate {c : Command} {result : Except ShellError Int}
    (h : Does inherited past c.evaluate.run shell deeds result shell') :
    Pipeline inherited past c shell deeds (exitStatus result) := by
  induction c generalizing inherited past shell deeds result shell' with
  | pipe left right _ right_ih =>
    obtain ⟨_, _, _, _, _, _, _, _, _, _, w, w', rfl, rfl, leftPassed, rightPassed⟩ := h.pipe
    -- The child of the right side has all the stages to the right, and these are its own deeds.
    obtain ⟨signal, core, rfl⟩ | ⟨result, evaluates, rfl⟩ | ⟨alone, refused, rfl⟩ := rightPassed
    · exact .killed w right signal core w' leftPassed
    · obtain ⟨front, deeds, back, last, rfl, still, quiet, done⟩ := evaluates
      exact .pipe w front back w' leftPassed still quiet (right_ih done)
    · exact .crashed w w' leftPassed alone refused
  | _ => exact .last nofun h

end CommandShell
