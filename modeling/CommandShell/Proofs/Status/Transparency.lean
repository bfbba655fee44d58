import CommandShell.Proofs.Status.Reports

/-!
# The statuses of all processes of a command

Each child that a command starts, at whatever depth, hands on what came of its own command. Hence a
subshell has the status of its body, a pipeline that of its last stage, and a report on a background
job shows the job's.
-/

set_option autoImplicit false

namespace CommandShell
open Shell Reaping

variable {inherited : Descriptors} {past deeds life : List Deed} {shell shell' : Shell}
  {result : Except ShellError Int}

/-- How a child of a piece of work ended: one that was to become a program somehow within eight
bits, and any other with what came of the part that it evaluated, if its redirections applied and its
assignments could be made. -/
inductive Work.Conveys : Work → List Deed → Ending → Prop
  | program {inherited : Descriptors} {c : SimpleCommand} {shell : Shell} {life : List Deed}
    {ending : Ending} : Lives inherited (runProgram c) shell life (some ending) →
    IsByte ending.status → Conveys (.simple c) life ending
  | part {inherited : Descriptors} {w : Work} {part : Command} {shell : Shell} {life : List Deed}
    {ending : Ending} : part ∈ w.parts → Passed inherited life part shell ending →
    Conveys w life ending
  | unredirected {inherited : Descriptors} {parts : StageParts} {shell : Shell} {life : List Deed}
    {ending : Ending} (body : Command) : Unredirected inherited life parts shell ending →
    Conveys (.subshell parts body) life ending
  | unassigned {parts : StageParts} {life : List Deed} {ending : Ending} (body : Command) :
    Unassigned life parts ending → Conveys (.subshell parts body) life ending

theorem not_forked {kind : Call → Prop} {child : Int} {ending : Option Ending}
    (h : ∀ event ∈ deeds.map Deed.event, kind event.call) (other : ¬ kind .fork) :
    .forked child life ending ∉ deeds :=
  fun member => other (h _ (List.mem_map_of_mem member))

theorem forked_mem_pair {child child' : Int} {life life' : List Deed}
    {ending ending' : Option Ending} {event : Event} :
    Deed.forked child life ending ∈ [.forked child' life' ending', .did event] ↔
      child = child' ∧ life = life' ∧ ending = ending' := by
  simp

theorem conveys_simple {c : SimpleCommand} {child : Int} {ending : Ending}
    (h : Does inherited past (evaluateSimple c).run shell deeds result shell')
    (member : .forked child life (some ending) ∈ deeds) :
    (Work.simple c).Conveys life ending := by
  by_cases cd : c.program = "cd"
  · rw [evaluateSimple, builtin?, if_pos cd] at h
    obtain ⟨status, rfl, changed⟩ := gives_run_lift.mp h.gives
    exact absurd member (not_forked (still_of_moved (gives_changeDirectory changed).1) id)
  by_cases wait : c.program = "wait"
  · rw [evaluateSimple, builtin?, if_neg cd, if_pos wait] at h
    obtain ⟨status, rfl, waited⟩ := gives_run_lift.mp h.gives
    have collecting := ((only_waitForJobs c.arguments shell).path waited).1
    have other : ¬ Call.fork.IsCollecting := fun h => by simpa using h.forms
    exact absurd member (not_forked collecting other)
  · rw [evaluateSimple, builtin?_eq_none cd wait] at h
    obtain ⟨_, _, _, _, rfl, -, -, -, lives⟩ := h.spawn_await
    obtain ⟨rfl, rfl, ⟨⟩⟩ := forked_mem_pair.mp member
    exact .program lives lives.isByte

theorem conveys_action {w : Work} {child : Int} {ending : Ending}
    (h : Does inherited past w.action.run shell deeds result shell')
    (member : .forked child life (some ending) ∈ deeds) : w.Conveys life ending := by
  cases w with
  | simple c => exact conveys_simple h member
  | subshell parts body =>
    obtain ⟨_, _, _, _, rfl, -, -, -, lives⟩ := h.spawn_await
    obtain ⟨rfl, rfl, ⟨⟩⟩ := forked_mem_pair.mp member
    obtain unredirected | unassigned | passed := lives.runBody
    · exact .unredirected body unredirected
    · exact .unassigned body unassigned
    · exact .part List.mem_cons_self passed
  | pipe left right =>
    obtain ⟨_, _, _, _, _, _, _, _, _, _, _, _, rfl, -, leftPassed, rightPassed⟩ := h.pipe
    simp only [piping, List.mem_cons, Deed.forked.injEq, reduceCtorEq, List.not_mem_nil, or_false,
      false_or, Option.some.injEq] at member
    obtain ⟨rfl, rfl, rfl⟩ | ⟨rfl, rfl, rfl⟩ := member
    · exact .part List.mem_cons_self leftPassed
    · exact .part (by simp [Work.parts]) rightPassed
  | background job =>
    obtain ⟨e, rfl, failed⟩ | ⟨_, _, _, _, rfl, begun, rest⟩ := h.run_bind
    · obtain ⟨_, _, _, _, _, same, _⟩ := failed.startJob
      cases same
    obtain ⟨_, _, _, _, rfl, -, -, -, lives⟩ := begun.startJob
    obtain ⟨rfl, -, -⟩ := rest.pure
    rw [List.append_nil] at member
    obtain ⟨rfl, rfl, rfl⟩ := forked_mem_pair.mp member
    exact .part List.mem_cons_self lives.orReport

theorem conveys_plan {works : List Work} {p : Plan} {child : Int} {ending : Ending}
    (within : p.Within works) (h : Does inherited past p.run.run shell deeds result shell')
    (member : .forked child life (some ending) ∈ deeds) : ∃ w ∈ works, w.Conveys life ending := by
  -- Along the plan, and with it along the surface that it stays within.
  induction within generalizing past shell deeds with
  | done works status =>
    obtain ⟨rfl, -, -⟩ := h.pure
    exact absurd member List.not_mem_nil
  | @work works w next _ ih =>
    obtain ⟨e, -, failed⟩ | ⟨front, status, _, _, rfl, worked, rest⟩ := h.run_bind
    · exact ⟨w, List.mem_cons_self, conveys_action failed member⟩
    obtain first | later := List.mem_append.mp member
    · exact ⟨w, List.mem_cons_self, conveys_action worked first⟩
    · obtain ⟨w', inside, conveys⟩ := ih status rest later
      exact ⟨w', List.mem_cons_of_mem w inside, conveys⟩
  | skip w _ ih =>
    obtain ⟨w', inside, conveys⟩ := ih h member
    exact ⟨w', List.mem_cons_of_mem w inside, conveys⟩

theorem conveys_evaluate {c : Command} {child : Int} {ending : Ending}
    (h : Does inherited past c.evaluate.run shell deeds result shell')
    (member : .forked child life (some ending) ∈ deeds) :
    ∃ w ∈ c.surface, w.Conveys life ending := by
  rw [Command.evaluate, ← Command.run_planFrom] at h
  exact conveys_plan (c.within_surface none) h member

/-- Whatever the system does: the status of a command fits into eight bits; each child of it that
has ended hands on what came of its part; the status of a subshell is that of its body, where the
redirections apply and the assignments can be made, and the status of a pipeline that of its last
stage, each stage being started once. A process that starts without jobs reports each as completed
with what came of it. A child that crashes comes to no end of its part, and its status tells that. -/
theorem statuses_pass :
    (∀ (inherited : Descriptors) (past : List Deed) (c : Command) (shell : Shell)
        (deeds : List Deed) (result : Except ShellError Int) (shell' : Shell),
      Does inherited past c.evaluate.run shell deeds result shell' →
      (∀ status, result = .ok status → IsByte status) ∧
      (∀ child life ending, .forked child life (some ending) ∈ deeds →
        ∃ w ∈ c.surface, w.Conveys life ending) ∧
      (∀ parts body, c = .subshell parts body →
        ∃ (child : Int) (life : List Deed) (ending : Ending) (w : Telling ending),
        deeds = [.forked child life (some ending), .did ⟨.wait child, w.1⟩] ∧
        result = .ok ending.status ∧
        (Unredirected (descriptors inherited past) life parts { shell with jobs := {} } ending ∨
          Unassigned life parts ending ∨
          Passed (descriptors inherited past) life body
            { shell with
              environment := assign parts.locals shell.environment
              vars := assign parts.locals shell.vars
              jobs := {} } ending)) ∧
      ∀ left right, c = .pipe left right → ∃ status, result = .ok status ∧
        Pipeline inherited past c shell deeds status) ∧
    (∀ (inherited : Descriptors) (past : List Deed) (c : Command) (shell : Shell)
        (deeds : List Deed) (completion : Completion), shell.jobs = {} →
      AboutTo inherited past c.evaluate.run shell deeds (completedNotice completion) →
      Reported (fun job => .background job ∈ c.surface) (past ++ deeds) completion) ∧
    ∀ (inherited : Descriptors) (past : List Deed) (operations : List Operation)
        (session : Session) (deeds : List Deed) (completion : Completion), session.shell.jobs = {} →
      AboutTo inherited past (Operation.performAll operations) session deeds
        (completedNotice completion) →
      Reported (fun _ => True) (past ++ deeds) completion := by
  refine ⟨?_, ?_, ?_⟩
  · intro inherited past c shell deeds result shell' done
    refine ⟨?_, fun _ _ _ member => conveys_evaluate done member, ?_, ?_⟩
    · rintro status rfl
      exact isByte_evaluate done
    · rintro parts body rfl
      exact done.subshell
    · rintro left right rfl
      obtain ⟨_, _, _, _, _, _, _, _, _, _, _, _, -, rfl, -, -⟩ := done.pipe
      exact ⟨_, rfl, pipeline_evaluate done⟩
  · intro inherited past c shell deeds completion none asked
    refine (records_evaluate fun _ => id).reports ?_ asked
    rw [none]
    exact .nil past
  · intro inherited past operations session deeds completion none asked
    refine (recording_performAll operations).reports ?_ asked
    rw [none]
    exact .nil past

/-- The lines `x | y` and `x & wait`. -/
def pipedPrograms : Command := .pipe (.simple { program := "x" }) (.simple { program := "y" })
def awaitedProgram : Command :=
  .list .background (.simple { program := "x" }) (.simple { program := "wait" })

def programDeeds : List Deed :=
  [.forked 9 disposing (some (.exited 3)), .did ⟨.wait 9, .ended (.exited 3)⟩]

def connectingDeeds : List Deed :=
  [.did ⟨.duplicate 3 0, .ok ()⟩, .did ⟨.close 3, .ok ()⟩, .did ⟨.close 4, .ok ()⟩]

def Telling.atOnce (ending : Ending) : Telling ending := ⟨.ended ending, rfl⟩

/-- The left side is ended by a signal before it does anything. -/
def pipedDeeds : List Deed :=
  piping 3 4 7 8 [] (disposing ++ connectingDeeds ++ programDeeds) (.ok ()) (.ok ())
    (.atOnce (.signaled .terminate false)) (.atOnce (.exited 3))

def awaitedDeeds : List Deed :=
  [.forked 7 (disposing ++ programDeeds) (some (.exited 3)), .did ⟨startedNotice 7, .ok ()⟩,
    .did ⟨.wait 7, .ended (.exited 3)⟩]

theorem statuses_pass_of_exited :
    Does standardTable [] pipedPrograms.evaluate.run {} pipedDeeds (.ok 3) {} ∧ IsByte 3 ∧
      Pipeline standardTable [] pipedPrograms {} pipedDeeds 3 ∧
      AboutTo standardTable [] awaitedProgram.evaluate.run {} awaitedDeeds
        (completedNotice ⟨7, 3⟩) ∧
      Reported (fun job => .background job ∈ awaitedProgram.surface) awaitedDeeds ⟨7, 3⟩ ∧
      AboutTo standardTable [] (Operation.performAll [.evaluate awaitedProgram]) freshSession
        awaitedDeeds (completedNotice ⟨7, 3⟩) ∧
      Reported (fun _ => True) awaitedDeeds ⟨7, 3⟩ := by
  have done : Does standardTable [] pipedPrograms.evaluate.run {} pipedDeeds (.ok 3) {} := by
    refine ⟨_, pure, [], _, .did ⟨rfl, rfl, by decide⟩ (.forked rfl (.stay _ _ _) (.killed _ _ _)
      (.forked rfl (.did trivial (.did trivial (.did trivial (.did trivial (.forked rfl
        (.did trivial (.stay _ _ _)) (.became "y" ["y"] {} _ 3 (by decide) (by decide))
        (.did (answers_ended rfl) (.stay _ _ _))))))) (.left 3 _)
      (.did trivial (.did trivial (.did (answers_ended rfl)
        (.did (answers_ended rfl) (.stay _ _ _))))))), ?_⟩
    exact .call _ (.call _ (.call _ (.call _ (.call _ (.call _ (.call _ (.stay _)))))))
  have asked : AboutTo standardTable [] awaitedProgram.evaluate.run {} awaitedDeeds
      (completedNotice ⟨7, 3⟩) :=
    ⟨_, pure, _, .forked rfl (.did trivial (.forked rfl (.did trivial (.stay _ _ _))
      (.became "x" ["x"] {} _ 3 (by decide) (by decide))
      (.did (answers_ended rfl) (.stay _ _ _)))) (.left 3 _)
      (.did trivial (.did (answers_ended rfl) (.stay _ _ _))),
      _, .call _ (.call _ (.call _ (.stay _)))⟩
  have asked' : AboutTo standardTable [] (Operation.performAll [.evaluate awaitedProgram])
      freshSession awaitedDeeds (completedNotice ⟨7, 3⟩) :=
    ⟨_, pure, _, .forked rfl (.did trivial (.forked rfl (.did trivial (.stay _ _ _))
      (.became "x" ["x"] {} _ 3 (by decide) (by decide))
      (.did (answers_ended rfl) (.stay _ _ _)))) (.left 3 _)
      (.did trivial (.did (answers_ended rfl) (.stay _ _ _))),
      _, .call _ (.call _ (.call _ (.stay _)))⟩
  have sound := statuses_pass.1 _ _ _ _ _ _ _ done
  obtain ⟨status, same, pipeline⟩ := sound.2.2.2 _ _ rfl
  cases same
  exact ⟨done, sound.1 3 rfl, pipeline, asked,
    statuses_pass.2.1 _ [] _ _ _ _ rfl asked, asked', statuses_pass.2.2 _ [] _ _ _ _ rfl asked'⟩

end CommandShell
