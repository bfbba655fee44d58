import CommandShell.Proofs.Evaluation.Operations
import CommandShell.Proofs.Status.Deeds

/-!
# What becomes of the jobs that are asked after

Collecting goes through the table job by job. The answer to the question after a job's child tells
what becomes of the job: it is reported with its ending, it is dropped because there is no such
child, or it stays. What is reported is what is collected, in the order of the table, and what stays
keeps its place.
-/

set_option autoImplicit false

namespace CommandShell
open Program

def Event.collected? : Event → Option Completion
  | ⟨.wait child, w⟩ => w.outcome.toOption.map fun ending => ⟨child, ending.status⟩
  | ⟨.poll child, .ok (.ended ending)⟩ => some ⟨child, ending.status⟩
  | _ => none

section Waited
variable {child : Int} {w : Wait}

theorem collected_waited {ending : Ending} (h : w.outcome = .ok ending) :
    Event.collected? ⟨.wait child, w⟩ = some ⟨child, ending.status⟩ := by
  rw [Event.collected?, h]
  rfl

theorem collected_missed {e : Errno} (h : w.outcome = .error e) :
    Event.collected? ⟨.wait child, w⟩ = none := by
  rw [Event.collected?, h]
  rfl

end Waited

/-- What becomes of an entry of the table of jobs. -/
inductive Verdict where
  | stays
  | reported (ending : Ending)
  | dropped
  | forgotten
  deriving DecidableEq

namespace Verdict

def isStaying : Verdict → Bool
  | stays => true
  | _ => false

def isReported : Verdict → Bool
  | reported _ => true
  | _ => false

def isDropped : Verdict → Bool
  | dropped => true
  | _ => false

def isForgotten : Verdict → Bool
  | forgotten => true
  | _ => false

end Verdict

abbrev Sorting := List (Job × Verdict)

namespace Sorting

def jobs (sorting : Sorting) : List Job := sorting.map Prod.fst

def having (sorting : Sorting) (test : Verdict → Bool) : List Job :=
  (sorting.filter fun entry => test entry.2).map Prod.fst

def completed (sorting : Sorting) : List Completion :=
  sorting.filterMap fun
    | (job, .reported ending) => some ⟨job.process, ending.status⟩
    | _ => none

variable {sorting : Sorting}

theorem jobs_sorted (jobs : List Job) (verdict : Verdict) :
    Sorting.jobs (jobs.map fun job => (job, verdict)) = jobs := by
  simp [Sorting.jobs, Function.comp_def]

theorem having_sorted (jobs : List Job) (verdict : Verdict) (test : Verdict → Bool) :
    having (jobs.map fun job => (job, verdict)) test = if test verdict then jobs else [] := by
  cases taken : test verdict <;> simp [having, List.filter_map, Function.comp_def, taken]

theorem completed_sorted (jobs : List Job) {verdict : Verdict}
    (silent : verdict.isReported = false) :
    completed (jobs.map fun job => (job, verdict)) = [] := by
  rw [completed, List.filterMap_map, List.filterMap_eq_nil_iff]
  intro job _
  cases verdict with
  | reported => cases silent
  | _ => rfl

theorem count_jobs (sorting : Sorting) (job : Job) : sorting.jobs.count job =
    (sorting.having Verdict.isStaying).count job + (sorting.having Verdict.isReported).count job +
      (sorting.having Verdict.isDropped).count job +
      (sorting.having Verdict.isForgotten).count job := by
  induction sorting with
  | nil => rfl
  | cons entry rest ih =>
    obtain ⟨other, verdict⟩ := entry
    rw [jobs, List.map_cons, List.count_cons, ← jobs, ih]
    cases verdict <;> simp [having, Verdict.isStaying, Verdict.isReported, Verdict.isDropped,
      Verdict.isForgotten, List.count_cons] <;> omega

end Sorting

inductive Judged (child : Int) : Event → Verdict → Prop
  | ended (ending : Ending) : Judged child ⟨.poll child, .ok (.ended ending)⟩ (.reported ending)
  | awaited {w : Wait} {ending : Ending} : w.outcome = .ok ending →
    Judged child ⟨.wait child, w⟩ (.reported ending)
  | gone : Judged child ⟨.poll child, .error .noChild⟩ .dropped
  | refused {w : Wait} {e : Errno} : w.outcome = .error e →
    Judged child ⟨.wait child, w⟩ .dropped
  | running (notice : WaitStatus) : notice.status? = none →
    Judged child ⟨.poll child, .ok notice⟩ .stays
  | interrupted (e : Errno) : e ≠ .noChild → Judged child ⟨.poll child, .error e⟩ .stays

/-- The jobs are asked after one by one, and the answers lead to these verdicts. -/
inductive Sifted : Sorting → List Event → Prop
  | nil : Sifted [] []
  | cons {job : Job} {verdict : Verdict} {event : Event} {quiet trace : List Event}
    {sorting : Sorting} : Judged job.process event verdict →
    (∀ other ∈ quiet, other.call.IsStill) → Sifted sorting trace →
    Sifted ((job, verdict) :: sorting) (event :: (quiet ++ trace))

theorem collected_of_still {event : Event} (h : event.call.IsStill) : event.collected? = none := by
  obtain ⟨c, reply⟩ := event
  cases c <;> first | rfl | exact h.elim

namespace Sifted
variable {sorting : Sorting} {trace : List Event}

theorem collected (sifted : Sifted sorting trace) :
    trace.filterMap Event.collected? = sorting.completed := by
  induction sifted with
  | nil => rfl
  | @cons job verdict event quiet trace sorting judged still _ ih =>
    have none : quiet.filterMap Event.collected? = [] :=
      List.filterMap_eq_nil_iff.mpr fun other member => collected_of_still (still other member)
    rw [List.filterMap_cons, List.filterMap_append, none, ih]
    cases judged with
    | ended | gone => rfl
    | awaited told =>
      rw [collected_waited told]
      rfl
    | refused missed =>
      rw [collected_missed missed]
      rfl
    | running notice alive =>
      cases notice with
      | ended => cases alive
      | _ => rfl
    | interrupted => rfl

theorem plain (sifted : Sifted sorting trace) : ∀ event ∈ trace, event.call ≠ .fork := by
  induction sifted with
  | nil => simp
  | cons judged still _ ih =>
    simp only [List.forall_mem_cons, List.forall_mem_append]
    refine ⟨?_, ?_, ih⟩
    · cases judged <;> exact nofun
    · intro other member fork
      have := still other member
      rw [fork] at this
      exact this

theorem judged (sifted : Sifted sorting trace) : ∀ entry ∈ sorting, ∃ front event back,
    trace = front ++ event :: back ∧ Judged entry.1.process event entry.2 := by
  induction sifted with
  | nil => simp
  | @cons job verdict event quiet trace sorting judged still _ ih =>
    rintro entry (_ | ⟨_, member⟩)
    · exact ⟨[], event, _, rfl, judged⟩
    · obtain ⟨front, event', back, rfl, judged'⟩ := ih entry member
      exact ⟨event :: (quiet ++ front), event', back, by simp, judged'⟩

end Sifted

/-! ## Going through the table -/

theorem still_log (logger : Option Logger) (level : LogLevel) (text : String) {trace : List Event}
    (h : (Logger.log logger level text).Returns trace ()) :
    ∀ event ∈ trace, event.call.IsStill :=
  fun event member => ((Shell.only_log logger level text).path h).1 event member |>.isStill

theorem still_reportLine {text : String} {trace : List Event}
    (h : (reportLine text).Returns trace ()) : ∀ event ∈ trace, event.call.IsStill := by
  have wrote : (reportLine text).Only fun c => c.IsStill := only_print trivial trivial
  exact (wrote.path h).1

theorem sifted_staying {job : Job} {rest running : List Job} {completed : List Completion}
    {event : Event} {quiet trace : List Event} {more : Program (List Completion × List Job)}
    (ih : ∀ {running : List Job} {completed : List Completion} {trace : List Event},
      more.Returns trace (completed, running) → ∃ sorting : Sorting, Sifted sorting trace ∧
        sorting.jobs = rest ∧ completed = sorting.completed ∧
        running = sorting.having Verdict.isStaying)
    (judged : Judged job.process event .stays) (still : ∀ other ∈ quiet, other.call.IsStill)
    (h : (more >>= fun result => pure (result.1, job :: result.2)).Returns trace
      (completed, running)) :
    ∃ sorting : Sorting, Sifted sorting (event :: (quiet ++ trace)) ∧
      sorting.jobs = job :: rest ∧ completed = sorting.completed ∧
      running = sorting.having Verdict.isStaying := by
  obtain ⟨trace, ⟨completed', running'⟩, _, rfl, returned, last⟩ := returns_bind.mp h
  obtain ⟨rfl, same⟩ := returns_done.mp last
  cases same
  obtain ⟨sorting, sifted, rfl, rfl, rfl⟩ := ih returned
  rw [List.append_nil]
  exact ⟨(job, .stays) :: sorting, .cons judged still sifted, rfl, rfl, rfl⟩

theorem sifted_reapEach {logger : Option Logger} {jobs running : List Job}
    {completed : List Completion} {trace : List Event}
    (h : (JobTable.reapEach logger jobs).Returns trace (completed, running)) :
    ∃ sorting : Sorting, Sifted sorting trace ∧ sorting.jobs = jobs ∧
      completed = sorting.completed ∧ running = sorting.having Verdict.isStaying := by
  induction jobs generalizing trace completed running with
  | nil =>
    obtain ⟨rfl, same⟩ := returns_done.mp h
    cases same
    exact ⟨[], .nil, rfl, rfl, rfl⟩
  | cons job rest ih =>
    obtain ⟨_, reply, _, rfl, asked, later⟩ := returns_bind.mp h
    obtain rfl := returns_perform.mp asked
    rw [List.singleton_append]
    cases reply with
    | error e =>
      dsimp only at later
      by_cases gone : e = .noChild
      · rw [if_pos gone] at later
        obtain ⟨quiet, _, trace, rfl, logged, returned⟩ := returns_bind.mp later
        obtain ⟨sorting, sifted, rfl, rfl, rfl⟩ := ih returned
        exact ⟨(job, .dropped) :: sorting,
          .cons (gone ▸ .gone) (still_log logger .warn _ logged) sifted, rfl, rfl, rfl⟩
      · rw [if_neg gone] at later
        obtain ⟨quiet, _, trace, rfl, logged, returned⟩ := returns_bind.mp later
        exact sifted_staying ih (.interrupted e gone) (still_log logger .error _ logged) returned
    | ok notice =>
      dsimp only at later
      cases ended : notice.status? with
      | none =>
        rw [ended] at later
        have none : ∀ other ∈ ([] : List Event), other.call.IsStill := by simp
        exact sifted_staying ih (.running notice ended) none later
      | some status =>
        obtain ⟨ending, rfl⟩ : ∃ ending, notice = .ended ending := by
          cases notice with
          | ended ending => exact ⟨ending, rfl⟩
          | _ => cases ended
        cases ended
        obtain ⟨quiet, _, _, rfl, reported, going⟩ := returns_bind.mp later
        obtain ⟨trace, ⟨completed', running'⟩, _, rfl, returned, last⟩ := returns_bind.mp going
        obtain ⟨rfl, same⟩ := returns_done.mp last
        cases same
        obtain ⟨sorting, sifted, rfl, rfl, rfl⟩ := ih returned
        rw [List.append_nil]
        exact ⟨(job, .reported ending) :: sorting,
          .cons (.ended ending) (still_reportLine reported) sifted, rfl, rfl, rfl⟩

theorem sifted_awaitEach {logger : Option Logger} {jobs : List Job} {completed : List Completion}
    {trace : List Event} (h : (JobTable.awaitEach logger jobs).Returns trace completed) :
    ∃ sorting : Sorting, Sifted sorting trace ∧ sorting.jobs = jobs ∧
      completed = sorting.completed ∧ sorting.having Verdict.isStaying = [] := by
  induction jobs generalizing trace completed with
  | nil =>
    obtain ⟨rfl, rfl⟩ := returns_done.mp h
    exact ⟨[], .nil, rfl, rfl, rfl⟩
  | cons job rest ih =>
    obtain ⟨_, outcome, _, rfl, asked, later⟩ := returns_bind.mp h
    obtain ⟨w, rfl, told⟩ := returns_waitFor.mp asked
    rw [List.singleton_append]
    cases outcome with
    | error e =>
      have dropped {level : LogLevel} {text : String} {trace : List Event}
          (h : (do
            Logger.log logger level text
            JobTable.awaitEach logger rest).Returns trace completed) :
          ∃ sorting : Sorting, Sifted sorting (⟨.wait job.process, w⟩ :: trace) ∧
            sorting.jobs = job :: rest ∧ completed = sorting.completed ∧
            sorting.having Verdict.isStaying = [] := by
        obtain ⟨quiet, _, trace, rfl, logged, returned⟩ := returns_bind.mp h
        obtain ⟨sorting, sifted, rfl, rfl, none⟩ := ih returned
        exact ⟨(job, .dropped) :: sorting,
          .cons (.refused told) (still_log logger level text logged) sifted, rfl, rfl, none⟩
      dsimp only at later
      split at later
      · exact dropped later
      · exact dropped later
    | ok ending =>
      obtain ⟨quiet, _, _, rfl, reported, going⟩ := returns_bind.mp later
      obtain ⟨trace, completed', _, rfl, returned, last⟩ := returns_bind.mp going
      obtain ⟨rfl, rfl⟩ := returns_done.mp last
      obtain ⟨sorting, sifted, rfl, rfl, none⟩ := ih returned
      rw [List.append_nil]
      exact ⟨(job, .reported ending) :: sorting,
        .cons (.awaited told) (still_reportLine reported) sifted, rfl, rfl, none⟩

end CommandShell
