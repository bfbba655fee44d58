import CommandShell.Proofs.Status.Passing

/-!
# Jobs and their children

A job of the table is a child that the process has started for it. What the child will come to is on
record from then on, so that it is known as long as the job is listed. Collecting the child tells
just this, and takes the job off.
-/

set_option autoImplicit false

namespace CommandShell
open Shell Reaping

variable {inherited : Descriptors} {past deeds life : List Deed}

/-- The child was started for one of these background jobs, which has this text, lives like this and
ends like this. -/
def Backgrounded (started : Command → Prop) (text : String) (life : List Deed)
    (ending : Option Ending) : Prop :=
  ∃ (inherited : Descriptors) (job : Command) (shell : Shell), started job ∧ text = job.text ∧
    Lives inherited (orReport job.evaluate) shell life ending

/-- The report is about the child of one of these jobs, and shows the status of the child: it was
ended by a signal or left with what came of the job. -/
def Reported (started : Command → Prop) (past : List Deed) (completion : Completion) : Prop :=
  ∃ (inherited : Descriptors) (job : Command) (shell : Shell) (life : List Deed) (ending : Ending),
    started job ∧ .forked completion.process life (some ending) ∈ past ∧
      Lives inherited (orReport job.evaluate) shell life (some ending) ∧
      Passed inherited life job { shell with jobs := {} } ending ∧
      completion.status = ending.status

variable {started : Command → Prop}

theorem Reported.append {completion : Completion} (h : Reported started past completion)
    (deeds : List Deed) : Reported started (past ++ deeds) completion := by
  obtain ⟨inherited, job, shell, life, ending, own, forked, conveyed⟩ := h
  exact ⟨inherited, job, shell, life, ending, own, List.mem_append_left _ forked, conveyed⟩

/-- The jobs of the table are children that the process has started for them and not collected. -/
structure Tracked (started : Command → Prop) (past : List Deed) (jobs : List Job) : Prop where
  distinct : (jobs.map Job.process).Nodup
  recorded : ∀ job ∈ jobs, ∃ life ending, .forked job.process life ending ∈ past ∧
    fates past job.process = some ending ∧ Backgrounded started job.command life ending

theorem fates_append_list (past deeds : List Deed) :
    fates (past ++ deeds) = deeds.foldl Deed.collect (fates past) := List.foldl_append

namespace Tracked
variable {job : Job} {jobs jobs' front back : List Job}

theorem nil (past : List Deed) : Tracked started past [] := ⟨List.nodup_nil, by simp⟩

theorem known (tracked : Tracked started past jobs) (member : job ∈ jobs) :
    fates past job.process ≠ none := by
  obtain ⟨_, ending, _, fate, _⟩ := tracked.recorded job member
  rw [fate]
  exact nofun

theorem sublist (tracked : Tracked started past jobs) (sub : jobs'.Sublist jobs) :
    Tracked started past jobs' where
  distinct := tracked.distinct.sublist (sub.map Job.process)
  recorded job member := tracked.recorded job (sub.subset member)

theorem keep (tracked : Tracked started past jobs)
    (same : ∀ job ∈ jobs, fates (past ++ deeds) job.process = fates past job.process) :
    Tracked started (past ++ deeds) jobs where
  distinct := tracked.distinct
  recorded job member := by
    obtain ⟨life, ending, forked, fate, backgrounded⟩ := tracked.recorded job member
    exact ⟨life, ending, List.mem_append_left _ forked, (same job member).trans fate, backgrounded⟩

theorem still (tracked : Tracked started past jobs) (still : Still deeds) :
    Tracked started (past ++ deeds) jobs :=
  tracked.keep fun _ _ => by rw [fates_of_still still]

theorem foreground {child : Int} {ending : Ending} {w : Telling ending}
    (tracked : Tracked started past jobs) (fresh : fates past child = none) :
    Tracked started (past ++
      [.forked child life (some ending), .did ⟨.wait child, w.1⟩]) jobs := by
  refine tracked.keep fun job member => ?_
  have apart : job.process ≠ child := by
    rintro rfl
    exact tracked.known member fresh
  simp [fates_append_list, Deed.collect, w.2, apart]

theorem pipe {reader writer : Nat} {leftChild rightChild : Int} {leftLife rightLife : List Deed}
    {leftEnding rightEnding : Ending} {closed closed' : Except Errno Unit}
    {w : Telling leftEnding} {w' : Telling rightEnding} (tracked : Tracked started past jobs)
    (fresh : fates past leftChild = none) (fresh' : fates past rightChild = none) :
    Tracked started (past ++ piping reader writer leftChild rightChild leftLife rightLife closed
      closed' w w') jobs := by
  refine tracked.keep fun job member => ?_
  have apart : job.process ≠ leftChild := by
    rintro rfl
    exact tracked.known member fresh
  have apart' : job.process ≠ rightChild := by
    rintro rfl
    exact tracked.known member fresh'
  simp [fates_append_list, piping, Deed.collect, w.2, w'.2, apart, apart']

theorem add {child : Int} {ending : Option Ending} (tracked : Tracked started past jobs)
    (fresh : fates past child = none) (index : Nat) {text : String}
    (backgrounded : Backgrounded started text life ending) :
    Tracked started (past ++ [Deed.forked child life ending]) (jobs ++ [⟨child, index, text⟩]) := by
  have apart (job : Job) (member : job ∈ jobs) : job.process ≠ child := by
    rintro rfl
    exact tracked.known member fresh
  have kept : Tracked started (past ++ [Deed.forked child life ending]) jobs := by
    refine tracked.keep fun job member => ?_
    simp [fates_append, Deed.collect, apart job member]
  constructor
  · rw [List.map_append, List.nodup_append]
    refine ⟨tracked.distinct, List.nodup_singleton _, ?_⟩
    simpa using apart
  · intro job member
    obtain old | new := List.mem_append.mp member
    · exact kept.recorded job old
    · obtain rfl := List.mem_singleton.mp new
      exact ⟨life, ending, by simp, by simp [fates_append, Deed.collect], backgrounded⟩

theorem waited {w : Wait} (tracked : Tracked started past jobs) (member : job ∈ jobs)
    (answers : Answers inherited past (.wait job.process) w) :
    ∃ ending, w.outcome = .ok ending := by
  obtain ⟨_, _, _, fate, _⟩ := tracked.recorded job member
  obtain ⟨ending, -, told⟩ := answers_wait answers fate
  exact ⟨ending, told⟩

theorem collected {event : Event} {completion : Completion}
    (tracked : Tracked started past (front ++ job :: back)) (collects : Collects event completion)
    (same : completion.process = job.process)
    (answers : Answers inherited past event.call event.reply) :
    Reported started past completion ∧ Tracked started (past ++ [Deed.did event]) (front ++ back) := by
  obtain ⟨life, ending, forked, fate, _, command, shell, own, -, lives⟩ :=
    tracked.recorded job (by simp)
  rw [← same] at forked fate
  obtain ⟨ended, rfl, status⟩ :
      ∃ ended, ending = some ended ∧ completion.status = ended.status := by
    cases collects with
    | @waited child _ ended outcome =>
      have told : fates past child = some (some ended) := fate_of_waited answers outcome
      exact ⟨ended, Option.some_inj.mp (fate.symm.trans told), rfl⟩
    | polled child ended =>
      have told : fates past child = some (some ended) := answers
      exact ⟨ended, Option.some_inj.mp (fate.symm.trans told), rfl⟩
  have taken : fates (past ++ [Deed.did event]) =
      Function.update (fates past) completion.process none := by
    rw [fates_append]
    cases collects with
    | waited child outcome => exact Deed.collect_telling _ child ⟨_, outcome⟩
    | polled => rfl
  refine ⟨⟨_, command, shell, life, ended, own, forked, lives, lives.orReport, status⟩, ?_⟩
  have distinct := tracked.distinct
  rw [List.map_append, List.map_cons, List.nodup_middle, ← List.map_append] at distinct
  refine (tracked.sublist (by simp)).keep fun other member => ?_
  have apart : other.process ≠ completion.process := by
    rw [same]
    rintro equal
    exact (List.nodup_cons.mp distinct).1 (equal ▸ List.mem_map_of_mem member)
  rw [taken, Function.update_of_ne apart]

end Tracked

end CommandShell
