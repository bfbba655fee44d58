import CommandShell.Proofs.Jobs.Tally
import CommandShell.Proofs.Status.Lives

/-!
# Rounds of work with the table of jobs

A process works with its table of jobs: it adds entries for any processes, collects those that have
ended, waits for all or for one child, and forgets the table. Children are started in between, each
under a number of its own, and end whenever they do. In each round every entry of the table gets a
verdict. So every entry that was ever added is in the table at the end or has left it in one way:
reported with its child's status, dropped because there was no such child any more, or forgotten.
-/

set_option autoImplicit false

namespace CommandShell.JobTable
open Shell

inductive Operation where
  | add (process : Int) (command : String) (positive : 0 < process)
  | reap
  | awaitAll
  /-- Waits for one child, whether or not it is listed. -/
  | await (child : Int) (positive : 0 < child)
  | forget

def Operation.task : Operation → Shell.Task (List Completion)
  | .add process command _ => do
    modify fun shell => { shell with jobs := (shell.jobs.add process command).1 }
    return []
  | .reap => Shell.reap
  | .awaitAll => awaitJobs
  | .await child _ => do
    match ← (Shell.await child).run with
    | .ok status => return [⟨child, status⟩]
    | .error _ => return []
  | .forget => do
    modify fun shell => { shell with jobs := {} }
    return []

inductive Move where
  /-- A child is started that will end like this, if it ends. -/
  | start (child : Int) (ending : Option Ending)
  | operate (operation : Operation)

namespace Move

def Collects : Move → Prop
  | operate .reap | operate .awaitAll => True
  | _ => False

def Awaits : Move → Prop
  | operate (.await ..) => True
  | _ => False

def added (table : JobTable) : Move → List Job
  | operate (.add process command _) => [⟨process, table.freeIndex, command⟩]
  | _ => []

end Move

/-- A move, with what the process had done before it and what came of it. -/
structure Round where
  move : Move
  past : List Deed
  before : JobTable
  deeds : List Deed
  handed : List Completion
  after : JobTable

/-- From this past and this shell the rounds lead to that past and that shell. No number is given to
two children. -/
inductive Rounds (inherited : Descriptors) :
    List Deed → Shell → List Round → List Deed → Shell → Prop
  | nil (past : List Deed) (shell : Shell) : Rounds inherited past shell [] past shell
  | start {past past' life : List Deed} {shell shell' : Shell} {child : Int}
    {ending : Option Ending} {rounds : List Round} : child ∉ children past →
    Rounds inherited (past ++ [.forked child life ending]) shell rounds past' shell' →
    Rounds inherited past shell (⟨.start child ending, past, shell.jobs,
      [.forked child life ending], [], shell.jobs⟩ :: rounds) past' shell'
  | operate {past past' deeds : List Deed} {shell middle shell' : Shell} {operation : Operation}
    {handed : List Completion} {rounds : List Round} :
    Does inherited past operation.task shell deeds handed middle →
    Rounds inherited (past ++ deeds) middle rounds past' shell' →
    Rounds inherited past shell (⟨.operate operation, past, shell.jobs, deeds, handed,
      middle.jobs⟩ :: rounds) past' shell'

def handedOut (rounds : List Round) : List Completion := rounds.flatMap Round.handed

/-! ## What becomes of the entries in one round -/

/-- What becomes of the entries that are listed, and which are added. -/
structure Account where
  sorting : Sorting
  added : List Job

inductive Allowed (round : Round) (job : Job) : Verdict → Prop
  | stays : round.move ≠ .operate .awaitAll → round.move ≠ .operate .forget →
    Allowed round job .stays
  | reported (ending : Ending) : round.move.Collects → Allowed round job (.reported ending)
  /-- When it was asked after, there was no such child to collect. -/
  | dropped (front : List Deed) : round.move.Collects → front <+: round.deeds →
    fates (round.past ++ front) job.process = none → Allowed round job .dropped
  | forgotten : round.move = .operate .forget → Allowed round job .forgotten

/-- The account tells what has become of every entry. Entries that stay are what they were and keep
their order, an entry that is added comes last, and what is reported follows the table. -/
structure Accounted (round : Round) (account : Account) : Prop where
  before : account.sorting.jobs = round.before.jobs
  verdicts : ∀ entry ∈ account.sorting, Allowed round entry.1 entry.2
  reported : ¬ round.move.Awaits → round.handed = account.sorting.completed
  added : account.added = round.move.added round.before
  after : round.after.jobs = account.sorting.having Verdict.isStaying ++ account.added

variable {inherited : Descriptors} {past past' deeds : List Deed} {shell shell' : Shell}
  {handed : List Completion} {trace : List Event} {rounds front back : List Round} {round : Round}
  {account : Account} {job : Job}

theorem gives_reap (h : Gives Shell.reap shell trace handed shell') :
    ∃ sorting : Sorting, Sifted sorting trace ∧ sorting.jobs = shell.jobs.jobs ∧
      handed = sorting.completed ∧
      shell' = { shell with jobs := ⟨sorting.having Verdict.isStaying⟩ } := by
  obtain ⟨_, _, _, _, rfl, got, rest⟩ := gives_bind.mp h
  obtain ⟨rfl, rfl, rfl⟩ := gives_get.mp got
  obtain ⟨_, _, _, _, rfl, reaped, rest⟩ := gives_bind.mp rest
  obtain ⟨returns, rfl⟩ := gives_lift.mp reaped
  obtain ⟨front, ⟨completed, running⟩, _, rfl, each, done⟩ := Program.returns_bind.mp returns
  obtain ⟨rfl, same⟩ := Program.returns_done.mp done
  cases same
  obtain ⟨_, _, _, _, rfl, listed, rest⟩ := gives_bind.mp rest
  obtain ⟨rfl, rfl⟩ := gives_modify.mp listed
  obtain ⟨rfl, rfl, rfl⟩ := gives_pure.mp rest
  obtain ⟨sorting, sifted, jobs, rfl, rfl⟩ := sifted_reapEach each
  exact ⟨sorting, by simpa using sifted, jobs, rfl, rfl⟩

theorem gives_awaitJobs (h : Gives Shell.awaitJobs shell trace handed shell') :
    ∃ sorting : Sorting, Sifted sorting trace ∧ sorting.jobs = shell.jobs.jobs ∧
      handed = sorting.completed ∧ sorting.having Verdict.isStaying = [] ∧
      shell' = { shell with jobs := {} } := by
  obtain ⟨_, _, _, _, rfl, got, rest⟩ := gives_bind.mp h
  obtain ⟨rfl, rfl, rfl⟩ := gives_get.mp got
  obtain ⟨_, _, _, _, rfl, awaited, rest⟩ := gives_bind.mp rest
  obtain ⟨returns, rfl⟩ := gives_lift.mp awaited
  obtain ⟨front, completed, _, rfl, each, done⟩ := Program.returns_bind.mp returns
  obtain ⟨rfl, same⟩ := Program.returns_done.mp done
  cases same
  obtain ⟨_, _, _, _, rfl, emptied, rest⟩ := gives_bind.mp rest
  obtain ⟨rfl, rfl⟩ := gives_modify.mp emptied
  obtain ⟨rfl, rfl, rfl⟩ := gives_pure.mp rest
  obtain ⟨sorting, sifted, jobs, rfl, none⟩ := sifted_awaitEach each
  exact ⟨sorting, by simpa using sifted, jobs, rfl, none, rfl⟩

theorem gives_awaitChild {child : Int} {positive : 0 < child}
    (h : Gives (Operation.await child positive).task shell trace handed shell') :
    ∃ w, trace = [⟨.wait child, w⟩] ∧ handed = trace.filterMap Event.collected? ∧
      shell' = shell := by
  obtain ⟨_, _, _, _, rfl, waited, rest⟩ := gives_bind.mp h
  obtain ⟨w, rfl, rfl, rfl⟩ := gives_await waited
  cases told : w.outcome with
  | error e =>
    rw [told] at rest
    obtain ⟨rfl, rfl, rfl⟩ := gives_pure.mp rest
    exact ⟨w, rfl, by simp [collected_missed told], rfl⟩
  | ok ending =>
    rw [told] at rest
    obtain ⟨rfl, rfl, rfl⟩ := gives_pure.mp rest
    exact ⟨w, rfl, by simp [collected_waited told], rfl⟩

theorem fates_of_dropped {child : Int} {event : Event} {verdict : Verdict}
    (judged : Judged child event verdict) (dropped : verdict = .dropped)
    (answers : Answers inherited past event.call event.reply) : fates past child = none := by
  cases judged with
  | ended | awaited | running | interrupted => cases dropped
  | gone => exact answers rfl
  | refused missed => exact (fate_of_missed answers missed).2

theorem accounted_sifted {move : Move} {before : JobTable} {sorting : Sorting} {events : List Event}
    (collects : move.Collects) (sifted : Sifted sorting events)
    (answered : Answered inherited past events) (jobs : sorting.jobs = before.jobs)
    (patient : move = .operate .awaitAll → sorting.having Verdict.isStaying = []) :
    Accounted ⟨move, past, before, events.map Deed.did, sorting.completed,
      ⟨sorting.having Verdict.isStaying⟩⟩ ⟨sorting, []⟩ where
  before := jobs
  reported _ := rfl
  added := by
    rcases move with _ | ⟨_ | _ | _ | _ | _⟩ <;> first | exact collects.elim | rfl
  after := (List.append_nil _).symm
  verdicts := by
    rintro ⟨job, verdict⟩ member
    obtain ⟨front, event, back, rfl, judged⟩ := sifted.judged _ member
    cases verdict with
    | stays =>
      refine .stays (fun waits => ?_) (fun forgets => ?_)
      · have here : job ∈ sorting.having Verdict.isStaying :=
          List.mem_map.mpr ⟨_, List.mem_filter.mpr ⟨member, rfl⟩, rfl⟩
        rw [patient waits] at here
        cases here
      · rw [show move = _ from forgets] at collects
        exact collects
    | reported ending => exact .reported ending collects
    | dropped =>
      refine .dropped (front.map Deed.did) collects ?_ (fates_of_dropped judged rfl answered.at)
      exact ⟨(event :: back).map Deed.did, List.map_append.symm⟩
    | forgotten => cases judged

theorem accounted_alike {move : Move} {before after : JobTable} {verdict : Verdict}
    (quiet : move.Awaits ∨ handed = [] ∧ verdict.isReported = false) (allowed : ∀ job ∈ before.jobs,
      Allowed ⟨move, past, before, deeds, handed, after⟩ job verdict)
    (stays : after.jobs = (if verdict.isStaying then before.jobs else []) ++ move.added before) :
    Accounted ⟨move, past, before, deeds, handed, after⟩
      ⟨before.jobs.map fun job => (job, verdict), move.added before⟩ where
  before := Sorting.jobs_sorted _ _
  reported listed := by
    obtain ⟨rfl, silent⟩ := quiet.resolve_left listed
    exact (Sorting.completed_sorted _ silent).symm
  added := rfl
  after := by
    rw [Sorting.having_sorted]
    exact stays
  verdicts := by
    intro entry member
    obtain ⟨job, listed, rfl⟩ := List.mem_map.mp member
    exact allowed job listed

theorem accounted_start (child : Int) (ending : Option Ending) (past deeds : List Deed)
    (table : JobTable) :
    ∃ account, Accounted ⟨.start child ending, past, table, deeds, [], table⟩ account :=
  ⟨_, accounted_alike (.inr ⟨rfl, rfl⟩) (fun _ _ => .stays nofun nofun) (List.append_nil _).symm⟩

theorem Operation.does {operation : Operation}
    (h : Does inherited past operation.task shell deeds handed shell') :
    ∃ events account, deeds = events.map Deed.did ∧ Answered inherited past events ∧
      events.filterMap Event.collected? = handed ∧
      Accounted ⟨.operate operation, past, shell.jobs, deeds, handed, shell'.jobs⟩ account := by
  have given := h.gives
  cases operation with
  | add process command positive =>
    obtain ⟨_, _, _, _, none, listed, rest⟩ := gives_bind.mp given
    obtain ⟨rfl, rfl⟩ := gives_modify.mp listed
    obtain ⟨rfl, rfl, rfl⟩ := gives_pure.mp rest
    obtain rfl := List.map_eq_nil_iff.mp none
    exact ⟨[], _, rfl, trivial, rfl, accounted_alike (.inr ⟨rfl, rfl⟩)
      (fun job _ => .stays nofun nofun) rfl⟩
  | reap =>
    obtain ⟨_, sifted, -, -, -⟩ := gives_reap given
    obtain ⟨events, rfl, answered, given⟩ := h.answered_plain sifted.plain
    obtain ⟨sorting, sifted, jobs, rfl, rfl⟩ := gives_reap given
    exact ⟨events, _, rfl, answered, sifted.collected,
      accounted_sifted trivial sifted answered jobs nofun⟩
  | awaitAll =>
    obtain ⟨_, sifted, -, -, -⟩ := gives_awaitJobs given
    obtain ⟨events, rfl, answered, given⟩ := h.answered_plain sifted.plain
    obtain ⟨sorting, sifted, jobs, rfl, none, rfl⟩ := gives_awaitJobs given
    have collects : (Move.operate .awaitAll).Collects := trivial
    have accounted := accounted_sifted collects sifted answered jobs fun _ => none
    rw [none] at accounted
    exact ⟨events, _, rfl, answered, sifted.collected, accounted⟩
  | await child positive =>
    obtain ⟨reply, single, same, rfl⟩ := gives_awaitChild given
    obtain ⟨rfl, answers⟩ := h.answered_alone single nofun
    exact ⟨[_], _, rfl, ⟨answers, trivial⟩, same.symm, accounted_alike (.inl trivial)
      (fun job _ => .stays nofun nofun) (List.append_nil _).symm⟩
  | forget =>
    obtain ⟨_, _, _, _, none, emptied, rest⟩ := gives_bind.mp given
    obtain ⟨rfl, rfl⟩ := gives_modify.mp emptied
    obtain ⟨rfl, rfl, rfl⟩ := gives_pure.mp rest
    obtain rfl := List.map_eq_nil_iff.mp none
    exact ⟨[], _, rfl, trivial, rfl, accounted_alike (.inr ⟨rfl, rfl⟩)
      (fun job _ => .forgotten rfl) rfl⟩

/-! ## Runs -/

namespace Rounds

theorem past_eq (run : Rounds inherited past shell rounds past' shell') :
    past' = past ++ rounds.flatMap Round.deeds := by
  induction run with
  | nil => exact (List.append_nil _).symm
  | start _ _ ih => simpa using ih
  | operate _ _ ih => simpa using ih

theorem split (run : Rounds inherited past shell (front ++ back) past' shell') :
    ∃ middle, Rounds inherited past shell front (past ++ front.flatMap Round.deeds) middle ∧
      Rounds inherited (past ++ front.flatMap Round.deeds) middle back past' shell' := by
  induction front generalizing past shell with
  | nil => exact ⟨shell, by simpa using .nil past shell, by simpa using run⟩
  | cons round front ih =>
    rw [List.flatMap_cons, ← List.append_assoc]
    cases run with
    | start fresh later =>
      obtain ⟨middle, first, second⟩ := ih later
      exact ⟨middle, .start fresh first, second⟩
    | operate done later =>
      obtain ⟨middle, first, second⟩ := ih later
      exact ⟨middle, .operate done first, second⟩

theorem handedOut_eq (run : Rounds inherited past shell rounds past' shell') :
    handedOut rounds = collected (rounds.flatMap Round.deeds) := by
  induction run with
  | nil => rfl
  | start _ _ ih =>
    rw [handedOut, List.flatMap_cons, ← handedOut, ih, List.flatMap_cons, collected_append]
    rfl
  | operate done _ ih =>
    obtain ⟨events, _, rfl, -, same, -⟩ := Operation.does done
    rw [handedOut, List.flatMap_cons, ← handedOut, ih, List.flatMap_cons, collected_append,
      collected_did, same]

theorem tallied (run : Rounds inherited past shell rounds past' shell') (h : Tallied past) :
    Tallied past' := by
  induction run with
  | nil => exact h
  | start fresh _ ih => exact ih (h.start fresh _ _)
  | operate done _ ih =>
    obtain ⟨events, _, rfl, answered, -⟩ := Operation.does done
    exact ih (h.answered answered)

theorem accounts (run : Rounds inherited past shell rounds past' shell') :
    ∃ accounts, List.Forall₂ Accounted rounds accounts := by
  induction run with
  | nil => exact ⟨[], .nil⟩
  | start _ _ ih =>
    obtain ⟨accounts, accounted⟩ := ih
    obtain ⟨account, first⟩ := accounted_start ..
    exact ⟨account :: accounts, .cons first accounted⟩
  | operate done _ ih =>
    obtain ⟨accounts, accounted⟩ := ih
    obtain ⟨_, account, -, -, -, first⟩ := Operation.does done
    exact ⟨account :: accounts, .cons first accounted⟩

end Rounds

def leaving (accounts : List Account) (test : Verdict → Bool) : List Job :=
  accounts.flatMap fun account => account.sorting.having test

/-- The entries that were in a table at first and those that were added are in the table at the end,
or have left it in one way. -/
def Balances (before after : JobTable) (accounts : List Account) : Prop :=
  (before.jobs ++ accounts.flatMap Account.added).Perm
    (after.jobs ++ leaving accounts Verdict.isReported ++ leaving accounts Verdict.isDropped ++
      leaving accounts Verdict.isForgotten)

theorem Accounted.balances (accounted : Accounted round account) :
    Balances round.before round.after [account] := by
  rw [Balances, List.perm_iff_count]
  intro job
  have each := account.sorting.count_jobs job
  rw [accounted.before] at each
  simp only [leaving, List.flatMap_cons, List.flatMap_nil, List.append_nil, accounted.after,
    List.count_append]
  omega

theorem Balances.append {before middle after : JobTable} {accounts rest : List Account}
    (first : Balances before middle accounts) (second : Balances middle after rest) :
    Balances before after (accounts ++ rest) := by
  rw [Balances, List.perm_iff_count] at *
  intro job
  have this := first job
  have later := second job
  simp only [leaving, List.flatMap_append, List.count_append] at *
  omega

theorem Rounds.balances {accounts : List Account}
    (run : Rounds inherited past shell rounds past' shell')
    (accounted : List.Forall₂ Accounted rounds accounts) :
    Balances shell.jobs shell'.jobs accounts := by
  induction run generalizing accounts with
  | nil =>
    cases accounted
    simp [Balances, leaving]
  | start _ _ ih =>
    cases accounted with
    | cons first rest => exact first.balances.append (ih rest)
  | operate _ _ ih =>
    cases accounted with
    | cons first rest => exact first.balances.append (ih rest)

end CommandShell.JobTable
