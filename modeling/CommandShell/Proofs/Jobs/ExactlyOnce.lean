import CommandShell.Proofs.Jobs.Rounds

/-!
# The table of jobs as a ledger

No status is handed out twice in a run, and each is the one that its child ended with. Where the
table is never forgotten, no child is waited for alone, and all jobs are waited for in the end, the
statuses that are reported are those of the children for which jobs were added, whenever these ended:
an entry is dropped only where its child has been reported before.
-/

set_option autoImplicit false

namespace CommandShell.JobTable
open Shell

variable {inherited : Descriptors} {past past' : List Deed} {shell shell' : Shell}
  {rounds front back : List Round} {round : Round} {account : Account} {job : Job}

theorem mem_completed {sorting : Sorting} {c : Completion} :
    c ∈ sorting.completed ↔ ∃ job ending, (job, .reported ending) ∈ sorting ∧
      c = ⟨job.process, ending.status⟩ := by
  rw [Sorting.completed, List.mem_filterMap]
  constructor
  · rintro ⟨⟨job, _ | ending | _ | _⟩, member, same⟩ <;> cases same
    exact ⟨job, ending, member, rfl⟩
  · rintro ⟨job, ending, member, rfl⟩
    exact ⟨_, member, rfl⟩

theorem mem_leaving {accounts : List Account} {test : Verdict → Bool} :
    job ∈ leaving accounts test ↔
      ∃ account ∈ accounts, ∃ verdict, (job, verdict) ∈ account.sorting ∧ test verdict := by
  simp [leaving, Sorting.having]

theorem Accounted.listed (accounted : Accounted round account)
    (member : job ∈ round.after.jobs) : job ∈ round.before.jobs ∨
      ∃ positive, round.move = .operate (.add job.process job.command positive) := by
  rw [accounted.after, List.mem_append] at member
  obtain stays | new := member
  · obtain ⟨⟨_, verdict⟩, kept, rfl⟩ := List.mem_map.mp stays
    left
    rw [← accounted.before]
    exact List.mem_map_of_mem (List.mem_filter.mp kept).1
  · right
    rw [accounted.added] at new
    rcases round with ⟨_ | ⟨process, command, positive⟩ | _ | _ | _ | _, _⟩
    all_goals first
      | obtain rfl := List.mem_singleton.mp new
        exact ⟨positive, rfl⟩
      | cases new

namespace Rounds

theorem here (run : Rounds inherited past shell (round :: back) past' shell') :
    round.past = past ∧ round.before = shell.jobs := by
  cases run <;> exact ⟨rfl, rfl⟩

theorem listed (run : Rounds inherited past shell rounds past' shell')
    (member : job ∈ shell'.jobs.jobs) : job ∈ shell.jobs.jobs ∨ ∃ round ∈ rounds, ∃ positive,
      round.move = .operate (.add job.process job.command positive) := by
  have step {round : Round} {rounds : List Round} {middle : JobTable}
      (accounted : ∃ account, Accounted round account) (after : round.after = middle)
      (h : job ∈ middle.jobs ∨ ∃ round ∈ rounds, ∃ positive,
        round.move = .operate (.add job.process job.command positive)) :
      job ∈ round.before.jobs ∨ ∃ other ∈ round :: rounds, ∃ positive,
        other.move = .operate (.add job.process job.command positive) := by
    subst after
    obtain ⟨account, accounted⟩ := accounted
    obtain now | ⟨other, there, adds⟩ := h
    · obtain before | adds := accounted.listed now
      · exact .inl before
      · exact .inr ⟨round, List.mem_cons_self, adds⟩
    · exact .inr ⟨other, List.mem_cons_of_mem _ there, adds⟩
  induction run with
  | nil => exact .inl member
  | start _ _ ih =>
    exact step (accounted_start ..) rfl (ih member)
  | operate done _ ih =>
    obtain ⟨_, account, -, -, -, first⟩ := Operation.does done
    exact step ⟨account, first⟩ rfl (ih member)

theorem starts (run : Rounds inherited past shell rounds past' shell') {child : Int}
    {ending : Option Ending} : ∀ round ∈ rounds, round.move = .start child ending ↔
      ∃ life, .forked child life ending ∈ round.deeds := by
  induction run with
  | nil => simp
  | @start past past' life shell shell' child' ending' rounds fresh later ih =>
    refine List.forall_mem_cons.mpr ⟨?_, ih⟩
    simp only [Move.start.injEq, List.mem_singleton, Deed.forked.injEq, exists_and_left]
    constructor
    · rintro ⟨rfl, rfl⟩
      exact ⟨rfl, life, rfl, rfl⟩
    · rintro ⟨rfl, _, -, rfl⟩
      exact ⟨rfl, rfl⟩
  | operate done _ ih =>
    refine List.forall_mem_cons.mpr ⟨?_, ih⟩
    obtain ⟨events, _, rfl, -⟩ := Operation.does done
    constructor
    · exact nofun
    · rintro ⟨life, member⟩
      obtain ⟨event, -, same⟩ := List.mem_map.mp member
      cases same

end Rounds

/-- No number was given to two children. No status is handed out twice, each is the one that its
child ended with, and every entry that was added is accounted for. -/
structure Exact (rounds : List Round) (past : List Deed) (table : JobTable) : Prop where
  distinct : (children past).Nodup
  once : ((handedOut rounds).map Completion.process).Nodup
  told : ∀ c ∈ handedOut rounds, ∃ life ending, .forked c.process life (some ending) ∈ past ∧
    c.status = ending.status
  accounted : ∃ accounts, List.Forall₂ Accounted rounds accounts ∧ Balances {} table accounts
  emptied : ∀ round ∈ rounds, round.move = .operate .awaitAll → round.after = {}

/-- The rounds neither forget the table nor wait for single children, and end with waiting for all.
No number that a job was added under is given to a child later, as where all children are started at
first: until then it would be no child's, and the job would be dropped or stay as the questions after
it are answered. -/
structure Settled (rounds : List Round) : Prop where
  collecting : ∀ round ∈ rounds, ¬ round.move.Awaits ∧ round.move ≠ .operate .forget
  orderly : (rounds.map Round.move).Pairwise fun earlier later => ∀ process command positive ending,
    earlier = .operate (.add process command positive) → later ≠ .start process ending
  last : ∃ front round, rounds = front ++ [round] ∧ round.move = .operate .awaitAll

/-- The moves are the same, and where they start a child it comes to the same status. -/
inductive Move.Alike : Move → Move → Prop
  | start (child : Int) {ending ending' : Option Ending} :
    ending.map Ending.status = ending'.map Ending.status →
    Alike (.start child ending) (.start child ending')
  | operate (operation : Operation) : Alike (.operate operation) (.operate operation)

theorem Move.Alike.symm {move move' : Move} (alike : move.Alike move') : move'.Alike move := by
  cases alike with
  | start child same => exact .start child same.symm
  | operate operation => exact .operate operation

theorem exists_partner {α β : Type} {R : α → β → Prop} {as : List α} {bs : List β} {b : β}
    (h : List.Forall₂ R as bs) (member : b ∈ bs) : ∃ a ∈ as, R a b := by
  induction h with
  | nil => cases member
  | cons first _ ih =>
    rcases List.mem_cons.mp member with rfl | member
    · exact ⟨_, List.mem_cons_self, first⟩
    · obtain ⟨a, there, related⟩ := ih member
      exact ⟨a, List.mem_cons_of_mem _ there, related⟩

theorem Accounted.emptied (accounted : Accounted round account)
    (waits : round.move = .operate .awaitAll) : round.after = {} := by
  have staying : account.sorting.having Verdict.isStaying = [] := by
    rw [Sorting.having, List.map_eq_nil_iff, List.filter_eq_nil_iff]
    rintro ⟨job, verdict⟩ member
    have allowed := accounted.verdicts _ member
    cases allowed with
    | stays patient => exact absurd waits patient
    | _ => exact Bool.false_ne_true
  have none := accounted.after
  rw [staying, accounted.added, waits] at none
  exact congrArg JobTable.mk none

namespace Rounds

theorem exact (run : Rounds inherited [] shell rounds past' shell') (empty : shell.jobs = {}) :
    Exact rounds past' shell'.jobs := by
  have tallied := run.tallied .nil
  obtain ⟨accounts, accounted⟩ := run.accounts
  have balances := run.balances accounted
  have handed : handedOut rounds = collected past' := by
    rw [run.handedOut_eq, run.past_eq, List.nil_append]
  rw [empty] at balances
  refine ⟨tallied.distinct, ?_, ?_, ⟨accounts, accounted, balances⟩, fun round member => ?_⟩
  · rw [handed]
    exact tallied.once
  · rw [handed]
    exact tallied.told
  · obtain ⟨account, -, here⟩ := exists_partner accounted.flip member
    exact here.emptied

theorem added_of_handed (run : Rounds inherited [] shell rounds past' shell')
    (empty : shell.jobs = {}) (settled : Settled rounds) {c : Completion}
    (member : c ∈ handedOut rounds) :
    (∃ round ∈ rounds, ∃ command positive,
      round.move = .operate (.add c.process command positive)) ∧
    ∃ round ∈ rounds, ∃ ending, round.move = .start c.process (some ending) ∧
      c.status = ending.status := by
  have exact := run.exact empty
  refine ⟨?_, ?_⟩
  · obtain ⟨round, here, handed⟩ := List.mem_flatMap.mp member
    obtain ⟨accounts, accounted, -⟩ := exact.accounted
    obtain ⟨account, -, own⟩ := exists_partner accounted.flip here
    rw [own.reported (settled.collecting round here).1] at handed
    obtain ⟨job, ending, entry, rfl⟩ := mem_completed.mp handed
    have before : job ∈ round.before.jobs := by
      rw [← own.before]
      exact List.mem_map_of_mem entry
    obtain ⟨front, back, rfl⟩ := List.append_of_mem here
    obtain ⟨middle, first, second⟩ := run.split
    rw [second.here.2] at before
    obtain listed | ⟨other, there, positive, adds⟩ := first.listed before
    · rw [empty] at listed
      cases listed
    · exact ⟨other, List.mem_append_left _ there, job.command, positive, adds⟩
  · obtain ⟨life, ending, forked, status⟩ := exact.told c member
    rw [run.past_eq, List.nil_append] at forked
    obtain ⟨round, here, deed⟩ := List.mem_flatMap.mp forked
    exact ⟨round, here, ending, (run.starts round here).mpr ⟨life, deed⟩, status⟩

/-- A job is dropped only when it has been told how its child ended. -/
theorem handed_of_dropped (run : Rounds inherited [] shell (front ++ round :: back) past' shell')
    (empty : shell.jobs = {}) (settled : Settled (front ++ round :: back))
    (listed : job ∈ round.before.jobs) {own : List Deed} (begun : own <+: round.deeds)
    (lost : fates (round.past ++ own) job.process = none) {ending : Option Ending}
    (started : ∃ other ∈ front ++ round :: back, other.move = .start job.process ending) :
    ∃ c ∈ handedOut (front ++ round :: back), c.process = job.process := by
  obtain ⟨middle, first, second⟩ := run.split
  rw [second.here.1] at lost
  rw [second.here.2] at listed
  obtain listed | ⟨earlier, there, positive, adds⟩ := first.listed listed
  · rw [empty] at listed
    cases listed
  -- The child was started before its job was added.
  obtain ⟨other, member, starts⟩ := started
  have before : other ∈ front := by
    refine (List.mem_append.mp member).resolve_right fun later => ?_
    have orderly := settled.orderly
    rw [List.map_append, List.pairwise_append] at orderly
    exact orderly.2.2 _ (List.mem_map_of_mem there) _ (List.mem_map_of_mem later) _ _ positive _
      adds starts
  obtain ⟨life, deed⟩ := (run.starts other member).mp starts
  have child : job.process ∈ children ([] ++ front.flatMap Round.deeds ++ own) :=
    mem_children.mpr ⟨life, _, List.mem_append_left _ (List.mem_flatMap_of_mem before deed)⟩
  obtain ⟨c, told, same⟩ := collected_of_lost child lost
  refine ⟨c, ?_, same⟩
  obtain ⟨rest, deeds⟩ := begun
  rw [run.handedOut_eq, List.flatMap_append, List.flatMap_cons, ← deeds, List.append_assoc,
    ← List.append_assoc, collected_append]
  exact List.mem_append_left _ told

theorem status_of_handed (run : Rounds inherited [] shell rounds past' shell')
    (empty : shell.jobs = {}) {c : Completion} (member : c ∈ handedOut rounds) {ending : Ending}
    (started : ∃ round ∈ rounds, round.move = .start c.process (some ending)) :
    c.status = ending.status := by
  have exact := run.exact empty
  obtain ⟨life, ending', forked, told⟩ := exact.told c member
  obtain ⟨round, here, starts⟩ := started
  obtain ⟨life', deed⟩ := (run.starts round here).mp starts
  have forked' : .forked c.process life' (some ending) ∈ past' := by
    rw [run.past_eq, List.nil_append]
    exact List.mem_flatMap_of_mem here deed
  cases ending_unique exact.distinct forked forked'
  exact told

theorem emptied (run : Rounds inherited [] shell rounds past' shell') (empty : shell.jobs = {})
    (settled : Settled rounds) : shell'.jobs = {} := by
  have exact := run.exact empty
  obtain ⟨front, last, rfl, waits⟩ := settled.last
  obtain ⟨middle, -, alone⟩ := run.split
  have none := exact.emptied last (by simp) waits
  cases alone with
  | start _ rest => cases waits
  | operate _ rest =>
    cases rest
    exact none

theorem leaves (run : Rounds inherited [] shell rounds past' shell') (empty : shell.jobs = {})
    (settled : Settled rounds) {process : Int} {command : String} {positive : 0 < process}
    (here : round ∈ rounds) (adds : round.move = .operate (.add process command positive)) :
    ∃ other ∈ rounds, ∃ account, Accounted other account ∧ ∃ job verdict, job.process = process ∧
      (job, verdict) ∈ account.sorting ∧ verdict ≠ .stays := by
  obtain ⟨accounts, accounted, balances⟩ := (run.exact empty).accounted
  obtain ⟨account, own, adding⟩ := exists_partner accounted.flip here
  have listed : (⟨process, round.before.freeIndex, command⟩ : Job) ∈
      shell'.jobs.jobs ++ leaving accounts Verdict.isReported ++
        leaving accounts Verdict.isDropped ++ leaving accounts Verdict.isForgotten := by
    apply balances.subset
    refine List.mem_append_right _ (List.mem_flatMap_of_mem own ?_)
    rw [adding.added, adds]
    exact List.mem_singleton_self _
  rw [run.emptied empty settled] at listed
  simp only [List.nil_append, List.mem_append, mem_leaving] at listed
  obtain (⟨account, member, verdict, entry, taken⟩ | ⟨account, member, verdict, entry, taken⟩) |
    ⟨account, member, verdict, entry, taken⟩ := listed
  all_goals
    obtain ⟨other, there, own⟩ := exists_partner accounted member
    refine ⟨other, there, account, own, _, verdict, rfl, entry, ?_⟩
    rintro rfl
    cases taken

/-- A child for which a job was added is reported in the end: whatever drops its entry has been told
before how it ended. -/
theorem handed_of_added (run : Rounds inherited [] shell rounds past' shell')
    (empty : shell.jobs = {}) (settled : Settled rounds) {process : Int} {ending : Ending}
    (added : ∃ round ∈ rounds, ∃ command positive,
      round.move = .operate (.add process command positive))
    (started : ∃ round ∈ rounds, round.move = .start process (some ending)) :
    ⟨process, ending.status⟩ ∈ handedOut rounds := by
  suffices ∃ c ∈ handedOut rounds, c.process = process by
    obtain ⟨c, member, rfl⟩ := this
    rwa [← run.status_of_handed empty member started]
  obtain ⟨round, here, command, positive, adds⟩ := added
  obtain ⟨other, there, account, own, job, verdict, rfl, entry, left⟩ :=
    run.leaves empty settled here adds
  have allowed := own.verdicts _ entry
  obtain ⟨collecting, keeping⟩ := settled.collecting other there
  cases verdict with
  | stays => exact absurd rfl left
  | forgotten =>
    cases allowed with
    | forgotten forgets => exact absurd forgets keeping
  | reported ending' =>
    refine ⟨⟨job.process, ending'.status⟩, List.mem_flatMap_of_mem there ?_, rfl⟩
    rw [own.reported collecting]
    exact mem_completed.mpr ⟨_, ending', entry, rfl⟩
  | dropped =>
    have before : job ∈ other.before.jobs := by
      rw [← own.before]
      exact List.mem_map_of_mem entry
    obtain ⟨front, back, rfl⟩ := List.append_of_mem there
    cases allowed with
    | dropped deeds _ begun lost =>
      exact run.handed_of_dropped empty settled before begun lost started

theorem handed_of_alike {inherited' : Descriptors} {rounds' : List Round} {last last' : List Deed}
    {first first' final final' : Shell} (run : Rounds inherited [] first rounds last final)
    (run' : Rounds inherited' [] first' rounds' last' final') (empty : first.jobs = {})
    (empty' : first'.jobs = {}) (settled : Settled rounds) (settled' : Settled rounds')
    (alike : List.Forall₂ (fun round round' => round.move.Alike round'.move) rounds rounds')
    {c : Completion} (member : c ∈ handedOut rounds) : c ∈ handedOut rounds' := by
  obtain ⟨⟨round, here, command, positive, adds⟩, other, there, ending, starts, status⟩ :=
    run.added_of_handed empty settled member
  obtain ⟨round', here', same⟩ := exists_partner alike.flip here
  obtain ⟨other', there', same'⟩ := exists_partner alike.flip there
  obtain ⟨ending', starts', told⟩ : ∃ ending' : Ending,
      other'.move = .start c.process (some ending') ∧ ending.status = ending'.status := by
    have same' : other.move.Alike other'.move := same'
    rw [starts] at same'
    generalize other'.move = move at same'
    cases same' with
    | @start _ _ ending' told =>
      cases ending' with
      | none => cases told
      | some ending' => exact ⟨ending', rfl, Option.some_inj.mp told⟩
  have adds' : round'.move = .operate (.add c.process command positive) := by
    have same : round.move.Alike round'.move := same
    rw [adds] at same
    generalize round'.move = move at same
    cases same with
    | operate => rfl
  have handed := run'.handed_of_added empty' settled' ⟨round', here', command, positive, adds'⟩
    ⟨other', there', starts'⟩
  rwa [← told, ← status] at handed

end Rounds

/-- The table is an exactly-once ledger, and once all jobs have been waited for, the statuses that
were reported do not depend on when the children ended. -/
theorem exactly_once :
    (∀ (inherited : Descriptors) (shell shell' : Shell) (rounds : List Round) (past : List Deed),
      shell.jobs = {} → Rounds inherited [] shell rounds past shell' →
      Exact rounds past shell'.jobs) ∧
    ∀ (inherited inherited' : Descriptors) (first first' final final' : Shell)
      (rounds rounds' : List Round) (last last' : List Deed),
      first.jobs = {} → first'.jobs = {} → Rounds inherited [] first rounds last final →
      Rounds inherited' [] first' rounds' last' final' → Settled rounds → Settled rounds' →
      List.Forall₂ (fun round round' => round.move.Alike round'.move) rounds rounds' →
      ∀ c, c ∈ handedOut rounds ↔ c ∈ handedOut rounds' := by
  refine ⟨fun _ _ _ _ _ empty run => run.exact empty, ?_⟩
  intro _ _ _ _ _ _ rounds rounds' _ _ empty empty' run run' settled settled' alike c
  have alike' : List.Forall₂ (fun round round' => round.move.Alike round'.move) rounds' rounds :=
    (alike.imp fun _ _ same => same.symm).flip
  exact ⟨run.handed_of_alike run' empty empty' settled settled' alike,
    run'.handed_of_alike run empty' empty settled' settled alike'⟩

/-- Two children; the second one will be ended by a signal. -/
def twins : List Deed :=
  [.forked 7 [] (some (.exited 3)), .forked 8 [] (some (.signaled .terminate false))]

/-- A job for each of them, another one for the first, and one for no child. -/
def listing : Shell := { jobs := ⟨[⟨7, 1, "a"⟩, ⟨8, 2, "b"⟩, ⟨7, 3, "c"⟩, ⟨99, 4, "d"⟩]⟩ }

def reports (c : Completion) : Deed := .did ⟨Reaping.completedNotice c, .ok ()⟩

/-- The second child has ended already, and the last question is interrupted. -/
def reapingEarly : List Deed :=
  [.did ⟨.poll 7, .ok .alive⟩, .did ⟨.poll 8, .ok (.ended (.signaled .terminate false))⟩,
    reports ⟨8, 143⟩, .did ⟨.poll 7, .ok .alive⟩, .did ⟨.poll 99, .error (.ofNumber 4)⟩]

/-- The first wait is interrupted before the child has ended. -/
def awaitingRest : List Deed :=
  [.did ⟨.wait 7, ⟨[.error .interrupted, .ok (.ended (.exited 3))], rfl⟩⟩, reports ⟨7, 3⟩,
    .did ⟨.wait 7, .missing⟩, .did ⟨.wait 99, .missing⟩]

def reapingNone : List Deed :=
  [.did ⟨.poll 7, .ok .alive⟩, .did ⟨.poll 8, .ok .alive⟩, .did ⟨.poll 7, .ok .alive⟩,
    .did ⟨.poll 99, .error .noChild⟩]

def awaitingBoth : List Deed :=
  [.did ⟨.wait 7, .ended (.exited 3)⟩, reports ⟨7, 3⟩,
    .did ⟨.wait 8, .ended (.signaled .terminate false)⟩, reports ⟨8, 143⟩,
    .did ⟨.wait 7, .missing⟩]

theorem rounds_twins {deeds rest : List Deed} {handed handed' : List Completion}
    {middle last : Shell}
    (reaps : Does standardTable twins Shell.reap listing deeds handed middle)
    (waits : Does standardTable (twins ++ deeds) awaitJobs middle rest handed' last) :
    ∃ rounds, Rounds standardTable [] {} rounds (twins ++ deeds ++ rest) last ∧ Settled rounds ∧
      handedOut rounds = handed ++ handed' ∧ rounds.map Round.move = [.start 7 (some (.exited 3)),
        .start 8 (some (.signaled .terminate false)), .operate (.add 7 "a" (by decide)),
        .operate (.add 8 "b" (by decide)), .operate (.add 7 "c" (by decide)),
        .operate (.add 99 "d" (by decide)), .operate .reap, .operate .awaitAll] := by
  have adds {past : List Deed} {shell : Shell} (process : Int) (command : String)
      (positive : 0 < process) :
      Does standardTable past (Operation.add process command positive).task shell [] []
        { shell with jobs := (shell.jobs.add process command).1 } :=
    ⟨_, pure, [], _, .stay _ _ _, .stay _⟩
  have reaps : Does standardTable twins Operation.reap.task listing deeds handed middle := reaps
  have waits :
      Does standardTable (twins ++ deeds) Operation.awaitAll.task middle rest handed' last := waits
  have listed := Rounds.operate reaps (.operate waits (.nil _ _))
  have run : Rounds standardTable [] {} _ _ _ := .start (by decide) (.start (by decide)
    (.operate (adds 7 "a" (by decide)) (.operate (adds 8 "b" (by decide))
      (.operate (adds 7 "c" (by decide)) (.operate (adds 99 "d" (by decide)) listed)))))
  refine ⟨_, run, ⟨?_, ?_, ?_⟩, ?_, ?_⟩
  · simp [Move.Awaits]
  · simp
  · exact ⟨_, _, (List.dropLast_append_getLast (by simp)).symm, rfl⟩
  · simp [handedOut]
  · rfl

theorem exactly_once_twins : ∃ rounds rounds' : List Round,
    Exact rounds (twins ++ reapingEarly ++ awaitingRest) {} ∧
      Exact rounds' (twins ++ reapingNone ++ awaitingBoth) {} ∧
      handedOut rounds = [⟨8, 143⟩, ⟨7, 3⟩] ∧ handedOut rounds' = [⟨7, 3⟩, ⟨8, 143⟩] ∧
      ∀ c, c ∈ handedOut rounds ↔ c ∈ handedOut rounds' := by
  have reapsEarly : Does standardTable twins Shell.reap listing reapingEarly [⟨8, 143⟩]
      { jobs := ⟨[⟨7, 1, "a"⟩, ⟨7, 3, "c"⟩, ⟨99, 4, "d"⟩]⟩ } := by
    refine ⟨_, pure, [], _, .did (Option.some_ne_none _) (.did rfl (.did trivial
      (.did (Option.some_ne_none _) (.did (fun _ => rfl) (.stay _ _ _))))), ?_⟩
    exact .call _ (.call _ (.call _ (.call _ (.call _ (.stay _)))))
  have awaitsRest : Does standardTable (twins ++ reapingEarly) awaitJobs
      { jobs := ⟨[⟨7, 1, "a"⟩, ⟨7, 3, "c"⟩, ⟨99, 4, "d"⟩]⟩ } awaitingRest [⟨7, 3⟩] {} := by
    have interrupted : Answers standardTable (twins ++ reapingEarly) (.wait 7)
        ⟨[.error .interrupted, .ok (.ended (.exited 3))], rfl⟩ :=
      List.forall_mem_cons.mpr ⟨.inl rfl, List.forall_mem_singleton.mpr rfl⟩
    refine ⟨_, pure, [], _, .did interrupted (.did trivial (.did (answers_missing rfl)
      (.did (answers_missing rfl) (.stay _ _ _)))), ?_⟩
    exact .call _ (.call _ (.call _ (.call _ (.stay _))))
  have reapsNone : Does standardTable twins Shell.reap listing reapingNone []
      { jobs := ⟨[⟨7, 1, "a"⟩, ⟨8, 2, "b"⟩, ⟨7, 3, "c"⟩]⟩ } := by
    refine ⟨_, pure, [], _, .did (Option.some_ne_none _) (.did (Option.some_ne_none _)
      (.did (Option.some_ne_none _) (.did (fun _ => rfl) (.stay _ _ _)))), ?_⟩
    exact .call _ (.call _ (.call _ (.call _ (.stay _))))
  have awaitsBoth : Does standardTable (twins ++ reapingNone) awaitJobs
      { jobs := ⟨[⟨7, 1, "a"⟩, ⟨8, 2, "b"⟩, ⟨7, 3, "c"⟩]⟩ } awaitingBoth [⟨7, 3⟩, ⟨8, 143⟩] {} := by
    refine ⟨_, pure, [], _, .did (answers_ended rfl) (.did trivial (.did (answers_ended rfl)
      (.did trivial (.did (answers_missing rfl) (.stay _ _ _))))), ?_⟩
    exact .call _ (.call _ (.call _ (.call _ (.call _ (.stay _)))))
  obtain ⟨rounds, run, settled, handed, moves⟩ := rounds_twins reapsEarly awaitsRest
  obtain ⟨rounds', run', settled', handed', moves'⟩ := rounds_twins reapsNone awaitsBoth
  have alike : List.Forall₂ (fun round round' => round.move.Alike round'.move) rounds rounds' := by
    have same : List.Forall₂ Move.Alike (rounds.map Round.move) (rounds'.map Round.move) := by
      rw [moves', ← moves]
      refine List.forall₂_same.mpr fun move _ => ?_
      cases move with
      | start child ending => exact .start child rfl
      | operate operation => exact .operate operation
    simpa using same
  obtain ⟨exact, agree⟩ := exactly_once
  exact ⟨rounds, rounds', exact _ _ _ _ _ rfl run, exact _ _ _ _ _ rfl run', handed, handed',
    agree _ _ _ _ _ _ _ _ _ _ rfl rfl run run' settled settled' alike⟩

end CommandShell.JobTable
