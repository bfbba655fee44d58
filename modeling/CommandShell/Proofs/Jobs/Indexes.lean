import CommandShell.Proofs.Jobs.Sifting
import Mathlib.Order.Bounds.Defs

/-!
# The indexes of jobs

The search for the index of a new job tests one number after another, from one on, and has no bound
of its own. It ends because the jobs of a table cannot use all of the first `length + 1` indexes. What
collecting leaves of a table is a part of it, so the indexes in use stay positive and distinct.
-/

set_option autoImplicit false

namespace CommandShell.JobTable
open Program

def Uses (table : JobTable) (index : Nat) : Prop := ∃ job ∈ table.jobs, job.index = index

/-- From `start` on the search makes so many tests, and stops at an index that no job has. -/
inductive Searches (table : JobTable) : (start tests found : Nat) → Prop
  | free {index : Nat} : ¬table.Uses index → Searches table index 1 index
  | used {index tests found : Nat} : table.Uses index → Searches table (index + 1) tests found →
    Searches table index (tests + 1) found

/-- The tables that come of adding, collecting, waiting and forgetting in any order, whatever the
system replies. -/
inductive Reachable : JobTable → Prop
  | empty : Reachable {}
  | add {table : JobTable} (process : Int) (command : String) :
    Reachable table → Reachable (table.add process command).1
  | reap {table table' : JobTable} {logger : Option Logger} {completed : List Completion}
    {trace : List Event} : Reachable table →
    (table.reap logger).Returns trace (completed, table') → Reachable table'
  | awaitAll {table table' : JobTable} {logger : Option Logger} {completed : List Completion}
    {trace : List Event} : Reachable table →
    (table.awaitAll logger).Returns trace (completed, table') → Reachable table'
  | forget {table : JobTable} : Reachable table → Reachable {}

variable {table table' : JobTable}

/-! ## The search -/

/-- There are more numbers up to `length + 1` than jobs. -/
theorem exists_free (table : JobTable) :
    ∃ index ∈ List.range' 1 (table.jobs.length + 1), ¬table.Uses index := by
  by_contra none
  have covered : List.range' 1 (table.jobs.length + 1) ⊆ table.jobs.map Job.index := by
    intro index member
    by_contra absent
    exact none ⟨index, member, fun used => absent (List.mem_map.mpr used)⟩
  have distinct : (List.range' 1 (table.jobs.length + 1)).Nodup := List.nodup_range'
  have fewer := distinct.length_le_of_subset covered
  rw [List.length_range', List.length_map] at fewer
  omega

theorem find?_freeIndex (table : JobTable) :
    ((List.range' 1 (table.jobs.length + 1)).find? fun index =>
      !table.jobs.any fun job => job.index == index) = some table.freeIndex := by
  cases found : (List.range' 1 (table.jobs.length + 1)).find? fun index =>
      !table.jobs.any fun job => job.index == index with
  | some index => rw [freeIndex, found, Option.getD_some]
  | none =>
    obtain ⟨index, member, free⟩ := table.exists_free
    have used := List.find?_eq_none.mp found index member
    exact absurd (by simpa [Uses] using used) free

theorem freeIndex_mem (table : JobTable) :
    0 < table.freeIndex ∧ table.freeIndex ≤ table.jobs.length + 1 := by
  have member := (List.find?_range'_eq_some.mp table.find?_freeIndex).2.1
  rw [List.mem_range'_1] at member
  omega

theorem freeIndex_free (table : JobTable) : ¬table.Uses table.freeIndex := by
  have free := (List.find?_range'_eq_some.mp table.find?_freeIndex).1
  simpa [Uses] using free

theorem uses_of_lt_freeIndex {index : Nat} (positive : 0 < index)
    (below : index < table.freeIndex) : table.Uses index := by
  have taken := (List.find?_range'_eq_some.mp table.find?_freeIndex).2.2 index positive below
  simpa [Uses] using taken

theorem isLeast_freeIndex (table : JobTable) :
    IsLeast {index | 0 < index ∧ ¬table.Uses index} table.freeIndex := by
  refine ⟨⟨table.freeIndex_mem.1, table.freeIndex_free⟩, ?_⟩
  rintro index ⟨positive, free⟩
  by_contra below
  exact free (uses_of_lt_freeIndex positive (by omega))

theorem searches_from {start : Nat} (more : Nat) (free : ¬table.Uses (start + more))
    (used : ∀ index, start ≤ index → index < start + more → table.Uses index) :
    table.Searches start (more + 1) (start + more) := by
  induction more generalizing start with
  | zero => exact .free free
  | succ more ih =>
    have next : start + (more + 1) = start + 1 + more := by omega
    rw [next] at free used ⊢
    exact .used (used start (by omega) (by omega))
      (ih free fun index above below => used index (by omega) below)

theorem searches_freeIndex (table : JobTable) :
    table.Searches 1 table.freeIndex table.freeIndex := by
  obtain ⟨more, same⟩ := Nat.exists_eq_add_of_le' table.freeIndex_mem.1
  have free := table.freeIndex_free
  rw [same, Nat.add_comm] at free
  have searches := searches_from more free fun index above below =>
    uses_of_lt_freeIndex above (by omega)
  rwa [Nat.add_comm 1, ← same] at searches

/-! ## What every operation keeps -/

structure Numbered (table : JobTable) : Prop where
  positive : ∀ job ∈ table.jobs, 0 < job.index
  distinct : (table.jobs.map Job.index).Nodup

theorem numbered_empty : Numbered {} := ⟨by simp, by simp⟩

theorem Numbered.sublist (numbered : table.Numbered) (part : table'.jobs.Sublist table.jobs) :
    table'.Numbered :=
  ⟨fun job member => numbered.positive job (part.subset member),
    numbered.distinct.sublist (part.map Job.index)⟩

theorem Numbered.add (numbered : table.Numbered) (process : Int) (command : String) :
    (table.add process command).1.Numbered := by
  constructor
  · intro job member
    obtain earlier | last := List.mem_append.mp member
    · exact numbered.positive job earlier
    · rw [List.mem_singleton.mp last]
      exact table.freeIndex_mem.1
  · have fresh : table.freeIndex ∉ table.jobs.map Job.index :=
      fun member => table.freeIndex_free (List.mem_map.mp member)
    simpa [JobTable.add] using numbered.distinct.concat fresh

theorem sublist_of_reap {logger : Option Logger} {completed : List Completion} {trace : List Event}
    (h : (table.reap logger).Returns trace (completed, table')) :
    table'.jobs.Sublist table.jobs := by
  obtain ⟨front, ⟨completed', running⟩, _, rfl, each, last⟩ := returns_bind.mp h
  obtain ⟨rfl, same⟩ := returns_done.mp last
  cases same
  obtain ⟨sorting, -, jobs, -, rfl⟩ := sifted_reapEach each
  rw [← jobs]
  exact List.filter_sublist.map Prod.fst

theorem empty_of_awaitAll {logger : Option Logger} {completed : List Completion}
    {trace : List Event} (h : (table.awaitAll logger).Returns trace (completed, table')) :
    table' = {} := by
  obtain ⟨front, completed', _, rfl, each, last⟩ := returns_bind.mp h
  obtain ⟨rfl, same⟩ := returns_done.mp last
  cases same
  rfl

theorem Reachable.numbered (reachable : table.Reachable) : table.Numbered := by
  induction reachable with
  | empty => exact numbered_empty
  | add process command _ ih => exact ih.add process command
  | reap _ reaped ih => exact ih.sublist (sublist_of_reap reaped)
  | awaitAll _ awaited _ =>
    rw [empty_of_awaitAll awaited]
    exact numbered_empty
  | forget _ _ => exact numbered_empty

/-- In a table that comes of any operations the indexes are positive and distinct. The search for one
more ends within `length + 1` tests at the least number that no job has. This is the index of the job
that is added, which comes last, and the other entries stay as they are. -/
theorem indexes_lowest_free (reachable : table.Reachable) :
    (∀ job ∈ table.jobs, 0 < job.index) ∧ (table.jobs.map Job.index).Nodup ∧
    ∀ (process : Int) (command : String), ∃ index,
      table.add process command = (⟨table.jobs ++ [⟨process, index, command⟩]⟩, index) ∧
      (∃ tests ≤ table.jobs.length + 1, table.Searches 1 tests index) ∧
      IsLeast {index | 0 < index ∧ ¬table.Uses index} index ∧ index ≤ table.jobs.length + 1 := by
  obtain ⟨positive, distinct⟩ := reachable.numbered
  have bound := table.freeIndex_mem.2
  refine ⟨positive, distinct, fun process command => ⟨table.freeIndex, rfl, ?_, ?_, bound⟩⟩
  · exact ⟨table.freeIndex, bound, table.searches_freeIndex⟩
  · exact table.isLeast_freeIndex

/-- The second of three jobs has been collected, and the next one gets its index. -/
theorem indexes_lowest_free_gap :
    let gap : JobTable := ⟨[⟨7, 1, "a"⟩, ⟨9, 3, "c"⟩]⟩
    gap.Reachable ∧ (∀ job ∈ gap.jobs, 0 < job.index) ∧ (gap.jobs.map Job.index).Nodup ∧
      gap.add 11 "d" = (⟨[⟨7, 1, "a"⟩, ⟨9, 3, "c"⟩, ⟨11, 2, "d"⟩]⟩, 2) ∧
      (∃ tests ≤ 3, gap.Searches 1 tests 2) ∧
      IsLeast {index | 0 < index ∧ ¬gap.Uses index} 2 ∧ 2 ≤ gap.jobs.length + 1 := by
  intro gap
  have listed : Reachable ⟨[⟨7, 1, "a"⟩, ⟨8, 2, "b"⟩, ⟨9, 3, "c"⟩]⟩ :=
    ((Reachable.empty.add 7 "a").add 8 "b").add 9 "c"
  have collects : (reap none ⟨[⟨7, 1, "a"⟩, ⟨8, 2, "b"⟩, ⟨9, 3, "c"⟩]⟩).Returns
      [⟨.poll 7, .ok .alive⟩, ⟨.poll 8, .ok (.ended (.exited 0))⟩,
        ⟨.write 2 (Completion.message ⟨8, 0⟩ ++ "\n").toUTF8, .ok ()⟩, ⟨.poll 9, .ok .alive⟩]
      ([⟨8, 0⟩], gap) :=
    .call _ (.call _ (.call _ (.call _ (.stay _))))
  have reachable : gap.Reachable := listed.reap collects
  obtain ⟨positive, distinct, adds⟩ := indexes_lowest_free reachable
  obtain ⟨index, added, searches, least, bound⟩ := adds 11 "d"
  obtain rfl : 2 = index := congrArg Prod.snd added
  exact ⟨reachable, positive, distinct, added, searches, least, bound⟩

end CommandShell.JobTable
