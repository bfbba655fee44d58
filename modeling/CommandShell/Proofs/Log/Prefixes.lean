import CommandShell.Log.Tee
import Mathlib.Data.List.Chain
import Mathlib.Data.List.Infix

/-!
# What the sinks of a tee hold

A sink falls behind the others in two ways: it is full, or a full one stands before it. Nothing gets
past a full sink but an empty buffer. So what the sinks hold are prefixes of what was written, each
of the one before, and a write that has failed is followed only by failures.
-/

set_option autoImplicit false

namespace CommandShell

namespace Sink

/-- One write to a sink that has room for so many bytes: it takes as many as fit, and says how many.
Of a buffer that is not empty it has to take some. -/
def offer (sink : Sink) (buffer : List UInt8) : Option (Nat × Sink) :=
  match sink.room with
  | none => some (buffer.length, { sink with content := sink.content ++ buffer })
  | some room =>
    if buffer ≠ [] ∧ room = 0 then none
    else some (min room buffer.length,
      { content := sink.content ++ buffer.take room, room := some (room - buffer.length) })

/-- A buffer is offered to a sink, then what is left of it, until the sink has taken all of it or
refuses. -/
inductive Hands : Sink → List UInt8 → Sink → Bool → Prop
  | done (sink : Sink) : Hands sink [] sink true
  | refused {sink : Sink} {buffer : List UInt8} : buffer ≠ [] → sink.offer buffer = none →
    Hands sink buffer sink false
  | took {sink next last : Sink} {buffer : List UInt8} {count : Nat} {all : Bool} : buffer ≠ [] →
    sink.offer buffer = some (count, next) → Hands next (buffer.drop count) last all →
    Hands sink buffer last all

variable {sink : Sink} {buffer : List UInt8}

theorem writeAll_nil (sink : Sink) : sink.writeAll [] = (sink, true) := by
  obtain ⟨content, _ | room⟩ := sink <;> simp [writeAll]

theorem hands_writeAll (sink : Sink) (buffer : List UInt8) :
    Hands sink buffer (sink.writeAll buffer).1 (sink.writeAll buffer).2 := by
  by_cases empty : buffer = []
  · rw [empty, writeAll_nil]
    exact .done sink
  obtain ⟨content, _ | room⟩ := sink
  · refine .took empty rfl ?_
    rw [List.drop_length]
    exact .done _
  by_cases full : room = 0
  · subst full
    have positive : ¬ buffer.length = 0 := by simpa using empty
    simp only [writeAll, List.take_zero, List.append_nil, Nat.zero_sub, Nat.le_zero, positive,
      decide_false]
    exact .refused empty (by simp [offer, empty])
  refine .took empty (if_neg (by simp [full])) ?_
  by_cases fits : buffer.length ≤ room
  · rw [min_eq_right fits, List.drop_length]
    simp only [writeAll, fits, decide_true]
    exact .done _
  -- The sink has taken what fits, and the rest finds it full.
  · have short : room ≤ buffer.length := by omega
    have left : buffer.drop room ≠ [] := by simpa using fits
    have none : room - buffer.length = 0 := by omega
    rw [min_eq_left short]
    simp only [writeAll, fits, decide_false, none]
    exact .refused left (by simp [offer, left])

theorem writeAll_of_whole (whole : (sink.writeAll buffer).2 = true) :
    (sink.writeAll buffer).1.content = sink.content ++ buffer := by
  obtain ⟨content, _ | room⟩ := sink
  · rfl
  · have fits : buffer.length ≤ room := by simpa [writeAll] using whole
    simp [writeAll, List.take_of_length_le fits]

theorem writeAll_of_part (part : (sink.writeAll buffer).2 = false) :
    (sink.writeAll buffer).1.room = some 0 ∧
      ∃ taken rest, buffer = taken ++ rest ∧ rest ≠ [] ∧
        (sink.writeAll buffer).1.content = sink.content ++ taken := by
  obtain ⟨content, _ | room⟩ := sink
  · cases part
  · have short : room < buffer.length := by simpa [writeAll] using part
    have none : room - buffer.length = 0 := by omega
    refine ⟨by simp [writeAll, none], buffer.take room, buffer.drop room,
      (List.take_append_drop room buffer).symm, ?_, rfl⟩
    simpa using short

theorem writeAll_of_full (full : sink.room = some 0) (present : buffer ≠ []) :
    sink.writeAll buffer = (sink, false) := by
  obtain ⟨content, room⟩ := sink
  subst full
  simpa [writeAll] using present

end Sink

namespace Tee

def empties (rooms : List (Option Nat)) : List Sink := rooms.map fun room => { room }

/-- Each sink holds a prefix of what the one before it holds. -/
def Descends (sinks : List Sink) : Prop :=
  sinks.Pairwise fun before after => after.content <+: before.content

/-- The sinks hold all that was written up to the first full one, and from there on prefixes of
it. -/
def Chained (written : List UInt8) : List Sink → Prop
  | [] => True
  | sink :: rest =>
    sink.content = written ∧ Chained written rest ∨
      sink.content <+: written ∧ sink.room = some 0 ∧ Descends (sink :: rest)

def Full (sinks : List Sink) : Prop := ∃ sink ∈ sinks, sink.room = some 0

variable {sink : Sink} {sinks rest : List Sink} {written buffer : List UInt8}

/-! ## One write -/

theorem write_cons_whole (whole : (sink.writeAll buffer).2 = true) (rest : List Sink) :
    write buffer (sink :: rest) =
      ((sink.writeAll buffer).1 :: (write buffer rest).1, (write buffer rest).2) := by
  rw [write]
  generalize sink.writeAll buffer = result at whole ⊢
  obtain ⟨sink, _ | _⟩ := result
  · cases whole
  · rfl

theorem write_cons_part (part : (sink.writeAll buffer).2 = false) (rest : List Sink) :
    write buffer (sink :: rest) = ((sink.writeAll buffer).1 :: rest, .error .full) := by
  rw [write]
  generalize sink.writeAll buffer = result at part ⊢
  obtain ⟨sink, _ | _⟩ := result
  · rfl
  · cases part

theorem write_nil (sinks : List Sink) : write [] sinks = (sinks, .ok 0) := by
  induction sinks with
  | nil => rfl
  | cons sink rest ih => simp [write_cons_whole, Sink.writeAll_nil, ih]

theorem write_eq_ok_or_error (buffer : List UInt8) (sinks : List Sink) :
    (write buffer sinks).2 = .ok buffer.length ∨ (write buffer sinks).2 = .error .full := by
  induction sinks with
  | nil => exact .inl rfl
  | cons sink rest ih =>
    cases taken : (sink.writeAll buffer).2 with
    | true => rwa [write_cons_whole taken]
    | false => exact .inr (by rw [write_cons_part taken])

theorem write_eq_ok_iff :
    (write buffer sinks).2 = .ok buffer.length ↔
      (write buffer sinks).1.map Sink.content = sinks.map fun sink => sink.content ++ buffer := by
  induction sinks with
  | nil => simp [write]
  | cons sink rest ih =>
    cases taken : (sink.writeAll buffer).2 with
    | true => simp [write_cons_whole taken, Sink.writeAll_of_whole taken, ih]
    | false =>
      obtain ⟨-, front, back, same, left, content⟩ := Sink.writeAll_of_part taken
      have less : front ≠ buffer := by
        rw [same]
        simpa using left
      simp [write_cons_part taken, content, less]

theorem full_of_error (failed : (write buffer sinks).2 = .error .full) :
    Full (write buffer sinks).1 := by
  induction sinks with
  | nil => cases failed
  | cons sink rest ih =>
    cases taken : (sink.writeAll buffer).2 with
    | true =>
      rw [write_cons_whole taken] at failed ⊢
      obtain ⟨other, member, full⟩ := ih failed
      exact ⟨other, List.mem_cons_of_mem _ member, full⟩
    | false =>
      rw [write_cons_part taken]
      exact ⟨_, List.mem_cons_self, (Sink.writeAll_of_part taken).1⟩

theorem Full.write (full : Full sinks) (present : buffer ≠ []) :
    (write buffer sinks).2 = .error .full := by
  induction sinks with
  | nil => simp [Full] at full
  | cons sink rest ih =>
    cases taken : (sink.writeAll buffer).2 with
    | false => rw [write_cons_part taken]
    | true =>
      rw [write_cons_whole taken]
      obtain ⟨other, member, none⟩ := full
      obtain rfl | later := List.mem_cons.mp member
      · simp [Sink.writeAll_of_full none present] at taken
      · exact ih ⟨other, later, none⟩

theorem Full.kept (full : Full sinks) (buffer : List UInt8) : Full (Tee.write buffer sinks).1 := by
  by_cases empty : buffer = []
  · rwa [empty, write_nil]
  · exact full_of_error (full.write empty)

namespace Chained

theorem prefixes (chained : Chained written sinks) : ∀ sink ∈ sinks, sink.content <+: written := by
  induction sinks with
  | nil => simp
  | cons sink rest ih =>
    rw [List.forall_mem_cons]
    obtain ⟨same, chained⟩ | ⟨short, -, descends⟩ := chained
    · exact ⟨same ▸ List.prefix_rfl, ih chained⟩
    · exact ⟨short, fun other later => (List.rel_of_pairwise_cons descends later).trans short⟩

theorem descends (chained : Chained written sinks) : Descends sinks := by
  induction sinks with
  | nil => exact .nil
  | cons sink rest ih =>
    obtain ⟨same, chained⟩ | ⟨-, -, descends⟩ := chained
    · exact List.pairwise_cons.mpr ⟨same ▸ chained.prefixes, ih chained⟩
    · exact descends

theorem write (chained : Chained written sinks) (buffer : List UInt8) :
    Chained (written ++ buffer) (Tee.write buffer sinks).1 := by
  by_cases empty : buffer = []
  · rwa [empty, write_nil, List.append_nil]
  induction sinks with
  | nil => trivial
  | cons sink rest ih =>
    obtain ⟨same, chained⟩ | ⟨short, full, descends⟩ := chained
    · cases taken : (sink.writeAll buffer).2 with
      | true =>
        rw [write_cons_whole taken]
        exact .inl ⟨by rw [Sink.writeAll_of_whole taken, same], ih chained⟩
      -- The sink falls behind here, and those after it have not been written to.
      | false =>
        rw [write_cons_part taken]
        obtain ⟨full, front, back, rfl, -, content⟩ := Sink.writeAll_of_part taken
        rw [same] at content
        refine .inr ⟨?_, full, List.pairwise_cons.mpr ⟨fun other later => ?_, chained.descends⟩⟩
        · rw [content, ← List.append_assoc]
          exact List.prefix_append _ _
        · rw [content]
          exact (chained.prefixes other later).trans (List.prefix_append _ _)
    · have refused := Sink.writeAll_of_full full empty
      rw [write_cons_part (by rw [refused]), refused]
      exact .inr ⟨short.trans (List.prefix_append _ _), full, descends⟩

end Chained

/-! ## A sequence of writes -/

theorem chained_empties (rooms : List (Option Nat)) : Chained [] (empties rooms) := by
  induction rooms with
  | nil => trivial
  | cons room rooms ih => exact .inl ⟨rfl, ih⟩

def after (sinks : List Sink) (buffers : List (List UInt8)) : List Sink :=
  buffers.foldl (fun sinks buffer => (write buffer sinks).1) sinks

theorem after_append (sinks : List Sink) (front back : List (List UInt8)) :
    after sinks (front ++ back) = after (after sinks front) back :=
  List.foldl_append

theorem writeEach_getElem? {buffers : List (List UInt8)} {n : Nat} (nth : buffers[n]? = some buffer)
    (sinks : List Sink) :
    (writeEach sinks buffers)[n]? = some ((write buffer (after sinks (buffers.take n))).2,
      after sinks (buffers.take (n + 1))) := by
  induction buffers generalizing sinks n with
  | nil => simp at nth
  | cons first rest ih =>
    cases n with
    | zero =>
      obtain rfl : first = buffer := by simpa using nth
      rfl
    | succ n => exact ih (by simpa using nth) (write first sinks).1

theorem length_writeEach (sinks : List Sink) (buffers : List (List UInt8)) :
    (writeEach sinks buffers).length = buffers.length := by
  induction buffers generalizing sinks with
  | nil => rfl
  | cons buffer rest ih => exact congrArg (· + 1) (ih (write buffer sinks).1)

theorem Chained.after (chained : Chained written sinks) (buffers : List (List UInt8)) :
    Chained (written ++ buffers.flatten) (Tee.after sinks buffers) := by
  induction buffers generalizing written sinks with
  | nil => rwa [List.flatten_nil, List.append_nil]
  | cons buffer rest ih =>
    rw [List.flatten_cons, ← List.append_assoc]
    exact ih (chained.write buffer)

theorem Full.after (full : Full sinks) (buffers : List (List UInt8)) :
    Full (Tee.after sinks buffers) := by
  induction buffers generalizing sinks with
  | nil => exact full
  | cons buffer rest ih => exact ih (full.kept buffer)

theorem content_after {buffers : List (List UInt8)} (same : ∀ sink ∈ sinks, sink.content = written)
    (succeeds : ∀ m buffer, buffers[m]? = some buffer →
      (write buffer (after sinks (buffers.take m))).2 = .ok buffer.length) :
    ∀ sink ∈ after sinks buffers, sink.content = written ++ buffers.flatten := by
  induction buffers generalizing written sinks with
  | nil => simpa [after] using same
  | cons buffer rest ih =>
    have whole : (write buffer sinks).1.map Sink.content =
        sinks.map fun sink => sink.content ++ buffer := write_eq_ok_iff.mp (succeeds 0 buffer rfl)
    have next : ∀ sink ∈ (write buffer sinks).1, sink.content = written ++ buffer := by
      intro sink member
      have content := List.mem_map_of_mem (f := Sink.content) member
      rw [whole] at content
      obtain ⟨before, member, content⟩ := List.mem_map.mp content
      rw [← content, same before member]
    rw [List.flatten_cons, ← List.append_assoc]
    exact ih next fun m buffer nth => succeeds (m + 1) buffer nth

theorem write_fails_after {buffers : List (List UInt8)} {m n : Nat} {earlier : List UInt8}
    (mth : buffers[m]? = some earlier) (before : m < n)
    (failed : (write earlier (after sinks (buffers.take m))).2 = .error .full)
    (present : buffer ≠ []) : (write buffer (after sinks (buffers.take n))).2 = .error .full := by
  have start : after sinks (buffers.take (m + 1)) =
      (write earlier (after sinks (buffers.take m))).1 := by
    rw [List.take_add_one, mth, after_append]
    rfl
  obtain ⟨rest, whole⟩ : buffers.take (m + 1) <+: buffers.take n :=
    List.take_prefix_take_left (by omega)
  have full : Full (after sinks (buffers.take (m + 1))) := start ▸ full_of_error failed
  have later := full.after rest
  rw [← after_append, whole] at later
  exact later.write present

/-- Sinks take as many bytes as fit. Whatever is written to a tee of empty ones: after each write a
sink holds a prefix of all that was written, and of what each sink before it holds. A write gives
the length of the buffer just when every sink has taken the whole of it, and fails otherwise; after
a failed write all further ones fail but those of empty buffers; and while none has failed, every
sink holds all that was written. -/
theorem writeEach_prefixes (rooms : List (Option Nat)) (buffers : List (List UInt8)) :
    (∀ sink buffer, Sink.Hands sink buffer (sink.writeAll buffer).1 (sink.writeAll buffer).2) ∧
    (writeEach (empties rooms) buffers).length = buffers.length ∧
    ∀ n buffer, buffers[n]? = some buffer → ∃ result sinks,
      (writeEach (empties rooms) buffers)[n]? = some (result, sinks) ∧
      sinks = after (empties rooms) (buffers.take (n + 1)) ∧
      (∀ sink ∈ sinks, sink.content <+: (buffers.take (n + 1)).flatten) ∧ Descends sinks ∧
      (result = .ok buffer.length ∨ result = .error .full) ∧
      (result = .ok buffer.length ↔ sinks.map Sink.content =
        (after (empties rooms) (buffers.take n)).map fun sink => sink.content ++ buffer) ∧
      (∀ m < n, ∀ earlier, (writeEach (empties rooms) buffers)[m]? = some (.error .full, earlier) →
        buffer ≠ [] → result = .error .full) ∧
      ((∀ m ≤ n, ∀ earlier,
          (writeEach (empties rooms) buffers)[m]? ≠ some (.error .full, earlier)) →
        ∀ sink ∈ sinks, sink.content = (buffers.take (n + 1)).flatten) := by
  refine ⟨Sink.hands_writeAll, length_writeEach _ _, fun n buffer nth => ?_⟩
  have turn := writeEach_getElem? nth (empties rooms)
  have now : after (empties rooms) (buffers.take (n + 1)) =
      (write buffer (after (empties rooms) (buffers.take n))).1 := by
    rw [List.take_add_one, nth, after_append]
    rfl
  have chained := (chained_empties rooms).after (buffers.take (n + 1))
  refine ⟨_, _, turn, rfl, chained.prefixes, chained.descends, write_eq_ok_or_error _ _, ?_, ?_, ?_⟩
  · rw [now]
    exact write_eq_ok_iff
  · intro m before earlier failed present
    have inside : m < buffers.length := before.trans (List.getElem?_eq_some_iff.mp nth).1
    have mth : buffers[m]? = some buffers[m] := List.getElem?_eq_getElem inside
    rw [writeEach_getElem? mth] at failed
    exact write_fails_after mth before (congrArg Prod.fst (Option.some.inj failed)) present
  · intro none
    have blank : ∀ sink ∈ empties rooms, sink.content = [] := by simp [empties]
    refine content_after blank fun m written mth => ?_
    obtain ⟨small, mth⟩ : m < n + 1 ∧ buffers[m]? = some written := by
      simpa [List.getElem?_take] using mth
    rw [List.take_take, min_eq_left (by omega)]
    refine (write_eq_ok_or_error _ _).resolve_right fun failed => ?_
    have turn := writeEach_getElem? mth (empties rooms)
    rw [failed] at turn
    exact none m (by omega) _ turn

/-- One sink without a limit, one with room for three bytes, and one with room for eight. -/
theorem writeEach_prefixes_partial :
    let rooms : List (Option Nat) := [none, some 3, some 8]
    let buffers : List (List UInt8) := [[1, 2], [], [3, 4], [5]]
    writeEach (empties rooms) buffers =
      [(.ok 2, [⟨[1, 2], none⟩, ⟨[1, 2], some 1⟩, ⟨[1, 2], some 6⟩]),
        (.ok 0, [⟨[1, 2], none⟩, ⟨[1, 2], some 1⟩, ⟨[1, 2], some 6⟩]),
        (.error .full, [⟨[1, 2, 3, 4], none⟩, ⟨[1, 2, 3], some 0⟩, ⟨[1, 2], some 6⟩]),
        (.error .full, [⟨[1, 2, 3, 4, 5], none⟩, ⟨[1, 2, 3], some 0⟩, ⟨[1, 2], some 6⟩])] ∧
      buffers[3]? = some [5] ∧
      ∃ result sinks, (writeEach (empties rooms) buffers)[3]? = some (result, sinks) ∧
        result = .error .full ∧ Descends sinks := by
  intro rooms buffers
  have turns : writeEach (empties rooms) buffers =
      [(.ok 2, [⟨[1, 2], none⟩, ⟨[1, 2], some 1⟩, ⟨[1, 2], some 6⟩]),
        (.ok 0, [⟨[1, 2], none⟩, ⟨[1, 2], some 1⟩, ⟨[1, 2], some 6⟩]),
        (.error .full, [⟨[1, 2, 3, 4], none⟩, ⟨[1, 2, 3], some 0⟩, ⟨[1, 2], some 6⟩]),
        (.error .full, [⟨[1, 2, 3, 4, 5], none⟩, ⟨[1, 2, 3], some 0⟩, ⟨[1, 2], some 6⟩])] := rfl
  obtain ⟨result, sinks, turn, -, -, descends, -, -, later, -⟩ :=
    (writeEach_prefixes rooms buffers).2.2 3 [5] rfl
  exact ⟨turns, rfl, result, sinks, turn, later 2 (by decide) _ rfl (by decide), descends⟩

end Tee

end CommandShell
