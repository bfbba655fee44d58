import CommandShell.Proofs.Jobs.Ledger
import Mathlib

/-!
# The notices determine the open jobs

Numbers are written in decimal, so a notice tells its child, and a notice of one kind is none of the
other. Hence what a process has done leaves at most one list of open jobs.
-/

set_option autoImplicit false

namespace CommandShell.Reaping

theorem startedNotice_inj {child child' : Int} (h : startedNotice child = startedNotice child') :
    child = child' := by
  injection h with _ h
  have texts := String.toByteArray_inj.mp h
  have digits : (toString child).toList = (toString child').toList := by
    simpa [backgroundedMessage, String.ext_iff] using texts
  exact Int.repr_injective (String.toList_inj.mp digits)

theorem completedNotice_inj {c c' : Completion} (h : completedNotice c = completedNotice c') :
    c.process = c'.process := by
  injection h with _ h
  have texts := String.toByteArray_inj.mp h
  have blank (n : Int) : ' ' ∉ (toString n).toList :=
    fun h => absurd (Text.isDigit_of_mem_int h) (by decide)
  have digits : (toString c.process).toList = (toString c'.process).toList := by
    simp only [Completion.message, String.ext_iff, String.toList_append, List.append_assoc,
      List.append_cancel_left_eq, show " (".toList = ' ' :: ['('] from rfl,
      List.cons_append] at texts
    refine ((List.append_cons_inj_of_notMem (blank _) ?_).mp texts).1
    simpa using blank c.status
  exact Int.repr_injective (String.toList_inj.mp digits)

theorem completedNotice_injective {c c' : Completion} (h : completedNotice c = completedNotice c') :
    c = c' := by
  have process := completedNotice_inj h
  obtain ⟨p, status⟩ := c
  obtain ⟨p', status'⟩ := c'
  obtain rfl : p = p' := process
  injection h with _ h
  have digits : (toString status).toList = (toString status').toList := by
    simpa [Completion.message, String.ext_iff] using String.toByteArray_inj.mp h
  rw [Int.repr_injective (String.toList_inj.mp digits)]

theorem startedNotice_ne (child : Int) (c : Completion) :
    startedNotice child ≠ completedNotice c := by
  intro h
  injection h with _ h
  have texts := String.toByteArray_inj.mp h
  simp [backgroundedMessage, Completion.message, String.ext_iff] at texts

namespace Ledger

theorem of_nil {jobs : List Int} (ledger : Ledger [] jobs) : jobs = [] := by
  generalize whole : ([] : List Event) = events at ledger
  cases ledger with
  | nil => rfl
  | _ => simp at whole

theorem inv {past : List Event} {event : Event} {jobs : List Int}
    (ledger : Ledger (past ++ [event]) jobs) :
    (∃ child before, event.call = startedNotice child ∧ jobs = before ++ [child] ∧
        Ledger past before ∧ child ∉ before) ∨
      (∃ c front back, event.call = completedNotice c ∧ jobs = front ++ back ∧
        Ledger past (front ++ c.process :: back)) ∨
      (¬ IsNotice event.call ∧ Ledger past jobs) := by
  generalize whole : past ++ [event] = events at ledger
  cases ledger with
  | nil => simp at whole
  | started reply before _ fresh =>
    obtain ⟨rfl, same⟩ := List.append_inj' whole rfl
    cases same
    exact .inl ⟨_, _, rfl, rfl, before, fresh⟩
  | completed reply before _ =>
    obtain ⟨rfl, same⟩ := List.append_inj' whole rfl
    cases same
    exact .inr (.inl ⟨_, _, _, rfl, rfl, before⟩)
  | other event' ordinary before =>
    obtain ⟨rfl, same⟩ := List.append_inj' whole rfl
    cases same
    exact .inr (.inr ⟨ordinary, before⟩)

theorem nodup {past : List Event} {jobs : List Int} (ledger : Ledger past jobs) : jobs.Nodup := by
  induction ledger with
  | nil => exact List.nodup_nil
  | started _ _ _ fresh ih =>
    exact (List.perm_append_singleton _ _).nodup_iff.mpr (List.nodup_cons.mpr ⟨fresh, ih⟩)
  | completed _ _ _ ih => exact (List.nodup_cons.mp (List.nodup_middle.mp ih)).2
  | other _ _ _ ih => exact ih

theorem unique {past : List Event} {jobs jobs' : List Int} (ledger : Ledger past jobs)
    (ledger' : Ledger past jobs') : jobs = jobs' := by
  induction past using List.reverseRecOn generalizing jobs jobs' with
  | nil => rw [ledger.of_nil, ledger'.of_nil]
  | append_singleton past event ih =>
    -- The text of the last event tells which of the three cases both lists come from.
    rcases ledger.inv with ⟨child, before, call, rfl, rest, -⟩ | ⟨c, front, back, call, rfl, rest⟩ |
      ⟨ordinary, rest⟩
    · rcases ledger'.inv with ⟨child', before', call', rfl, rest', -⟩ |
        ⟨c', front', back', call', rfl, rest'⟩ | ⟨ordinary', rest'⟩
      · rw [ih rest rest', startedNotice_inj (call.symm.trans call')]
      · exact absurd (call.symm.trans call') (startedNotice_ne child c')
      · rw [call] at ordinary'
        exact absurd (isNotice_started child) ordinary'
    · rcases ledger'.inv with ⟨child', before', call', rfl, rest', -⟩ |
        ⟨c', front', back', call', rfl, rest'⟩ | ⟨ordinary', rest'⟩
      · exact absurd (call'.symm.trans call) (startedNotice_ne child' c)
      · have lists := ih rest rest'
        rw [← completedNotice_inj (call.symm.trans call')] at lists
        have fresh := (List.nodup_cons.mp (List.nodup_middle.mp rest.nodup)).1
        rw [List.mem_append, not_or] at fresh
        obtain ⟨rfl, -, rfl⟩ := (List.append_cons_inj_of_notMem fresh.1 fresh.2).mp lists
        rfl
      · rw [call] at ordinary'
        exact absurd (isNotice_completed c) ordinary'
    · rcases ledger'.inv with ⟨child', before', call', rfl, rest', -⟩ |
        ⟨c', front', back', call', rfl, rest'⟩ | ⟨ordinary', rest'⟩
      · rw [call'] at ordinary
        exact absurd (isNotice_started child') ordinary
      · rw [call'] at ordinary
        exact absurd (isNotice_completed c') ordinary
      · exact ih rest rest'

end Ledger

end CommandShell.Reaping
