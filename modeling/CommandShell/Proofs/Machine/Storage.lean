import CommandShell.Machine.Step
import CommandShell.Proofs.Program.Run
import Mathlib.Tactic.SplitIfs

/-!
# What calls do to files

A storage tells how files may change when a process gets a reply. Little is asked of it: opening a
file changes nothing where it fails or only reads, and neither do calls that have to do with
processes, signals and descriptors. The files of a machine are such a storage.
-/

set_option autoImplicit false

namespace CommandShell

def Call.IsApart : Call → Prop
  | .fork | .wait _ | .setDisposition .. | .duplicate .. | .close _ => True
  | _ => False

/-- Files, and how they may change with what processes do. -/
structure Storage (Files : Type) where
  Changes : Event → Files → Files → Prop
  refused {path : String} {access : Access} {e : Errno} {files files' : Files} :
    Changes ⟨.openFile path access, .error e⟩ files files' → files' = files
  read {path : String} {reply : Except Errno Nat} {files files' : Files} :
    Changes ⟨.openFile path .read, reply⟩ files files' → files' = files
  apart {event : Event} {files files' : Files} :
    event.call.IsApart → Changes event files files' → files' = files

/-- None of the events changes a file, whatever others do in between. -/
def Storage.Spares {Files : Type} (storage : Storage Files) (events : List Event) : Prop :=
  ∀ event ∈ events, ∀ files files', storage.Changes event files files' → files' = files

namespace Storage
variable {Files : Type} {storage : Storage Files} {events rest : List Event} {event : Event}

theorem spares_nil : storage.Spares [] := fun _ member => absurd member List.not_mem_nil

theorem spares_cons : storage.Spares (event :: events) ↔
    (∀ files files', storage.Changes event files files' → files' = files) ∧ storage.Spares events :=
  List.forall_mem_cons

theorem spares_append :
    storage.Spares (events ++ rest) ↔ storage.Spares events ∧ storage.Spares rest :=
  List.forall_mem_append

theorem spares_of_apart (h : ∀ event ∈ events, event.call.IsApart) : storage.Spares events :=
  fun event member _ _ changes => storage.apart (h event member) changes

theorem spares_refused (path : String) (access : Access) (e : Errno) :
    storage.Spares [⟨.openFile path access, .error e⟩] :=
  spares_cons.mpr ⟨fun _ _ changes => storage.refused changes, spares_nil⟩

end Storage

/-! ## The files of a machine -/

namespace Machine

variable {α : Type} {m m' : Machine} {pid : Int} {p : Process}

theorem files_giveDescriptor (m : Machine) (pid : Int) (number : Nat) (closesOnExec : Bool) :
    (m.giveDescriptor pid number closesOnExec).1.files = m.files := by
  rw [giveDescriptor]
  split <;> rfl

theorem files_openTarget_read (m : Machine) (target : OpenTarget) :
    (m.openTarget .read target).1.files = m.files := by
  rw [openTarget.eq_def]
  split
  · rfl
  · rfl
  · rfl
  · dsimp only
    split <;> rfl

theorem files_found {path : String} {access : Access} {files : FileSystem} {target : OpenTarget}
    (reading : access = .read)
    (found : (do
      if let some text := (m.textAt? path).filter fun _ => access == .read then
        return (m.files, .text text)
      let (files, id) ←
        if access == .read then (m.files.resolve p.directory path).map fun id => (m.files, id)
        else m.files.openForWriting p.mask p.directory path
      return (files, ← m.behind pid id) : Except Errno (FileSystem × OpenTarget)) =
        .ok (files, target)) : files = m.files := by
  subst reading
  cases told : m.textAt? path with
  | some text =>
    rw [told] at found
    cases found
    rfl
  | none =>
    rw [told] at found
    cases resolved : m.files.resolve p.directory path with
    | error e =>
      rw [resolved] at found
      cases found
    | ok id =>
      rw [resolved] at found
      change (m.behind pid id >>= fun target => pure (m.files, target)) = _ at found
      cases behind : m.behind pid id with
      | error e =>
        rw [behind] at found
        cases found
      | ok target =>
        rw [behind] at found
        cases found
        rfl

/-- Files change only where one is opened for writing. -/
theorem files_advanceOpen {path : String} {access : Access} {reply : Except Errno Nat}
    (h : m.advanceOpen pid p path access Program.done = .moved (.done reply) m') :
    m'.files = m.files ∨ access ≠ .read ∧ ∃ d, reply = .ok d := by
  cases opening : p.opening with
  | some r =>
    rw [advanceOpen, opening] at h
    dsimp only at h
    split at h
    · cases h
      exact .inl rfl
    · split_ifs at h <;> cases h <;> exact .inl (files_giveDescriptor _ _ _ _)
  | none =>
    rw [advanceOpen, opening] at h
    dsimp only at h
    by_cases room : p.mayOpen
    case neg =>
      rw [if_pos (by simpa using room)] at h
      cases h
      exact .inl rfl
    rw [if_neg (by simpa using room)] at h
    split at h
    case h_1 e _ =>
      cases h
      exact .inl rfl
    case h_2 files target found =>
      have kept (reading : access = .read) :
          ({ m with files }.openTarget access target).1.files = m.files := by
        rw [files_found reading found, reading]
        exact files_openTarget_read m target
      generalize { m with files }.openTarget access target = opened at h kept
      by_cases reading : access = .read
      · left
        split at h
        · cases h
          rw [files_giveDescriptor]
          exact kept reading
        · split_ifs at h <;> cases h <;> rw [files_giveDescriptor] <;> exact kept reading
      · split at h
        · cases h
          exact .inr ⟨reading, _, rfl⟩
        · split_ifs at h <;> cases h <;> exact .inr ⟨reading, _, rfl⟩

theorem files_advance_apart {c : Call} {reply : c.Reply} (apart : c.IsApart)
    (h : m.advance pid p c Program.done = .moved (.done reply) m') : m'.files = m.files := by
  cases c with
  | fork | setDisposition =>
    cases h
    rfl
  | wait | close =>
    rw [advance] at h
    split at h <;> cases h <;> rfl
  | duplicate source target =>
    rw [advance] at h
    split at h
    · cases h
      rfl
    · split_ifs at h <;> cases h <;> rfl
  | _ => exact apart.elim

def Changes (event : Event) (files files' : FileSystem) : Prop :=
  ∃ (m : Machine) (pid : Int) (p : Process) (m' : Machine), m.process? pid = some p ∧
    m.advance pid p event.call Program.done = .moved (.done event.reply) m' ∧
    files = m.files ∧ files' = m'.files

def storage : Storage FileSystem where
  Changes := Changes
  refused := by
    rintro path access e _ _ ⟨m, pid, p, m', -, answered, rfl, rfl⟩
    obtain same | ⟨-, d, opened⟩ := files_advanceOpen answered
    · exact same
    · cases opened
  read := by
    rintro path reply _ _ ⟨m, pid, p, m', -, answered, rfl, rfl⟩
    exact (files_advanceOpen answered).resolve_right fun writing => writing.1 rfl
  apart := by
    rintro event _ _ apart ⟨m, pid, p, m', -, answered, rfl, rfl⟩
    exact files_advance_apart apart answered

end Machine

end CommandShell
