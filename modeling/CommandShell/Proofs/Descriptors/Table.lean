import CommandShell.Proofs.Evaluation.Plan

/-!
# Tables of descriptors

What a process has done tells what its descriptors stand for, if one knows what they stood for when
it began: opening a file and making a pipe give descriptors, moving one copies what it stands for,
and closing one gives it up whatever the reply. A fork hands the table on, so the history of a child
tells its table as well. A file or a pipe is known by the place of its call in the history.
-/

set_option autoImplicit false

namespace CommandShell
open Shell

inductive Source where
  /-- What the process had there from the start. -/
  | inherited (descriptor : Nat)
  | file (place : Nat)
  | reader (place : Nat)
  | writer (place : Nat)
  deriving DecidableEq, Repr

/-- What a construct puts on the standard descriptors. -/
structure Layer where
  input : Option Source := none
  output : Option Source := none

abbrev Descriptors := Nat → Option Source

def standardTable : Descriptors := fun d => if d ≤ 2 then some (.inherited d) else none

namespace Descriptors

def withPipe (table : Descriptors) (place reader writer : Nat) : Descriptors :=
  Function.update (Function.update table reader (some (.reader place))) writer
    (some (.writer place))

def effect (place : Nat) (table : Descriptors) : Event → Descriptors
  | ⟨.openFile _ _, .ok d⟩ => Function.update table d (some (.file place))
  | ⟨.pipe, .ok (reader, writer)⟩ => table.withPipe place reader writer
  | ⟨.duplicate source target, .ok _⟩ => Function.update table target (table source)
  | ⟨.close d, _⟩ => Function.update table d none
  | _ => table

def after (place : Nat) (table : Descriptors) : List Event → Descriptors
  | [] => table
  | event :: rest => after (place + 1) (table.effect place event) rest

/-- The system gives out only descriptors that are not open. -/
def Fresh (table : Descriptors) : Event → Prop
  | ⟨.openFile _ _, .ok d⟩ => table d = none
  | ⟨.pipe, .ok (reader, writer)⟩ => table reader = none ∧ table writer = none ∧ reader ≠ writer
  | _ => True

def Lawful (place : Nat) (table : Descriptors) : List Event → Prop
  | [] => True
  | event :: rest => table.Fresh event ∧ Lawful (place + 1) (table.effect place event) rest

def Standard (table : Descriptors) : Prop := ∀ d ≤ 2, table d ≠ none

/-- The table under a construct: the standard descriptors that it sets, and the others as they are.
-/
def under (table : Descriptors) (layer : Layer) : Descriptors := fun d =>
  if d = standardInput then layer.input.or (table d)
  else if d = standardOutput then layer.output.or (table d)
  else table d

variable {place : Nat} {table : Descriptors} {trace front back : List Event}

theorem after_append : table.after place (front ++ back) =
    (table.after place front).after (place + front.length) back := by
  induction front generalizing place table with
  | nil => rfl
  | cons event rest ih =>
    rw [List.cons_append, after, ih, after, List.length_cons]
    congr 1
    omega

theorem lawful_append : Lawful place table (front ++ back) ↔ Lawful place table front ∧
    Lawful (place + front.length) (table.after place front) back := by
  induction front generalizing place table with
  | nil => simp [Lawful, after]
  | cons event rest ih =>
    have places : place + 1 + rest.length = place + (event :: rest).length := by
      simp only [List.length_cons]
      omega
    rw [List.cons_append, Lawful, ih, Lawful, after, places, and_assoc]

/-! ## Events that change nothing -/

theorem effect_of_inert {event : Event} (h : event.call.IsCollecting) :
    table.effect place event = table := by
  obtain ⟨c, reply⟩ := event
  obtain ⟨_, _, rfl⟩ | rfl | rfl | rfl | ⟨_, rfl⟩ | ⟨_, rfl⟩ := h.forms <;> rfl

theorem after_of_collecting (h : ∀ event ∈ trace, event.call.IsCollecting) :
    table.after place trace = table := by
  induction trace generalizing place with
  | nil => rfl
  | cons event rest ih =>
    obtain ⟨first, later⟩ := List.forall_mem_cons.mp h
    rw [after, effect_of_inert first, ih later]

theorem after_of_waiting (h : ∀ event ∈ trace, event.call.IsWaiting) :
    table.after place trace = table :=
  after_of_collecting fun event member => .inl (h event member)

theorem after_of_inert (h : ∀ event ∈ trace, event.call.IsInert) :
    table.after place trace = table :=
  after_of_waiting fun event member => (h event member).isWaiting

theorem after_cons (event : Event) :
    table.after place (event :: trace) = (table.effect place event).after (place + 1) trace := rfl

theorem given_up {reader writer : Nat} {source source' : Option Source}
    (noReader : table reader = none) (noWriter : table writer = none) (distinct : reader ≠ writer) :
    Function.update (Function.update (Function.update (Function.update table reader source) writer
      source') writer none) reader none = table := by
  funext d
  rcases eq_or_ne d reader with rfl | atReader
  · simp [noReader]
  rcases eq_or_ne d writer with rfl | atWriter
  · simp [noWriter, atReader]
  · simp [atReader, atWriter]

end Descriptors

/-! ## Evaluating leaves the table as it was -/

namespace Work
open Descriptors

variable {w : Work} {shell shell' : Shell} {trace : List Event} {result : Except ShellError Int}
  {place : Nat} {table : Descriptors}

theorem after_of_waited (h : Waited trace result) : table.after place trace = table := by
  cases h <;> rfl

theorem after_of_moved {vars : Variables} {arguments : List String} {status : Int}
    (h : Moved vars arguments trace status) : table.after place trace = table := by
  cases h with
  | entered => rfl
  | refused _ _ _ inert =>
    have reported := @after_of_inert (place + 1) table _ inert
    exact reported
  | nowhere _ inert => exact after_of_inert inert

theorem after_of_started {given : Except ShellError Unit} (h : Started trace given) :
    table.after place trace = table := by
  cases h <;> rfl

theorem after_of_piped (h : Piped trace result) (lawful : Lawful place table trace) :
    table.after place trace = table := by
  cases h with
  | unopened => rfl
  | unstarted reader writer e closed closed' =>
    obtain ⟨⟨noReader, noWriter, distinct⟩, -⟩ := lawful
    exact given_up noReader noWriter distinct
  | started reader writer leftChild reply closed closed' waiting _ =>
    obtain ⟨⟨noReader, noWriter, distinct⟩, -⟩ := lawful
    simp only [after_cons, after_of_waiting waiting, effect]
    -- The ends are given up in the order in which they were made.
    rw [Function.update_comm distinct]
    exact given_up noReader noWriter distinct

theorem after_of_outcome (h : Outcome shell w trace result shell')
    (lawful : Lawful place table trace) : table.after place trace = table := by
  cases h with
  | simple ran =>
    cases ran with
    | moved _ moved => exact after_of_moved moved
    | collected _ collected =>
      cases collected with
      | all _ collecting => exact after_of_collecting collecting
      | misused _ inert => exact after_of_inert inert
    | external _ _ waited => exact after_of_waited waited
  | subshell waited => exact after_of_waited waited
  | pipe piped => exact after_of_piped piped lawful
  | background started => exact after_of_started started

end Work

theorem Worked.after {shell shell' : Shell} {turns : List Turn} (h : Worked shell turns shell')
    {place : Nat} {table : Descriptors}
    (lawful : table.Lawful place (turns.flatMap Turn.events)) :
    table.after place (turns.flatMap Turn.events) = table := by
  induction h generalizing place with
  | nil => rfl
  | cons first _ ih =>
    rw [List.flatMap_cons] at lawful ⊢
    obtain ⟨now, later⟩ := Descriptors.lawful_append.mp lawful
    rw [Descriptors.after_append]
    rw [Work.after_of_outcome (Work.gives_action first) now] at later ⊢
    exact ih later

/-- Whatever comes of evaluating a command, its process has the descriptors that it had before. -/
theorem Command.after_evaluate {c : Command} {shell shell' : Shell} {trace : List Event}
    {result : Except ShellError Int} {place : Nat} {table : Descriptors}
    (h : Gives c.evaluate.run shell trace result shell') (lawful : table.Lawful place trace) :
    table.after place trace = table := by
  rw [evaluate, ← run_planFrom] at h
  obtain ⟨turns, -, worked, rfl⟩ := Plan.gives_run h
  exact worked.after lawful

end CommandShell
