import CommandShell.Proofs.Evaluation.Parts

/-!
# Descriptors at the execution of a program

The way from a command to a program that is executed for it leads through children, each of which
evaluates a part of what its parent evaluates. A subshell sets the descriptors that it redirects,
the left side of a pipe its output and the right side its input, a background job none; the program
sets those that it redirects itself. What a descriptor stands for at the execution was set by the
last of these, which is the innermost, and every other descriptor is one that the first process had.
-/

set_option autoImplicit false

namespace CommandShell
open Shell

namespace Descriptors

variable {place : Nat} {table : Descriptors} {trace front back : List Event}

theorem after_opening {r : Redirection} {access : Access} {target d : Nat}
    (lawful : Lawful place table (opening r access target d)) (there : table target ≠ none) :
    table.after place (opening r access target d) =
      Function.update table target (some (.file place)) := by
  have fresh : table d = none := lawful.1
  have other : d ≠ target := fun same => there (same ▸ fresh)
  funext d'
  rw [opening, if_neg other]
  rcases eq_or_ne d' d with rfl | apart
  · simp [after, effect, moving, fresh, other]
  · rcases eq_or_ne d' target with rfl | apart'
    · simp [after, effect, moving, apart]
    · simp [after, effect, moving, apart, apart']

theorem after_opens {access : Redirection → Access} {target : Nat} {r : Option Redirection}
    {source : Option Source} (opens : Opens access target place r trace source)
    (lawful : Lawful place table trace) (there : table target ≠ none) :
    table.after place trace = fun d => if d = target then source.or (table d) else table d := by
  cases opens with
  | none => simp [after]
  | some r d =>
    rw [after_opening lawful there]
    funext d'
    simp [Function.update_apply]

theorem after_redirects {parts : StageParts} {layer : Layer}
    (redirects : Redirects parts place trace layer) (lawful : Lawful place table trace)
    (standard : table.Standard) : table.after place trace = table.under layer := by
  obtain @⟨_, _, input', _, input, output⟩ := redirects
  obtain ⟨now, later⟩ := lawful_append.mp lawful
  have first := after_opens input now (standard 0 (by omega))
  rw [first] at later
  have open' : (fun d => if d = standardInput then input'.or (table d) else table d)
      standardOutput ≠ none := standard 1 (by omega)
  rw [after_append, first, after_opens output later open']
  funext d
  by_cases atInput : d = standardInput
  · simp [under, atInput, standardInput, standardOutput]
  · simp [under, atInput]

theorem after_connecting {reader writer used target unused place' : Nat}
    (noReader : table reader = none) (noWriter : table writer = none)
    (sides : used = reader ∧ unused = writer ∨ used = writer ∧ unused = reader)
    (there : table target ≠ none) :
    (table.withPipe place reader writer).after place' (connecting used target unused) =
      Function.update table target (table.withPipe place reader writer used) := by
  have apart : target ≠ reader := fun same => there (same ▸ noReader)
  have apart' : target ≠ writer := fun same => there (same ▸ noWriter)
  funext d
  rcases sides with ⟨rfl, rfl⟩ | ⟨rfl, rfl⟩
  · simp only [connecting, moving, after, effect, List.cons_append, List.nil_append,
      Function.update_apply, withPipe]
    grind
  · simp only [connecting, moving, after, effect, List.cons_append, List.nil_append,
      Function.update_apply, withPipe]
    grind

end Descriptors

/-- From the start of a piece of work, which has this place in the history, the events lead to a
child that goes on with this part in this shell, under what the piece of work has set. -/
inductive Branch (shell : Shell) (place : Nat) :
    Work → List Event → Layer → Command → Shell → Prop
  | subshell {parts : StageParts} {wiring : List Event} {layer : Layer} (body : Command) :
    Redirects parts (place + born.length) wiring layer →
    Branch shell place (.subshell parts body) (born ++ wiring) layer body
      { shell with
        environment := assign parts.locals shell.environment
        vars := assign parts.locals shell.vars
        jobs := {} }
  | left (left right : Command) (reader writer : Nat) :
    Branch shell place (.pipe left right)
      (⟨.pipe, .ok (reader, writer)⟩ :: born ++ connecting writer standardOutput reader)
      { output := some (.writer place) } left { shell with jobs := {} }
  | right (left right : Command) (reader writer : Nat) (leftChild : Int) :
    Branch shell place (.pipe left right)
      (⟨.pipe, .ok (reader, writer)⟩ :: forks (.ok leftChild) :: born ++
        connecting reader standardInput writer)
      { input := some (.reader place) } right { shell with jobs := {} }
  | background (job : Command) :
    Branch shell place (.background job) born {} job { shell with jobs := {} }

/-- From the start of evaluating a command the events lead, through these constructs from the
outermost to the innermost, to the execution of a simple command in it. -/
inductive Descends : Command → Shell → Nat → List Event → List Layer → SimpleCommand → Prop
  | executed {c : Command} {shell middle : Shell} {place : Nat} {turns : List Turn}
    {command : SimpleCommand} {wiring : List Event} {layer : Layer} :
    c.plan.Comes turns (.simple command) → Worked shell turns middle →
    command.program ≠ "cd" → command.program ≠ "wait" →
    Redirects command.parts (place + (turns.flatMap Turn.events ++ born).length) wiring layer →
    Descends c shell place (turns.flatMap Turn.events ++ (born ++ wiring)) [layer] command
  | branch {c part : Command} {shell middle shell' : Shell} {place : Nat} {turns : List Turn}
    {w : Work} {command : SimpleCommand} {front back : List Event} {layer : Layer}
    {route : List Layer} :
    c.plan.Comes turns w → Worked shell turns middle →
    Branch middle (place + (turns.flatMap Turn.events).length) w front layer part shell' →
    Descends part shell' (place + (turns.flatMap Turn.events ++ front).length) back route command →
    Descends c shell place (turns.flatMap Turn.events ++ (front ++ back)) (layer :: route) command

section Descent
variable {shell shell' middle : Shell} {place : Nat} {w : Work} {front trace : List Event}
  {layer : Layer} {part : Command} {table : Descriptors}

theorem Branch.after (branch : Branch shell place w front layer part shell')
    (lawful : table.Lawful place front) (standard : table.Standard) :
    table.after place front = table.under layer := by
  cases branch with
  | subshell body redirects =>
    obtain ⟨-, later⟩ := Descriptors.lawful_append.mp lawful
    rw [Descriptors.after_append]
    exact Descriptors.after_redirects redirects later standard
  | left left right reader writer =>
    obtain ⟨noReader, noWriter, -⟩ := lawful.1
    have connected := @Descriptors.after_connecting place table reader writer writer standardOutput
      reader (place + 3) noReader noWriter (.inr ⟨rfl, rfl⟩) (standard 1 (by omega))
    refine connected.trans (funext fun d => ?_)
    by_cases atOutput : d = standardOutput
    · simp [Descriptors.under, Descriptors.withPipe, Function.update_apply, atOutput,
        standardInput, standardOutput]
    · simp [Descriptors.under, atOutput]
  | right left right reader writer leftChild =>
    obtain ⟨noReader, noWriter, distinct⟩ := lawful.1
    have connected := @Descriptors.after_connecting place table reader writer reader standardInput
      writer (place + 4) noReader noWriter (.inl ⟨rfl, rfl⟩) (standard 0 (by omega))
    refine connected.trans (funext fun d => ?_)
    by_cases atInput : d = standardInput
    · simp [Descriptors.under, Descriptors.withPipe, atInput, distinct]
    · simp [Descriptors.under, atInput]
  | background job =>
    funext d
    simp [Descriptors.after, born, Descriptors.effect, Descriptors.under]

variable {file : String} {argv : List String} {environment : Variables}

theorem Child.branch (place : Nat) (child : Child shell w front part shell') :
    ∃ layer, Branch shell place w front layer part shell' := by
  cases child with
  | subshell body wired =>
    obtain ⟨⟨layer, redirects⟩, -⟩ := gives_redirect (place + born.length) wired
    exact ⟨layer, .subshell _ redirects⟩
  | left left right reader writer => exact ⟨_, .left _ right reader writer⟩
  | right left right reader writer leftChild => exact ⟨_, .right left _ reader writer leftChild⟩
  | background job => exact ⟨_, .background _⟩

theorem exec_action (place : Nat)
    (h : Calls w.action.run shell trace (.exec file argv environment)) :
    (∃ command wiring layer, w = .simple command ∧ command.program ≠ "cd" ∧
      command.program ≠ "wait" ∧ trace = born ++ wiring ∧
      Redirects command.parts (place + born.length) wiring layer ∧ file = command.program ∧
      argv = command.argv) ∨
    ∃ front back layer part shell', trace = front ++ back ∧ part ∈ w.parts ∧
      Branch shell place w front layer part shell' ∧
      Calls part.evaluate.run shell' back (.exec file argv environment) := by
  obtain ⟨command, rfl⟩ | ⟨_, _, -, -, same⟩ |
    ⟨front, back, part, shell', rfl, member, child, evaluated⟩ := calls_action id h
  · obtain ⟨cd, wait, rfl, rfl, -, wiring, rfl, wired⟩ := exec_simple h
    obtain ⟨⟨layer, redirects⟩, -⟩ := gives_redirect (place + born.length) wired
    exact .inl ⟨command, wiring, layer, rfl, cd, wait, rfl, redirects, rfl, rfl⟩
  · cases same
  · obtain ⟨layer, branch⟩ := child.branch place
    exact .inr ⟨front, back, layer, part, shell', rfl, member, branch, evaluated⟩

theorem exists_descends {c : Command} (place : Nat)
    (h : Calls c.evaluate.run shell trace (.exec file argv environment)) :
    ∃ route command, Descends c shell place trace route command ∧ file = command.program ∧
      argv = command.argv := by
  induction c using Command.surface_induction generalizing shell place trace with
  | step c ih =>
    rw [Command.evaluate, ← Command.run_planFrom] at h
    -- The program is executed in the work that the plan has come to, or in a child of this work.
    obtain ⟨turns, w, middle, own, comes, worked, rfl, asked⟩ := Plan.calls_run h
    have there := (Command.within_surface c none).comes comes
    obtain ⟨command, wiring, layer, rfl, cd, wait, rfl, redirects, rfl, rfl⟩ |
      ⟨front, back, layer, part, shell', rfl, member, branch, evaluated⟩ :=
      exec_action (place + (turns.flatMap Turn.events).length) asked
    · rw [Nat.add_assoc, ← List.length_append] at redirects
      exact ⟨_, command, .executed comes worked cd wait redirects, rfl, rfl⟩
    · obtain ⟨route, command, descends, rfl, rfl⟩ := ih w there part member
        (place + (turns.flatMap Turn.events ++ front).length) evaluated
      exact ⟨_, command, .branch comes worked branch descends, rfl, rfl⟩

namespace Descriptors

theorem Standard.under (standard : table.Standard) (layer : Layer) :
    (table.under layer).Standard := by
  intro d small
  have there := standard d small
  simp only [Descriptors.under]
  split
  · cases layer.input <;> simp [there]
  · split
    · cases layer.output <;> simp [there]
    · exact there

/-- Of several constructs the innermost that sets a descriptor decides. -/
theorem foldl_under (route : List Layer) : route.foldl Descriptors.under table =
    table.under ⟨route.reverse.findSome? Layer.input, route.reverse.findSome? Layer.output⟩ := by
  induction route generalizing table with
  | nil =>
    funext d
    simp [Descriptors.under]
  | cons layer route ih =>
    have last (f : Layer → Option Source) :
        (layer :: route).reverse.findSome? f = (route.reverse.findSome? f).or (f layer) := by
      rw [List.reverse_cons, List.findSome?_append, List.findSome?_singleton]
    rw [List.foldl_cons, ih]
    funext d
    by_cases atInput : d = standardInput
    · simp only [Descriptors.under, atInput, if_true, last, Option.or_assoc]
    by_cases atOutput : d = standardOutput
    · have apart : standardOutput ≠ standardInput := by decide
      simp only [Descriptors.under, atOutput, if_neg apart, if_true, last, Option.or_assoc]
    · simp only [Descriptors.under, atInput, atOutput, if_false]

end Descriptors

theorem Descends.after {c : Command} {route : List Layer} {command : SimpleCommand}
    (h : Descends c shell place trace route command) (lawful : table.Lawful place trace)
    (standard : table.Standard) :
    table.after place trace = route.foldl Descriptors.under table := by
  induction h generalizing table with
  | executed _ worked _ _ redirects =>
    obtain ⟨before, own⟩ := Descriptors.lawful_append.mp lawful
    obtain ⟨-, wired⟩ := Descriptors.lawful_append.mp own
    rw [worked.after before] at wired
    rw [List.length_append, ← Nat.add_assoc] at redirects
    rw [Descriptors.after_append, worked.after before, Descriptors.after_append]
    exact Descriptors.after_redirects redirects wired standard
  | branch _ worked branch _ ih =>
    obtain ⟨before, own⟩ := Descriptors.lawful_append.mp lawful
    rw [worked.after before] at own
    obtain ⟨now, later⟩ := Descriptors.lawful_append.mp own
    rw [branch.after now standard] at later
    rw [Nat.add_assoc, ← List.length_append] at later
    rw [Descriptors.after_append, worked.after before, Descriptors.after_append,
      branch.after now standard, Nat.add_assoc, ← List.length_append]
    exact ih later (standard.under _)

end Descent

/-- However the system behaves, as long as it gives out only descriptors that are not open: a
program that is executed for a command is a simple command in it, and its input and its output are
what the innermost construct on the way has set, or those of the first process where none has; every
other descriptor is one of the first process. And a process that has evaluated a command, with or
without success, has the descriptors that it had before. -/
theorem descriptors_evaluate (c : Command) (shell : Shell) (place : Nat) {table : Descriptors}
    (standard : table.Standard) :
    (∀ trace file argv environment, table.Lawful place trace →
      Calls c.evaluate.run shell trace (.exec file argv environment) →
      ∃ route command, Descends c shell place trace route command ∧ file = command.program ∧
        argv = command.argv ∧
        table.after place trace standardInput =
          (route.reverse.findSome? Layer.input).or (table standardInput) ∧
        table.after place trace standardOutput =
          (route.reverse.findSome? Layer.output).or (table standardOutput) ∧
        ∀ d, d ≠ standardInput → d ≠ standardOutput → table.after place trace d = table d) ∧
    ∀ trace result shell', table.Lawful place trace →
      Gives c.evaluate.run shell trace result shell' → table.after place trace = table := by
  refine ⟨?_, fun trace result shell' lawful given => c.after_evaluate given lawful⟩
  intro trace file argv environment lawful asked
  obtain ⟨route, command, descends, rfl, rfl⟩ := exists_descends place asked
  have after := descends.after lawful standard
  rw [Descriptors.foldl_under] at after
  refine ⟨route, command, descends, rfl, rfl, ?_, ?_, ?_⟩
  · rw [after]
    rfl
  · rw [after]
    rfl
  · intro d other other'
    rw [after, Descriptors.under, if_neg other, if_neg other']

/-- The pipe `x < f | y`. -/
def readingPipe : Command :=
  .pipe (.simple { parts := { input := some ⟨.input, "f"⟩ }, program := "x" })
    (.simple { program := "y" })

def readingHistory : List Event :=
  [⟨.pipe, .ok (3, 4)⟩, ⟨.fork, .ok .child⟩, ⟨.setDisposition Signal.ofKeys .usual, ()⟩,
    ⟨.duplicate 4 1, .ok ()⟩, ⟨.close 4, .ok ()⟩, ⟨.close 3, .ok ()⟩, ⟨.fork, .ok .child⟩,
    ⟨.setDisposition Signal.ofKeys .usual, ()⟩, ⟨.openFile "f" .read, .ok 3⟩,
    ⟨.duplicate 3 0, .ok ()⟩, ⟨.close 3, .ok ()⟩]

/-- The left side reads the file and writes to the pipe. -/
theorem descriptors_evaluate_readingPipe : standardTable.Standard ∧
    standardTable.Lawful 0 readingHistory ∧
    Calls readingPipe.evaluate.run {} readingHistory (.exec "x" ["x"] {}) ∧
    ∃ route command, Descends readingPipe {} 0 readingHistory route command ∧
      "x" = command.program ∧ ["x"] = command.argv ∧
      some (.file 8) = (route.reverse.findSome? Layer.input).or (some (.inherited 0)) ∧
      some (.writer 0) = (route.reverse.findSome? Layer.output).or (some (.inherited 1)) ∧
      ∀ d, d ≠ 0 → d ≠ 1 → standardTable.after 0 readingHistory d = standardTable d := by
  have standard : standardTable.Standard := fun d small => by simp [standardTable, small]
  have lawful : standardTable.Lawful 0 readingHistory :=
    ⟨⟨rfl, rfl, by decide⟩, trivial, trivial, trivial, trivial, trivial, trivial, trivial, rfl,
      trivial, trivial, trivial⟩
  have asked : Calls readingPipe.evaluate.run {} readingHistory (.exec "x" ["x"] {}) :=
    ⟨_, .call _ (.call _ (.call _ (.call _ (.call _ (.call _ (.call _ (.call _ (.call _
      (.call _ (.call _ (.stay _)))))))))))⟩
  exact ⟨standard, lawful, asked,
    (descriptors_evaluate readingPipe {} 0 standard).1 _ _ _ _ lawful asked⟩

end CommandShell
