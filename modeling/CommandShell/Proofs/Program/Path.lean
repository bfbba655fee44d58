import CommandShell.Proofs.Program.Run

/-!
# Paths through programs

A path through the tree of a program is the list of the calls along it with their replies. At a fork
it may go to either side, so a path that goes to the child's side is the history of the child: what
its parent had done when it was forked, and then what it did itself. A path through a sequence of
two programs is one through the first, or one that returns from the first followed by one through
the second; each task has the paths of its parts.
-/

set_option autoImplicit false

namespace CommandShell

variable {α β σ ε : Type}

namespace Program

/-- The replies lead from the first program to what is left of it. -/
inductive Path : Program α → List Event → Program α → Prop
  | stay (p : Program α) : Path p [] p
  | call {c : Call} {next : c.Reply → Program α} {trace : List Event} {q : Program α}
      (reply : c.Reply) : Path (next reply) trace q → Path (call c next) (⟨c, reply⟩ :: trace) q

def Returns (p : Program α) (trace : List Event) (a : α) : Prop := p.Path trace (done a)

def Asks (p : Program α) (trace : List Event) (c : Call) : Prop :=
  ∃ next, p.Path trace (call c next)

theorem path_done {a : α} {trace : List Event} {q : Program α} :
    (done a).Path trace q ↔ trace = [] ∧ q = done a := by
  constructor
  · rintro ⟨⟩
    exact ⟨rfl, rfl⟩
  · rintro ⟨rfl, rfl⟩
    exact .stay _

theorem path_call {c : Call} {next : c.Reply → Program α} {trace : List Event} {q : Program α} :
    (call c next).Path trace q ↔ (trace = [] ∧ q = call c next) ∨
      ∃ reply rest, trace = ⟨c, reply⟩ :: rest ∧ (next reply).Path rest q := by
  constructor
  · intro path
    cases path with
    | stay => exact .inl ⟨rfl, rfl⟩
    | call reply path => exact .inr ⟨reply, _, rfl, path⟩
  · rintro (⟨rfl, rfl⟩ | ⟨reply, rest, rfl, path⟩)
    · exact .stay _
    · exact .call reply path

theorem Path.append {p q r : Program α} {trace rest : List Event} (first : p.Path trace q)
    (second : q.Path rest r) : p.Path (trace ++ rest) r := by
  induction first with
  | stay => exact second
  | call reply _ ih => exact .call reply (ih second)

theorem Path.append_iff {p q r : Program α} {trace rest : List Event} (first : p.Path trace q) :
    p.Path (trace ++ rest) r ↔ q.Path rest r := by
  refine ⟨fun whole => ?_, first.append⟩
  induction first with
  | stay => exact whole
  | call reply _ ih =>
    cases whole with
    | call _ whole => exact ih whole

theorem Path.split {p r : Program α} {front back : List Event} (path : p.Path (front ++ back) r) :
    ∃ q, p.Path front q ∧ q.Path back r := by
  induction front generalizing p with
  | nil => exact ⟨p, .stay _, path⟩
  | cons event front ih =>
    cases path with
    | call reply path =>
      obtain ⟨q, first, second⟩ := ih path
      exact ⟨q, .call reply first, second⟩

theorem Path.unique {p q r : Program α} {trace : List Event} (first : p.Path trace q)
    (second : p.Path trace r) : q = r := by
  rw [← List.append_nil trace] at second
  cases first.append_iff.mp second
  rfl

theorem Path.asks_iff {p q : Program α} {trace : List Event} {c : Call} (path : p.Path trace q) :
    p.Asks trace c ↔ ∃ next, q = .call c next := by
  constructor
  · rintro ⟨next, other⟩
    exact ⟨next, path.unique other⟩
  · rintro ⟨next, rfl⟩
    exact ⟨next, path⟩

theorem Path.bind {p q : Program α} {trace : List Event} (path : p.Path trace q)
    (f : α → Program β) : (p >>= f).Path trace (q >>= f) := by
  induction path with
  | stay => exact .stay _
  | call reply _ ih => exact .call reply ih

theorem returns_done {a b : α} {trace : List Event} :
    (done a).Returns trace b ↔ trace = [] ∧ a = b := by
  simp [Returns, path_done, eq_comm]

theorem returns_call {c : Call} {next : c.Reply → Program α} {trace : List Event} {a : α} :
    (call c next).Returns trace a ↔
      ∃ reply rest, trace = ⟨c, reply⟩ :: rest ∧ (next reply).Returns rest a := by
  simp [Returns, path_call]

theorem asks_done {a : α} {trace : List Event} {c : Call} : ¬ (done a).Asks trace c := by
  simp [Asks, path_done]

theorem asks_call {c c' : Call} {next : c.Reply → Program α} {trace : List Event} :
    (call c next).Asks trace c' ↔ (trace = [] ∧ c = c') ∨
      ∃ reply rest, trace = ⟨c, reply⟩ :: rest ∧ (next reply).Asks rest c' := by
  constructor
  · rintro ⟨next', path⟩
    cases path with
    | stay => exact .inl ⟨rfl, rfl⟩
    | call reply path => exact .inr ⟨reply, _, rfl, next', path⟩
  · rintro (⟨rfl, rfl⟩ | ⟨reply, rest, rfl, next', path⟩)
    · exact ⟨next, .stay _⟩
    · exact ⟨next', .call reply path⟩

theorem returns_bind {p : Program α} {f : α → Program β} {trace : List Event} {b : β} :
    (p >>= f).Returns trace b ↔ ∃ front a back, trace = front ++ back ∧ p.Returns front a ∧
      (f a).Returns back b := by
  constructor
  · intro whole
    induction p generalizing trace with
    | done a => exact ⟨[], a, trace, rfl, .stay _, whole⟩
    | call c next ih =>
      obtain ⟨reply, rest, rfl, later⟩ := returns_call.mp whole
      obtain ⟨front, a, back, rfl, first, second⟩ := ih reply later
      exact ⟨⟨c, reply⟩ :: front, a, back, rfl, .call reply first, second⟩
  · rintro ⟨front, a, back, rfl, first, second⟩
    exact (first.bind f).append second

theorem asks_bind {p : Program α} {f : α → Program β} {trace : List Event} {c : Call} :
    (p >>= f).Asks trace c ↔ p.Asks trace c ∨
      ∃ front a back, trace = front ++ back ∧ p.Returns front a ∧ (f a).Asks back c := by
  constructor
  · intro whole
    induction p generalizing trace with
    | done a => exact .inr ⟨[], a, trace, rfl, .stay _, whole⟩
    | call c' next ih =>
      obtain ⟨rfl, rfl⟩ | ⟨reply, rest, rfl, later⟩ := asks_call.mp whole
      · exact .inl ⟨next, .stay _⟩
      · obtain ⟨next', path⟩ | ⟨front, a, back, rfl, first, second⟩ := ih reply later
        · exact .inl ⟨next', .call reply path⟩
        · exact .inr ⟨⟨c', reply⟩ :: front, a, back, rfl, .call reply first, second⟩
  · rintro (⟨next, path⟩ | ⟨front, a, back, rfl, first, next, second⟩)
    · exact ⟨_, path.bind f⟩
    · exact ⟨next, (first.bind f).append second⟩

/-- All calls of the program are of a kind, whatever the replies. -/
def Only (kind : Call → Prop) : Program α → Prop
  | done _ => True
  | call c next => kind c ∧ ∀ reply, (next reply).Only kind

theorem Only.bind {kind : Call → Prop} {p : Program α} {f : α → Program β} (first : p.Only kind)
    (rest : ∀ a, (f a).Only kind) : (p >>= f).Only kind := by
  induction p with
  | done a => exact rest a
  | call c next ih => exact ⟨first.1, fun reply => ih reply (first.2 reply)⟩

theorem returns_perform {c : Call} {trace : List Event} {reply : c.Reply} :
    (perform c).Returns trace reply ↔ trace = [⟨c, reply⟩] := by
  rw [perform, returns_call]
  constructor
  · rintro ⟨reply', rest, rfl, done⟩
    obtain ⟨rfl, rfl⟩ := returns_done.mp done
    rfl
  · rintro rfl
    exact ⟨reply, [], rfl, .stay _⟩

theorem asks_perform {c c' : Call} {trace : List Event} :
    (perform c).Asks trace c' ↔ trace = [] ∧ c = c' := by
  rw [perform, asks_call]
  simp [asks_done]

theorem only_perform {kind : Call → Prop} {c : Call} (h : kind c) : (perform c).Only kind :=
  ⟨h, fun _ => trivial⟩

theorem Only.path {kind : Call → Prop} {p q : Program α} {trace : List Event} (only : p.Only kind)
    (path : p.Path trace q) : (∀ event ∈ trace, kind event.call) ∧ q.Only kind := by
  induction path with
  | stay => exact ⟨by simp, only⟩
  | call reply _ ih =>
    obtain ⟨before, after⟩ := ih (only.2 reply)
    exact ⟨List.forall_mem_cons.mpr ⟨only.1, before⟩, after⟩

theorem Only.mono {kind kind' : Call → Prop} {p : Program α} (only : p.Only kind)
    (h : ∀ c, kind c → kind' c) : p.Only kind' := by
  induction p with
  | done a => trivial
  | call c next ih => exact ⟨h c only.1, fun reply => ih reply (only.2 reply)⟩

theorem Only.asked {kind : Call → Prop} {p : Program α} {trace : List Event} {c : Call}
    (only : p.Only kind) (asks : p.Asks trace c) : kind c := by
  obtain ⟨next, path⟩ := asks
  exact (only.path path).2.1

/-! ## Writing, crashing and waiting -/

theorem not_returns_crash {a : α} {trace : List Event} : ¬ (crash : Program α).Returns trace a := by
  rw [crash, returns_call]
  rintro ⟨never, -⟩
  exact never.elim

theorem asks_crash {trace : List Event} {c : Call} :
    (crash : Program α).Asks trace c ↔ trace = [] ∧ .crash = c := by
  rw [crash, asks_call, or_iff_left]
  rintro ⟨never, -⟩
  exact never.elim

theorem only_crash {kind : Call → Prop} (h : kind .crash) : (crash : Program α).Only kind :=
  ⟨h, nofun⟩

theorem returns_print {descriptor : Nat} {text : String} {trace : List Event} :
    (print descriptor text).Returns trace () ↔
      ∃ reply, isTaken reply ∧ trace = [⟨.write descriptor text.toUTF8, reply⟩] := by
  rw [print_eq, returns_call]
  refine exists_congr fun reply => ?_
  cases taken : isTaken reply with
  | true => simp [returns_done]
  | false => simp [not_returns_crash]

theorem asks_print {descriptor : Nat} {text : String} {trace : List Event} {c : Call} :
    (print descriptor text).Asks trace c ↔ (trace = [] ∧ .write descriptor text.toUTF8 = c) ∨
      ∃ reply, ¬ isTaken reply ∧ trace = [⟨.write descriptor text.toUTF8, reply⟩] ∧
        .crash = c := by
  rw [print_eq, asks_call]
  refine or_congr Iff.rfl (exists_congr fun reply => ?_)
  cases taken : isTaken reply with
  | true => simp [asks_done]
  | false => simp [asks_crash, ← and_assoc, and_right_comm]

theorem only_print {kind : Call → Prop} {descriptor : Nat} {text : String}
    (h : kind (.write descriptor text.toUTF8)) (crash : kind .crash) :
    (print descriptor text).Only kind := by
  rw [print_eq]
  refine ⟨h, fun reply => ?_⟩
  dsimp only
  split
  · trivial
  · exact only_crash crash

theorem returns_waitFor {child : Int} {trace : List Event} {outcome : Except Errno Ending} :
    (waitFor child).Returns trace outcome ↔
      ∃ w : Wait, trace = [⟨.wait child, w⟩] ∧ w.outcome = outcome := by
  rw [waitFor, returns_bind]
  constructor
  · rintro ⟨_, w, _, rfl, waited, ended⟩
    obtain rfl := returns_perform.mp waited
    obtain ⟨rfl, rfl⟩ := returns_done.mp ended
    exact ⟨w, rfl, rfl⟩
  · rintro ⟨w, rfl, rfl⟩
    exact ⟨_, w, [], rfl, returns_perform.mpr rfl, .stay _⟩

theorem asks_waitFor {child : Int} {trace : List Event} {c : Call} :
    (waitFor child).Asks trace c ↔ trace = [] ∧ .wait child = c := by
  change (call (.wait child) fun w : Wait => done w.outcome).Asks trace c ↔ _
  simp [asks_call, asks_done]

theorem only_waitFor {kind : Call → Prop} {child : Int} (h : kind (.wait child)) :
    (waitFor child).Only kind :=
  ⟨h, fun _ => trivial⟩

/-! ## Programs that start other children -/

/-- The programs are the same, but for what a child does after a fork. -/
inductive Alike : Program α → Program α → Prop
  | done (a : α) : Alike (done a) (done a)
  | call (c : Call) {next next' : c.Reply → Program α} :
    (∀ reply, (⟨c, reply⟩ : Event) ≠ ⟨.fork, .ok .child⟩ → Alike (next reply) (next' reply)) →
    Alike (call c next) (call c next')

theorem Alike.refl (p : Program α) : p.Alike p := by
  induction p with
  | done a => exact .done a
  | call c next ih => exact .call c fun reply _ => ih reply

theorem Alike.bind {p q : Program α} {f g : α → Program β} (h : p.Alike q)
    (rest : ∀ a, (f a).Alike (g a)) : (p >>= f).Alike (q >>= g) := by
  induction h with
  | done a => exact rest a
  | call c _ ih => exact .call c ih

end Program

/-! ## Tasks -/

/-- From the state the task makes these calls with these replies, and returns. -/
def Gives (task : StateT σ Program α) (state : σ) (trace : List Event) (a : α)
    (state' : σ) : Prop :=
  (task state).Returns trace (a, state')

def Calls (task : StateT σ Program α) (state : σ) (trace : List Event) (c : Call) : Prop :=
  (task state).Asks trace c

section Tasks
variable {state state' : σ} {trace : List Event} {c : Call}

theorem gives_pure {a b : α} :
    Gives (pure a) state trace b state' ↔ trace = [] ∧ a = b ∧ state = state' := by
  change (Program.done (a, state)).Returns trace (b, state') ↔ _
  rw [Program.returns_done, Prod.mk.injEq]

theorem calls_pure {a : α} : ¬ Calls (pure a) state trace c := Program.asks_done

theorem gives_bind {task : StateT σ Program α} {f : α → StateT σ Program β} {b : β} :
    Gives (task >>= f) state trace b state' ↔ ∃ front a middle back, trace = front ++ back ∧
      Gives task state front a middle ∧ Gives (f a) middle back b state' := by
  change ((task state >>= fun result => f result.1 result.2).Returns trace (b, state')) ↔ _
  rw [Program.returns_bind]
  constructor
  · rintro ⟨front, ⟨a, middle⟩, back, rfl, first, second⟩
    exact ⟨front, a, middle, back, rfl, first, second⟩
  · rintro ⟨front, a, middle, back, rfl, first, second⟩
    exact ⟨front, (a, middle), back, rfl, first, second⟩

theorem calls_bind {task : StateT σ Program α} {f : α → StateT σ Program β} :
    Calls (task >>= f) state trace c ↔ Calls task state trace c ∨
      ∃ front a middle back, trace = front ++ back ∧ Gives task state front a middle ∧
        Calls (f a) middle back c := by
  change ((task state >>= fun result => f result.1 result.2).Asks trace c) ↔ _
  rw [Program.asks_bind]
  apply or_congr Iff.rfl
  constructor
  · rintro ⟨front, ⟨a, middle⟩, back, rfl, first, second⟩
    exact ⟨front, a, middle, back, rfl, first, second⟩
  · rintro ⟨front, a, middle, back, rfl, first, second⟩
    exact ⟨front, (a, middle), back, rfl, first, second⟩

theorem gives_lift {p : Program α} {a : α} :
    Gives (StateT.lift p) state trace a state' ↔ p.Returns trace a ∧ state = state' := by
  change ((p >>= fun a => Program.done (a, state)).Returns trace (a, state')) ↔ _
  rw [Program.returns_bind]
  constructor
  · rintro ⟨front, b, back, rfl, first, second⟩
    obtain ⟨rfl, same⟩ := Program.returns_done.mp second
    cases same
    exact ⟨by rwa [List.append_nil], rfl⟩
  · rintro ⟨first, rfl⟩
    exact ⟨trace, a, [], by simp, first, .stay _⟩

theorem calls_lift {p : Program α} : Calls (StateT.lift p) state trace c ↔ p.Asks trace c := by
  change ((p >>= fun a => Program.done (a, state)).Asks trace c) ↔ _
  rw [Program.asks_bind]
  simp [Program.asks_done]

theorem lift_print (descriptor : Nat) (text : String) (state : σ) :
    (StateT.lift (Program.print descriptor text) : StateT σ Program Unit) state =
      .call (.write descriptor text.toUTF8) fun reply =>
        if Program.isTaken reply then .done ((), state) else Program.crash := by
  rw [Program.print_eq]
  refine congrArg (Program.call _) (funext fun reply => ?_)
  dsimp only
  split
  · rfl
  · exact congrArg (Program.call _) (funext nofun)

theorem gives_get {a : σ} :
    Gives get state trace a state' ↔ trace = [] ∧ state = a ∧ state = state' :=
  gives_pure

theorem gives_modify {f : σ → σ} {a : Unit} :
    Gives (modify f) state trace a state' ↔ trace = [] ∧ f state = state' := by
  change (Program.done ((), f state)).Returns trace (a, state') ↔ _
  rw [Program.returns_done]
  simp

def Keeps (kind : Call → Prop) (task : StateT σ Program α) : Prop :=
  ∀ state, (task state).Only kind ∧
    ∀ trace a state', Gives task state trace a state' → state' = state

variable {kind : Call → Prop}

theorem keeps_pure (a : α) : Keeps kind (pure a : StateT σ Program α) :=
  fun _ => ⟨trivial, fun _ _ _ h => (gives_pure.mp h).2.2.symm⟩

theorem keeps_get : Keeps kind (get : StateT σ Program σ) :=
  fun _ => ⟨trivial, fun _ _ _ h => (gives_get.mp h).2.2.symm⟩

theorem keeps_lift {p : Program α} (only : p.Only kind) :
    Keeps kind (StateT.lift p : StateT σ Program α) :=
  fun _ => ⟨only.bind fun _ => trivial, fun _ _ _ h => (gives_lift.mp h).2.symm⟩

theorem Keeps.bind {task : StateT σ Program α} {f : α → StateT σ Program β}
    (first : Keeps kind task) (rest : ∀ a, Keeps kind (f a)) : Keeps kind (task >>= f) := by
  intro state
  constructor
  · exact (first state).1.bind fun result => (rest result.1 result.2).1
  · intro trace b state' h
    obtain ⟨front, a, middle, back, rfl, h, h'⟩ := gives_bind.mp h
    rw [(rest a middle).2 _ _ _ h', (first state).2 _ _ _ h]

theorem Keeps.mono {kind' : Call → Prop} {task : StateT σ Program α} (keeps : Keeps kind task)
    (h : ∀ c, kind c → kind' c) : Keeps kind' task :=
  fun state => ⟨(keeps state).1.mono h, (keeps state).2⟩

theorem Keeps.given {task : StateT σ Program α} (keeps : Keeps kind task) {a : α}
    (h : Gives task state trace a state') : (∀ event ∈ trace, kind event.call) ∧ state' = state :=
  ⟨((keeps state).1.path h).1, (keeps state).2 _ _ _ h⟩

theorem Keeps.before {task : StateT σ Program α} (keeps : Keeps kind task)
    (h : Calls task state trace c) : ∀ event ∈ trace, kind event.call := by
  obtain ⟨next, path⟩ := h
  exact ((keeps state).1.path path).1

theorem Keeps.called {task : StateT σ Program α} (keeps : Keeps kind task)
    (h : Calls task state trace c) : kind c :=
  (keeps state).1.asked h

end Tasks

/-! ## Actions that may fail -/

section Actions
variable {state state' : σ} {trace : List Event} {c : Call}
  {action : ExceptT ε (StateT σ Program) α} {f : α → ExceptT ε (StateT σ Program) β}

theorem gives_run_bind {result : Except ε β} :
    Gives (action >>= f).run state trace result state' ↔
      (∃ e, result = .error e ∧ Gives action.run state trace (.error e) state') ∨
      ∃ front a middle back, trace = front ++ back ∧ Gives action.run state front (.ok a) middle ∧
        Gives (f a).run middle back result state' := by
  rw [ExceptT.run_bind, gives_bind]
  constructor
  · rintro ⟨front, outcome, middle, back, rfl, first, second⟩
    cases outcome with
    | error e =>
      obtain ⟨rfl, rfl, rfl⟩ := gives_pure.mp second
      exact .inl ⟨e, rfl, by rwa [List.append_nil]⟩
    | ok a => exact .inr ⟨front, a, middle, back, rfl, first, second⟩
  · rintro (⟨e, rfl, failed⟩ | ⟨front, a, middle, back, rfl, first, second⟩)
    · exact ⟨trace, .error e, state', [], by simp, failed, gives_pure.mpr ⟨rfl, rfl, rfl⟩⟩
    · exact ⟨front, .ok a, middle, back, rfl, first, second⟩

theorem calls_run_bind : Calls (action >>= f).run state trace c ↔ Calls action.run state trace c ∨
    ∃ front a middle back, trace = front ++ back ∧ Gives action.run state front (.ok a) middle ∧
      Calls (f a).run middle back c := by
  rw [ExceptT.run_bind, calls_bind]
  apply or_congr Iff.rfl
  constructor
  · rintro ⟨front, outcome, middle, back, rfl, first, second⟩
    cases outcome with
    | error e => exact (calls_pure second).elim
    | ok a => exact ⟨front, a, middle, back, rfl, first, second⟩
  · rintro ⟨front, a, middle, back, rfl, first, second⟩
    exact ⟨front, .ok a, middle, back, rfl, first, second⟩

theorem gives_run_pure {a : α} {result : Except ε α} :
    Gives (pure a : ExceptT ε (StateT σ Program) α).run state trace result state' ↔
      trace = [] ∧ .ok a = result ∧ state = state' := gives_pure

theorem gives_run_throw {e : ε} {result : Except ε α} :
    Gives (throw e : ExceptT ε (StateT σ Program) α).run state trace result state' ↔
      trace = [] ∧ .error e = result ∧ state = state' := gives_pure

theorem gives_run_lift {task : StateT σ Program α} {result : Except ε α} :
    Gives (ExceptT.lift task : ExceptT ε (StateT σ Program) α).run state trace result state' ↔
      ∃ a, result = .ok a ∧ Gives task state trace a state' := by
  change Gives (task >>= fun a => pure (Except.ok a)) state trace result state' ↔ _
  rw [gives_bind]
  constructor
  · rintro ⟨front, a, middle, back, rfl, first, second⟩
    obtain ⟨rfl, rfl, rfl⟩ := gives_pure.mp second
    exact ⟨a, rfl, by rwa [List.append_nil]⟩
  · rintro ⟨a, rfl, first⟩
    exact ⟨trace, a, state', [], by simp, first, gives_pure.mpr ⟨rfl, rfl, rfl⟩⟩

theorem calls_run_lift {task : StateT σ Program α} :
    Calls (ExceptT.lift task : ExceptT ε (StateT σ Program) α).run state trace c ↔
      Calls task state trace c := by
  change Calls (task >>= fun a => pure (Except.ok a)) state trace c ↔ _
  rw [calls_bind]
  simp [calls_pure]

theorem run_lift_bind {task : StateT σ Program α} :
    (ExceptT.lift task >>= f).run = task >>= fun a => (f a).run := by
  simp

theorem gives_run_lift_bind {task : StateT σ Program α} {result : Except ε β} :
    Gives (ExceptT.lift task >>= f).run state trace result state' ↔ ∃ front a middle back,
      trace = front ++ back ∧ Gives task state front a middle ∧
        Gives (f a).run middle back result state' := by
  rw [run_lift_bind, gives_bind]

theorem calls_run_lift_bind {task : StateT σ Program α} :
    Calls (ExceptT.lift task >>= f).run state trace c ↔ Calls task state trace c ∨
      ∃ front a middle back, trace = front ++ back ∧ Gives task state front a middle ∧
        Calls (f a).run middle back c := by
  rw [run_lift_bind, calls_bind]

variable {kind : Call → Prop}

theorem Keeps.run_bind (first : Keeps kind action.run) (rest : ∀ a, Keeps kind (f a).run) :
    Keeps kind (action >>= f).run := by
  rw [ExceptT.run_bind]
  apply first.bind
  intro outcome
  cases outcome with
  | error e => exact keeps_pure _
  | ok a => exact rest a

theorem Keeps.run_lift {task : StateT σ Program α} (keeps : Keeps kind task) :
    Keeps kind (ExceptT.lift task : ExceptT ε (StateT σ Program) α).run :=
  keeps.bind fun a => keeps_pure (Except.ok a)

end Actions

end CommandShell
