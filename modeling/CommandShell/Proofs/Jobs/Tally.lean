import CommandShell.Proofs.Jobs.Sifting

/-!
# The endings that a process is told

A child's ending is told once: whoever collects the child gets it, and from then on there is no such
child. So where no number is given to two children, the numbers that a process has collected are all
different, and with each of them it was told how that child ended.
-/

set_option autoImplicit false

namespace CommandShell

variable {inherited : Descriptors} {past : List Deed}

def Deed.child? : Deed → Option Int
  | forked child _ _ => some child
  | did _ => none

def children (past : List Deed) : List Int := past.filterMap Deed.child?

def collected (past : List Deed) : List Completion :=
  past.filterMap fun deed => deed.event.collected?

theorem children_append (past deeds : List Deed) :
    children (past ++ deeds) = children past ++ children deeds := List.filterMap_append

theorem collected_append (past deeds : List Deed) :
    collected (past ++ deeds) = collected past ++ collected deeds := List.filterMap_append

theorem collected_did (events : List Event) :
    collected (events.map Deed.did) = events.filterMap Event.collected? := by
  rw [collected, List.filterMap_map]
  rfl

theorem mem_children {child : Int} :
    child ∈ children past ↔ ∃ life ending, .forked child life ending ∈ past := by
  rw [children, List.mem_filterMap]
  constructor
  · rintro ⟨deed, member, same⟩
    cases deed with
    | did => cases same
    | forked child life ending =>
      cases same
      exact ⟨life, ending, member⟩
  · rintro ⟨life, ending, member⟩
    exact ⟨_, member, rfl⟩

theorem children_did (past : List Deed) (event : Event) :
    children (past ++ [Deed.did event]) = children past := by
  rw [children_append]
  exact List.append_nil _

theorem collected_snoc {event : Event} {c : Completion} (told : event.collected? = some c) :
    collected (past ++ [Deed.did event]) = collected past ++ [c] := by
  rw [collected_append]
  simp [collected, Deed.event, told]

theorem collected_same {event : Event} (told : event.collected? = none) :
    collected (past ++ [Deed.did event]) = collected past := by
  rw [collected_append]
  simp [collected, Deed.event, told]

theorem fates_collected {event : Event} {c : Completion} (told : event.collected? = some c) :
    fates (past ++ [Deed.did event]) = Function.update (fates past) c.process none := by
  rw [fates_append]
  obtain ⟨call, reply⟩ := event
  cases call with
  | wait child =>
    cases outcome : reply.outcome with
    | ok ending =>
      cases (collected_waited outcome).symm.trans told
      exact Deed.collect_telling _ child ⟨reply, outcome⟩
    | error e => cases (collected_missed outcome).symm.trans told
  | poll =>
    rcases reply with _ | _ | _ | _ | _ <;> cases told
    rfl
  | _ => cases told

theorem fates_same {event : Event} (told : event.collected? = none) :
    fates (past ++ [Deed.did event]) = fates past := by
  rw [fates_append]
  obtain ⟨call, reply⟩ := event
  cases call with
  | wait child =>
    cases outcome : reply.outcome with
    | ok ending => cases (collected_waited outcome).symm.trans told
    | error e => simp only [Deed.collect, outcome]
  | poll =>
    rcases reply with _ | _ | _ | _ | _
    · rfl
    · cases told
    all_goals rfl
  | _ => rfl

/-- What one more deed does to the number of a child: nothing, or it starts the child, or it collects
the child. -/
theorem fates_snoc (past : List Deed) (deed : Deed) (child : Int) :
    (child ∉ children [deed] ∧ fates (past ++ [deed]) child = fates past child) ∨
    (∃ life ending, deed = .forked child life ending ∧
      fates (past ++ [deed]) child = some ending) ∨
    ∃ c ∈ collected [deed], c.process = child ∧ fates (past ++ [deed]) child = none := by
  cases deed with
  | forked other life ending =>
    by_cases same : child = other
    · subst same
      refine .inr (.inl ⟨life, ending, rfl, ?_⟩)
      rw [fates_append, Deed.collect, Function.update_self]
    · refine .inl ⟨by simpa [children, Deed.child?] using same, ?_⟩
      rw [fates_append, Deed.collect, Function.update_of_ne same]
  | did event =>
    have old : child ∉ children [.did event] := by simp [children, Deed.child?]
    cases told : event.collected? with
    | none => exact .inl ⟨old, by rw [fates_same told]⟩
    | some c =>
      by_cases same : child = c.process
      · refine .inr (.inr ⟨c, by simp [collected, Deed.event, told], same.symm, ?_⟩)
        rw [fates_collected told, same, Function.update_self]
      · refine .inl ⟨old, ?_⟩
        rw [fates_collected told, Function.update_of_ne same]

theorem forked_of_fates {child : Int} {ending : Option Ending}
    (h : fates past child = some ending) : ∃ life, .forked child life ending ∈ past := by
  induction past using List.reverseRecOn with
  | nil => cases h
  | append_singleton past deed ih =>
    obtain ⟨-, same⟩ | ⟨life, _, rfl, started⟩ | ⟨_, _, _, lost⟩ := fates_snoc past deed child
    · obtain ⟨life, member⟩ := ih (same.symm.trans h)
      exact ⟨life, List.mem_append_left _ member⟩
    · cases started.symm.trans h
      exact ⟨life, by simp⟩
    · cases lost.symm.trans h

def Answered (inherited : Descriptors) : List Deed → List Event → Prop
  | _, [] => True
  | past, event :: rest => Answers inherited past event.call event.reply ∧
    Answered inherited (past ++ [Deed.did event]) rest

theorem Answered.at {front back : List Event} {event : Event}
    (answered : Answered inherited past (front ++ event :: back)) :
    Answers inherited (past ++ front.map Deed.did) event.call event.reply := by
  induction front generalizing past with
  | nil => simpa using answered.1
  | cons first front ih =>
    rw [List.map_cons, List.append_cons]
    exact ih answered.2

theorem Runs.answered {α : Type} {p q : Program α} {events : List Event} {back : List Deed}
    (runs : Runs inherited past p (events.map Deed.did ++ back) q) :
    Answered inherited past events := by
  induction events generalizing past p with
  | nil => trivial
  | cons event events ih =>
    cases runs with
    | did answers later => exact ⟨answers, ih later⟩

theorem Does.answered_plain {α σ : Type} {task : StateT σ Program α} {state state' : σ} {a : α}
    {deeds : List Deed} (h : Does inherited past task state deeds a state')
    (plain : ∀ event ∈ deeds.map Deed.event, event.call ≠ .fork) :
    ∃ events, deeds = events.map Deed.did ∧ Answered inherited past events ∧
      Gives task state events a state' := by
  have given := h.gives
  obtain ⟨_, _, back, q, runs, -⟩ := h
  have same := deeds_of_plain rfl plain
  rw [same] at runs
  exact ⟨_, same, runs.answered, given⟩

theorem fate_of_collected {event : Event} {c : Completion} (told : event.collected? = some c)
    (answers : Answers inherited past event.call event.reply) :
    ∃ ending, fates past c.process = some (some ending) ∧ c.status = ending.status := by
  obtain ⟨call, reply⟩ := event
  cases call with
  | wait child =>
    cases outcome : reply.outcome with
    | ok ending =>
      cases (collected_waited outcome).symm.trans told
      exact ⟨ending, fate_of_waited answers outcome, rfl⟩
    | error e => cases (collected_missed outcome).symm.trans told
  | poll child =>
    rcases reply with _ | ending | _ | _ | _
    · cases told
    · cases told
      exact ⟨ending, answers, rfl⟩
    all_goals cases told
  | _ => cases told

theorem collected_of_lost {child : Int} (started : child ∈ children past)
    (lost : fates past child = none) : ∃ c ∈ collected past, c.process = child := by
  induction past using List.reverseRecOn with
  | nil => cases started
  | append_singleton past deed ih =>
    rw [collected_append]
    obtain ⟨old, same⟩ | ⟨_, _, -, known⟩ | ⟨c, member, own, -⟩ := fates_snoc past deed child
    · rw [children_append, List.mem_append] at started
      obtain ⟨c, member, own⟩ := ih (started.resolve_right old) (same.symm.trans lost)
      exact ⟨c, List.mem_append_left _ member, own⟩
    · cases known.symm.trans lost
    · exact ⟨c, List.mem_append_right _ member, own⟩

/-- No two children had one number. What was collected are different children, each with the status
that it ended with. -/
structure Tallied (past : List Deed) : Prop where
  distinct : (children past).Nodup
  once : ((collected past).map Completion.process).Nodup
  told : ∀ c ∈ collected past, ∃ life ending, .forked c.process life (some ending) ∈ past ∧
    c.status = ending.status
  gone : ∀ c ∈ collected past, fates past c.process = none

namespace Tallied

theorem nil : Tallied [] where
  distinct := List.nodup_nil
  once := List.nodup_nil
  told := by simp [collected]
  gone := by simp [collected]

theorem known (tallied : Tallied past) (deed : Deed) : ∀ c ∈ collected past, ∃ life ending,
    .forked c.process life (some ending) ∈ past ++ [deed] ∧ c.status = ending.status := by
  intro c member
  obtain ⟨life, ending, forked, status⟩ := tallied.told c member
  exact ⟨life, ending, List.mem_append_left _ forked, status⟩

theorem start {child : Int} (tallied : Tallied past) (fresh : child ∉ children past)
    (life : List Deed) (ending : Option Ending) :
    Tallied (past ++ [Deed.forked child life ending]) := by
  have same : collected (past ++ [Deed.forked child life ending]) = collected past := by
    rw [collected_append]
    exact List.append_nil _
  have more : children (past ++ [Deed.forked child life ending]) = children past ++ [child] :=
    children_append _ _
  have apart {c : Completion} (member : c ∈ collected past) : c.process ≠ child := by
    rintro rfl
    obtain ⟨life, ending, forked, -⟩ := tallied.told c member
    exact fresh (mem_children.mpr ⟨life, _, forked⟩)
  constructor
  · rw [more, List.nodup_append]
    refine ⟨tallied.distinct, List.nodup_singleton _, ?_⟩
    simpa using fun other member => ne_of_mem_of_not_mem member fresh
  · rw [same]
    exact tallied.once
  · rw [same]
    exact tallied.known _
  · rw [same]
    intro c member
    rw [fates_append, Deed.collect, Function.update_of_ne (apart member)]
    exact tallied.gone c member

theorem quiet {event : Event} (tallied : Tallied past) (untold : event.collected? = none) :
    Tallied (past ++ [Deed.did event]) := by
  have same : collected (past ++ [Deed.did event]) = collected past := collected_same untold
  constructor
  · rw [children_did]
    exact tallied.distinct
  · rw [same]
    exact tallied.once
  · rw [same]
    exact tallied.known _
  · rw [same, fates_same untold]
    exact tallied.gone

theorem collect {event : Event} {c : Completion} {ending : Ending} (tallied : Tallied past)
    (told : event.collected? = some c) (fate : fates past c.process = some (some ending))
    (status : c.status = ending.status) : Tallied (past ++ [Deed.did event]) := by
  obtain ⟨life, started⟩ := forked_of_fates fate
  have more : collected (past ++ [Deed.did event]) = collected past ++ [c] := collected_snoc told
  -- What was collected before was gone by then, but this child was not.
  have apart {other : Completion} (member : other ∈ collected past) :
      other.process ≠ c.process := by
    intro equal
    have none := tallied.gone other member
    rw [equal, fate] at none
    cases none
  constructor
  · rw [children_did]
    exact tallied.distinct
  · rw [more, List.map_append, List.nodup_append]
    refine ⟨tallied.once, List.nodup_singleton _, ?_⟩
    simpa using fun other member => apart member
  · rw [more]
    rintro other member
    obtain member | member := List.mem_append.mp member
    · exact tallied.known _ other member
    · cases List.mem_singleton.mp member
      exact ⟨life, ending, List.mem_append_left _ started, status⟩
  · rw [more, fates_collected told]
    rintro other member
    obtain member | member := List.mem_append.mp member
    · rw [Function.update_of_ne (apart member)]
      exact tallied.gone other member
    · cases List.mem_singleton.mp member
      exact Function.update_self _ _ _

theorem answer {event : Event} (tallied : Tallied past)
    (answers : Answers inherited past event.call event.reply) :
    Tallied (past ++ [Deed.did event]) := by
  cases told : event.collected? with
  | none => exact tallied.quiet told
  | some c =>
    obtain ⟨ending, fate, status⟩ := fate_of_collected told answers
    exact tallied.collect told fate status

theorem answered {events : List Event} (tallied : Tallied past)
    (answered : Answered inherited past events) : Tallied (past ++ events.map Deed.did) := by
  induction events generalizing past with
  | nil => simpa using tallied
  | cons event events ih =>
    rw [List.map_cons, List.append_cons]
    exact ih (tallied.answer answered.1) answered.2

end Tallied

theorem ending_unique {child : Int} {life life' : List Deed} {ending ending' : Option Ending}
    (distinct : (children past).Nodup) (h : .forked child life ending ∈ past)
    (h' : .forked child life' ending' ∈ past) : ending = ending' := by
  have alone {deed : Deed} {past : List Deed} (fresh : (children (deed :: past)).Nodup)
      {own other : List Deed} {e e' : Option Ending} (same : deed = .forked child own e)
      (member : .forked child other e' ∈ past) : False := by
    subst same
    exact (List.nodup_cons.mp fresh).1 (mem_children.mpr ⟨_, _, member⟩)
  induction past with
  | nil => cases h
  | cons deed past ih =>
    rcases List.mem_cons.mp h with same | h <;> rcases List.mem_cons.mp h' with same' | h'
    · cases same.trans same'.symm
      rfl
    · exact (alone distinct same.symm h').elim
    · exact (alone distinct same'.symm h).elim
    · refine ih (distinct.sublist ?_) h h'
      exact (List.sublist_cons_self deed past).filterMap _

end CommandShell
