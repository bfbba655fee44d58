import CommandShell.Proofs.Descriptors.Table

/-!
# What the children of a command do first

A child puts its redirections or its end of a pipe on the standard descriptors, and goes on only
where all of this has succeeded. Then its table is the one of its parent, but for the standard
descriptors that it has set.
-/

set_option autoImplicit false

namespace CommandShell

def Call.IsWiring : Call → Prop
  | .openFile .. | .duplicate .. | .close _ => True
  | c => c.IsInert

theorem Call.IsInert.isWiring {c : Call} (h : c.IsInert) : c.IsWiring := by
  cases c <;> trivial

namespace Shell

variable {α : Type} {shell shell' : Shell} {trace : List Event} {c : Call}

def moving (source target : Nat) : List Event :=
  [⟨.duplicate source target, .ok ()⟩, ⟨.close source, .ok ()⟩]

theorem gives_attempt_ok {operation : String} {call : Program (Except Errno α)} {a : α}
    (h : Gives (attempt operation call).run shell trace (.ok a) shell') :
    call.Returns trace (.ok a) ∧ shell' = shell := by
  obtain ⟨reply, returns, same, rfl⟩ := gives_attempt h
  cases reply with
  | error _ => cases same
  | ok _ =>
    cases same
    exact ⟨returns, rfl⟩

theorem gives_move {source target : Nat}
    (h : Gives (move source target).run shell trace (.ok ()) shell') :
    trace = moving source target ∧ shell' = shell := by
  obtain ⟨_, same, -⟩ | ⟨_, _, _, _, rfl, duplicated, closed⟩ := gives_run_bind.mp h
  · cases same
  obtain ⟨returns, rfl⟩ := gives_attempt_ok duplicated
  obtain ⟨returns', rfl⟩ := gives_attempt_ok closed
  rw [Program.returns_perform.mp returns, Program.returns_perform.mp returns']
  exact ⟨rfl, rfl⟩

def opening (r : Redirection) (access : Access) (target d : Nat) : List Event :=
  ⟨.openFile r.filename access, .ok d⟩ :: if d = target then [] else moving d target

theorem gives_openOn {r : Redirection} {access : Access} {target : Nat}
    (h : Gives (openOn r access target).run shell trace (.ok ()) shell') :
    ∃ d, trace = opening r access target d ∧ shell' = shell := by
  obtain ⟨_, reply, _, _, rfl, asked, rest⟩ := gives_run_lift_bind.mp h
  obtain ⟨rfl, rfl⟩ := gives_perform.mp asked
  cases reply with
  | error e =>
    obtain ⟨-, same, -⟩ := gives_run_throw.mp rest
    cases same
  | ok d =>
    refine ⟨d, ?_⟩
    rw [opening]
    by_cases there : d = target
    · rw [if_pos there]
      dsimp only at rest
      rw [if_neg (not_not_intro there)] at rest
      obtain ⟨rfl, -, rfl⟩ := gives_run_pure.mp rest
      exact ⟨rfl, rfl⟩
    · rw [if_neg there]
      dsimp only at rest
      rw [if_pos there] at rest
      obtain ⟨rfl, rfl⟩ := gives_move rest
      exact ⟨rfl, rfl⟩

def openAny (r : Option Redirection) (access : Redirection → Access) (target : Nat) : Action Unit :=
  match r with
  | none => pure ()
  | some r => openOn r (access r) target

theorem redirect_eq (parts : StageParts) : redirect parts = (do
    openAny parts.input (fun _ => .read) standardInput
    openAny parts.output (fun r => r.operator.outputAccess) standardOutput) := by
  obtain ⟨locals, input, output⟩ := parts
  cases input <;> cases output <;> rfl

/-- What a redirection puts on the target; its file is known by its place. -/
inductive Opens (access : Redirection → Access) (target place : Nat) :
    Option Redirection → List Event → Option Source → Prop
  | none : Opens access target place none [] none
  | some (r : Redirection) (d : Nat) :
    Opens access target place (some r) (opening r (access r) target d) (some (.file place))

theorem gives_openAny {r : Option Redirection} {access : Redirection → Access} {target : Nat}
    (place : Nat) (h : Gives (openAny r access target).run shell trace (.ok ()) shell') :
    (∃ source, Opens access target place r trace source) ∧ shell' = shell := by
  cases r with
  | none =>
    obtain ⟨rfl, -, rfl⟩ := gives_run_pure.mp h
    exact ⟨⟨none, .none⟩, rfl⟩
  | some r =>
    obtain ⟨d, rfl, rfl⟩ := gives_openOn h
    exact ⟨⟨some (.file place), .some r d⟩, rfl⟩

inductive Redirects (parts : StageParts) (place : Nat) : List Event → Layer → Prop
  | intro {front back : List Event} {input output : Option Source} :
    Opens (fun _ => .read) standardInput place parts.input front input →
    Opens (fun r => r.operator.outputAccess) standardOutput (place + front.length) parts.output
      back output →
    Redirects parts place (front ++ back) ⟨input, output⟩

theorem gives_redirect {parts : StageParts} (place : Nat)
    (h : Gives (redirect parts).run shell trace (.ok ()) shell') :
    (∃ layer, Redirects parts place trace layer) ∧ shell' = shell := by
  rw [redirect_eq] at h
  obtain ⟨_, same, -⟩ | ⟨front, _, _, _, rfl, input, output⟩ := gives_run_bind.mp h
  · cases same
  obtain ⟨⟨source, opens⟩, rfl⟩ := gives_openAny place input
  obtain ⟨⟨source', opens'⟩, rfl⟩ := gives_openAny (place + front.length) output
  exact ⟨⟨_, .intro opens opens'⟩, rfl⟩

def connecting (used target unused : Nat) : List Event :=
  moving used target ++ [⟨.close unused, .ok ()⟩]

theorem gives_connect {used target unused : Nat}
    (h : Gives (connect used target unused).run shell trace (.ok ()) shell') :
    trace = connecting used target unused ∧ shell' = shell := by
  obtain ⟨_, same, -⟩ | ⟨_, _, _, _, rfl, moved, closed⟩ := gives_run_bind.mp h
  · cases same
  obtain ⟨rfl, rfl⟩ := gives_move moved
  obtain ⟨returns, rfl⟩ := gives_attempt_ok closed
  rw [Program.returns_perform.mp returns]
  exact ⟨rfl, rfl⟩

/-! ## The calls on the way -/

theorem keeps_move {P : Call → Prop} {source target : Nat}
    (duplicates : P (.duplicate source target)) (closes : P (.close source)) :
    Keeps P (move source target).run :=
  (keeps_attempt (Program.only_perform duplicates)).run_bind
    fun _ => keeps_attempt (Program.only_perform closes)

theorem keeps_openOn (r : Redirection) (access : Access) (target : Nat) :
    Keeps Call.IsWiring (openOn r access target).run := by
  have opened : Keeps Call.IsWiring (perform (.openFile r.filename access)) :=
    keeps_lift (Program.only_perform trivial)
  apply opened.run_lift.run_bind
  intro reply
  cases reply with
  | error e => exact keeps_pure _
  | ok d =>
    by_cases there : d = target
    · simpa [there] using keeps_pure (Except.ok ())
    · simpa [there] using keeps_move (P := Call.IsWiring) trivial trivial

theorem keeps_openAny (r : Option Redirection) (access : Redirection → Access) (target : Nat) :
    Keeps Call.IsWiring (openAny r access target).run := by
  cases r with
  | none => exact keeps_pure _
  | some r => exact keeps_openOn r (access r) target

theorem keeps_redirect (parts : StageParts) : Keeps Call.IsWiring (redirect parts).run := by
  rw [redirect_eq]
  exact (keeps_openAny _ _ _).run_bind fun _ => keeps_openAny _ _ _

theorem keeps_connect (used target unused : Nat) :
    Keeps Call.IsWiring (connect used target unused).run :=
  (keeps_move trivial trivial).run_bind fun _ => keeps_attempt (Program.only_perform trivial)

theorem called_reported {text : String} {status : Int}
    (h : Calls (do report text; return status) shell trace c) : c.IsInert :=
  ((keeps_report text).bind fun _ => keeps_pure status).called h

theorem calls_orReport {action : Action Int} (h : Calls (orReport action) shell trace c) :
    Calls action.run shell trace c ∨ c.IsInert := by
  obtain asked | ⟨_, result, _, _, rfl, -, rest⟩ := calls_bind.mp h
  · exact .inl asked
  cases result with
  | ok status => exact (calls_pure rest).elim
  | error e => exact .inr (called_reported rest)

def onceWired (wiring : Action Unit) (rest : Task Int) : Task Int := do
  match ← wiring.run with
  | .error e =>
    report e.message
    return 1
  | .ok () => rest

theorem calls_onceWired {wiring : Action Unit} {rest : Task Int}
    (keeps : Keeps Call.IsWiring wiring.run) (h : Calls (onceWired wiring rest) shell trace c) :
    Calls wiring.run shell trace c ∨ c.IsInert ∨ ∃ front back, trace = front ++ back ∧
      Gives wiring.run shell front (.ok ()) shell ∧ Calls rest shell back c := by
  obtain asked | ⟨front, result, _, back, rfl, wired, later⟩ := calls_bind.mp h
  · exact .inl asked
  obtain ⟨-, rfl⟩ := keeps.given wired
  cases result with
  | error e => exact .inr (.inl (called_reported later))
  | ok _ => exact .inr (.inr ⟨front, back, rfl, wired, later⟩)

/-- A call of a child either wires its descriptors or is made once they are wired. -/
theorem wiring_or_later {wiring : Action Unit} {rest : Task Int}
    (keeps : Keeps Call.IsWiring wiring.run) (h : Calls (onceWired wiring rest) shell trace c) :
    c.IsWiring ∨ ∃ front back, trace = front ++ back ∧ Gives wiring.run shell front (.ok ()) shell ∧
      Calls rest shell back c := by
  obtain asked | inert | later := calls_onceWired keeps h
  · exact .inl (keeps.called asked)
  · exact .inl inert.isWiring
  · exact .inr later

theorem requireSettable_eq {locals : List Assignment} (settable : locals.all isSettable) :
    requireSettable locals = pure () := if_pos settable

theorem runBody_eq {parts : StageParts} {body : Action Int}
    (settable : parts.locals.all isSettable) :
    runBody parts body = onceWired (redirect parts) (do
      modify fun shell => { shell with
        environment := assign parts.locals shell.environment
        vars := assign parts.locals shell.vars }
      orReport body) := by
  change onceWired _ (requireSettable parts.locals >>= fun _ => _) = _
  rw [requireSettable_eq settable, pure_bind]

theorem keeps_requireSettable (locals : List Assignment) :
    Keeps Call.IsInert (requireSettable locals) := by
  rw [requireSettable]
  split
  · exact keeps_pure ()
  · exact keeps_lift (Program.only_crash trivial)

theorem calls_requireSettable {locals : List Assignment}
    (h : Calls (requireSettable locals) shell trace c) : trace = [] := by
  rw [requireSettable] at h
  split at h
  · exact (calls_pure h).elim
  · exact (Program.asks_crash.mp (calls_lift.mp h)).1

theorem gives_requireSettable {locals : List Assignment}
    (h : Gives (requireSettable locals) shell trace () shell') :
    locals.all isSettable ∧ trace = [] ∧ shell' = shell := by
  rw [requireSettable] at h
  split at h
  case isTrue settable =>
    obtain ⟨rfl, -, rfl⟩ := gives_pure.mp h
    exact ⟨settable, rfl, rfl⟩
  case isFalse => exact (Program.not_returns_crash (gives_lift.mp h).1).elim

theorem calls_runProgram {command : SimpleCommand}
    (h : Calls (runProgram command) shell trace c) :
    Calls (redirect command.parts).run shell trace c ∨ c.IsInert ∨
      Gives (redirect command.parts).run shell trace (.ok ()) shell ∧
        c = .exec command.program command.argv (assign command.parts.locals shell.environment) := by
  obtain wiring | inert | ⟨front, back, rfl, wired, rest⟩ :=
    calls_onceWired (keeps_redirect command.parts) h
  · exact .inl wiring
  · exact .inr (.inl inert)
  refine .inr ?_
  obtain asked | ⟨_, _, _, _, rfl, required, granted⟩ := calls_bind.mp rest
  · exact .inl ((keeps_requireSettable _).called asked)
  obtain ⟨-, rfl, rfl⟩ := gives_requireSettable required
  obtain asked | ⟨_, _, _, _, rfl, assigned, later⟩ := calls_bind.mp granted
  · exact (calls_pure asked).elim
  obtain ⟨rfl, rfl⟩ := gives_modify.mp assigned
  cases zero : command.argv.findSome? zeroByte? with
  | some position =>
    rw [zero] at later
    exact .inl (called_reported later)
  | none =>
    rw [zero] at later
    obtain asked | ⟨_, _, _, _, rfl, got, last⟩ := calls_bind.mp later
    · exact (calls_pure asked).elim
    obtain ⟨rfl, rfl, rfl⟩ := gives_get.mp got
    obtain asked | ⟨_, e, _, _, rfl, -, failed⟩ := calls_bind.mp last
    · obtain ⟨rfl, same⟩ := calls_perform.mp asked
      exact .inr ⟨by simpa using wired, same.symm⟩
    · by_cases missing : e = .noSuchFile
      · rw [if_pos missing] at failed
        exact .inl (called_reported failed)
      · rw [if_neg missing] at failed
        exact .inl (called_reported failed)

end Shell

end CommandShell
