import CommandShell.Proofs.Evaluation.Frame
import CommandShell.Proofs.Status.Reports

/-!
# Sessions line by line

A line is expanded by what the variables hold, and is a command or none. A line that is no command
changes nothing but the history, which plays no part in what other lines do. So such lines can be
left out of a session. Every other line counts one, and what its tree gives is the status that the
next line finds.
-/

set_option autoImplicit false

namespace CommandShell
open Shell Program

namespace Session

def enterLines : List String → Task Unit
  | [] => pure ()
  | line :: rest => do
    enterLine line
    enterLines rest

def tokens (session : Session) (line : String) : List Token :=
  Token.lex (session.shell.vars.expand line)

def command? (session : Session) (line : String) : Option Command :=
  if Text.isBlankLine line ∨ session.tokens line = [] then none
  else (Command.parse (session.tokens line)).toOption

def forget (session : Session) : Session := { session with history := {} }

def takeTokens (tokens : List Token) : Task Unit := do
  let session ← get
  if tokens.isEmpty then return
  if session.dumpsTokens then
    Program.printLine (Token.listing tokens)
  runTokens tokens

variable {α β : Type}

theorem enterLine_eq (line : String) (session : Session) :
    enterLine line session = if Text.isBlankLine line then pure ((), session)
      else takeTokens (session.tokens line) { session with history := session.history.add line } := by
  rw [enterLine]
  split
  · rfl
  · rfl

/-! ## The history plays no part -/

/-- With another history the task does the same and leaves that history. -/
def Blind (task : Task α) : Prop :=
  ∀ session history, task { session with history } =
    task session >>= fun result => pure (result.1, { result.2 with history })

theorem Blind.pure (a : α) : Blind (pure a) := fun _ _ => rfl

theorem Blind.bind {task : Task α} {f : α → Task β} (first : Blind task)
    (rest : ∀ a, Blind (f a)) : Blind (task >>= f) := by
  intro session history
  change task { session with history } >>= (fun result => f result.1 result.2) =
    task session >>= (fun result => f result.1 result.2) >>= _
  rw [first, Program.bind_assoc, Program.bind_assoc]
  exact bind_congr fun result => rest result.1 result.2 history

theorem Blind.get_bind {f : Session → Task β} (rest : ∀ session, Blind (f session))
    (same : ∀ session, f session = f session.forget) : Blind (get >>= f) := by
  intro session history
  change f { session with history } { session with history } = f session session >>= _
  rw [same { session with history }, show forget { session with history } = session.forget from rfl,
    ← same session]
  exact rest session session history

theorem Blind.lift (p : Program α) : Blind (StateT.lift p : Task α) := by
  intro session history
  change p >>= _ = p >>= _ >>= _
  rw [Program.bind_assoc]
  rfl

theorem Blind.onShell (task : Shell.Task α) : Blind (Session.onShell task) := by
  intro session history
  change task session.shell >>= _ = task session.shell >>= _ >>= _
  rw [Program.bind_assoc]
  rfl

theorem blind_reportError (e : ShellError) : Blind (reportError e) := by
  refine .get_bind (fun session => ?_) fun _ => rfl
  exact (Blind.lift _).bind fun _ => .lift _

theorem blind_runTokens (tokens : List Token) : Blind (runTokens tokens) := by
  have counted : Blind (modify fun session => { session with number := session.number + 1 }) :=
    fun _ _ => rfl
  rw [runTokens]
  cases Command.parse tokens with
  | error e => exact blind_reportError _
  | ok command =>
    apply counted.bind
    intro _
    apply (Blind.onShell _).bind
    intro result
    cases result with
    | error e => exact blind_reportError e
    | ok status => exact .pure _

theorem blind_takeTokens (tokens : List Token) : Blind (takeTokens tokens) := by
  refine .get_bind (fun session => ?_) fun _ => rfl
  split
  · exact .pure _
  split
  · exact (Blind.lift _).bind fun _ => blind_runTokens tokens
  · exact blind_runTokens tokens

section Histories
variable {session session' after : Session} {trace : List Event} {c : Call}

theorem Blind.gives {task : Task α} (blind : Blind task) {a : α} (history : History)
    (h : Gives task session trace a after) :
    Gives task { session with history } trace a { after with history } := by
  rw [Gives, blind]
  exact Program.Path.bind h _

theorem Blind.calls {task : Task α} (blind : Blind task) (history : History) :
    Calls task { session with history } trace c ↔ Calls task session trace c := by
  rw [Calls, blind, asks_bind]
  refine or_iff_left ?_
  rintro ⟨_, _, _, -, -, asks⟩
  exact asks_done asks

theorem eq_of_forget (same : session.forget = session'.forget) :
    session' = { session with history := session'.history } :=
  calc session' = { session'.forget with history := session'.history } := rfl
    _ = { session with history := session'.history } := by rw [← same]; rfl

theorem tokens_congr (same : session.forget = session'.forget) (line : String) :
    session.tokens line = session'.tokens line := by
  rw [eq_of_forget same]
  rfl

theorem calls_enterLine_congr (same : session.forget = session'.forget) (line : String) :
    Calls (enterLine line) session trace c ↔ Calls (enterLine line) session' trace c := by
  have taken (history : History) :
      Calls (takeTokens (session.tokens line)) { session with history } trace c ↔
        Calls (takeTokens (session.tokens line)) session trace c :=
    (blind_takeTokens _).calls history
  rw [Calls, Calls, enterLine_eq, enterLine_eq, ← tokens_congr same]
  split
  · exact iff_of_false asks_done asks_done
  · rw [eq_of_forget same]
    exact (taken _).trans (taken _).symm

theorem gives_enterLine_congr (same : session.forget = session'.forget) {line : String}
    (h : Gives (enterLine line) session trace () after) :
    ∃ after', Gives (enterLine line) session' trace () after' ∧ after'.forget = after.forget := by
  rw [Gives, enterLine_eq] at h
  simp only [Gives, enterLine_eq, ← tokens_congr same]
  by_cases blank : Text.isBlankLine line = true
  · rw [if_pos blank] at h ⊢
    obtain ⟨rfl, equal⟩ := returns_done.mp h
    cases equal
    exact ⟨session', .stay _, same.symm⟩
  · rw [if_neg blank] at h ⊢
    have taken : Gives (takeTokens (session.tokens line))
        { session with history := session.history.add line } trace () after := h
    have moved := (blind_takeTokens _).gives (session'.history.add line) taken
    rw [eq_of_forget same]
    exact ⟨_, moved, rfl⟩

end Histories

/-! ## Lines that are no command, and lines that are one -/

section Lines
variable {session after : Session} {trace : List Event} {c : Call} {line : String}

theorem gives_onShell {task : Shell.Task α} {a : α}
    (h : Gives (onShell task) session trace a after) :
    ∃ shell, Gives task session.shell trace a shell ∧ after = { session with shell } := by
  obtain ⟨_, ⟨a, shell⟩, _, rfl, returns, rest⟩ := returns_bind.mp h
  obtain ⟨rfl, equal⟩ := returns_done.mp rest
  cases equal
  rw [List.append_nil]
  exact ⟨shell, returns, rfl⟩

theorem keeps_takeTokens {tokens : List Token}
    (rejected : tokens = [] ∨ (Command.parse tokens).toOption = none) :
    Keeps Call.IsInert (takeTokens tokens) := by
  have reported (other : (Command.parse tokens).toOption = none) :
      Keeps Call.IsInert (runTokens tokens) := by
    rw [runTokens]
    cases parsed : Command.parse tokens with
    | error e => exact keeps_reportError _
    | ok command =>
      rw [parsed] at other
      cases other
  apply keeps_get.bind
  intro session
  dsimp only
  split
  · exact keeps_pure _
  next some =>
    have other := rejected.resolve_left fun none => some (List.isEmpty_iff.mpr none)
    split
    · exact (keeps_printLine _).bind fun _ => reported other
    · exact reported other

theorem rejected_of_none (blank : ¬ Text.isBlankLine line = true)
    (none : session.command? line = none) : session.tokens line = [] ∨
      (Command.parse (session.tokens line)).toOption = .none := by
  by_cases empty : session.tokens line = []
  · exact .inl empty
  · rw [command?, if_neg (by simp [blank, empty])] at none
    exact .inr none

theorem isInert_of_none (none : session.command? line = none)
    (h : Calls (enterLine line) session trace c) : c.IsInert := by
  rw [Calls, enterLine_eq] at h
  split at h
  · exact (asks_done h).elim
  next blank => exact (keeps_takeTokens (rejected_of_none blank none)).called h

theorem gives_of_none (none : session.command? line = none)
    (h : Gives (enterLine line) session trace () after) :
    (∀ event ∈ trace, event.call.IsInert) ∧ after = { session with history := after.history } := by
  rw [Gives, enterLine_eq] at h
  split at h
  · obtain ⟨rfl, equal⟩ := returns_done.mp h
    cases equal
    exact ⟨by simp, rfl⟩
  next blank =>
    obtain ⟨inert, rfl⟩ := (keeps_takeTokens (rejected_of_none blank none)).given h
    exact ⟨inert, rfl⟩

theorem gives_runTokens {tokens : List Token} {command : Command}
    (parsed : Command.parse tokens = .ok command)
    (h : Gives (runTokens tokens) session trace () after) :
    ∃ own reports result, trace = own ++ reports ∧
      Gives (Shell.run command) session.shell own result after.shell ∧
      after.number = session.number + 1 := by
  rw [runTokens, parsed] at h
  obtain ⟨_, _, _, _, rfl, counted, rest⟩ := gives_bind.mp h
  obtain ⟨rfl, rfl⟩ := gives_modify.mp counted
  obtain ⟨own, result, _, reports, rfl, ran, rest⟩ := gives_bind.mp rest
  obtain ⟨shell, evaluated, rfl⟩ := gives_onShell ran
  cases result with
  | ok status =>
    obtain ⟨rfl, -, rfl⟩ := gives_pure.mp rest
    exact ⟨own, [], .ok status, rfl, evaluated, rfl⟩
  | error e =>
    obtain ⟨-, rfl⟩ := (keeps_reportError e).given rest
    exact ⟨own, reports, .error e, rfl, evaluated, rfl⟩

theorem gives_of_some {command : Command} (some : session.command? line = some command)
    (h : Gives (enterLine line) session trace () after) :
    ∃ listing own reports result, trace = listing ++ (own ++ reports) ∧
      Gives (Shell.run command) session.shell own result after.shell ∧
      after.number = session.number + 1 := by
  rw [command?] at some
  split at some
  · cases some
  next full =>
    rw [not_or] at full
    have parsed : Command.parse (session.tokens line) = .ok command := by
      cases parsed : Command.parse (session.tokens line) with
      | ok other =>
        rw [parsed] at some
        cases some
        rfl
      | error e =>
        rw [parsed] at some
        cases some
    rw [Gives, enterLine_eq, if_neg full.1] at h
    obtain ⟨_, _, _, _, rfl, got, rest⟩ := gives_bind.mp h
    obtain ⟨rfl, rfl, rfl⟩ := gives_get.mp got
    rw [if_neg (by simpa using full.2)] at rest
    split at rest
    · obtain ⟨listing, _, _, _, rfl, shown, rest⟩ := gives_bind.mp rest
      obtain ⟨-, rfl⟩ := (keeps_printLine _).given shown
      obtain ⟨own, reports, result, rfl, ran⟩ := gives_runTokens parsed rest
      exact ⟨listing, own, reports, result, rfl, ran⟩
    · obtain ⟨own, reports, result, rfl, ran⟩ := gives_runTokens parsed rest
      exact ⟨[], own, reports, result, rfl, ran⟩

end Lines

/-! ## Lines that end the session -/

section Endings
variable {session : Session} {trace : List Event} {c : Call} {line : String}

theorem guards_onShell {task : Shell.Task α} (guards : CommandShell.Guards WriteRefused task) :
    CommandShell.Guards WriteRefused (onShell task) := fun session past _ =>
  safe_bind _ _ past (guards session.shell past trivial) fun _ _ _ => trivial

theorem guards_reportError (e : ShellError) : CommandShell.Guards WriteRefused (reportError e) := by
  apply Guards.get.bind
  intro session
  exact (Guards.lift (guards_log _ _ _)).bind fun _ => .lift (.print 2 _)

theorem guards_runTokens (tokens : List Token) :
    CommandShell.Guards WriteRefused (runTokens tokens) := by
  rw [runTokens]
  cases Command.parse tokens with
  | error e => exact guards_reportError _
  | ok command =>
    apply (Guards.modify _).bind
    intro _
    apply (guards_onShell (guards_run command)).bind
    intro result
    cases result with
    | error e => exact guards_reportError e
    | ok status => exact .pure _

theorem guards_enterLine (line : String) : CommandShell.Guards WriteRefused (enterLine line) := by
  rw [enterLine]
  split
  · exact .pure _
  apply (Guards.modify _).bind
  intro _
  apply Guards.get.bind
  intro session
  dsimp only
  split
  · exact .pure _
  split
  · exact (Guards.lift (.print 1 _)).bind fun _ => guards_runTokens _
  · exact guards_runTokens _

theorem refused_of_none (none : session.command? line = none)
    (crashes : Calls (enterLine line) session trace .crash) : WriteRefused trace := by
  have inert : ∀ event ∈ trace, event.call.IsInert := by
    have asked := crashes
    rw [Calls, enterLine_eq] at asked
    split at asked
    · exact (asks_done asked).elim
    next blank => exact (keeps_takeTokens (rejected_of_none blank none)).before asked
  exact (guards_enterLine line).crashed crashes fun member => inert _ member

/-- The line has tokens, and they spell no command. -/
structure Rejects (session : Session) (line : String) (e : ParseError) : Prop where
  shown : ¬ Text.isBlankLine line = true
  some : session.tokens line ≠ []
  error : Command.parse (session.tokens line) = .error e

def rejectionText (session : Session) (e : ParseError) : String :=
  session.look.error (session.look.message "error_symbol") ++ " " ++
    session.look.error ("bsh: " ++ (ShellError.parse e).message) ++ "\n"

theorem returns_log (logger : Option Logger) (level : LogLevel) (text : String) :
    ∃ trace, (Logger.log logger level text).Returns trace () := by
  rw [Logger.log]
  split
  · cases logger with
    | none => exact ⟨[], .stay _⟩
    | some logger =>
      exact ⟨_, .call (c := .self) 0 (.call (c := .now) 0 (.call (c := .write 2 _) (.ok ())
        (.call (c := .write ..) (.ok ()) (.stay _))))⟩
  · exact ⟨[], .stay _⟩

theorem takeTokens_eq {tokens : List Token} (some : tokens ≠ []) (session : Session) :
    takeTokens tokens session = if session.dumpsTokens then
      (do Program.printLine (Token.listing tokens); runTokens tokens : Task Unit) session
    else runTokens tokens session := by
  change (if _ then _ else _ : Task Unit) session = _
  rw [if_neg (by simpa using some)]
  split
  · rfl
  · rfl

theorem reportError_path (e : ParseError) (session : Session) :
    ∃ logged, (reportError (.parse e) session).Path logged (.call
      (.write 2 (rejectionText session e).toUTF8) fun reply =>
        if isTaken reply then .done ((), session) else crash) := by
  obtain ⟨logged, returns⟩ := returns_log session.shell.logger .error (ShellError.parse e).message
  have logs : Gives (StateT.lift (Logger.error session.shell.logger (ShellError.parse e).message) :
      Task Unit) session logged () session := gives_lift.mpr ⟨returns, rfl⟩
  have comes : (reportError (.parse e) session).Path logged
    ((StateT.lift (print 2 (rejectionText session e)) : Task Unit) session) :=
    Program.Path.bind logs _
  rw [lift_print] at comes
  exact ⟨logged, comes⟩

theorem Rejects.path {e : ParseError} (rejects : Rejects session line e) :
    ∃ front, (enterLine line session).Path front (.call
      (.write 2 (rejectionText session e).toUTF8) fun reply =>
      if isTaken reply then .done ((), { session with history := session.history.add line })
      else crash) := by
  obtain ⟨logged, reports⟩ :=
    reportError_path e { session with history := session.history.add line }
  have runs : runTokens (session.tokens line) = reportError (.parse e) := by
    rw [runTokens, rejects.error]
  rw [enterLine_eq, if_neg rejects.shown, takeTokens_eq rejects.some, runs]
  split
  · have listed : Gives (StateT.lift (Program.printLine (Token.listing (session.tokens line))) :
        Task Unit) { session with history := session.history.add line }
        [⟨.write 1 (Token.listing (session.tokens line) ++ "\n").toUTF8, .ok ()⟩] ()
        { session with history := session.history.add line } :=
      gives_lift.mpr ⟨returns_print.mpr ⟨.ok (), rfl, rfl⟩, rfl⟩
    exact ⟨_, (Program.Path.bind listed _).append reports⟩
  · exact ⟨logged, reports⟩

end Endings

/-! ## Whole sessions -/

structure Entry where
  line : String
  before : Session
  events : List Event
  after : Session

namespace Entry

def expansion (entry : Entry) : String := entry.before.shell.vars.expand entry.line

def command? (entry : Entry) : Option Command := entry.before.command? entry.line

def forget (entry : Entry) : Entry :=
  { entry with before := entry.before.forget, after := entry.after.forget }

/-- The line is a command, and running its tree from the session before gave this. -/
def Gave (entry : Entry) (result : Except ShellError Int) : Prop :=
  ∃ command listing own reports, entry.command? = some command ∧
    entry.events = listing ++ (own ++ reports) ∧
    Gives (Shell.run command) entry.before.shell own result entry.after.shell

end Entry

/-- From the first session these lines lead to the second. -/
inductive Enters : Session → List Entry → Session → Prop
  | nil (session : Session) : Enters session [] session
  | cons {before after last : Session} {line : String} {events : List Event}
    {entries : List Entry} :
    Gives (enterLine line) before events () after → Enters after entries last →
    Enters before (⟨line, before, events, after⟩ :: entries) last

def accepted (entries : List Entry) : List Entry := entries.filter fun entry => entry.command?.isSome

/-- After these lines the status is what the last command among them gave, and what it was before
where there is none. -/
inductive LastStatus (initial : Int) : List Entry → Int → Prop
  | unchanged {entries : List Entry} : accepted entries = [] →
    LastStatus initial entries initial
  | given (front : List Entry) {back : List Entry} {entry : Entry}
    {result : Except ShellError Int} :
    entry.Gave result → accepted back = [] →
    LastStatus initial (front ++ entry :: back) (exitStatus result)

section Entries
variable {session session' last : Session} {trace : List Event} {entries : List Entry}

theorem gives_enterLines {lines : List String}
    (h : Gives (enterLines lines) session trace () last) :
    ∃ entries, Enters session entries last ∧ entries.map Entry.line = lines ∧
      trace = entries.flatMap Entry.events := by
  induction lines generalizing session trace with
  | nil =>
    obtain ⟨rfl, -, rfl⟩ := gives_pure.mp h
    exact ⟨[], .nil _, rfl, rfl⟩
  | cons line rest ih =>
    obtain ⟨events, _, middle, _, rfl, entered, later⟩ := gives_bind.mp h
    obtain ⟨entries, enters, rfl, rfl⟩ := ih later
    exact ⟨_, .cons entered enters, rfl, rfl⟩

/-- A session that has come to a call has taken some lines, and is at the next one. -/
theorem calls_enterLines {lines : List String} {c : Call}
    (h : Calls (enterLines lines) session trace c) :
    ∃ before line after events own middle, lines = before ++ line :: after ∧
      trace = events ++ own ∧ Gives (enterLines before) session events () middle ∧
      Calls (enterLine line) middle own c := by
  induction lines generalizing session trace with
  | nil => exact (calls_pure h).elim
  | cons line rest ih =>
    obtain asked | ⟨first, _, next, _, rfl, entered, later⟩ := calls_bind.mp h
    · exact ⟨[], line, rest, [], trace, session, rfl, rfl, .stay _, asked⟩
    · obtain ⟨before, line', after, events, own, middle, rfl, rfl, given, asked⟩ := ih later
      exact ⟨line :: before, line', after, first ++ events, own, middle, rfl,
        (List.append_assoc ..).symm, gives_bind.mpr ⟨_, (), _, _, rfl, entered, given⟩, asked⟩

theorem Enters.gives (enters : Enters session entries last) :
    Gives (enterLines (entries.map Entry.line)) session (entries.flatMap Entry.events) () last := by
  induction enters with
  | nil => exact .stay _
  | cons entered _ ih => exact gives_bind.mpr ⟨_, (), _, _, rfl, entered, ih⟩

theorem Enters.append {front back : List Entry} (enters : Enters session (front ++ back) last) :
    ∃ middle, Enters session front middle ∧ Enters middle back last := by
  induction front generalizing session with
  | nil => exact ⟨session, .nil _, enters⟩
  | cons entry front ih =>
    cases enters with
    | cons entered later =>
      obtain ⟨middle, first, second⟩ := ih later
      exact ⟨middle, .cons entered first, second⟩

theorem accepted_cons_of_none {entry : Entry} (none : entry.command? = none) :
    accepted (entry :: entries) = accepted entries := by
  simp [accepted, none]

theorem accepted_cons_of_some {entry : Entry} {command : Command}
    (some : entry.command? = some command) :
    accepted (entry :: entries) = entry :: accepted entries := by
  simp [accepted, some]

/-- The lines that are no command can be left out: the others do the same from sessions that differ
in what they remember alone. -/
theorem Enters.accepted (enters : Enters session entries last)
    (same : session.forget = session'.forget) :
    ∃ kept last', Enters session' kept last' ∧ last'.forget = last.forget ∧
      kept.map Entry.forget = (Session.accepted entries).map Entry.forget := by
  induction enters generalizing session' with
  | nil => exact ⟨[], session', .nil _, same.symm, rfl⟩
  | @cons before after last line events entries entered _ ih =>
    cases found : Entry.command? ⟨line, before, events, after⟩ with
    | none =>
      -- Only the longer session remembers this line, so the two stay the same but for that.
      have unchanged := (gives_of_none found entered).2
      rw [accepted_cons_of_none found]
      exact ih (by rw [unchanged]; exact same)
    | some command =>
      obtain ⟨after', entered', alike⟩ := gives_enterLine_congr same entered
      obtain ⟨kept, last', enters, equal, maps⟩ := ih alike.symm
      rw [accepted_cons_of_some found]
      refine ⟨_, last', .cons entered' enters, equal, ?_⟩
      simp only [List.map_cons, maps, Entry.forget, same, alike]

theorem Enters.number (enters : Enters session entries last) :
    last.number = session.number + (Session.accepted entries).length := by
  induction enters with
  | nil => rfl
  | @cons before after last line events entries entered _ ih =>
    cases found : Entry.command? ⟨line, before, events, after⟩ with
    | none =>
      rw [accepted_cons_of_none found, ih, (gives_of_none found entered).2]
    | some command =>
      obtain ⟨_, _, _, _, -, -, counted⟩ := gives_of_some found entered
      rw [accepted_cons_of_some found, ih, counted, List.length_cons, Nat.add_assoc,
        Nat.add_comm 1]

theorem LastStatus.cons {initial status : Int} {entry : Entry} {result : Except ShellError Int}
    (gave : entry.Gave result) (h : LastStatus (exitStatus result) entries status) :
    LastStatus initial (entry :: entries) status := by
  cases h with
  | unchanged none => exact .given [] gave none
  | given front later none => exact .given (entry :: front) later none

theorem LastStatus.skip {initial status : Int} {entry : Entry} (none : entry.command? = none)
    (h : LastStatus initial entries status) : LastStatus initial (entry :: entries) status := by
  cases h with
  | unchanged nothing => exact .unchanged (by rwa [accepted_cons_of_none none])
  | given front later nothing => exact .given (entry :: front) later nothing

/-- The status is kept as text in the variables. It is read back where the system tells only of
statuses that fit into eight bits. -/
theorem Enters.status {initial : Int} (enters : Enters session entries last)
    (kept : session.shell.vars.get? Variables.statusName = some (toString initial)) :
    ∃ status, LastStatus initial entries status ∧
      last.shell.vars.get? Variables.statusName = some (toString status) ∧
      (IsByte initial → (∀ event ∈ entries.flatMap Entry.events, event.IsSound) →
        IsByte status) := by
  induction enters generalizing initial with
  | nil => exact ⟨initial, .unchanged rfl, kept, fun byte _ => byte⟩
  | @cons before after last line events entries entered _ ih =>
    cases found : Entry.command? ⟨line, before, events, after⟩ with
    | none =>
      have unchanged := (gives_of_none found entered).2
      obtain ⟨status, lasts, text, byte⟩ := ih (by rw [unchanged]; exact kept)
      refine ⟨status, lasts.skip found, text, fun start sound => byte start ?_⟩
      exact fun event member => sound event (List.mem_append_right _ member)
    | some command =>
      obtain ⟨listing, own, reports, result, same, ran, -⟩ := gives_of_some found entered
      obtain ⟨reaped, _, _, evaluated, _, rfl, -, evaluates, -⟩ := Shell.gives_run.mp ran
      obtain ⟨status, lasts, text, byte⟩ := ih (status_run ran).1
      refine ⟨status, .cons ⟨command, listing, _, reports, found, same, ran⟩ lasts, text,
        fun _ sound => byte (isByte_exitStatus_of_sound evaluates fun event member => ?_) ?_⟩
      · rw [List.flatMap_cons, same] at sound
        exact sound event (by simp [member])
      · exact fun event member => sound event (List.mem_append_right _ member)

end Entries

theorem isStatus_of_isByte {status : Int} (byte : IsByte status) :
    Variables.isStatus status = true := by
  obtain ⟨least, most⟩ := byte
  rw [Variables.isStatus, Bool.and_eq_true, decide_eq_true_eq, decide_eq_true_eq]
  omega

theorem directories_accepted {session last : Session} {entries : List Entry}
    (enters : Enters session entries last) :
    directories ((accepted entries).flatMap Entry.events) =
      directories (entries.flatMap Entry.events) := by
  induction enters with
  | nil => rfl
  | @cons before after last line events entries entered _ ih =>
    rw [List.flatMap_cons, directories_append, ← ih]
    cases found : Entry.command? ⟨line, before, events, after⟩ with
    | none =>
      rw [accepted_cons_of_none found, directories_of_inert (gives_of_none found entered).1]
      rfl
    | some command =>
      rw [accepted_cons_of_some found, List.flatMap_cons, directories_append]

theorem expansion_forget (entry : Entry) : entry.forget.expansion = entry.expansion := rfl

theorem command?_forget (entry : Entry) : entry.forget.command? = entry.command? := rfl

def unset : Session := start (.ofEnvironment fun _ => none) {} false none

def refused : Session := { unset with history := unset.history.add "| x" }

def complaint (text : String) : Event := ⟨.write 2 (text ++ "\n").toUTF8, .ok ()⟩

def rejection : List Event := [complaint "✗ bsh: syntax error: unexpected token `|`"]

def missing : List Event :=
  [⟨.changeDirectory "/a", .error .noSuchFile⟩,
    complaint ("bsh: cd: /a: " ++ Errno.description .noSuchFile)]

def unshown : List Event :=
  [⟨.write 2 ("✗ bsh: syntax error: unexpected token `|`" ++ "\n").toUTF8, .error .noSpace⟩]

end Session

end CommandShell
