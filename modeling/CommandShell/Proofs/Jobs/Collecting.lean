import CommandShell.Proofs.Jobs.Calm

/-!
# Starting and collecting children

A fork adds a child to those of the parent, and waiting for it takes it off again; the child starts
without any. Collecting the ended jobs takes off just those that leave the table, and waiting for
all jobs takes off all of them.
-/

set_option autoImplicit false

namespace CommandShell.Reaping
open Shell

variable {α : Type} {landmark : Landmark}

/-- Apart from `extra` the children that are not collected are the jobs of the table, and these are
the open ones. -/
def steady (extra : List Int) (shell : Shell) (past : List Event) : Prop :=
  Holds (extra ++ shell.jobs.processes) shell.jobs.processes past

/-- The task is safe where the further children are `extra`, and ends as `Q` has it. -/
abbrev Leads (landmark : Landmark) (extra : List Int) (task : Shell.Task α)
    (Q : α → Shell → List Event → Prop) : Prop :=
  Meets rules (Permits landmark) (steady extra) task Q

theorem Calm.leads {task : Shell.Task α} (calm : Calm landmark task) (extra : List Int) :
    Leads landmark extra task fun _ => steady extra := by
  intro shell past holds
  apply Program.safe_mono _ _ past (calm shell.jobs _ _ shell past ⟨rfl, holds⟩)
  rintro ⟨result, shell'⟩ past' ⟨same, holds'⟩
  rw [steady, same]
  exact holds'

theorem Calm.keeps {task : Shell.Task α} (calm : Calm landmark task) (children jobs : List Int) :
    Meets rules (Permits landmark) (fun _ past => Holds children jobs past) task
      fun _ _ past => Holds children jobs past := by
  intro shell past holds
  exact Program.safe_mono (fun _ _ h => h.2) _ past
    (calm shell.jobs children jobs shell past ⟨rfl, holds⟩)

/-! ## Forks -/

def sides (extra : List Int) : Forked → Shell → List Event → Prop
  | .parent child => steady (child :: extra)
  | .child => fun _ past => past = []

theorem leads_fork (extra : List Int) :
    Leads landmark extra (attempt "fork" (Program.perform .fork)).run
      (outcomes (sides extra) (steady extra)) := by
  intro shell past holds
  constructor
  · exact ⟨Holds.orderly holds, trivial⟩
  · intro reply allowed
    rcases reply with e | (_ | child)
    · exact Holds.unchanged holds id id fun _ => rfl
    · rfl
    · exact Holds.forked holds allowed

/-- A child begins without children and jobs, whatever its parent has, and what it does then is the
body's. -/
theorem leads_spawn {body : Shell.Task Int} (h : Leads landmark [] body fun _ => steady [])
    (extra : List Int) :
    Leads landmark extra (spawn body).run
      (outcomes (fun child => steady (child :: extra)) (steady extra)) := by
  apply meets_run_bind (leads_fork extra)
  intro side
  cases side with
  | parent child => exact Meets.pure _ fun _ _ h => h
  | child =>
    have begins (shell : Shell) (past : List Event) (h : past = []) : Holds [] [] past := by
      rw [h]
      exact holds_nil
    have disposed : Meets rules (Permits landmark) (fun _ past => Holds [] [] past)
        (perform (.setDisposition Signal.ofKeys .usual)) fun _ _ past => Holds [] [] past :=
      (calm_perform (c := .setDisposition Signal.ofKeys .usual) id).keeps [] []
    have forgotten : Meets rules (Permits landmark) (fun _ past => Holds [] [] past)
        (modify fun shell => { shell with jobs := {} }) fun _ => steady [] :=
      Meets.modify fun _ _ holds => holds
    have left (status : Int) : Meets rules (Permits landmark) (steady [])
        (perform (.exit status)) fun (never : Empty) _ _ => never.elim :=
      fun _ _ holds => ⟨⟨Holds.orderly holds, trivial⟩, nofun⟩
    apply Meets.strengthen _ begins
    apply meets_run_bind (meets_run_lift disposed)
    intro _
    apply meets_run_bind (meets_run_lift forgotten)
    intro _
    apply meets_run_bind (meets_run_lift h)
    intro status
    exact meets_run_bind (meets_run_lift (left status)) nofun

/-! ## Waiting and asking -/

section Children
variable {child : Int} {front back jobs : List Int} {past : List Event}

theorem safe_waitFor (holds : Holds (front ++ child :: back) jobs past) :
    (Program.waitFor child).Safe rules (Permits landmark) (fun outcome past =>
      ∃ ending earlier event, outcome = .ok ending ∧ past = earlier ++ [event] ∧
        Collects event ⟨child, ending.status⟩ ∧ Holds (front ++ back) jobs past) past := by
  constructor
  · exact ⟨holds.orderly, holds.mem_uncollected⟩
  · intro w allowed
    cases ended : w.outcome with
    | error e => exact absurd holds.mem_uncollected (missed_of_rules allowed ended).2
    | ok ending =>
      have collects := Collects.waited child ended
      exact ⟨ending, past, _, ended, rfl, collects, Holds.collected collects holds⟩

def polled (front back jobs : List Int) (child : Int) :
    Except Errno WaitStatus → List Event → Prop
  | .ok (.ended ending) => fun past =>
    ∃ earlier, past = earlier ++ [⟨.poll child, .ok (.ended ending)⟩] ∧
      Holds (front ++ back) jobs past
  | .ok _ => Holds (front ++ child :: back) jobs
  | .error e => fun past => e ≠ .noChild ∧ Holds (front ++ child :: back) jobs past

theorem safe_poll (holds : Holds (front ++ child :: back) jobs past) :
    (Program.perform (.poll child)).Safe rules (Permits landmark)
      (polled front back jobs child) past := by
  constructor
  · exact ⟨holds.orderly, holds.mem_uncollected⟩
  · intro reply allowed
    rcases reply with e | ending | signal | _ | _
    · have other : e ≠ .noChild := fun same => allowed same holds.mem_uncollected
      exact ⟨other, holds.unchanged id other fun _ => rfl⟩
    · exact ⟨past, rfl, Holds.collected (.polled child ending) holds⟩
    · exact holds.unchanged id id fun _ => rfl
    · exact holds.unchanged id id fun _ => rfl
    · exact holds.unchanged id id fun _ => rfl

theorem safe_completed {event : Event} {c : Completion} {children : List Int}
    (holds : Holds children (front ++ c.process :: back) (past ++ [event]))
    (collects : Collects event c) :
    (Program.reportLine c.message).Safe rules (Permits landmark)
      (fun _ past => Holds children (front ++ back) past) (past ++ [event]) :=
  Program.safe_print ⟨holds.orderly, trivial⟩ (fun reply _ => holds.completed collects reply)
    fun _ holds => holds.orderly.permits_crash

end Children

theorem leads_await (front back : List Int) (child : Int) :
    Leads landmark (front ++ child :: back) (await child).run
      (outcomes (fun _ => steady (front ++ back)) fun _ _ => False) := by
  have waited : Leads landmark (front ++ child :: back)
      (StateT.lift (Program.waitFor child)) fun outcome shell past =>
        (∃ ending, outcome = .ok ending) ∧ steady (front ++ back) shell past := by
    apply Meets.lift
    intro shell past holds
    rw [steady, List.append_assoc, List.cons_append] at holds
    apply Program.safe_mono _ _ past (safe_waitFor holds)
    rintro outcome past' ⟨ending, _, _, same, -, -, later⟩
    rw [← List.append_assoc] at later
    exact ⟨⟨ending, same⟩, later⟩
  have attempted : Leads landmark (front ++ child :: back)
      (attempt "waitpid" (Program.waitFor child)).run
      (outcomes (fun _ => steady (front ++ back)) fun _ _ => False) := by
    apply meets_run_bind (meets_run_lift waited)
    rintro reply shell past ⟨⟨ending, rfl⟩, holds⟩
    exact holds
  exact meets_run_bind attempted fun ending => Meets.pure _ fun _ _ holds => holds

theorem leads_spawn_await {body : Shell.Task Int} (h : Leads landmark [] body fun _ => steady []) :
    Leads landmark [] (spawn body >>= await).run
      (outcomes (fun _ => steady []) (steady [])) := by
  apply meets_run_bind (leads_spawn h [])
  intro child
  exact (leads_await [] [] child).weaken fun _ _ _ => outcomes_of_done

/-! ## The jobs of the table -/

theorem processes_cons (job : Job) (jobs : List Job) :
    JobTable.processes ⟨job :: jobs⟩ = job.process :: JobTable.processes ⟨jobs⟩ := rfl

theorem safe_awaitEach (logger : Option Logger) (rest : List Job) (past : List Event)
    (holds : Holds (JobTable.processes ⟨rest⟩) (JobTable.processes ⟨rest⟩) past) :
    (JobTable.awaitEach logger rest).Safe rules (Permits landmark)
      (fun _ past => Holds [] [] past) past := by
  induction rest generalizing past with
  | nil => exact holds
  | cons job rest ih =>
    rw [processes_cons, ← List.nil_append (job.process :: _)] at holds
    apply Program.safe_bind _ _ past (safe_waitFor holds)
    rintro _ _ ⟨ending, earlier, event, rfl, rfl, collects, later⟩
    apply Program.safe_bind _ _ _ (safe_completed later collects)
    intro _ past later
    exact Program.safe_bind _ _ past (ih past later) fun _ _ holds => holds

theorem safe_reapEach (logger : Option Logger) (front : List Int) (rest : List Job)
    (past : List Event)
    (holds : Holds (front ++ JobTable.processes ⟨rest⟩) (front ++ JobTable.processes ⟨rest⟩) past) :
    (JobTable.reapEach logger rest).Safe rules (Permits landmark)
      (fun result past => Holds (front ++ JobTable.processes ⟨result.2⟩)
        (front ++ JobTable.processes ⟨result.2⟩) past) past := by
  induction rest generalizing front past with
  | nil => exact holds
  | cons job rest ih =>
    rw [processes_cons] at holds
    -- A job that goes on is one more in front of the others.
    have stays (past : List Event)
        (holds : Holds (front ++ job.process :: JobTable.processes ⟨rest⟩)
          (front ++ job.process :: JobTable.processes ⟨rest⟩) past) :
        (JobTable.reapEach logger rest >>= fun result =>
          pure (result.1, job :: result.2)).Safe rules (Permits landmark)
          (fun result past => Holds (front ++ JobTable.processes ⟨result.2⟩)
            (front ++ JobTable.processes ⟨result.2⟩) past) past := by
      rw [← List.singleton_append, ← List.append_assoc] at holds
      apply Program.safe_bind _ _ past (ih (front ++ [job.process]) past holds)
      intro result past later
      rw [List.append_assoc, List.singleton_append] at later
      exact later
    apply Program.safe_bind _ _ past (safe_poll holds)
    intro reply past asked
    rcases reply with e | ending | signal | _ | _
    · simp only [if_neg asked.1]
      exact Program.safe_bind _ _ past (silent_log logger .error _ _ _ past asked.2)
        fun _ past holds => stays past holds
    · obtain ⟨earlier, rfl, later⟩ := asked
      apply Program.safe_bind _ _ _ (safe_completed later (.polled job.process ending))
      intro _ past later
      exact Program.safe_bind _ _ past (ih front past later) fun _ _ holds => holds
    · exact stays past asked
    · exact stays past asked
    · exact stays past asked

theorem meets_get (extra : List Int) :
    Leads landmark extra get fun found shell past => found = shell ∧ steady extra shell past :=
  Meets.get fun _ _ holds => ⟨rfl, holds⟩

theorem leads_awaitJobs :
    Leads landmark [] awaitJobs fun _ shell past => steady [] shell past ∧ shell.jobs = {} := by
  apply Meets.bind (meets_get [])
  intro found
  have awaited : Meets rules (Permits landmark)
      (fun shell past => found = shell ∧ steady [] shell past)
      (StateT.lift (found.jobs.awaitAll found.logger))
      fun result _ past => result.2 = {} ∧ Holds [] [] past := by
    apply Meets.lift
    rintro shell past ⟨rfl, holds⟩
    exact Program.safe_bind _ _ past (safe_awaitEach found.logger found.jobs.jobs past holds)
      fun _ _ holds => ⟨rfl, holds⟩
  apply Meets.bind awaited
  rintro ⟨completed, table⟩ shell past ⟨rfl, holds⟩
  exact ⟨holds, rfl⟩

theorem leads_reap : Leads landmark [] Shell.reap fun _ => steady [] := by
  apply Meets.bind (meets_get [])
  intro found
  have reaped : Meets rules (Permits landmark)
      (fun shell past => found = shell ∧ steady [] shell past)
      (StateT.lift (found.jobs.reap found.logger))
      fun result _ past => Holds result.2.processes result.2.processes past := by
    apply Meets.lift
    rintro shell past ⟨rfl, holds⟩
    exact Program.safe_bind _ _ past (safe_reapEach found.logger [] found.jobs.jobs past holds)
      fun _ _ holds => holds
  apply Meets.bind reaped
  intro result shell past holds
  exact holds

end CommandShell.Reaping
