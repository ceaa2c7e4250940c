import AsyncReports.Proofs.ReportJob.Isolation
import AsyncReports.Proofs.Requests

set_option autoImplicit false

/-!
# Submissions of a report job

The submissions of a job are written down where they arrive, at the remote side, with what they were answered. Every
operation is an episode with a ledger of its own. Put together, the ledgers hold one run for each attempt, but for an
attempt that has not been given one yet; what is submitted is always the same; and nothing is submitted while a run
is under way or has succeeded.
-/

namespace AsyncReports

variable {σ : Type} {service : Service σ}

/-- A submission that has arrived, and what it was answered. -/
structure Submission where
  edge : Edge
  params : Params
  answer : Answer Run

/-- The runs that submissions were given, one after another. -/
def granted (submissions : List Submission) : List String :=
  submissions.filterMap fun s => s.answer.toOption.map (·.id)

/-- The same remote side, with a ledger of the submissions. -/
def Service.recording (service : Service σ) : Service (σ × List Submission) where
  submit edge params s :=
    let (answer, remote) := service.submit edge params s.1
    (answer, remote, s.2 ++ [⟨edge, params, answer⟩])
  query edge params s := (service.query edge params s.1).map id (·, s.2)
  status run s := (service.status run s.1).map id (·, s.2)
  statuses runs s := (service.statuses runs s.1).map id (·, s.2)
  rows run pageSize s := (service.rows run pageSize s.1).map id (·, s.2)
  throttle s := (service.throttle s.1).map id (·, s.2)

/-- A request that submits nothing. -/
def Call.Reads (c : Call) : Prop := ∀ edge params, c ≠ .submit edge params

theorem Asks.ledger_eq {w w' : World (σ × List Submission)} (asks : Asks service.recording Call.Reads w w') :
    w'.remote.2 = w.remote.2 := by
  induction asks with
  | nothing => rfl
  | quiet _ log clock ih => exact ih
  | request _ kind made ih =>
    cases made with
    | submit edge params => exact absurd rfl (kind edge params)
    | query | status | statuses | rows | throttle => exact ih

namespace ReportJob

/-- A submission of the job has arrived, and the job has taken in the answer. -/
inductive Sent (job : ReportJob) (before after : List Submission) : Outcome ReportJob → Prop
  | granted (run : Run) (now : Nat) (noted : after = before ++ [⟨job.edge, job.params, .ok run⟩]) :
    Sent job before after (job.launched run now, .ok ())
  | refused (cause : ServiceError) (noted : after = before ++ [⟨job.edge, job.params, .error cause⟩]) :
    Sent job before after (job, .error (.service cause))

theorem Submits.sent {job : ReportJob} {w w' : World (σ × List Submission)} {out : Outcome ReportJob}
    (h : Submits service.recording job w out w') : Sent job w.remote.2 w'.remote.2 out := by
  have noted : (job.sent service.recording w).remote.2 =
      w.remote.2 ++ [⟨job.edge, job.params, (service.recording.submit job.edge job.params w.remote).1⟩] := rfl
  cases h with
  | granted run log answer => exact .granted run w.clock (by rw [← answer]; exact noted)
  | refused cause answer => exact .refused cause (by rw [← answer]; exact noted)

theorem start_sent (job : ReportJob) (w : World (σ × List Submission)) :
    Act.Ensures (job.start service.recording) w fun out w' =>
      (job.Startable ∧ Sent job w.remote.2 w'.remote.2 out) ∨
      (¬ job.Startable ∧ w'.remote.2 = w.remote.2 ∧ out = (job, .error (.misuse job.label .startTwice))) := by
  by_cases fit : job.Startable
  · exact (start_submits service.recording fit w).mono fun _ _ submits => .inl ⟨fit, submits.sent⟩
  · intro out w' run
    rw [start_refused fit] at run
    cases run
    exact .inr ⟨fit, rfl, rfl⟩

theorem restart_sent (job : ReportJob) (w : World (σ × List Submission)) :
    Act.Ensures (job.restart service.recording) w fun out w' =>
      (job.Restartable ∧ Sent job.cleared w.remote.2 w'.remote.2 out) ∨
      (¬ job.Restartable ∧ w'.remote.2 = w.remote.2 ∧ out = (job, .error (.misuse job.label .restartUnfailed))) := by
  by_cases fit : job.Restartable
  · exact (restart_submits service.recording fit w).mono fun _ _ submits => .inl ⟨fit, submits.sent⟩
  · intro out w' run
    rw [restart_refused fit] at run
    cases run
    exact .inr ⟨fit, rfl, rfl⟩

/-- Jobs that were made alike submit the same. -/
theorem sends_same {a b : ReportJob} (same : a.asMade = b.asMade) : a.edge = b.edge ∧ a.params = b.params := by
  have edge := congrArg ReportJob.edge same
  have params := congrArg ReportJob.params same
  exact ⟨edge, params⟩

end ReportJob

namespace Desk

open ReportJob

/-- Whether the operation is a restart that gets through to the submission, so that a new attempt begins. -/
def restarts (service : Service σ) (desk : Desk) (op : Operation) (w : World σ) : Bool :=
  match op, desk.job.restart service w with
  | .restart, some ((_, .error (.misuse _ _)), _) => false
  | .restart, _ => true
  | _, _ => false

/-- What an operation did: the job before it, what was submitted, and whether a new attempt began. -/
structure Episode where
  before : ReportJob
  submissions : List Submission
  restarted : Bool

/-- An operation on an empty ledger. -/
def episode (service : Service σ) (desk : Desk) (op : Operation) : Act (σ × List Submission) (Episode × Desk) :=
  fun w =>
    let blank : World (σ × List Submission) := { w with remote := (w.remote.1, []) }
    (desk.operate service.recording op blank).map fun (desk', w') =>
      ((⟨desk.job, w'.remote.2, desk.restarts service.recording op blank⟩, desk'), w')

/-- The desks that a job comes to by operations, with what each of them did. -/
inductive Recorded (service : Service σ) (first : ReportJob) : List Episode → Desk → Prop
  | new : Recorded service first [] { job := first }
  | operation {episodes : List Episode} {desk desk' : Desk} {op : Operation} {e : Episode}
    {w w' : World (σ × List Submission)} (before : Recorded service first episodes desk)
    (run : desk.episode service op w = some ((e, desk'), w')) : Recorded service first (episodes ++ [e]) desk'

/-- How one operation on a desk, the submissions that it made and the start of a new attempt go together. -/
structure Deed (desk desk' : Desk) (e : Episode) : Prop where
  before : e.before = desk.job
  runs : desk'.runs = desk.runs ++ granted e.submissions
  attempt : desk'.job.attempt = desk.job.attempt + e.restarted.toNat
  asMade : desk'.job.asMade = desk.job.asMade
  about : ∀ s ∈ e.submissions, s.edge = desk.job.edge ∧ s.params = desk.job.params
  few : e.submissions.length ≤ 1
  fit : e.submissions ≠ [] → desk.job.Startable ∨ desk.job.Restartable

variable {desk desk' : Desk}

/-- An operation that submits nothing. -/
theorem Deed.quiet (runs : desk'.runs = desk.runs) (attempt : desk'.job.attempt = desk.job.attempt)
    (asMade : desk'.job.asMade = desk.job.asMade) : Deed desk desk' ⟨desk.job, [], false⟩ where
  before := rfl
  runs := by rw [runs]; exact (List.append_nil _).symm
  attempt := attempt
  asMade := asMade
  about := by simp
  few := Nat.zero_le 1
  fit none := absurd rfl none

/-- An operation that submits once, for the job as it is or after it has been cleared. -/
theorem Deed.sent {cleared : ReportJob} {restarted : Bool} {ledger : List Submission} {out : Outcome ReportJob}
    (sent : Sent cleared [] ledger out) (attempt : cleared.attempt = desk.job.attempt + restarted.toNat)
    (asMade : cleared.asMade = desk.job.asMade) (fit : desk.job.Startable ∨ desk.job.Restartable) :
    Deed desk (desk.submitted out) ⟨desk.job, ledger, restarted⟩ := by
  obtain ⟨edge, params⟩ := sends_same asMade
  cases sent with
  | granted run now noted =>
    subst noted
    exact ⟨rfl, rfl, attempt, asMade, by simp [edge, params], Nat.le_refl 1, fun _ => fit⟩
  | refused cause noted =>
    subst noted
    exact ⟨rfl, by simp [submitted, granted, Except.toOption], attempt, asMade, by simp [edge, params], Nat.le_refl 1,
      fun _ => fit⟩

/-- What taking in answers leaves alone. -/
structure Kept (desk desk' : Desk) : Prop where
  runs : desk'.runs = desk.runs
  attempt : desk'.job.attempt = desk.job.attempt
  asMade : desk'.job.asMade = desk.job.asMade

theorem Kept.hear (kept : Kept desk desk') {run : Option String} {attempt now : Nat} {answer : Answer Json} :
    Kept desk (desk'.hear run attempt answer (desk'.job.heard now answer)) where
  runs := kept.runs
  attempt := (heard_attempt now answer desk'.job).trans kept.attempt
  asMade := (heard_asMade now answer desk'.job).trans kept.asMade

variable {first : ReportJob} {episodes : List Episode}

theorem Recorded.reached (recorded : Recorded service first episodes desk) :
    Reached service.recording first desk := by
  induction recorded with
  | new => exact .new
  | operation _ run ih =>
    obtain ⟨⟨desk', w'⟩, operated, same⟩ := Option.map_eq_some_iff.1 run
    cases same
    exact .operation ih operated

theorem execute_reads (desk : Desk) (batch : Batch Asker) :
    Act.Only service.recording Call.Reads (Batch.execute service.recording receive desk batch) := by
  apply Batch.execute_only
  · intro later asker answer
    cases asker with
    | other => exact .pure _
    | own run attempt label => exact .bind (ReportJob.receive_only label answer later.job) fun _ => .pure _
  · intro edge params
    nofun

/-- Every operation does what its ledger says. -/
theorem operate_deed (op : Operation) {w : World (σ × List Submission)} (blank : w.remote.2 = []) :
    Act.Ensures (desk.operate service.recording op) w fun desk' w' =>
      Deed desk desk' ⟨desk.job, w'.remote.2, desk.restarts service.recording op w⟩ := by
  have reads : ∀ {α : Type} {act : Act (σ × List Submission) α}, Act.Only service.recording Call.Reads act →
      Act.Ensures act w fun _ w' => w'.remote.2 = [] := by
    intro α act only
    exact (only w).mono fun _ _ asks => asks.ledger_eq.trans blank
  cases op with
  | start =>
    simp only [operate, Act.ensures_bind, Act.ensures_pure]
    refine (start_sent desk.job w).mono ?_
    rw [blank]
    rintro out w₁ (⟨fit, sent⟩ | ⟨-, same, rfl⟩)
    · exact .sent sent rfl rfl (.inl fit)
    · rw [same]
      exact .quiet rfl rfl rfl
  | restart =>
    simp only [operate, Act.ensures_bind, Act.ensures_pure]
    refine (restart_sent desk.job w).with_run.mono ?_
    rw [blank]
    rintro out w₁ ⟨⟨fit, sent⟩ | ⟨-, same, rfl⟩, ran⟩
    · have began : desk.restarts service.recording .restart w = true := by
        unfold restarts
        rw [ran]
        cases sent <;> rfl
      rw [began]
      exact .sent sent rfl rfl (.inr fit)
    · have refused : desk.restarts service.recording .restart w = false := by
        unfold restarts
        rw [ran]
      rw [refused, same]
      exact .quiet rfl rfl rfl
  | update =>
    simp only [operate, Act.ensures_bind, Act.ensures_pure]
    have reading : ∀ run, Call.Reads (.status run) := by
      rintro run edge params ⟨⟩
    refine ((update_observes service.recording desk.job w).and (reads (ReportJob.update_only reading desk.job))).mono ?_
    rintro ⟨_, result⟩ w₁ ⟨rfl | ⟨now, run, rfl⟩, same⟩
    · rw [same]
      exact .quiet rfl rfl rfl
    · rw [same]
      exact .quiet rfl rfl rfl
  | queue i =>
    simp only [operate, Act.ensures_bind, Act.ensures_pure]
    refine (reads (ReportJob.check_only _ desk.job)).mono ?_
    intro _ w₁ same
    rw [same]
    exact .quiet rfl rfl rfl
  | queueOther i run =>
    rw [operate, Act.ensures_pure, blank]
    exact .quiet rfl rfl rfl
  | execute i =>
    simp only [operate, Act.ensures_bind, Act.ensures_pure]
    have kept := execute_hears service.recording (p := Kept desk) (fun later _ _ _ _ kept => kept.hear) ⟨rfl, rfl, rfl⟩
      (desk.batches i) w
    refine (kept.and (reads (execute_reads desk (desk.batches i)))).mono ?_
    rintro out w₁ ⟨kept, same⟩
    rw [same]
    exact .quiet kept.runs kept.attempt kept.asMade

/-- What the episodes come to, whoever answered them. -/
structure Tied (first : ReportJob) (episodes : List Episode) (desk : Desk) : Prop where
  runs : desk.runs = granted (episodes.flatMap (·.submissions))
  attempt : desk.job.attempt = first.attempt + episodes.countP (·.restarted)
  asMade : desk.job.asMade = first.asMade
  about : ∀ e ∈ episodes, ∀ s ∈ e.submissions, s.edge = first.edge ∧ s.params = first.params
  fit : ∀ e ∈ episodes, e.submissions.length ≤ 1 ∧
    (e.submissions ≠ [] → e.before.Startable ∨ e.before.Restartable)

theorem Tied.step {e : Episode} (tied : Tied first episodes desk)
    (deed : Deed desk desk' e) : Tied first (episodes ++ [e]) desk' where
  runs := by
    rw [deed.runs, tied.runs]
    simp [granted]
  attempt := by
    rw [deed.attempt, tied.attempt, List.countP_append, List.countP_singleton]
    cases e.restarted <;> rfl
  asMade := deed.asMade.trans tied.asMade
  about := by
    rw [List.forall_mem_append, List.forall_mem_singleton]
    obtain ⟨edge, params⟩ := sends_same tied.asMade
    refine ⟨tied.about, ?_⟩
    rw [← edge, ← params]
    exact deed.about
  fit := by
    rw [List.forall_mem_append, List.forall_mem_singleton, deed.before]
    exact ⟨tied.fit, deed.few, deed.fit⟩

theorem Recorded.tied (recorded : Recorded service first episodes desk) : Tied first episodes desk := by
  induction recorded with
  | new => exact ⟨rfl, rfl, rfl, by simp, by simp⟩
  | operation _ run ih =>
    obtain ⟨⟨desk', w'⟩, operated, same⟩ := Option.map_eq_some_iff.1 run
    cases same
    exact ih.step (operate_deed _ rfl _ _ operated)

theorem Recorded.counted {edge : Edge} {params : Params} {interval : Interval} {settings : Settings}
    (recorded : Recorded service (.new edge params interval settings) episodes desk) :
    desk.Counted := by
  have changes := recorded.reached.changes
  clear recorded
  induction changes with
  | refl => rfl
  | tail _ last ih => exact last.counted ih

/-- Every attempt of a job is given at most one run: the runs granted so far are as many as the attempts, but for one
that is not started. The attempts are counted by the restarts that get through, whatever becomes of them. The same
report is submitted each time, over the interval of the job, and never while a run is under way or has succeeded. -/
theorem one_run_per_attempt {edge : Edge} {params : Params} {interval : Interval} {settings : Settings}
    (recorded : Recorded service (.new edge params interval settings) episodes desk) :
    (granted (episodes.flatMap (·.submissions))).length =
      (if desk.job.progress.status = .notStarted then desk.job.attempt - 1 else desk.job.attempt) ∧
    desk.job.attempt = 1 + episodes.countP (·.restarted) ∧
    (∀ e ∈ episodes, ∀ s ∈ e.submissions,
      s.edge = edge ∧ s.params = { params with window := some interval.window }) ∧
    ∀ e ∈ episodes, e.submissions.length ≤ 1 ∧
      (e.before.progress.status = .started ∨ e.before.progress.status = .running ∨
        e.before.progress.status = .completed → e.submissions = []) := by
  have tied := recorded.tied
  have counted := recorded.counted
  refine ⟨?_, tied.attempt, tied.about, fun e mem => ⟨(tied.fit e mem).1, fun under => ?_⟩⟩
  · unfold Counted at counted
    rw [← tied.runs]
    split
    · rename_i unstarted
      rw [if_pos unstarted] at counted
      omega
    · rename_i begun
      rw [if_neg begun] at counted
      omega
  · by_cases none : e.submissions = []
    · exact none
    · rcases (tied.fit e mem).2 none with fit | fit
      · rw [fit.2] at under
        simp at under
      · have failure := fit.2.2
        rcases under with status | status | status <;> rw [status] at failure <;> cases failure

/-- The episodes so far, and one more. -/
def record (service : Service σ) (past : List Episode × Desk) (op : Operation) :
    Act (σ × List Submission) (List Episode × Desk) := do
  let (e, desk) ← past.2.episode service op
  pure (past.1 ++ [e], desk)

theorem Recorded.operations (recorded : Recorded service first episodes desk) (ops : List Operation)
    (w : World (σ × List Submission)) :
    Act.Ensures (ops.foldlM (record service) (episodes, desk)) w fun out _ => Recorded service first out.1 out.2 := by
  induction ops generalizing episodes desk w with
  | nil => exact Act.ensures_pure.2 recorded
  | cons op ops ih =>
    simp only [List.foldlM_cons, record, Act.ensures_bind, Act.ensures_pure]
    exact fun out w₁ run => ih (recorded.operation run) w₁

/-- The first restart is refused by the remote side, and the job is started again. The check of the first run is
answered late. -/
def busyRestart : List Operation := [.start, .queue 0, .update, .restart, .start, .execute 0, .update, .restart]

theorem busyRestart_run : ∃ episodes desk w,
    busyRestart.foldlM (record (failing [1])) ([], { job := .sample }) { remote := (0, []) } =
      some ((episodes, desk), w) ∧
    desk.job.attempt = 3 ∧ desk.job.progress.status = .started ∧
    episodes.map (·.submissions.length) = [1, 0, 0, 1, 1, 0, 0, 1] := by
  have run : (busyRestart.foldlM (record (failing [1])) ([], { job := .sample }) { remote := (0, []) }).map
      (fun out => (out.1.2.job.attempt, out.1.2.job.progress.status, out.1.1.map (·.submissions.length))) =
        some (3, .started, [1, 0, 0, 1, 1, 0, 0, 1]) := by
    decide +kernel
  obtain ⟨⟨⟨episodes, desk⟩, w⟩, ran, told⟩ := Option.map_eq_some_iff.1 run
  simp only [Prod.mk.injEq] at told
  exact ⟨episodes, desk, w, ran, told⟩

theorem one_run_per_attempt_busyRestart : ∃ episodes desk, Recorded (failing [1]) .sample episodes desk ∧
    desk.job.attempt = 3 ∧ episodes.map (·.submissions.length) = [1, 0, 0, 1, 1, 0, 0, 1] ∧
    (granted (episodes.flatMap (·.submissions))).length = 3 ∧ episodes.countP (·.restarted) = 2 := by
  obtain ⟨episodes, desk, w, ran, attempt, started, sent⟩ := busyRestart_run
  have recorded : Recorded (failing [1]) .sample episodes desk :=
    Recorded.operations .new busyRestart { remote := (0, []) } (episodes, desk) w ran
  obtain ⟨runs, restarts, -⟩ := one_run_per_attempt recorded
  rw [started, attempt] at runs
  rw [attempt] at restarts
  exact ⟨episodes, desk, recorded, attempt, sent, runs, by omega⟩

end Desk

end AsyncReports
