import AsyncReports.Proofs.Ends
import AsyncReports.Proofs.ReportJob.Isolation

set_option autoImplicit false

/-!
# What an error leaves of a report job

A job whose answers come in while they are still wanted is unstarted exactly if it has no run. Then the guards of its
operations, which look at different fields, agree with each other, and it can be said of every operation when it fails.
A failed call leaves the job as it was, with one exception: a restart that the remote side refuses has already cleared
the job. What is left is like a new job in its next attempt, which a start takes up again.
-/

namespace AsyncReports

variable {σ : Type}

namespace JobError

/-- A call went wrong because the state of the job does not allow it. -/
def Barred {α : Type} (result : Except JobError α) : Prop := ∃ cause, result = .error cause ∧ cause.isMisuse

end JobError

namespace ReportJob

open JobError (Barred)

variable {service : Service σ} {job : ReportJob}

/-- A start leads on, and a restart does not. -/
structure Resumable (service : Service σ) (job : ReportJob) : Prop where
  start : ∀ w, ∃ out w', job.start service w = some (out, w') ∧ Submits service job w out w'
  restart : ∀ w, job.restart service w = some ((job, .error (.misuse job.label .restartUnfailed)), w)

/-- When each operation on a job fails, and what it leaves then. The job was once made as `made`. -/
structure Resilient (service : Service σ) (job made : ReportJob) : Prop where
  start : ∀ w, ∃ out w', job.start service w = some (out, w') ∧
    (out.2 = .ok () ↔
      job.progress.status = .notStarted ∧ ∃ run, (service.submit made.edge made.params w.remote).1 = .ok run) ∧
    ∀ cause, out.2 = .error cause → out.1 = job
  update : ∀ w, ∃ out w', job.update service w = some (out, w') ∧
    (Barred out.2 ↔ job.progress.run = none) ∧ ∀ cause, out.2 = .error cause → out.1 = job
  check : ∀ {τ : Type} (owner : String → τ) (w : World σ), ∃ out w', job.check owner w = some (out, w') ∧
    (Barred out.2 ↔ job.progress.run = none) ∧ ∀ cause, out.2 = .error cause → out.1 = [] ∧ w' = w
  restart : ∀ w, ∃ out w', job.restart service w = some (out, w') ∧
    (Barred out.2 ↔ job.progress.status ≠ .failed ∧ job.progress.status ≠ .skipped) ∧
    (Barred out.2 → out.1 = job ∧ w' = w) ∧
    ∀ cause, ¬ Barred out.2 → (service.submit made.edge made.params w.remote).1 = .error cause →
      out = ({ made with attempt := job.attempt + 1 }, .error (.service cause)) ∧ out.1.Resumable service
  result : ∀ w, ∃ out w', job.result service w = some (out, w') ∧
    ((∃ cause, out = .error cause) ↔ job.progress.run = none ∨ job.failed)

@[simp] theorem barred_misuse {α : Type} (label : String) (cause : Misuse) :
    Barred (.error (.misuse label cause) : Except JobError α) :=
  ⟨_, rfl, rfl⟩

@[simp] theorem not_barred_ok {α : Type} (a : α) : ¬ Barred (.ok a) := by
  rintro ⟨cause, failed, -⟩
  cases failed

@[simp] theorem not_barred_service {α : Type} (cause : ServiceError) :
    ¬ Barred (.error (.service cause) : Except JobError α) := by
  rintro ⟨_, ⟨⟩, misuse⟩
  cases misuse

theorem start_exact (idle : job.progress.status = .notStarted → job.progress.run = none) (w : World σ) :
    Act.Ensures (job.start service) w fun out _ =>
      (out.2 = .ok () ↔
        job.progress.status = .notStarted ∧ ∃ run, (service.submit job.edge job.params w.remote).1 = .ok run) ∧
      ∀ cause, out.2 = .error cause → out.1 = job := by
  by_cases unstarted : job.progress.status = .notStarted
  · refine (start_submits service ⟨idle unstarted, unstarted⟩ w).mono ?_
    intro out w' submits
    cases submits with
    | granted run log answer => simp [unstarted, answer]
    | refused cause answer => simp [answer]
  · intro out w' run
    rw [start_refused fun fit => unstarted fit.2] at run
    cases run
    simp [unstarted]

theorem update_exact (w : World σ) : Act.Ensures (job.update service) w fun out _ =>
    (Barred out.2 ↔ job.progress.run = none) ∧ ∀ cause, out.2 = .error cause → out.1 = job := by
  refine (update_ensures service job w).mono ?_
  rintro out _ (⟨unknown, rfl⟩ | ⟨known, -, rfl⟩ | ⟨run, known, -, answered⟩)
  · simp [unknown]
  · simp [Option.isSome_iff_ne_none.1 known]
  · cases read : (service.status run.id w.remote).1 with
    | error cause =>
      rw [read] at answered
      subst answered
      simp [known]
    | ok latest =>
      rw [read] at answered
      subst answered
      simp [known]

theorem check_exact {τ : Type} (owner : String → τ) (w : World σ) : Act.Ensures (job.check owner) w fun out w' =>
    (Barred out.2 ↔ job.progress.run = none) ∧ ∀ cause, out.2 = .error cause → out.1 = [] ∧ w' = w := by
  unfold check pending
  cases known : job.progress.run with
  | none => simp
  | some run => cases job.progress.finishedAt <;> simp

theorem result_exact (w : World σ) : Act.Ensures (job.result service) w fun out _ =>
    (∃ cause, out = .error cause) ↔ job.progress.run = none ∨ job.failed := by
  unfold result failed
  cases known : job.progress.run with
  | none => simp
  | some run => cases job.progress.failed <;> simp [Service.rowsOf]

theorem resumable_of_startable (fit : job.Startable) : job.Resumable service where
  start w := by
    obtain ⟨out, w', run⟩ := start_total service job w
    exact ⟨out, w', run, start_submits service fit w out w' run⟩
  restart w := by
    refine restart_refused (fun failed => ?_) w
    have known := failed.1
    rw [fit.1] at known
    cases known

theorem restartable_iff (sound : job.progress.Sound) : job.Restartable ↔ job.progress.status.isFailure := by
  constructor
  · exact fun fit => fit.2.2
  · intro failure
    exact restartable_of_failed sound (by rw [ReportJob.failed, sound.failed_eq]; exact failure)

theorem restart_exact (sound : job.progress.Sound) (w : World σ) : Act.Ensures (job.restart service) w fun out w' =>
    (Barred out.2 ↔ job.progress.status ≠ .failed ∧ job.progress.status ≠ .skipped) ∧
    (Barred out.2 → out.1 = job ∧ w' = w) ∧
    ∀ cause, ¬ Barred out.2 → (service.submit job.edge job.params w.remote).1 = .error cause →
      out = (job.cleared, .error (.service cause)) ∧ out.1.Resumable service := by
  have failure : job.Restartable ↔ ¬ (job.progress.status ≠ .failed ∧ job.progress.status ≠ .skipped) := by
    rw [restartable_iff sound]
    cases job.progress.status <;> simp [Status.isFailure]
  by_cases fit : job.Restartable
  · refine (restart_submits service fit w).mono ?_
    intro out w' submits
    have failed := failure.1 fit
    cases submits with
    | granted run log answer =>
      have sent : (service.submit job.edge job.params w.remote).1 = .ok run := answer
      exact ⟨by simp [failed], by simp, by simp [sent]⟩
    | refused cause answer =>
      have sent : (service.submit job.edge job.params w.remote).1 = .error cause := answer
      refine ⟨by simp [failed], by simp, fun cause' _ refused => ?_⟩
      rw [sent] at refused
      cases refused
      exact ⟨rfl, resumable_of_startable ⟨rfl, rfl⟩⟩
  · intro out w' run
    rw [restart_refused fit] at run
    cases run
    have sound := Classical.not_not.1 (mt failure.2 fit)
    exact ⟨by simp [sound], by simp, by simp⟩

theorem resilient {made : ReportJob} (same : job.asMade = made) (sound : job.progress.Sound)
    (idle : job.progress.status = .notStarted → job.progress.run = none) : job.Resilient service made := by
  have edge : made.edge = job.edge := by rw [← same]; rfl
  have params : made.params = job.params := by rw [← same]; rfl
  have cleared : { made with attempt := job.attempt + 1 } = job.cleared := by rw [← same]; rfl
  constructor
  · intro w
    obtain ⟨out, w', run⟩ := start_total service job w
    rw [edge, params]
    exact ⟨out, w', run, start_exact idle w out w' run⟩
  · intro w
    obtain ⟨out, w', run⟩ := update_total service job w
    exact ⟨out, w', run, update_exact w out w' run⟩
  · intro τ owner w
    obtain ⟨out, w', run⟩ := check_total owner job w
    exact ⟨out, w', run, check_exact owner w out w' run⟩
  · intro w
    obtain ⟨out, w', run⟩ := restart_total service job w
    rw [cleared, edge, params]
    exact ⟨out, w', run, restart_exact sound w out w' run⟩
  · intro w
    obtain ⟨out, w', run⟩ := result_total service job w
    exact ⟨out, w', run, result_exact w out w' run⟩

end ReportJob

namespace Desk

open ReportJob

variable {service : Service σ} {desk desk' : Desk}

/-- No check has been answered in a later attempt than it was queued in. -/
def Undisturbed (desk : Desk) : Prop := ∀ h ∈ desk.hearings, ¬ h.Late

instance (desk : Desk) : Decidable desk.Undisturbed := inferInstanceAs (Decidable (∀ h ∈ _, _))

/-- A job that is not started has no run, and no check of its attempt waits. -/
def Unbegun (desk : Desk) : Prop :=
  desk.job.progress.status = .notStarted → desk.job.progress.run = none ∧
    ∀ i id run attempt label, ⟨id, .own run attempt label⟩ ∈ desk.batches i → attempt ≠ desk.job.attempt

/-- A change of the batches only. -/
theorem Unbegun.requeued (unbegun : desk.Unbegun) (change : Change service desk desk') (same : desk'.job = desk.job) :
    desk'.Unbegun := by
  intro unstarted
  rw [same] at unstarted ⊢
  obtain ⟨unknown, unasked⟩ := unbegun unstarted
  refine ⟨unknown, fun j id run attempt label mem => ?_⟩
  rcases change.queued_of_mem mem with ⟨i, mem⟩ | ⟨-, known, -⟩
  · exact unasked i id run attempt label mem
  · rw [ReportJob.runId, unknown] at known
    cases known

theorem Change.unbegun (change : Change service desk desk') (labelled : desk.Labelled) (unbegun : desk.Unbegun)
    (undisturbed : desk'.Undisturbed) : desk'.Unbegun := by
  have requeued := unbegun.requeued change
  cases change with
  | start fit run now => intro unstarted; cases unstarted
  | reset fit =>
    intro _
    refine ⟨rfl, fun i id run attempt label mem => ?_⟩
    have early := (labelled i id run attempt label mem).2
    exact Nat.ne_of_lt (Nat.lt_succ_of_le early)
  | observe known read now =>
    intro unstarted
    rw [(unbegun ((Progress.observe_notStarted_iff _ _ _).1 unstarted)).1] at known
    cases known
  | queue | queueOther | keep => exact requeued rfl
  | @hear i attempt id label run answer s paired now =>
    -- Of an unstarted job only checks of earlier attempts can be waiting, and those are not answered.
    intro unstarted
    have queued := mem_of_paired paired
    have early := (labelled i id run attempt label queued).2
    have other := (unbegun ((heard_notStarted_iff now answer desk.job).1 unstarted)).2 i id run attempt label queued
    exact absurd (Nat.lt_of_le_of_ne early other) (undisturbed _ (List.mem_append_right _ List.mem_cons_self))

theorem Changes.unbegun {first : ReportJob} (fresh : first.progress.run = none)
    (changes : Changes service { job := first } desk) : desk.Labelled ∧ (desk.Undisturbed → desk.Unbegun) := by
  induction changes with
  | refl =>
    constructor
    · intro i id run attempt label mem
      cases mem
    · intro _ _
      refine ⟨fresh, fun i id run attempt label mem => ?_⟩
      cases mem
  | tail _ change ih =>
    obtain ⟨labelled, before⟩ := ih
    refine ⟨change.labelled labelled, fun undisturbed => ?_⟩
    exact change.unbegun labelled (before fun h mem => undisturbed h (change.hearings_subset mem)) undisturbed

/-- As long as no check is answered in a later attempt than its own, an error leaves a report job as it was, and it is
the state of the job alone that says when a call is out of place. A refused restart leaves a new job in its next
attempt. It cannot be restarted but started, and then submits the same report over the same interval. -/
theorem resilient_of_reached {edge : Edge} {params : Params} {interval : Interval} {settings : Settings}
    (reached : Reached service (.new edge params interval settings) desk) (undisturbed : desk.Undisturbed) :
    desk.job.Resilient service (.new edge params interval settings) := by
  have unbegun := (Changes.unbegun rfl reached.changes).2 undisturbed
  exact resilient reached.asMade (reached.sound rfl _ List.mem_cons_self) fun unstarted => (unbegun unstarted).1

/-- The first run is seen to have failed by a check that was queued in time. -/
def failedInTime : List Operation := [.start, .queue 0, .execute 0]

theorem failedInTime_run : ∃ desk w,
    failedInTime.foldlM (operate (failing [1])) { job := .sample } { remote := 0 } = some (desk, w) ∧
    w.remote = 1 ∧ desk.job.attempt = 1 ∧ desk.job.progress.status = .failed ∧ desk.hearings.length = 1 ∧
    desk.Undisturbed := by
  have run : (failedInTime.foldlM (operate (failing [1])) { job := .sample } { remote := 0 }).map (fun out =>
      (out.2.remote, out.1.job.attempt, out.1.job.progress.status, out.1.hearings.length,
        decide out.1.Undisturbed)) = some (1, 1, .failed, 1, true) := by
    decide +kernel
  obtain ⟨⟨desk, w⟩, ran, told⟩ := Option.map_eq_some_iff.1 run
  simp only [Prod.mk.injEq, decide_eq_true_eq] at told
  exact ⟨desk, w, ran, told⟩

theorem resilient_of_reached_failedInTime : ∃ desk w, Reached (failing [1]) .sample desk ∧ desk.Undisturbed ∧
    desk.hearings.length = 1 ∧ ∃ out w', desk.job.restart (failing [1]) w = some (out, w') ∧
      out.1 = { ReportJob.sample with attempt := 2 } ∧ out.1.Resumable (failing [1]) := by
  obtain ⟨desk, w, ran, count, first, failed, heard, undisturbed⟩ := failedInTime_run
  have reached : Reached (failing [1]) .sample desk :=
    Reached.operations .new failedInTime { remote := 0 } desk w ran
  obtain ⟨out, w', restarted, barred, -, refused⟩ := (resilient_of_reached reached undisturbed).restart w
  have let_through : ¬ JobError.Barred out.2 := by simp [barred, failed]
  have busy : ((failing [1]).submit ReportJob.sample.edge ReportJob.sample.params w.remote).1 =
      .error (.request 503 "busy") := by
    rw [count]
    rfl
  obtain ⟨same, resumable⟩ := refused _ let_through busy
  rw [first] at same
  exact ⟨desk, w, reached, undisturbed, heard, out, w', restarted, congrArg Prod.fst same, resumable⟩

end Desk

end AsyncReports
