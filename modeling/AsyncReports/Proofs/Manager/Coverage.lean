import AsyncReports.Proofs.Job.Visits
import AsyncReports.Proofs.Manager.Course
import AsyncReports.Proofs.Waiting

set_option autoImplicit false

/-!
# What a pass checks

The poll of a pass covers the front of the queue: the longest part such that fewer checks than the limit are queued
before each of its jobs. Their shared batch asks about the runs of the report jobs among them that still run, and the
jobs beyond are as they were. If a job is refused, the part ends with it, and the checks queued before are made.
-/

namespace AsyncReports.Manager

open ReportJob Job

variable {σ : Type}

theorem pollPass_covers_front (service : Service σ) (m : Manager) (w : World σ) :
    (service.Answers w.remote → Act.Ends (fun rounds => m.pollPass service rounds) w) ∧
    ∀ rounds m' result w', m.pollPass service rounds w = some ((m', result), w') →
      ∃ queue seen beyond polled settled w₁ trips, m' = { m with queue } ∧
        Coverage service rounds m.settings.maxChecks m.queue w (queue, result) w' seen beyond polled settled w₁ trips ∧
        (seen.filterMap asks).length ≤ m.settings.maxChecks ∧
        ∀ cause, result = .error cause → ∃ before before' job job' w₀, seen = before ++ [job] ∧
          polled = before' ++ [job'] ∧ Visits service rounds w before before' (.ok ()) w₀ ∧
          Visits service rounds w₀ [job] [job'] (.error cause) w₁ := by
  refine ⟨pollPass_ends m, fun rounds m' result w' run => ?_⟩
  obtain ⟨queue, polls, rfl⟩ := pollPass_eq_some.1 run
  obtain ⟨seen, beyond, polled, settled, w₁, trips, covers⟩ := pollQueue_covers _ _ _ _ _ polls
  refine ⟨queue, seen, beyond, polled, settled, w₁, trips, rfl, covers, covers.within.length_le, ?_⟩
  rintro cause rfl
  exact covers.visits.refused_last

/-- One job that has finished, a group, two jobs that still run, and one that was never started. -/
def mixed : Manager where
  settings := { maxChecks := 2 }
  source := []
  queue :=
    [.report ((ReportJob.sample.launched { id := "run-1" } 0).heard 1
        (.ok (Script.statusDocument "run-1" Status.completed.text))),
      .group { interval := ReportJob.sample.interval } [.report (ReportJob.sample.launched { id := "run-2" } 0)],
      .report (ReportJob.sample.launched { id := "run-3" } 0), .report (ReportJob.sample.launched { id := "run-4" } 0),
      sampleJob]

theorem pollPass_covers_front_mixed : ∃ m' result w',
    mixed.pollPass Script.service 3 { remote := {} } = some ((m', result), w') ∧
    ∃ queue seen beyond polled settled w₁ trips, m' = { mixed with queue } ∧
      Coverage Script.service 3 mixed.settings.maxChecks mixed.queue { remote := {} } (queue, result) w' seen beyond
        polled settled w₁ trips ∧
      (seen.filterMap asks).length ≤ mixed.settings.maxChecks ∧
      ∀ cause, result = .error cause → ∃ before before' job job' w₀, seen = before ++ [job] ∧
        polled = before' ++ [job'] ∧ Visits Script.service 3 { remote := {} } before before' (.ok ()) w₀ ∧
        Visits Script.service 3 w₀ [job] [job'] (.error cause) w₁ := by
  have run : (mixed.pollPass Script.service 3 { remote := {} }).isSome := by decide +kernel
  obtain ⟨⟨⟨m', result⟩, w'⟩, run⟩ := Option.isSome_iff_exists.1 run
  exact ⟨m', result, w', run, (pollPass_covers_front Script.service mixed { remote := {} }).2 3 m' result w' run⟩

end AsyncReports.Manager
