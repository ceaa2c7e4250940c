import AsyncReports.Proofs.Job.Rows
import AsyncReports.Proofs.Manager.Conduct

set_option autoImplicit false

/-!
# What is handed out

A pass hands out the jobs that it finds completed and not failed after the poll, and these are not touched any more.
Each leaf of such a job has completed, so that the run it was last seen with is a completed one, and the rows of the
job can be read.
-/

namespace AsyncReports

namespace ReportJob

/-- The job has completed in this run. -/
def CompletedIn (leaf : ReportJob) (run : Run) : Prop :=
  leaf.progress.status = .completed ∧ leaf.progress.run = some run ∧ run.status = .completed

theorem completedIn_of_sound {leaf : ReportJob} (sound : leaf.progress.Sound) (completed : leaf.completed)
    (fine : leaf.failed = false) : ∃ run, leaf.CompletedIn run := by
  have ended : leaf.progress.status.isTerminal := by
    rw [← sound.finished_eq]
    exact completed
  have unfailed : leaf.progress.status.isFailure = false := by
    rw [← sound.failed_eq]
    exact fine
  have status : leaf.progress.status = .completed := by
    rcases (Status.isTerminal_iff _).1 ended with completed | failure
    · exact completed
    · rw [unfailed] at failure
      cases failure
  obtain ⟨run, known⟩ := Option.isSome_iff_exists.1 (sound.run_isSome (Status.started_of_terminal ended))
  have snapshot := sound.snapshot run known ended
  exact ⟨run, status, known, snapshot.trans status⟩

end ReportJob

namespace Manager

open Job

variable {σ : Type}

/-- The jobs that a call returns are those a pass found deliverable in a queue whose report jobs are sound. -/
theorem NextRun.returns {service : Service σ} {rounds : Nat} {m m' : Manager} {w w' : World σ} {jobs : List Job}
    (h : NextRun service rounds m w (m', .ok (some jobs)) w') (holds : Holds (·.progress.Sound) m) :
    jobs ≠ [] ∧ ∀ job ∈ jobs, deliverable job ∧ job.All (·.progress.Sound) := by
  cases h with
  | @returned m₁ m₂ _ w₁ w₂ _ _ opened _ waiting _ =>
    obtain ⟨m₃, w₃, idles, last, found⟩ := awaitCompleted_ensures service rounds rounds m₁ w₁ _ _ waiting
    have known := idles.keeps sound_invariant (opened.keeps sound_invariant holds)
    cases pass_ensures service rounds m₃ w₃ _ _ last with
    | @sorted queue _ _ s heard _ sorts =>
      have sound := all_heard sound_invariant heard known.queue
      cases sorts with
      | sorted _ _ completed =>
        rw [List.nil_append] at completed
        refine ⟨fun none => found (congrArg Except.ok none), fun job mem => ?_⟩
        rw [completed, delivered, List.mem_filter] at mem
        exact ⟨mem.2, sound job mem.1⟩

/-- Each leaf of a deliverable job has completed, and the rows of the job are those of the runs of its leaves. -/
theorem rows_of_deliverable (service : Service σ) {job : Job} (done : deliverable job)
    (sound : job.All (·.progress.Sound)) :
    ∃ held : List (ReportJob × Run), held.map Prod.fst = job.leaves ∧ (∀ p ∈ held, p.1.CompletedIn p.2) ∧
      job.result service = Except.ok <$> readRows service held := by
  obtain ⟨fine, completed⟩ := deliverable_iff.1 done
  rw [failed_eq_any, List.any_eq_false] at fine
  rw [completed_eq_all, List.all_eq_true] at completed
  have unfailed : ∀ leaf ∈ job.leaves, leaf.failed = false := fun leaf mem => eq_false_of_ne_true (fine leaf mem)
  obtain ⟨held, leaves, ended⟩ := exists_held fun leaf mem =>
    ReportJob.completedIn_of_sound (sound leaf mem) (completed leaf mem) (unfailed leaf mem)
  refine ⟨held, leaves, ended, ?_⟩
  rw [result_eq_leaves, ← leaves]
  refine results_of_held service fun p mem => ⟨(ended p mem).2.1, unfailed p.1 ?_⟩
  rw [← leaves]
  exact List.mem_map_of_mem mem

/-- A call that returns jobs returns some, and each of them has completed without failing. Its rows can be read: they
are the rows of the completed runs that its leaves were last seen with, one leaf after another. -/
theorem handed_out_consumable {service : Service σ} {settings : ManagerSettings} {source : List Job}
    {calls : List (NextCall σ)} {m m' : Manager} {rounds : Nat} {w w' : World σ} {jobs : List Job}
    (fresh : ∀ job ∈ source, job.All (·.progress = {})) (h : History service { settings, source } calls m)
    (run : m.next service rounds w = some ((m', .ok (some jobs)), w')) :
    jobs ≠ [] ∧ ∀ job ∈ jobs, job.completed ∧ job.failed = false ∧
      (∀ v, ∃ rows v', job.result service v = some (.ok rows, v')) ∧
      ∃ held : List (ReportJob × Run), held.map Prod.fst = job.leaves ∧ (∀ p ∈ held, p.1.CompletedIn p.2) ∧
        job.result service = Except.ok <$> readRows service held := by
  have holds := h.sound (holds_of_fresh fresh)
  obtain ⟨some_, all⟩ := (next_ensures service rounds m w _ _ run).returns holds
  refine ⟨some_, fun job mem => ?_⟩
  obtain ⟨done, sound⟩ := all job mem
  obtain ⟨fine, completed⟩ : job.failed = false ∧ job.completed := by simpa [deliverable] using done
  obtain ⟨held, leaves, ended, result⟩ := rows_of_deliverable service done sound
  refine ⟨completed, fine, fun v => ?_, held, leaves, ended, result⟩
  obtain ⟨rows, v', read⟩ := readRows_ends service held v
  refine ⟨rows, v', ?_⟩
  rw [result, map_eq_pure_bind, Act.bind_eq_some]
  exact ⟨rows, v', read, rfl⟩

/-- The first run fails, and the second one completes. -/
def secondWorld : World Script :=
  { remote := { status := [("run-1", [.ok (.named "Job Failed")])], defaultStatus := .ok (.named "Job Completed") } }

theorem second_run : ∃ m' w' jobs, next Script.service 3 { source := [sampleJob] } secondWorld =
    some ((m', .ok (some jobs)), w') ∧ jobs.map Job.attempt = [2] := by
  have run : (next Script.service 3 { source := [sampleJob] } secondWorld).map
      (fun out => (handed out.1.2).map Job.attempt) = some [2] := by
    decide +kernel
  rw [Option.map_eq_some_iff] at run
  obtain ⟨⟨⟨m', _ | _ | jobs⟩, w'⟩, run, attempts⟩ := run
  · simp [handed] at attempts
  · simp [handed] at attempts
  · exact ⟨m', w', jobs, run, attempts⟩

theorem handed_out_consumable_second : (∀ job ∈ [sampleJob], job.All (·.progress = {})) ∧ ∃ m' w' jobs,
    next Script.service 3 { source := [sampleJob] } secondWorld = some ((m', .ok (some jobs)), w') ∧
    jobs.map Job.attempt = [2] ∧
    jobs ≠ [] ∧ ∀ job ∈ jobs, job.completed ∧ job.failed = false ∧
      (∀ v, ∃ rows v', job.result Script.service v = some (.ok rows, v')) ∧
      ∃ held : List (ReportJob × Run), held.map Prod.fst = job.leaves ∧ (∀ p ∈ held, p.1.CompletedIn p.2) ∧
        job.result Script.service = Except.ok <$> readRows Script.service held := by
  obtain ⟨m', w', jobs, run, attempts⟩ := second_run
  exact ⟨sampleJob_fresh, m', w', jobs, run, attempts, handed_out_consumable sampleJob_fresh .start run⟩

end Manager

end AsyncReports
