import AsyncReports.Proofs.Ends
import AsyncReports.Proofs.ReportJob.Desk

set_option autoImplicit false

/-!
# Jobs whose run has ended

Once a run is known to have ended, nothing that is done with the job changes it, however many of its checks still
wait and whatever they are answered. It cannot be started, a reading asks nobody, and no check is queued. The only
way on is the restart of a job that has failed.
-/

namespace AsyncReports

variable {σ : Type}

namespace ReportJob

variable {service : Service σ} {job : ReportJob} {run : Run}

/-- The run has ended, and it is still known. -/
structure Ended (job : ReportJob) (run : Run) : Prop where
  known : job.progress.run = some run
  completed : job.completed

/-- Whatever is asked of the job is settled here: it keeps as it is, and nobody is asked. -/
structure Closed (service : Service σ) (job : ReportJob) (run : Run) : Prop where
  start : ∀ w, job.start service w = some ((job, .error (.misuse job.label .startTwice)), w)
  update : ∀ w, job.update service w = some ((job, .ok ()), { w with log := w.log ++ [finishedEntry run] })
  check : ∀ {τ : Type} (owner : String → τ) (w : World σ),
    job.check owner w = some (([], .ok ()), { w with log := w.log ++ [finishedEntry run] })

theorem Ended.of_terminal (sound : job.progress.Sound) (ended : job.progress.status.isTerminal) :
    ∃ run, job.Ended run := by
  obtain ⟨run, known⟩ := Option.isSome_iff_exists.1 (sound.run_isSome (Status.started_of_terminal ended))
  refine ⟨run, known, ?_⟩
  rw [ReportJob.completed, sound.finished_eq]
  exact ended

theorem Ended.pending_eq (ended : job.Ended run) : job.pending = .finished run := by
  obtain ⟨time, finished⟩ := Option.isSome_iff_exists.1 ended.completed
  rw [pending, ended.known, finished]

theorem Ended.not_startable (ended : job.Ended run) : ¬ job.Startable := by
  intro fit
  have unknown := fit.1
  rw [ended.known] at unknown
  cases unknown

theorem Ended.closed (ended : job.Ended run) : job.Closed service run where
  start w := start_refused ended.not_startable w
  update w := by
    rw [ReportJob.update, ended.pending_eq]
    rfl
  check owner w := by
    rw [ReportJob.check, ended.pending_eq]
    rfl

theorem not_restartable_of_completed (ended : job.progress.status = .completed) : ¬ job.Restartable := by
  intro fit
  have failure := fit.2.2
  rw [ended] at failure
  cases failure

/-- A failed job leaves its state as soon as it is restarted, even if the new submission is refused. -/
theorem restart_leaves (fit : job.Restartable) (w : World σ) :
    Act.Ensures (job.restart service) w fun out _ =>
      out.1.attempt = job.attempt + 1 ∧ out.1.progress.status.isTerminal = false := by
  refine (restart_ensures service job w).mono ?_
  rintro _ _ (⟨-, ⟨run, now, rfl⟩ | ⟨cause, rfl⟩⟩ | ⟨unfit, -⟩)
  · exact ⟨rfl, rfl⟩
  · exact ⟨rfl, rfl⟩
  · exact absurd fit unfit

end ReportJob

namespace Desk

open ReportJob

/-- What can be done with a job: an operation, or reading its rows. -/
inductive Use
  | operation (op : Operation)
  | result

def use (service : Service σ) (desk : Desk) : Use → Act σ Desk
  | .operation op => desk.operate service op
  | .result => do
    let _ ← desk.job.result service
    pure desk

/-- Uses of a job one after another, whatever the world is like at each of them. -/
inductive Used (service : Service σ) : Desk → List Use → Desk → Prop
  | nothing (desk : Desk) : Used service desk [] desk
  | use {desk desk₁ desk' : Desk} {u : Use} {uses : List Use} {w w' : World σ}
    (run : desk.use service u w = some (desk₁, w')) (later : Used service desk₁ uses desk') :
    Used service desk (u :: uses) desk'

variable {service : Service σ} {desk desk' : Desk} {run : Run}

theorem used_of_foldlM (uses : List Use) (desk : Desk) (w : World σ) :
    Act.Ensures (uses.foldlM (use service) desk) w fun desk' _ => Used service desk uses desk' := by
  induction uses generalizing desk w with
  | nil => exact Act.ensures_pure.2 (.nothing desk)
  | cons u uses ih =>
    rw [List.foldlM_cons, Act.ensures_bind]
    intro desk₁ w₁ run
    exact (ih desk₁ w₁).mono fun _ _ later => .use run later

/-- A batch does nothing to a job whose run has ended, whichever of its checks are answered. -/
theorem execute_ended (ended : desk.job.completed) (batch : Batch Asker) (w : World σ) :
    Act.Ensures (Batch.execute service receive desk batch) w fun out _ => out.1.job = desk.job := by
  apply execute_hears service (p := fun later => later.job = desk.job) _ rfl
  intro later _ _ now answer same
  rw [← same] at ended
  exact (heard_of_completed ended now answer).trans same

theorem operate_ended (ended : desk.job.Ended run) {op : Operation} (kept : op = .restart → ¬ desk.job.Restartable)
    (w : World σ) : Act.Ensures (desk.operate service op) w fun desk' _ => desk'.job = desk.job := by
  cases op with
  | start =>
    simp only [operate, Act.ensures_bind, Act.ensures_pure]
    intro out w₁ started
    rw [ended.closed.start] at started
    cases started
    rfl
  | restart =>
    simp only [operate, Act.ensures_bind, Act.ensures_pure]
    intro out w₁ restarted
    rw [restart_refused (kept rfl)] at restarted
    cases restarted
    rfl
  | update =>
    simp only [operate, Act.ensures_bind, Act.ensures_pure]
    intro out w₁ updated
    rw [ended.closed.update] at updated
    cases updated
    rfl
  | queue i =>
    simp only [operate, Act.ensures_bind, Act.ensures_pure]
    exact fun _ _ _ => rfl
  | queueOther i other => exact Act.ensures_pure.2 rfl
  | execute i =>
    simp only [operate, Act.ensures_bind, Act.ensures_pure]
    exact execute_ended ended.completed (desk.batches i) w

theorem use_ended (ended : desk.job.Ended run) {u : Use} (kept : u = .operation .restart → ¬ desk.job.Restartable)
    (w : World σ) : Act.Ensures (desk.use service u) w fun desk' _ => desk'.job = desk.job := by
  cases u with
  | operation op =>
    apply operate_ended ended
    intro same
    exact kept (congrArg Use.operation same)
  | result =>
    rw [use, Act.ensures_bind]
    exact fun _ _ _ => Act.ensures_pure.2 rfl

theorem Used.job_eq {uses : List Use} (used : Used service desk uses desk') (ended : desk.job.Ended run)
    (kept : .operation .restart ∈ uses → ¬ desk.job.Restartable) : desk'.job = desk.job := by
  induction used with
  | nothing => rfl
  | use step _ ih =>
    have same := use_ended ended (fun first => kept (by rw [first]; exact List.mem_cons_self)) _ _ _ step
    rw [same] at ih
    exact ih ended fun mem => kept (List.mem_cons_of_mem _ mem)

/-- Whatever is done with a job whose run has ended, the job stays as it is, it cannot be started, and reading its
status asks nobody and queues nothing. Only the restart of a failed job leads on; a job that has succeeded cannot even
be restarted. -/
theorem ended_stays {edge : Edge} {params : Params} {interval : Interval} {settings : Settings} {uses : List Use}
    (reached : Reached service (.new edge params interval settings) desk)
    (ended : desk.job.progress.status.isTerminal) (used : Used service desk uses desk')
    (kept : desk.job.progress.status = .completed ∨ .operation .restart ∉ uses) :
    desk'.job = desk.job ∧
    (∃ run, desk.job.progress.run = some run ∧ desk'.job.Closed service run) ∧
    (desk.job.progress.status = .completed → ∀ w, desk'.job.restart service w =
      some ((desk'.job, .error (.misuse desk'.job.label .restartUnfailed)), w)) ∧
    (desk.job.progress.status ≠ .completed → ∀ w, ∃ out w', desk'.job.restart service w = some (out, w') ∧
      out.1.attempt = desk.job.attempt + 1 ∧ out.1.progress.status.isTerminal = false) := by
  have sound : desk.job.progress.Sound := reached.sound rfl _ List.mem_cons_self
  obtain ⟨run, closed⟩ := Ended.of_terminal sound ended
  have same : desk'.job = desk.job := by
    apply used.job_eq closed
    intro restarts
    rcases kept with succeeded | never
    · exact not_restartable_of_completed succeeded
    · exact absurd restarts never
  rw [same]
  refine ⟨rfl, ⟨run, closed.known, closed.closed⟩, ?_, ?_⟩
  · intro succeeded w
    exact restart_refused (not_restartable_of_completed succeeded) w
  · intro unsuccessful w
    have failure : desk.job.progress.status.isFailure := ((Status.isTerminal_iff _).1 ended).resolve_left unsuccessful
    have fit := restartable_of_failed sound (by rw [ReportJob.failed, sound.failed_eq]; exact failure)
    obtain ⟨out, w', restarted⟩ := restart_total service desk.job w
    exact ⟨out, w', restarted, restart_leaves fit w out w' restarted⟩

/-- A check is queued before the run is seen to have failed. -/
def failedEarly : List Operation := [.start, .queue 0, .update]

/-- The check is answered, and the failed job is put to use. -/
def failedLate : List Use :=
  [.operation (.execute 0), .operation .start, .result, .operation .update, .operation (.queue 1)]

theorem failedLate_run : ∃ desk w desk' w',
    failedEarly.foldlM (operate (failing [])) { job := .sample } { remote := 0 } = some (desk, w) ∧
    failedLate.foldlM (use (failing [])) desk w = some (desk', w') ∧
    desk.job.progress.status = .failed ∧ desk'.hearings.length = 1 := by
  have run : ((do
      let desk ← failedEarly.foldlM (operate (failing [])) { job := .sample }
      let desk' ← failedLate.foldlM (use (failing [])) desk
      pure (desk.job.progress.status, desk'.hearings.length)) { remote := 0 }).map Prod.fst = some (.failed, 1) := by
    decide +kernel
  obtain ⟨⟨told, w'⟩, ran, known⟩ := Option.map_eq_some_iff.1 run
  obtain ⟨desk, w, early, ran⟩ := Act.bind_eq_some.1 ran
  obtain ⟨desk', w₁, late, ran⟩ := Act.bind_eq_some.1 ran
  have same := (Act.pure_eq_some.1 ran).1.trans known
  rw [Prod.mk.injEq] at same
  exact ⟨desk, w, desk', w₁, early, late, same⟩

theorem ended_stays_failedLate : ∃ desk desk', Reached (failing []) .sample desk ∧
    desk.job.progress.status = .failed ∧ Used (failing []) desk failedLate desk' ∧ desk'.hearings.length = 1 ∧
    desk'.job = desk.job ∧ ∃ run, desk'.job.Closed (failing []) run := by
  obtain ⟨desk, w, desk', w', early, late, failed, heard⟩ := failedLate_run
  have reached : Reached (failing []) .sample desk :=
    Reached.operations .new failedEarly { remote := 0 } desk w early
  have used := used_of_foldlM failedLate desk w desk' w' late
  have terminal : desk.job.progress.status.isTerminal := by rw [failed]; rfl
  have never : .operation .restart ∉ failedLate := by simp [failedLate]
  obtain ⟨same, ⟨run, -, closed⟩, -⟩ := ended_stays reached terminal used (.inr never)
  exact ⟨desk, desk', reached, failed, used, heard, same, run, closed⟩

end Desk

end AsyncReports
