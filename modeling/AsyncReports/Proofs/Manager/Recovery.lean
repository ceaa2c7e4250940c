import AsyncReports.Manager
import AsyncReports.Proofs.Job.Heir
import AsyncReports.Proofs.Job.Submission

set_option autoImplicit false

/-!
# Recovering failed jobs

A failed job is restarted, or replaced by a group whose members are new and started, or given up. Sorting a queue
recovers its failed jobs in order; the completed ones leave it together, and when a recovery fails none leaves.
-/

namespace AsyncReports.Manager

open ReportJob Job

variable {σ : Type}

theorem splitReport_ensures (service : Service σ) (leaf : ReportJob) (w : World σ) :
    Act.Ensures (leaf.split service) w fun out _ =>
      (∃ rows, out = .ok (leaf.parts rows)) ∨ ∃ cause, out = .error (.service cause) := by
  simp only [ReportJob.split, Act.ensures_bind, Service.queried, Act.ensures_call]
  split
  · rename_i cause _
    exact Act.ensures_pure.2 (.inr ⟨cause, rfl⟩)
  · rename_i rows _
    simp only [Act.ensures_bind, Act.ensures_log, Act.ensures_pure]
    exact .inl ⟨rows, rfl⟩

theorem split_ensures (service : Service σ) (job : Job) (w : World σ) :
    Act.Ensures (job.split service) w fun out _ =>
      (∃ leaf rows, job = .report leaf ∧ out = .ok (leaf.parts rows)) ∨
      (∃ cause, out = .error (.service cause)) ∨ ∃ label, out = .error (.unsplittable label) := by
  cases job with
  | group g members =>
    rw [Job.split]
    exact Act.ensures_pure.2 (.inr (.inr ⟨_, rfl⟩))
  | report leaf =>
    refine (splitReport_ensures service leaf w).mono ?_
    rintro _ _ (⟨rows, rfl⟩ | failed)
    · exact .inl ⟨leaf, rows, rfl, rfl⟩
    · exact .inr (.inl failed)

theorem parts_fresh (leaf : ReportJob) (rows : List Row) : (leaf.parts rows).All (·.progress = {}) := by
  intro part mem
  rw [leaves_parts, List.mem_map] at mem
  obtain ⟨key, -, rfl⟩ := mem
  rfl

inductive RecoverEnd (settings : ManagerSettings) (job : Job) : Outcome Recovery → Prop
  | exhausted (spent : settings.maxAttempts ≤ job.attempt) :
    RecoverEnd settings job (⟨job, none⟩, .error (.attemptsExhausted job.label job.attempt))
  | restarted {job' : Job} (room : job.attempt < settings.maxAttempts) (again : Becomes Restart job job') :
    RecoverEnd settings job (⟨job', none⟩, .ok ())
  | unrestarted {job' : Job} {cause : JobError} (room : job.attempt < settings.maxAttempts)
    (half : Becomes HalfRestart job job')
    (blame : cause.From .restartUnfailed job.Unrestartable) :
    RecoverEnd settings job (⟨job', none⟩, .error cause)
  | split {leaf : ReportJob} {rows : List Row} {parts : Job} (room : job.attempt < settings.maxAttempts)
    (second : job.attempt = Limits.splitOnAttempt) (whole : job = .report leaf)
    (launched : Becomes Launch (leaf.parts rows) parts) :
    RecoverEnd settings job (⟨parts, some job⟩, .ok ())
  | unsplit {cause : ServiceError} (room : job.attempt < settings.maxAttempts)
    (second : job.attempt = Limits.splitOnAttempt) :
    RecoverEnd settings job (⟨job, none⟩, .error (.service cause))

theorem restartJob_ensures (service : Service σ) (settings : ManagerSettings) (job : Job) (w : World σ)
    (room : job.attempt < settings.maxAttempts) :
    Act.Ensures (restartJob service job) w fun out _ => RecoverEnd settings job out := by
  rw [restartJob, Act.ensures_bind]
  refine (restart_ensures service job w).mono ?_
  rintro ⟨job', _ | _⟩ w₁ h
  · exact Act.ensures_pure.2 (.unrestarted room h.1 h.2)
  · simp only [Act.ensures_bind, Act.ensures_log, Act.ensures_pure]
    exact .restarted room h

theorem recover_ensures (service : Service σ) (settings : ManagerSettings) (job : Job) (w : World σ) :
    Act.Ensures (recover service settings job) w fun out _ => RecoverEnd settings job out := by
  rw [recover]
  split
  · rename_i spent
    exact Act.ensures_pure.2 (.exhausted spent)
  · rename_i unspent
    have room : job.attempt < settings.maxAttempts := Nat.lt_of_not_le unspent
    split
    · rename_i second
      simp only [Act.ensures_bind, Act.ensures_log]
      refine (split_ensures service job _).mono ?_
      rintro _ w₁ (⟨leaf, rows, whole, rfl⟩ | ⟨cause, rfl⟩ | ⟨label, rfl⟩)
      · refine Act.ensures_bind.2 ((start_ensures service (leaf.parts rows) w₁).mono ?_)
        rintro ⟨parts, cause | _⟩ w₂ h
        · obtain ⟨answer, rfl⟩ := h.2.service (startable_of_fresh (parts_fresh leaf rows))
          exact Act.ensures_pure.2 (.unsplit room second)
        · simp only [Act.ensures_bind, Act.ensures_log, Act.ensures_pure]
          exact .split room second whole h
      · exact Act.ensures_pure.2 (.unsplit room second)
      · simp only [Act.ensures_bind, Act.ensures_log]
        exact restartJob_ensures service settings job _ room
    · simp only [Act.ensures_bind, Act.ensures_log]
      exact restartJob_ensures service settings job _ room

theorem RecoverEnd.heir {settings : ManagerSettings} {job : Job} {out : Outcome Recovery}
    (h : RecoverEnd settings job out) : Heir job out.1.job := by
  cases h with
  | exhausted | unsplit => exact .refl job
  | restarted _ again => exact again.heir
  | unrestarted _ half => exact half.heir
  | @split leaf rows parts _ _ whole launched =>
    subst whole
    refine .split leaf.asMade rows rfl ?_
    rw [launched.made, asMade_parts]

/-- The job has completed, and no part of it has failed. -/
def deliverable (job : Job) : Bool := !job.failed && job.completed

/-- What a job that stays in the queue becomes: it still runs, or it had failed and has been recovered. -/
inductive Kept (settings : ManagerSettings) (job : Job) : Recovery → Prop
  | running (fine : job.failed = false) (open_ : job.completed = false) : Kept settings job ⟨job, none⟩
  | recovered {recovery : Recovery} (failed : job.failed) (done : RecoverEnd settings job (recovery, .ok ())) :
    Kept settings job recovery

theorem Kept.heir {settings : ManagerSettings} {job : Job} {recovery : Recovery} (h : Kept settings job recovery) :
    Heir job recovery.job := by
  cases h with
  | running => exact .refl job
  | recovered _ done => exact done.heir

/-- The jobs that are neither running any longer nor failed. -/
def delivered (jobs : List Job) : List Job := jobs.filter deliverable

/-- Those of the jobs that stay in the queue became what `recoveries` lists. -/
def StayAs (settings : ManagerSettings) (jobs : List Job) (recoveries : List Recovery) : Prop :=
  List.Forall₂ (Kept settings) (jobs.filter (!deliverable ·)) recoveries

inductive SortEnd (settings : ManagerSettings) (s : Sorting) (jobs : List Job) :
    Sorting → Except JobError Unit → Prop
  | sorted {s' : Sorting} {recoveries : List Recovery} (stay : StayAs settings jobs recoveries)
    (kept : s'.kept = s.kept ++ recoveries.map Recovery.job)
    (completed : s'.completed = s.completed ++ delivered jobs) :
    SortEnd settings s jobs s' (.ok ())
  | stuck {s' : Sorting} {before after : List Job} {job : Job} {recoveries : List Recovery} {recovery : Recovery}
    {cause : JobError} (order : jobs = before ++ job :: after) (stay : StayAs settings before recoveries)
    (failed : job.failed) (trouble : RecoverEnd settings job (recovery, .error cause))
    (kept : s'.kept = s.kept ++ recoveries.map Recovery.job ++ recovery.job ::
      (s.completed ++ delivered before ++ after))
    (completed : s'.completed = []) :
    SortEnd settings s jobs s' (.error cause)

theorem deliverable_iff {job : Job} : deliverable job ↔ job.failed = false ∧ job.completed := by
  simp [deliverable]

theorem deliverable_of_failed {job : Job} (failed : job.failed) : deliverable job = false := by
  simp [deliverable, failed]

theorem Kept.not_deliverable {settings : ManagerSettings} {job : Job} {recovery : Recovery}
    (h : Kept settings job recovery) : deliverable job = false := by
  cases h with
  | running fine open_ => simp [deliverable, open_]
  | recovered failed => exact deliverable_of_failed failed

theorem StayAs.cons {settings : ManagerSettings} {job : Job} {jobs : List Job} {recovery : Recovery}
    {recoveries : List Recovery} (head : Kept settings job recovery) (tail : StayAs settings jobs recoveries) :
    StayAs settings (job :: jobs) (recovery :: recoveries) := by
  rw [StayAs, List.filter_cons_of_pos (by simp [head.not_deliverable])]
  exact .cons head tail

theorem StayAs.skip {settings : ManagerSettings} {job : Job} {jobs : List Job} {recoveries : List Recovery}
    (leaves : deliverable job) (tail : StayAs settings jobs recoveries) :
    StayAs settings (job :: jobs) recoveries := by
  rw [StayAs, List.filter_cons_of_neg (by simp [leaves])]
  exact tail

theorem SortEnd.stays {settings : ManagerSettings} {s s' : Sorting} {job : Job} {rest replaced : List Job}
    {failures : Nat} {recovery : Recovery} {result : Except JobError Unit} (head : Kept settings job recovery)
    (h : SortEnd settings { s with kept := s.kept ++ [recovery.job], replaced, failures } rest s' result) :
    SortEnd settings s (job :: rest) s' result := by
  have skip : ∀ jobs, delivered (job :: jobs) = delivered jobs := fun jobs =>
    List.filter_cons_of_neg (by simp [head.not_deliverable])
  cases h with
  | sorted stay kept completed =>
    refine .sorted (stay.cons head) ?_ ?_
    · rw [kept, List.append_assoc, List.map_cons, List.singleton_append]
    · rw [completed, skip]
  | stuck order stay failed trouble kept completed =>
    refine .stuck (congrArg (job :: ·) order) (stay.cons head) failed trouble ?_ completed
    rw [kept, skip, List.append_assoc s.kept, List.map_cons, List.singleton_append]

theorem SortEnd.leaves {settings : ManagerSettings} {s s' : Sorting} {job : Job} {rest : List Job}
    {result : Except JobError Unit} (head : deliverable job)
    (h : SortEnd settings { s with completed := s.completed ++ [job] } rest s' result) :
    SortEnd settings s (job :: rest) s' result := by
  have take : ∀ jobs, delivered (job :: jobs) = job :: delivered jobs := fun jobs => List.filter_cons_of_pos head
  cases h with
  | sorted stay kept completed =>
    refine .sorted (stay.skip head) kept ?_
    rw [completed, take, List.append_assoc, List.singleton_append]
  | stuck order stay failed trouble kept completed =>
    refine .stuck (congrArg (job :: ·) order) (stay.skip head) failed trouble ?_ completed
    rw [kept, take, List.append_assoc s.completed, List.singleton_append]

theorem sort_ensures (service : Service σ) (settings : ManagerSettings) (jobs : List Job) :
    ∀ (s : Sorting) (w : World σ),
      Act.Ensures (sort service settings s jobs) w fun out _ => SortEnd settings s jobs out.1 out.2 := by
  induction jobs with
  | nil =>
    intro s w
    exact Act.ensures_pure.2 (.sorted .nil (List.append_nil _).symm (List.append_nil _).symm)
  | cons job rest ih =>
    intro s w
    rw [sort]
    split
    · rename_i failed
      rw [Act.ensures_bind]
      refine (recover_ensures service settings job w).mono ?_
      rintro ⟨recovery, _ | _⟩ w₁ h
      · have order : job :: rest = [] ++ job :: rest := rfl
        refine Act.ensures_pure.2 (.stuck order .nil failed h ?_ rfl)
        simp [delivered]
      · exact (ih _ w₁).mono fun out _ later => later.stays (.recovered failed h)
    · rename_i fine
      split
      · rename_i completed
        have head : deliverable job := by simp [deliverable, fine, completed]
        exact (ih _ w).mono fun out _ later => later.leaves head
      · rename_i open_
        have head : Kept settings job ⟨job, none⟩ :=
          .running (eq_false_of_ne_true fine) (eq_false_of_ne_true open_)
        exact (ih _ w).mono fun out _ later => later.stays head

/-! ## What sorting keeps -/

theorem StayAs.accounted {settings : ManagerSettings} {jobs : List Job} {recoveries : List Recovery}
    (h : StayAs settings jobs recoveries) : Accounted jobs (delivered jobs ++ recoveries.map Recovery.job) := by
  have stay : Accounted (jobs.filter (!deliverable ·)) (recoveries.map Recovery.job) :=
    .of_forall₂ (List.forall₂_map_right_iff.2 (h.imp fun _ _ => Kept.heir))
  have go : Accounted (delivered jobs) (delivered jobs) := .of_perm (.refl _)
  exact (Accounted.of_perm (List.filter_append_perm deliverable jobs).symm).trans (go.append stay)

theorem SortEnd.completed_of_error {settings : ManagerSettings} {jobs : List Job} {s s' : Sorting} {cause : JobError}
    (h : SortEnd settings s jobs s' (.error cause)) : s'.completed = [] := by
  cases h with
  | stuck _ _ _ _ _ completed => exact completed

/-- No job is lost when a queue is sorted, whether or not all of it could be. -/
theorem SortEnd.accounted {settings : ManagerSettings} {jobs : List Job} {s : Sorting}
    {result : Except JobError Unit} (h : SortEnd settings {} jobs s result) :
    Accounted jobs (s.completed ++ s.kept) := by
  cases h with
  | sorted stay kept completed =>
    rw [kept, completed]
    exact stay.accounted
  | @stuck before after job recoveries recovery _ order stay _ trouble kept completed =>
    rw [kept, completed, order]
    have middle : Accounted [job] [recovery.job] := .of_forall₂ (.cons trouble.heir .nil)
    have split : Accounted (before ++ ([job] ++ after))
        (delivered before ++ recoveries.map Recovery.job ++ ([recovery.job] ++ after)) :=
      stay.accounted.append (middle.append (.of_perm (.refl after)))
    -- What had completed goes back behind the job in trouble, so the new queue only permutes these.
    refine split.trans (.of_perm ?_)
    simp only [List.nil_append, List.singleton_append, List.append_assoc]
    refine List.perm_append_comm_assoc _ _ _ |>.trans ((List.Perm.append_left _ ?_))
    exact List.perm_middle

end AsyncReports.Manager
