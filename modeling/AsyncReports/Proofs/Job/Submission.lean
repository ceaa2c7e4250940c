import AsyncReports.Proofs.Job.Tree

set_option autoImplicit false

/-!
# Submitting the reports of a job

A start submits every leaf of a job, a restart every leaf that has failed. Both go through the leaves in order and
stop at the first error; the leaves before it have been submitted then, the leaf in trouble has not, and those
behind it are as they were.
-/

namespace AsyncReports

variable {σ : Type}

/-- The service is to blame for the error, or the error is a misuse, and there is a reason to complain of it. -/
def JobError.From (misuse : Misuse) (reason : Prop) (cause : JobError) : Prop :=
  (∃ answer, cause = .service answer) ∨ (reason ∧ ∃ label, cause = .misuse label misuse)

theorem JobError.From.mono {misuse : Misuse} {reason reason' : Prop} {cause : JobError}
    (h : cause.From misuse reason) (weaker : reason → reason') : cause.From misuse reason' :=
  h.imp_right (And.imp_left weaker)

theorem JobError.From.service {misuse : Misuse} {reason : Prop} {cause : JobError}
    (h : cause.From misuse reason) (none : ¬ reason) : ∃ answer, cause = .service answer :=
  h.resolve_right fun found => none found.1

namespace ReportJob

def Launch (a b : ReportJob) : Prop := a.Startable ∧ ∃ run now, b = a.launched run now

/-- The failed job was cleared and its report was submitted again. -/
def Relaunch (a b : ReportJob) : Prop := a.Restartable ∧ ∃ run now, b = a.cleared.launched run now

/-- The failed job was cleared, and submitting its report failed. -/
def Strand (a b : ReportJob) : Prop := a.Restartable ∧ b = a.cleared

def HalfStart (a b : ReportJob) : Prop := b = a ∨ Launch a b

def Restart (a b : ReportJob) : Prop := (a.failed = false ∧ b = a) ∨ Relaunch a b

/-- What a restart did that may have ended early. -/
def HalfRestart (a b : ReportJob) : Prop := b = a ∨ Relaunch a b ∨ Strand a b

theorem Restart.half {a b : ReportJob} (h : Restart a b) : HalfRestart a b := h.imp And.right .inl

end ReportJob

namespace Job

open ReportJob

/-- A start of the job comes to a leaf that cannot be started. -/
def Unstartable (job : Job) : Prop := ∃ leaf ∈ job.leaves, ¬ leaf.Startable

/-- Nothing of the job has failed, or something that has cannot be restarted. -/
def Unrestartable (job : Job) : Prop :=
  job.failed = false ∨ ∃ leaf ∈ job.leaves, leaf.failed ∧ ¬ leaf.Restartable

theorem startable_of_fresh {job : Job} (fresh : job.All (·.progress = {})) : ¬ job.Unstartable := by
  rintro ⟨leaf, mem, unfit⟩
  exact unfit (.of_fresh (fresh leaf mem))

theorem restartable_of_sound {job : Job} (failed : job.failed) (sound : job.All (·.progress.Sound)) :
    ¬ job.Unrestartable := by
  rintro (fine | ⟨leaf, mem, broken, unfit⟩)
  · rw [failed] at fine
    cases fine
  · exact unfit (restartable_of_failed (sound leaf mem) broken)

theorem becomes_same_half {job : Job} : Becomes HalfStart job job := .same fun _ _ => .inl rfl

mutual
theorem start_ensures (service : Service σ) : ∀ (job : Job) (w : World σ),
    Act.Ensures (start service job) w fun out _ =>
      match out.2 with
      | .ok () => Becomes Launch job out.1
      | .error cause => Becomes HalfStart job out.1 ∧
          cause.From .startTwice job.Unstartable
  | .report job, w => by
    simp only [start, Act.ensures_bind, Act.ensures_pure]
    refine (ReportJob.start_ensures service job w).mono ?_
    rintro _ _ (⟨fit, ⟨run, now, rfl⟩ | ⟨cause, rfl⟩⟩ | ⟨unfit, rfl⟩)
    · exact .report rfl ⟨fit, run, now, rfl⟩
    · exact ⟨.report rfl (.inl rfl), .inl ⟨cause, rfl⟩⟩
    · exact ⟨.report rfl (.inl rfl), .inr ⟨⟨job, List.mem_singleton_self job, unfit⟩, _, rfl⟩⟩
  | .group g members, w => by
    simp only [start, Act.ensures_bind, Act.ensures_pure]
    refine (startAll_ensures service members w).mono ?_
    rintro ⟨members', _ | _⟩ _ h
    · exact ⟨.group h.1, h.2⟩
    · exact .group h

theorem startAll_ensures (service : Service σ) : ∀ (jobs : List Job) (w : World σ),
    Act.Ensures (startAll service jobs) w fun out _ =>
      match out.2 with
      | .ok () => List.Forall₂ (Becomes Launch) jobs out.1
      | .error cause => List.Forall₂ (Becomes HalfStart) jobs out.1 ∧
          cause.From .startTwice (∃ leaf ∈ allLeaves jobs, ¬ leaf.Startable)
  | [], w => by simp [startAll]
  | job :: rest, w => by
    simp only [startAll, Act.ensures_bind]
    refine (start_ensures service job w).mono ?_
    rintro ⟨job', _ | _⟩ w₁ head
    · refine Act.ensures_pure.2 ⟨.cons head.1 (List.forall₂_same.2 fun _ _ => becomes_same_half), ?_⟩
      exact head.2.mono fun ⟨leaf, mem, unfit⟩ => ⟨leaf, List.mem_append_left _ mem, unfit⟩
    · simp only [Act.ensures_bind, Act.ensures_pure]
      refine (startAll_ensures service rest w₁).mono ?_
      rintro ⟨rest', _ | _⟩ _ tail
      · refine ⟨.cons (head.mono fun _ _ => .inr) tail.1, tail.2.mono ?_⟩
        exact fun ⟨leaf, mem, unfit⟩ => ⟨leaf, List.mem_append_right _ mem, unfit⟩
      · exact .cons head tail
end

theorem becomes_same_restart {job : Job} (fine : job.failed = false) : Becomes Restart job job := by
  rw [failed_eq_any, List.any_eq_false] at fine
  exact .same fun leaf mem => .inl ⟨by simpa using fine leaf mem, rfl⟩

theorem becomes_same_halfRestart {job : Job} : Becomes HalfRestart job job := .same fun _ _ => .inl rfl

theorem restartFailed_cons (service : Service σ) (attempt : Nat) (job : Job) (rest : List Job) :
    restartFailed service attempt (job :: rest) =
      (if job.failed then restart service job else pure (job, .ok ()) : Act σ (Outcome Job)) >>=
        (fun out => match out.2 with
          | .error cause => pure (out.1 :: rest, attempt, .error cause)
          | .ok () => do
            let (rest, attempt, result) ← restartFailed service (max attempt out.1.attempt) rest
            pure (out.1 :: rest, attempt, result)) := by
  rw [restartFailed]
  split <;> rfl

mutual
theorem restart_ensures (service : Service σ) : ∀ (job : Job) (w : World σ),
    Act.Ensures (restart service job) w fun out _ =>
      match out.2 with
      | .ok () => Becomes Restart job out.1
      | .error cause => Becomes HalfRestart job out.1 ∧ cause.From .restartUnfailed job.Unrestartable
  | .report job, w => by
    simp only [restart, Act.ensures_bind, Act.ensures_pure]
    refine (ReportJob.restart_ensures service job w).mono ?_
    rintro _ _ (⟨fit, ⟨run, now, rfl⟩ | ⟨cause, rfl⟩⟩ | ⟨unfit, rfl⟩)
    · exact .report rfl (.inr ⟨fit, run, now, rfl⟩)
    · exact ⟨.report rfl (.inr (.inr ⟨fit, rfl⟩)), .inl ⟨cause, rfl⟩⟩
    · refine ⟨.report rfl (.inl rfl), .inr ⟨?_, _, rfl⟩⟩
      cases failed : job.failed with
      | false => exact .inl failed
      | true => exact .inr ⟨job, List.mem_singleton_self job, failed, unfit⟩
  | .group g members, w => by
    simp only [restart]
    split
    · simp only [Act.ensures_bind]
      refine (restartFailed_ensures service members g.attempt w).mono ?_
      rintro ⟨members', attempt, _ | _⟩ _ h
      · exact Act.ensures_pure.2 ⟨.group h.1, h.2.mono .inr⟩
      · simp only [Act.ensures_bind, Act.ensures_log, Act.ensures_pure]
        exact .group h
    · rename_i fine
      refine Act.ensures_pure.2 ⟨becomes_same_halfRestart, .inr ⟨.inl ?_, _, rfl⟩⟩
      simpa [failed] using fine

theorem restartFailed_ensures (service : Service σ) : ∀ (jobs : List Job) (attempt : Nat) (w : World σ),
    Act.Ensures (restartFailed service attempt jobs) w fun out _ =>
      match out.2.2 with
      | .ok () => List.Forall₂ (Becomes Restart) jobs out.1
      | .error cause => List.Forall₂ (Becomes HalfRestart) jobs out.1 ∧
          cause.From .restartUnfailed (∃ leaf ∈ allLeaves jobs, leaf.failed ∧ ¬ leaf.Restartable)
  | [], attempt, w => by simp [restartFailed]
  | job :: rest, attempt, w => by
    have head : Act.Ensures (if job.failed then restart service job else pure (job, .ok ())) w fun out _ =>
        match out.2 with
        | .ok () => Becomes Restart job out.1
        | .error cause => Becomes HalfRestart job out.1 ∧
            cause.From .restartUnfailed (∃ leaf ∈ job.leaves, leaf.failed ∧ ¬ leaf.Restartable) := by
      split
      · rename_i failed
        refine (restart_ensures service job w).mono ?_
        rintro ⟨job', _ | _⟩ _ h
        · exact ⟨h.1, h.2.mono fun reason => reason.resolve_left (by simp [failed])⟩
        · exact h
      · rename_i fine
        exact Act.ensures_pure.2 (becomes_same_restart (by simpa using fine))
    rw [restartFailed_cons, Act.ensures_bind]
    refine head.mono ?_
    rintro ⟨job', _ | _⟩ w₁ first
    · refine Act.ensures_pure.2 ⟨.cons first.1 (List.forall₂_same.2 fun _ _ => becomes_same_halfRestart), ?_⟩
      exact first.2.mono fun ⟨leaf, mem, reason⟩ => ⟨leaf, List.mem_append_left _ mem, reason⟩
    · simp only [Act.ensures_bind, Act.ensures_pure]
      refine (restartFailed_ensures service rest (max attempt job'.attempt) w₁).mono ?_
      rintro ⟨rest', attempt', _ | _⟩ _ later
      · refine ⟨.cons (first.mono fun _ _ => Restart.half) later.1, later.2.mono ?_⟩
        exact fun ⟨leaf, mem, reason⟩ => ⟨leaf, List.mem_append_right _ mem, reason⟩
      · exact .cons first later
end

theorem restart_of_unfailed (service : Service σ) (g : Group) {members : List Job}
    (fine : (Job.group g members).failed = false) :
    restart service (.group g members) =
      pure (.group g members, .error (.misuse (Job.group g members).label .restartUnfailed)) := by
  rw [failed] at fine
  rw [restart, if_neg (by simp [fine])]

end Job

end AsyncReports
