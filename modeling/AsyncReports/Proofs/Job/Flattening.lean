import AsyncReports.Proofs.Alike
import AsyncReports.Proofs.Ends
import AsyncReports.Proofs.Job.Rows
import AsyncReports.Proofs.Job.Submission

set_option autoImplicit false

/-!
# Groups within groups

A group may hold groups, which may hold groups again. What it does to its leaves is what one group would do that holds
the leaves themselves, from left to right. Only the log tells the difference, where each group reports that it was
restarted, and so does the attempt that a group has counted up to.
-/

namespace AsyncReports.Job

open ReportJob

variable {σ : Type} (service : Service σ)

/-- One group that holds the leaves of all members itself. -/
def flattened (flat : Group) (members : List Job) : Job := .group flat ((allLeaves members).map .report)

/-! ## Starting -/

theorem startAll_append (first later : List Job) :
    startAll service (first ++ later) = (do
      let out ← startAll service first
      match out.2 with
      | .error cause => pure (out.1 ++ later, .error cause)
      | .ok () => do
        let out' ← startAll service later
        pure (out.1 ++ out'.1, out'.2)) := by
  induction first with
  | nil => simp [startAll]
  | cons job rest ih =>
    simp only [List.cons_append, startAll, bind_assoc]
    apply bind_congr
    intro out
    cases out.2 with
    | error cause => simp
    | ok =>
      simp only [ih, bind_assoc, pure_bind]
      apply bind_congr
      intro others
      cases others.2 <;> simp

mutual
theorem startAll_leaves : ∀ job : Job, startAll service (job.leaves.map .report) =
    (fun out => (out.1.leaves.map .report, out.2)) <$> start service job
  | .report leaf => by
    simp only [leaves, List.map_cons, List.map_nil, startAll, start, map_bind, map_pure, bind_assoc, pure_bind]
    apply bind_congr
    intro out
    cases out.2 <;> simp
  | .group g members => by
    simp only [leaves, start, startAll_allLeaves members, bind_pure_comp, Functor.map_map]

theorem startAll_allLeaves : ∀ jobs : List Job, startAll service ((allLeaves jobs).map .report) =
    (fun out => ((allLeaves out.1).map .report, out.2)) <$> startAll service jobs
  | [] => by simp [allLeaves, startAll]
  | job :: rest => by
    rw [allLeaves, List.map_append, startAll_append, startAll_leaves job, startAll_allLeaves rest]
    simp only [startAll, map_bind, bind_map_left]
    apply bind_congr
    intro out
    cases out.2 with
    | error cause => simp [allLeaves]
    | ok => simp [allLeaves]
end

/-! ## Restarting -/

theorem restartFailed_append (attempt : Nat) (first later : List Job) :
    restartFailed service attempt (first ++ later) = (do
      let out ← restartFailed service attempt first
      match out.2.2 with
      | .error cause => pure (out.1 ++ later, out.2.1, .error cause)
      | .ok () => do
        let out' ← restartFailed service out.2.1 later
        pure (out.1 ++ out'.1, out'.2)) := by
  induction first generalizing attempt with
  | nil => simp [restartFailed]
  | cons job rest ih =>
    rw [List.cons_append, restartFailed_cons, restartFailed_cons, bind_assoc]
    apply bind_congr
    intro out
    cases out.2 with
    | error cause => simp
    | ok =>
      simp only [ih, bind_assoc, pure_bind]
      apply bind_congr
      intro others
      cases others.2.2 <;> simp

theorem restartFailed_of_fine (attempt : Nat) (jobs : List Job) (fine : ∀ job ∈ jobs, job.failed = false) :
    ∃ attempt', restartFailed service attempt jobs = pure (jobs, attempt', .ok ()) := by
  induction jobs generalizing attempt with
  | nil => exact ⟨attempt, by rw [restartFailed]⟩
  | cons job rest ih =>
    rw [List.forall_mem_cons] at fine
    obtain ⟨attempt', later⟩ := ih (max attempt job.attempt) fine.2
    refine ⟨attempt', ?_⟩
    simp [restartFailed_cons, fine.1, later]

theorem start_together (leaf : ReportJob) : Act.Together Eq (leaf.start service) (leaf.start service) := by
  unfold ReportJob.start
  split
  · apply Act.Together.bind (Act.Together.call _ _)
    rintro answer _ rfl
    cases answer with
    | error cause => exact .pure rfl
    | ok run =>
      apply Act.Together.bind Act.Together.now
      rintro now _ rfl
      apply Act.Together.bind (Act.Together.log _ _)
      intro _ _ _
      exact .pure rfl
  · exact .pure rfl

theorem restart_together (leaf : ReportJob) : Act.Together Eq (leaf.restart service) (leaf.restart service) := by
  unfold ReportJob.restart
  split
  · exact .pure rfl
  · apply Act.Together.bind (start_together service _)
    rintro ⟨started, ended⟩ _ rfl
    cases ended with
    | error cause => exact .pure rfl
    | ok =>
      apply Act.Together.bind (Act.Together.log _ _)
      intro _ _ _
      exact .pure rfl

mutual
theorem restart_leaves : ∀ (job : Job) (attempt : Nat), job.failed →
    Act.Together (fun out out' => out'.1 = out.1.leaves.map .report ∧ out'.2.2 = out.2) (restart service job)
      (restartFailed service attempt (job.leaves.map .report))
  | .report leaf, attempt, failed => by
    simp only [leaves, List.map_cons, List.map_nil, restartFailed_cons, failed, if_true, restart, bind_assoc, pure_bind]
    apply Act.Together.bind (restart_together service leaf)
    rintro ⟨leaf', ended⟩ _ rfl
    cases ended with
    | error cause => exact .pure ⟨rfl, rfl⟩
    | ok => simpa [restartFailed] using Act.Together.pure ⟨rfl, rfl⟩
  | .group g members, attempt, failed => by
    rw [Job.failed] at failed
    rw [restart, if_pos failed, leaves, ← bind_pure (restartFailed service attempt _)]
    apply Act.Together.bind (restartFailed_leaves members g.attempt attempt)
    rintro ⟨members', attempt', _⟩ ⟨flat, attempt'', ended⟩ ⟨same, rfl⟩
    cases ended with
    | error cause => exact .pure ⟨same, rfl⟩
    -- the group says that it was restarted, and the leaves of the flat one have no such entry between them
    | ok => exact .log_then (.pure ⟨same, rfl⟩) _

theorem restartFailed_leaves : ∀ (jobs : List Job) (attempt attempt' : Nat),
    Act.Together (fun out out' => out'.1 = (allLeaves out.1).map .report ∧ out'.2.2 = out.2.2)
      (restartFailed service attempt jobs) (restartFailed service attempt' ((allLeaves jobs).map .report))
  | [], attempt, attempt' => by
    simpa only [allLeaves, List.map_nil, restartFailed] using Act.Together.pure ⟨rfl, rfl⟩
  | job :: rest, attempt, attempt' => by
    rw [allLeaves, List.map_append, restartFailed_append, restartFailed_cons]
    have first : Act.Together (fun out out' => out'.1 = out.1.leaves.map .report ∧ out'.2.2 = out.2)
        (if job.failed then restart service job else pure (job, .ok ()))
        (restartFailed service attempt' (job.leaves.map .report)) := by
      by_cases failed : job.failed
      · rw [if_pos failed]
        exact restart_leaves job attempt' failed
      · rw [if_neg failed]
        rw [failed_eq_any, List.any_eq_true] at failed
        obtain ⟨attempt'', same⟩ := restartFailed_of_fine service attempt' (job.leaves.map .report) (by
          simpa [Job.failed] using failed)
        rw [same]
        exact .pure ⟨rfl, rfl⟩
    apply Act.Together.bind first
    rintro ⟨job', _⟩ ⟨flat, seen, ended⟩ ⟨same, rfl⟩
    obtain rfl : flat = job'.leaves.map .report := same
    cases ended with
    | error cause => exact .pure ⟨by simp [allLeaves], rfl⟩
    | ok =>
      apply Act.Together.bind (restartFailed_leaves rest (max attempt job'.attempt) seen)
      rintro ⟨rest', attempt''⟩ ⟨flat', seen'⟩ ⟨same', later⟩
      obtain rfl : flat' = (allLeaves rest').map .report := same'
      exact .pure ⟨by simp [allLeaves], later⟩
end

/-! ## Reading -/

theorem result_of_unreadable {leaf : ReportJob} (unreadable : leaf.progress.run = none ∨ leaf.failed) :
    result service (.report leaf) = pure (.error (.misuse leaf.label .resultMissing)) := by
  rw [result, ReportJob.result]
  split
  · rename_i run known fine
    rcases unreadable with none | failed
    · rw [known] at none
      cases none
    · rw [ReportJob.failed, fine] at failed
      cases failed
  · rfl

theorem readable_before (leaves : List ReportJob) :
    (∃ held : List (ReportJob × Run), leaves = held.map Prod.fst ∧
      ∀ p ∈ held, p.1.progress.run = some p.2 ∧ p.1.failed = false) ∨
    ∃ (held : List (ReportJob × Run)) (leaf : ReportJob) (rest : List ReportJob),
      leaves = held.map Prod.fst ++ leaf :: rest ∧
      (∀ p ∈ held, p.1.progress.run = some p.2 ∧ p.1.failed = false) ∧ (leaf.progress.run = none ∨ leaf.failed) := by
  induction leaves with
  | nil => exact .inl ⟨[], rfl, by simp⟩
  | cons leaf rest ih =>
    cases known : leaf.progress.run with
    | none => exact .inr ⟨[], leaf, rest, rfl, by simp, .inl known⟩
    | some run =>
      by_cases failed : leaf.failed
      · exact .inr ⟨[], leaf, rest, rfl, by simp, .inr failed⟩
      · have readable : leaf.progress.run = some run ∧ leaf.failed = false := ⟨known, by simpa using failed⟩
        rcases ih with ⟨held, same, all⟩ | ⟨held, stuck, beyond, same, all, unreadable⟩
        · exact .inl ⟨(leaf, run) :: held, by simp [same], List.forall_mem_cons.2 ⟨readable, all⟩⟩
        · exact .inr ⟨(leaf, run) :: held, stuck, beyond, by simp [same], List.forall_mem_cons.2 ⟨readable, all⟩,
            unreadable⟩

theorem results_of_unreadable {held : List (ReportJob × Run)} {leaf : ReportJob} (rest : List ReportJob)
    (all : ∀ p ∈ held, p.1.progress.run = some p.2 ∧ p.1.failed = false)
    (unreadable : leaf.progress.run = none ∨ leaf.failed) :
    results service ((held.map Prod.fst ++ leaf :: rest).map .report) =
      (fun _ => .error (.misuse leaf.label .resultMissing)) <$> readRows service held := by
  rw [List.map_append, results_append, results_of_held service all, List.map_cons, results_cons,
    result_of_unreadable service unreadable]
  simp [joined, bind_pure_comp]

/-- The rows are those of the leaves from left to right, unless there is a first leaf that cannot be read. -/
def ReadInOrder (job : Job) : Prop :=
  (∃ held : List (ReportJob × Run), job.leaves = held.map Prod.fst ∧
    (∀ p ∈ held, p.1.progress.run = some p.2 ∧ p.1.failed = false) ∧
    job.result service = Except.ok <$> readRows service held) ∨
  ∃ (held : List (ReportJob × Run)) (leaf : ReportJob) (rest : List ReportJob),
    job.leaves = held.map Prod.fst ++ leaf :: rest ∧
    (∀ p ∈ held, p.1.progress.run = some p.2 ∧ p.1.failed = false) ∧ (leaf.progress.run = none ∨ leaf.failed) ∧
    job.result service = (fun _ => .error (.misuse leaf.label .resultMissing)) <$> readRows service held

theorem read_in_order (job : Job) : ReadInOrder service job := by
  rw [ReadInOrder, result_eq_leaves]
  rcases readable_before job.leaves with ⟨held, same, all⟩ | ⟨held, leaf, rest, same, all, unreadable⟩
  · exact .inl ⟨held, same, all, by rw [same, results_of_held service all]⟩
  · exact .inr ⟨held, leaf, rest, same, all, unreadable, by
      rw [same, results_of_unreadable service rest all unreadable]⟩

/-! ## The whole -/

/-- The two jobs hold the same leaves, one of them perhaps in groups within groups, and whatever a caller does with
them comes to the same. -/
structure ActsAlike (nested flat : Job) : Prop where
  leaves : flat.leaves = nested.leaves
  completed : flat.completed = nested.completed
  failed : flat.failed = nested.failed
  starts : ∀ w : World σ, ∃ nested' flat' result w', nested.start service w = some ((nested', result), w') ∧
    flat.start service w = some ((flat', result), w') ∧ flat'.leaves = nested'.leaves
  refuses : nested.failed = false →
    nested.restart service = pure (nested, .error (.misuse nested.label .restartUnfailed)) ∧
    flat.restart service = pure (flat, .error (.misuse flat.label .restartUnfailed))
  restarts : nested.failed → ∀ w : World σ, ∃ nested' flat' result w' v',
    nested.restart service w = some ((nested', result), w') ∧
    flat.restart service w = some ((flat', result), v') ∧ flat'.leaves = nested'.leaves ∧ w'.Alike v'
  reads : flat.result service = nested.result service
  rows : ReadInOrder service nested

theorem restarts_together (g h : Group) {members : List Job} (failed : anyFailed members) :
    Act.Together (fun out out' => out'.1.leaves = out.1.leaves ∧ out'.2 = out.2) (restart service (.group g members))
      (restart service (flattened h members)) := by
  have failed' : anyFailed ((allLeaves members).map .report) := by
    rwa [anyFailed_eq_any, leaves_of_reports, ← anyFailed_eq_any]
  rw [flattened, restart, restart, if_pos failed, if_pos failed']
  apply Act.Together.bind (restartFailed_leaves service members g.attempt h.attempt)
  rintro ⟨members', attempt, _⟩ ⟨flat, attempt', ended⟩ ⟨same, rfl⟩
  obtain rfl : flat = (allLeaves members').map .report := same
  have leaves (a b : Group) : (flattened a members').leaves = (Job.group b members').leaves :=
    leaves_of_reports (allLeaves members')
  cases ended with
  | error cause => exact .pure ⟨leaves _ _, rfl⟩
  | ok =>
    apply Act.Together.bind (Act.Together.log _ _)
    intro _ _ _
    exact .pure ⟨leaves _ _, rfl⟩

theorem flattened_actsAlike (g h : Group) (members : List Job) :
    ActsAlike service (.group g members) (flattened h members) := by
  have same : (flattened h members).leaves = (Job.group g members).leaves := leaves_of_reports (allLeaves members)
  have failing : (flattened h members).failed = (Job.group g members).failed := by
    rw [failed_eq_any, failed_eq_any, same]
  refine ⟨same, ?completed, failing, ?starts, ?refuses, ?restarts, ?reads, read_in_order service _⟩
  case completed => rw [completed_eq_all, completed_eq_all, same]
  case starts =>
    intro w
    obtain ⟨⟨members', result⟩, w', run⟩ := startAll_total service members w
    refine ⟨.group g members', flattened h members', result, w', ?_, ?_, leaves_of_reports (allLeaves members')⟩
    · rw [start, Act.bind_eq_some]
      exact ⟨_, _, run, rfl⟩
    · rw [flattened, start, startAll_allLeaves, bind_map_left, Act.bind_eq_some]
      exact ⟨_, _, run, rfl⟩
  case refuses =>
    intro fine
    exact ⟨restart_of_unfailed service g fine, restart_of_unfailed service h (failing.trans fine)⟩
  case restarts =>
    intro failed w
    rw [Job.failed] at failed
    obtain ⟨⟨nested', result⟩, w', ⟨flat', _⟩, v', run, run', ⟨leaves, rfl⟩, alike⟩ :=
      restarts_together service g h failed w w (.refl w)
    exact ⟨nested', flat', _, w', v', run, run', leaves, alike⟩
  case reads => rw [result_eq_leaves, result_eq_leaves, same]

end AsyncReports.Job
