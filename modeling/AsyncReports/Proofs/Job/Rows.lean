import AsyncReports.Proofs.Ensures
import AsyncReports.Proofs.Job.Tree

set_option autoImplicit false

/-!
# The rows of a job

What is read of a job is read of its leaves, from left to right, whatever the tree is like that holds them. If every
leaf has a run and has not failed, the rows are those of the runs, one after another.
-/

namespace AsyncReports.Job

variable {σ : Type} (service : Service σ)

/-- Rows read one after another, up to the first error. -/
def joined (first later : Act σ (Except JobError (List (Answer Row)))) :
    Act σ (Except JobError (List (Answer Row))) := do
  match ← first with
  | .error cause => pure (.error cause)
  | .ok rows =>
    match ← later with
    | .error cause => pure (.error cause)
    | .ok more => pure (.ok (rows ++ more))

theorem results_cons (job : Job) (rest : List Job) :
    results service (job :: rest) = joined (result service job) (results service rest) := by
  rw [results]
  rfl

theorem joined_nil (first : Act σ (Except JobError (List (Answer Row)))) : joined first (pure (.ok [])) = first := by
  unfold joined
  conv => rhs; rw [← bind_pure first]
  congr 1
  funext out
  cases out <;> simp

theorem joined_assoc (first second third : Act σ (Except JobError (List (Answer Row)))) :
    joined (joined first second) third = joined first (joined second third) := by
  unfold joined
  rw [bind_assoc]
  congr 1
  funext out
  cases out with
  | error cause => simp
  | ok rows =>
    simp only [bind_assoc]
    congr 1
    funext out
    cases out with
    | error cause => simp
    | ok more =>
      simp only [pure_bind, bind_assoc]
      congr 1
      funext out
      cases out <;> simp

theorem results_append (first later : List Job) :
    results service (first ++ later) = joined (results service first) (results service later) := by
  induction first with
  | nil =>
    simp only [List.nil_append, results, joined, pure_bind]
    conv => lhs; rw [← bind_pure (results service later)]
    congr 1
    funext out
    cases out <;> rfl
  | cons job rest ih => rw [List.cons_append, results_cons, results_cons, ih, joined_assoc]

mutual
theorem result_eq_leaves : ∀ job : Job, job.result service = results service (job.leaves.map .report)
  | .report job => by
    rw [leaves, List.map_singleton, results_cons, results, joined_nil]
  | .group _ members => by
    rw [result, leaves, results_eq_leaves members]

theorem results_eq_leaves : ∀ jobs : List Job, results service jobs = results service ((allLeaves jobs).map .report)
  | [] => rfl
  | job :: rest => by
    rw [results_cons, allLeaves, List.map_append, results_append, ← result_eq_leaves job, ← results_eq_leaves rest]
end

/-- Reads the rows of runs, each in pages of the size that is set for its job. -/
def readRows : List (ReportJob × Run) → Act σ (List (Answer Row))
  | [] => pure []
  | (leaf, run) :: rest => do
    let rows ← service.rowsOf run leaf.settings.results.pageSize
    let more ← readRows rest
    pure (rows ++ more)

theorem exists_held {leaves : List ReportJob} {q : ReportJob → Run → Prop} (each : ∀ leaf ∈ leaves, ∃ run, q leaf run) :
    ∃ held : List (ReportJob × Run), held.map Prod.fst = leaves ∧ ∀ p ∈ held, q p.1 p.2 := by
  induction leaves with
  | nil => exact ⟨[], rfl, by simp⟩
  | cons leaf rest ih =>
    rw [List.forall_mem_cons] at each
    obtain ⟨run, first⟩ := each.1
    obtain ⟨held, same, later⟩ := ih each.2
    refine ⟨(leaf, run) :: held, congrArg (leaf :: ·) same, ?_⟩
    rw [List.forall_mem_cons]
    exact ⟨first, later⟩

theorem readRows_ends (held : List (ReportJob × Run)) (w : World σ) :
    ∃ rows w', readRows service held w = some (rows, w') := by
  induction held generalizing w with
  | nil => exact ⟨[], w, rfl⟩
  | cons head rest ih =>
    obtain ⟨leaf, run⟩ := head
    obtain ⟨more, w', later⟩ := ih
      { w with
        remote := (service.rows run leaf.settings.results.pageSize w.remote).2
        calls := w.calls ++ [.rows run.id leaf.settings.results.pageSize] }
    refine ⟨(service.rows run leaf.settings.results.pageSize w.remote).1 ++ more, w', ?_⟩
    rw [readRows, Act.bind_eq_some]
    refine ⟨_, _, rfl, ?_⟩
    rw [Act.bind_eq_some]
    exact ⟨more, w', later, rfl⟩

theorem result_of_held {leaf : ReportJob} {run : Run} (known : leaf.progress.run = some run)
    (fine : leaf.failed = false) :
    result service (.report leaf) = Except.ok <$> service.rowsOf run leaf.settings.results.pageSize := by
  rw [ReportJob.failed] at fine
  rw [result, ReportJob.result, known, fine]
  exact bind_pure_comp _ _

theorem results_of_held {held : List (ReportJob × Run)}
    (all : ∀ p ∈ held, p.1.progress.run = some p.2 ∧ p.1.failed = false) :
    results service ((held.map Prod.fst).map .report) = Except.ok <$> readRows service held := by
  induction held with
  | nil => rfl
  | cons head rest ih =>
    obtain ⟨leaf, run⟩ := head
    rw [List.forall_mem_cons] at all
    obtain ⟨⟨known, fine⟩, later⟩ := all
    rw [List.map_cons, List.map_cons, results_cons, ih later, result_of_held service known fine, readRows, joined]
    simp only [bind_map_left, map_bind, map_pure]

end AsyncReports.Job
