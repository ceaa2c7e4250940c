import AsyncReports.Job
import AsyncReports.Proofs.ReportJob
import Mathlib.Data.List.Forall2

set_option autoImplicit false

/-!
# Jobs as trees of report jobs

What is done to a job is done to its leaves; the tree that holds them stays as it was made. `Job.Becomes r` says
that one job turned into another in this way, every leaf related by `r` to what it was before.
-/

namespace AsyncReports

theorem forall₂_trans {α : Type} {r : α → α → Prop} (compose : ∀ x y z, r x y → r y z → r x z) :
    ∀ {xs ys zs : List α}, List.Forall₂ r xs ys → List.Forall₂ r ys zs → List.Forall₂ r xs zs
  | _, _, _, .nil, .nil => .nil
  | _, _, _, .cons head tail, .cons head' tail' =>
    .cons (compose _ _ _ head head') (forall₂_trans compose tail tail')

theorem forall₂_carry {α β : Type} {r : α → β → Prop} {p : α → Prop} {q : β → Prop}
    (carry : ∀ x y, r x y → p x → q y) {xs : List α} {ys : List β} (related : List.Forall₂ r xs ys)
    (all : ∀ x ∈ xs, p x) : ∀ y ∈ ys, q y := by
  induction related with
  | nil => nofun
  | cons head _ ih =>
    rw [List.forall_mem_cons] at all ⊢
    exact ⟨carry _ _ head all.1, ih all.2⟩

theorem forall₂_partner {α β : Type} {r : α → β → Prop} {xs : List α} {ys : List β} (related : List.Forall₂ r xs ys) :
    ∀ x ∈ xs, ∃ y ∈ ys, r x y := by
  induction related with
  | nil => nofun
  | cons head _ ih =>
    rw [List.forall_mem_cons]
    exact ⟨⟨_, List.mem_cons_self, head⟩, fun x mem => (ih x mem).imp fun _ => And.imp_left (List.mem_cons_of_mem _)⟩

/-- Related lists have related elements in the same places. -/
theorem forall₂_getElem? {α β : Type} {r : α → β → Prop} {xs : List α} {ys : List β} (h : List.Forall₂ r xs ys)
    (i : Nat) :
    (∀ x, xs[i]? = some x → ∃ y, ys[i]? = some y ∧ r x y) ∧ ∀ y, ys[i]? = some y → ∃ x, xs[i]? = some x ∧ r x y := by
  induction h generalizing i with
  | nil => simp
  | cons head _ ih =>
    cases i with
    | zero => simp [head]
    | succ i => simpa using ih i

namespace Job

variable {r r' : ReportJob → ReportJob → Prop}

mutual
/-- The job as it was made: its tree, without attempts and without anything known of its runs. -/
def asMade : Job → Job
  | .report job => .report job.asMade
  | .group g members => .group { g with attempt := 1 } (allAsMade members)

def allAsMade : List Job → List Job
  | [] => []
  | job :: rest => job.asMade :: allAsMade rest
end

theorem allAsMade_eq_map (jobs : List Job) : allAsMade jobs = jobs.map asMade := by
  induction jobs with
  | nil => rfl
  | cons job rest ih => rw [allAsMade, ih, List.map_cons]

theorem allLeaves_eq_flatMap (jobs : List Job) : allLeaves jobs = jobs.flatMap leaves := by
  induction jobs with
  | nil => rfl
  | cons job rest ih => rw [allLeaves, ih, List.flatMap_cons]

mutual
theorem leaves_asMade : ∀ job : Job, job.asMade.leaves = job.leaves.map ReportJob.asMade
  | .report _ => rfl
  | .group _ members => allLeaves_asMade members

theorem allLeaves_asMade : ∀ jobs : List Job, allLeaves (allAsMade jobs) = (allLeaves jobs).map ReportJob.asMade
  | [] => rfl
  | job :: rest => by rw [allAsMade, allLeaves, allLeaves, List.map_append, leaves_asMade job, allLeaves_asMade rest]
end

theorem leaves_of_reports (leaves : List ReportJob) : allLeaves (leaves.map .report) = leaves := by
  induction leaves with
  | nil => rfl
  | cons leaf rest ih => simp [allLeaves, Job.leaves, ih]

/-- Jobs that are a report job at each place of some leaves are all report jobs. -/
theorem exists_leaves {r : ReportJob → ReportJob → Prop} {leaves : List ReportJob} {jobs : List Job}
    (same : jobs.length = leaves.length)
    (each : ∀ (i : Nat) leaf, leaves[i]? = some leaf → ∃ leaf', jobs[i]? = some (.report leaf') ∧ r leaf leaf') :
    ∃ leaves', jobs = leaves'.map .report ∧ List.Forall₂ r leaves leaves' := by
  induction leaves generalizing jobs with
  | nil => exact ⟨[], List.length_eq_zero_iff.1 same, .nil⟩
  | cons leaf leaves ih =>
    obtain ⟨job, jobs, rfl⟩ := List.exists_cons_of_length_eq_add_one same
    obtain ⟨leaf', here, first⟩ := each 0 leaf rfl
    obtain ⟨leaves', rfl, others⟩ := ih (Nat.succ.inj same) fun i => each (i + 1)
    cases here
    exact ⟨leaf' :: leaves', rfl, .cons first others⟩

theorem asMade_interval (job : Job) : job.asMade.interval = job.interval := by
  cases job <;> rfl

mutual
theorem completed_eq_all : ∀ job : Job, job.completed = job.leaves.all ReportJob.completed
  | .report job => by simp [completed, leaves]
  | .group _ members => by rw [completed, leaves, allCompleted_eq_all members]

theorem allCompleted_eq_all : ∀ jobs : List Job, allCompleted jobs = (allLeaves jobs).all ReportJob.completed
  | [] => rfl
  | job :: rest => by
    rw [allCompleted, allLeaves, List.all_append, completed_eq_all job, allCompleted_eq_all rest]
end

mutual
theorem failed_eq_any : ∀ job : Job, job.failed = job.leaves.any ReportJob.failed
  | .report job => by simp [failed, leaves]
  | .group _ members => by rw [failed, leaves, anyFailed_eq_any members]

theorem anyFailed_eq_any : ∀ jobs : List Job, anyFailed jobs = (allLeaves jobs).any ReportJob.failed
  | [] => rfl
  | job :: rest => by
    rw [anyFailed, allLeaves, List.any_append, failed_eq_any job, anyFailed_eq_any rest]
end

def All (p : ReportJob → Prop) (job : Job) : Prop := ∀ leaf ∈ job.leaves, p leaf

/-- What does not depend on attempts and runs can be said of the job as it was made. -/
theorem all_of_asMade {p : ReportJob → Prop} (same : ∀ leaf : ReportJob, p leaf.asMade ↔ p leaf) {job : Job} :
    job.All p ↔ job.asMade.All p := by
  simp only [All, leaves_asMade, List.forall_mem_map, same]

theorem forall_allLeaves {p : ReportJob → Prop} {jobs : List Job} :
    (∀ leaf ∈ allLeaves jobs, p leaf) ↔ ∀ job ∈ jobs, job.All p := by
  simp only [allLeaves_eq_flatMap, List.forall_mem_flatMap, All]

structure Becomes (r : ReportJob → ReportJob → Prop) (a b : Job) : Prop where
  made : b.asMade = a.asMade
  leaves : List.Forall₂ r a.leaves b.leaves

namespace Becomes

theorem mono {a b : Job} (h : Becomes r a b) (weaker : ∀ x y, r x y → r' x y) : Becomes r' a b :=
  ⟨h.made, h.leaves.imp weaker⟩

theorem same {a : Job} (h : ∀ leaf ∈ a.leaves, r leaf leaf) : Becomes r a a :=
  ⟨rfl, List.forall₂_same.2 h⟩

theorem report {a b : ReportJob} (made : b.asMade = a.asMade) (h : r a b) :
    Becomes r (.report a) (.report b) := by
  refine ⟨?_, .cons h .nil⟩
  rw [asMade, asMade, made]

theorem all_leaves {as bs : List Job} (h : List.Forall₂ (Becomes r) as bs) :
    List.Forall₂ r (allLeaves as) (allLeaves bs) := by
  induction h with
  | nil => exact .nil
  | cons head _ ih => exact List.rel_append head.leaves ih

theorem all_made {as bs : List Job} (h : List.Forall₂ (Becomes r) as bs) : bs.map asMade = as.map asMade := by
  induction h with
  | nil => rfl
  | cons head _ ih => rw [List.map_cons, List.map_cons, head.made, ih]

theorem group {g : Group} {attempt : Nat} {as bs : List Job} (h : List.Forall₂ (Becomes r) as bs) :
    Becomes r (.group g as) (.group { g with attempt } bs) := by
  refine ⟨?_, all_leaves h⟩
  rw [asMade, asMade, allAsMade_eq_map, allAsMade_eq_map, all_made h]

theorem trans {a b c : Job} (h : Becomes r a b) (h' : Becomes r b c)
    (compose : ∀ x y z, r x y → r y z → r x z) : Becomes r a c := by
  exact ⟨h'.made.trans h.made, forall₂_trans compose h.leaves h'.leaves⟩

theorem carry {p q : ReportJob → Prop} {a b : Job} (h : Becomes r a b) (carry : ∀ x y, r x y → p x → q y)
    (all : a.All p) : b.All q :=
  forall₂_carry carry h.leaves all

theorem of_report {leaf : ReportJob} {b : Job} (h : Becomes r (.report leaf) b) :
    ∃ leaf', b = .report leaf' ∧ r leaf leaf' := by
  obtain ⟨made, leaves⟩ := h
  cases b with
  | report leaf' =>
    rw [Job.leaves, Job.leaves, List.forall₂_cons] at leaves
    exact ⟨leaf', rfl, leaves.1⟩
  | group => cases made

theorem of_group {g : Group} {members : List Job} {b : Job} (h : Becomes r (.group g members) b) :
    ∃ g' members', b = .group g' members' ∧ members'.map asMade = members.map asMade ∧
      List.Forall₂ r (allLeaves members) (allLeaves members') := by
  obtain ⟨made, leaves⟩ := h
  cases b with
  | report => cases made
  | group g' members' =>
    rw [asMade, asMade, Job.group.injEq, allAsMade_eq_map, allAsMade_eq_map] at made
    exact ⟨g', members', rfl, made.2, leaves⟩

end Becomes

end Job

end AsyncReports
