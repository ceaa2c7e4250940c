import AsyncReports.Proofs.Batch.Rounds

set_option autoImplicit false

/-!
# Where answers go

The checks of a shared batch belong to report jobs at positions of their own. So every answer reaches one job, which
takes it in, and no other job changes. A check that is sent again had an error for an answer, and a job whose check
had a document is not asked about again.
-/

namespace AsyncReports

variable {σ : Type} {service : Service σ}

namespace ReportJob

@[simp] theorem heard_error (leaf : ReportJob) (now : Nat) (cause : ServiceError) :
    leaf.heard now (.error cause) = leaf := rfl

theorem reading_ok {document : Json} {run : Run} :
    reading (.ok document) = some run ↔ Run.decode document = .ok run := by
  simp only [reading]
  cases Run.decode document <;> simp [Except.toOption]

end ReportJob

namespace Job

open ReportJob

/-- The run that the job asks about in a shared batch. -/
def asks : Job → Option String
  | .report leaf =>
    match leaf.pending with
    | .running run => some run.id
    | _ => none
  | .group _ _ => none

theorem report_of_asks {job : Job} {run : String} (asking : job.asks = some run) : ∃ leaf, job = .report leaf := by
  cases job with
  | report leaf => exact ⟨leaf, rfl⟩
  | group => cases asking

/-! ## Documents and checks -/

theorem mem_retries_or_ok {batch : Batch Slot} (answers : List (Answer Json)) {check : Check Slot}
    (mem : check ∈ batch) : check ∈ Batch.retries (Batch.pair batch answers) ∨
      ∃ document, (check, .ok document) ∈ Batch.pair batch answers := by
  rw [← Batch.pair_checks batch answers, List.mem_map] at mem
  obtain ⟨⟨_, answer⟩, mem, rfl⟩ := mem
  cases answer with
  | error cause => exact .inl (List.mem_map.2 ⟨_, List.mem_filter.2 ⟨mem, rfl⟩, rfl⟩)
  | ok document => exact .inr ⟨document, mem⟩

/-- A document that a check is paired with is the service's, in the place of the check. -/
theorem document_of_pair {batch : Batch Slot} {s : σ} {check : Check Slot} {document : Json}
    (mem : (check, .ok document) ∈ Batch.pair batch (service.statuses (Batch.runs batch) s).1) :
    ∃ k : Nat, (Batch.runs batch)[k]? = some check.run ∧
      (service.statuses (Batch.runs batch) s).1[k]? = some (.ok document) := by
  rcases Batch.mem_pair mem with ⟨k, here, there⟩ | error
  · exact ⟨k, by simp [Batch.runs, here], there⟩
  · cases error

/-! ## Positions -/

theorem receiveAt_eq_set {jobs : List Job} (slot : Slot) (answer : Answer Json) {leaf : ReportJob}
    (here : jobs[slot.position]? = some (.report leaf)) (w : World σ) :
    Act.Ensures (receiveAt jobs slot answer) w fun jobs' _ =>
      jobs' = jobs.set slot.position (.report (leaf.heard w.clock answer)) := by
  obtain ⟨position, label⟩ := slot
  induction jobs generalizing position with
  | nil => cases here
  | cons job rest ih =>
    cases position with
    | zero =>
      cases here
      simp only [receiveAt, Act.ensures_bind, Act.ensures_pure]
      refine (receive_eq_heard label answer leaf w).mono ?_
      rintro _ _ rfl
      rfl
    | succ position =>
      simp only [receiveAt, Act.ensures_bind, Act.ensures_pure]
      refine (ih position here).mono ?_
      rintro _ _ rfl
      rfl

def positions (batch : Batch Slot) : List Nat := batch.map (·.owner.position)

/-- Each check belongs to a report job, and no two to the same one. -/
structure Addressed (jobs : List Job) (batch : Batch Slot) : Prop where
  distinct : (positions batch).Nodup
  there : ∀ check ∈ batch, ∃ leaf, jobs[check.owner.position]? = some (.report leaf)

/-- Every answer reaches the job that it is for, and no other. -/
theorem deliver_reaches (answered : List (Check Slot × Answer Json)) :
    ∀ (jobs : List Job) (w : World σ), Addressed jobs (answered.map Prod.fst) →
      Act.Ensures (Batch.deliver receiveAt jobs answered) w fun jobs' w' =>
        (∃ log, w' = { w with log }) ∧
        (∀ i, i ∉ positions (answered.map Prod.fst) → jobs'[i]? = jobs[i]?) ∧
        ∀ check answer, (check, answer) ∈ answered → ∀ leaf, jobs[check.owner.position]? = some (.report leaf) →
          ∃ now, jobs'[check.owner.position]? = some (.report (leaf.heard now answer)) := by
  induction answered with
  | nil => exact fun jobs w _ => Act.ensures_pure.2 ⟨⟨w.log, rfl⟩, fun _ _ => rfl, by simp⟩
  | cons head rest ih =>
    obtain ⟨check, answer⟩ := head
    intro jobs w addressed
    obtain ⟨leaf, here⟩ := addressed.there check List.mem_cons_self
    obtain ⟨fresh, distinct⟩ := List.nodup_cons.1 addressed.distinct
    have inside : check.owner.position < jobs.length := (List.getElem?_eq_some_iff.1 here).1
    have received : Act.Ensures (receiveAt jobs check.owner answer) w fun jobs₁ w₁ =>
        jobs₁ = jobs.set check.owner.position (.report (leaf.heard w.clock answer)) ∧ ∃ log, w₁ = { w with log } := by
      refine (receiveAt_eq_set check.owner answer here w).and ?_
      intro jobs₁ w₁ run
      obtain ⟨_, log, quiet⟩ := Batch.passive_receiveAt jobs check.owner answer w
      rw [quiet] at run
      cases run
      exact ⟨log, rfl⟩
    rw [Batch.deliver, Act.ensures_bind]
    refine received.mono ?_
    rintro _ _ ⟨rfl, log, rfl⟩
    -- The other answers are for other positions, where the jobs are still as they were.
    have other : ∀ c ∈ rest.map Prod.fst, check.owner.position ≠ c.owner.position :=
      fun c mem same => fresh (List.mem_map.2 ⟨c, mem, same.symm⟩)
    have addressed' : Addressed (jobs.set check.owner.position (.report (leaf.heard w.clock answer)))
        (rest.map Prod.fst) := by
      refine ⟨distinct, fun c mem => ?_⟩
      rw [List.getElem?_set_ne (other c mem)]
      exact addressed.there c (List.mem_cons_of_mem _ mem)
    refine (ih _ _ addressed').mono ?_
    rintro jobs' _ ⟨⟨log', rfl⟩, untouched, reached⟩
    refine ⟨⟨log', rfl⟩, fun i outside => ?_, fun c a mem => ?_⟩
    · obtain ⟨ne, outside⟩ := not_or.1 (mt List.mem_cons.2 outside)
      rw [untouched i outside, List.getElem?_set_ne (Ne.symm ne)]
    · intro leaf' place
      rcases List.mem_cons.1 mem with same | mem
      · cases same
        rw [here] at place
        cases place
        exact ⟨w.clock, by rw [untouched _ fresh, List.getElem?_set_self inside]⟩
      · refine reached c a mem leaf' ?_
        rw [List.getElem?_set_ne (other c (List.mem_map_of_mem mem))]
        exact place

theorem error_of_retries {answered : List (Check Slot × Answer Json)} {check : Check Slot}
    (mem : check ∈ Batch.retries answered) : ∃ cause, (check, .error cause) ∈ answered := by
  obtain ⟨⟨_, answer⟩, kept, rfl⟩ := List.mem_map.1 mem
  obtain ⟨there, failed⟩ := List.mem_filter.1 kept
  cases answer with
  | error cause => exact ⟨cause, there⟩
  | ok => cases failed

theorem Addressed.retried {jobs jobs' : List Job} {answered : List (Check Slot × Answer Json)}
    (h : Addressed jobs (answered.map Prod.fst))
    (waits : ∀ check ∈ Batch.retries answered, jobs'[check.owner.position]? = jobs[check.owner.position]?) :
    Addressed jobs' (Batch.retries answered) where
  distinct := ((Batch.retries_sublist_checks answered).map _).nodup h.distinct
  there check mem := by
    rw [waits check mem]
    exact h.there check ((Batch.retries_sublist_checks answered).subset mem)

/-- A check that waits had an error for an answer, so a job whose check had a document is not asked about again. -/
theorem Addressed.not_retried {jobs : List Job} {answered : List (Check Slot × Answer Json)} {check : Check Slot}
    {document : Json} (h : Addressed jobs (answered.map Prod.fst)) (told : (check, .ok document) ∈ answered) :
    check.owner.position ∉ positions (Batch.retries answered) := by
  intro mem
  obtain ⟨other, retry, same⟩ := List.mem_map.1 mem
  obtain ⟨cause, failed⟩ := error_of_retries retry
  have distinct := h.distinct
  rw [positions, List.map_map] at distinct
  cases List.inj_on_of_nodup_map distinct failed told same

end Job

end AsyncReports
