import AsyncReports.Proofs.Dealings

set_option autoImplicit false

/-!
# Services that know their runs

A service may remember the runs that it has handed out, and refuse every request about another run. Whoever only asks
about runs that were handed out does not notice. So such a service is obliging in the same dealings as before.
-/

namespace AsyncReports

variable {σ : Type} {service : Service σ}

/-- A state of the remote side with the runs that were handed out. -/
abbrev WithRuns (σ : Type) := σ × List String

namespace Service

def unknownRun : ServiceError := .request 404 "unknown report run"

/-- The same service, but for requests about runs that it has not handed out. -/
def wary (service : Service σ) : Service (WithRuns σ) where
  submit edge params s :=
    let (answer, s') := service.submit edge params s.1
    (answer, s', match answer with
      | .ok run => run.id :: s.2
      | .error _ => s.2)
  query edge params s := ((service.query edge params s.1).1, (service.query edge params s.1).2, s.2)
  status run s :=
    if run ∈ s.2 then ((service.status run s.1).1, (service.status run s.1).2, s.2) else (.error unknownRun, s)
  statuses runs s :=
    if ∀ run ∈ runs, run ∈ s.2 then ((service.statuses runs s.1).1, (service.statuses runs s.1).2, s.2)
    else (runs.map fun _ => .error unknownRun, s)
  rows run size s :=
    if run.id ∈ s.2 then ((service.rows run size s.1).1, (service.rows run size s.1).2, s.2)
    else ([.error unknownRun], s)
  throttle s := ((service.throttle s.1).1, (service.throttle s.1).2, s.2)

theorem wary_statuses {runs : List String} {s : WithRuns σ} (known : ∀ run ∈ runs, run ∈ s.2) :
    service.wary.statuses runs s = ((service.statuses runs s.1).1, (service.statuses runs s.1).2, s.2) := if_pos known

/-! ## Dealings that keep to the runs -/

/-- The dealings as the service sees them that does not remember its runs. -/
def bare (x : Dealings (WithRuns σ)) : Dealings σ := ⟨x.remote.1, x.tasks⟩

/-- All runs that are waited for were handed out. -/
def Covered (x : Dealings (WithRuns σ)) : Prop := ∀ run ∈ x.runs, run ∈ x.remote.2

variable {others : σ → σ → Prop} {x y : Dealings (WithRuns σ)}

/-- What others may do to a wary service: what they do to the service, and runs of their own that it hands out. -/
def OthersKeep (others : σ → σ → Prop) (s s' : WithRuns σ) : Prop := others s.1 s'.1 ∧ s.2 ⊆ s'.2

theorem Covered.asked {s : WithRuns σ} {tasks tasks' : Multiset Task} {batch : Batch Slot}
    {answers : List (Answer Json)} (covered : Covered ⟨s, tasks⟩)
    (hear : Task.Hear (Batch.pair batch answers) tasks tasks') :
    ∀ run ∈ Batch.runs batch, run ∈ s.2 := by
  intro run mem
  have fewer := hear.runs_le
  rw [Batch.pair_checks] at fewer
  exact covered run (Multiset.mem_of_le fewer mem)

theorem Wait.bare (h : service.wary.Wait x y) (covered : Covered x) :
    service.Wait (bare x) (Service.bare y) ∧ Covered y := by
  cases h with
  | read s tasks => exact ⟨.read s.1 tasks, covered⟩
  | check s batch hear =>
    have same : service.wary.statuses (Batch.runs batch) s = _ := wary_statuses (covered.asked hear)
    rw [same] at hear
    refine ⟨?_, ?_⟩
    · rw [Service.bare, Service.bare, same]
      exact .check s.1 batch hear
    · rw [same]
      exact fun run mem => covered run (Multiset.mem_of_le hear.left_le mem)

theorem Waits.bare (h : service.wary.Waits x y) (covered : Covered x) :
    service.Waits (Service.bare x) (Service.bare y) ∧ Covered y := by
  induction h with
  | refl => exact ⟨.refl _, covered⟩
  | tail _ wait ih =>
    obtain ⟨before, covered⟩ := ih
    obtain ⟨wait, covered⟩ := wait.bare covered
    exact ⟨before.trans wait.waits, covered⟩

theorem Exchange.bare (h : service.wary.Exchange (OthersKeep others) x y) (covered : Covered x) :
    service.Exchange others (Service.bare x) (Service.bare y) ∧ Covered y := by
  cases h with
  | wait h => exact (h.bare covered).imp_left .wait
  | @submit task idle s run rest answer =>
    have answer : (service.submit task.report.edge task.report.params s.1).1 = .ok run := answer
    have kept : (service.wary.submit task.report.edge task.report.params s).2.2 = run.id :: s.2 := by
      simp only [wary, answer]
    refine ⟨.submit task idle rest answer, fun id mem => ?_⟩
    rw [Dealings.runs, Task.runs_cons rfl, Multiset.mem_cons] at mem
    rw [kept, List.mem_cons]
    refine mem.imp_right fun mem => covered id ?_
    rw [Dealings.runs, Task.runs_cons_idle idle]
    exact mem
  | @probe task idle whole s rows rest answer =>
    refine ⟨.probe task idle whole rest answer, fun id mem => covered id ?_⟩
    have parts : Task.runs ((task.report.parts rows).leaves.map fun part => ⟨part, false, none⟩ : List Task) = 0 := by
      rw [Task.runs, Multiset.filterMap_coe, List.filterMap_map]
      simp
    rw [Dealings.runs, Task.runs_add, parts, zero_add] at mem
    rw [Dealings.runs, Task.runs_cons_idle idle]
    exact mem
  | between tasks other => exact ⟨.between tasks other.1, fun id mem => other.2 (covered id mem)⟩

theorem Deals.bare (h : service.wary.Deals (OthersKeep others) x y) (covered : Covered x) :
    service.Deals others (Service.bare x) (Service.bare y) ∧ Covered y := by
  induction h with
  | refl => exact ⟨.refl _, covered⟩
  | tail _ exchange ih =>
    obtain ⟨before, covered⟩ := ih
    obtain ⟨exchange, covered⟩ := exchange.bare covered
    exact ⟨before.trans exchange.deals, covered⟩

theorem PutsOff.bare {id : String} (h : service.wary.PutsOff id x y) (covered : Covered x) :
    service.PutsOff id (Service.bare x) (Service.bare y) := by
  obtain ⟨s, batch, tasks, tasks', k, document, before, hear, place, answer, vague, after⟩ := h
  obtain ⟨before, covered⟩ := before.bare covered
  obtain ⟨wait, covered'⟩ := (Wait.check s batch hear).bare covered
  obtain ⟨after, -⟩ := after.bare covered'
  have same : service.wary.statuses (Batch.runs batch) s = _ := wary_statuses (covered.asked hear)
  rw [same] at hear answer after
  exact ⟨s.1, batch, tasks, tasks', k, document, before, hear, place, answer, vague, after⟩

/-! ## Obliging all the same -/

theorem Settles.wary {id : String} (h : service.Settles id (bare x)) (covered : Covered x) :
    service.wary.Settles id x := by
  generalize seen : bare x = z at h
  induction h generalizing x with
  | intro z _ ih =>
    subst seen
    exact .intro x fun y off => ih (bare y) (off.bare covered) (off.waits.bare covered).2 rfl

theorem Cools.wary {limit : Float} {s : σ} (h : service.Cools limit s) :
    ∀ known : List String, service.wary.Cools limit (s, known) := by
  induction h with
  | low read within => exact fun known => .low read within
  | high read _ ih => exact fun known => .high read (ih known)

theorem wary_send {τ : Type} {batch : Batch τ} {s : WithRuns σ} (known : ∀ run ∈ Batch.runs batch, run ∈ s.2)
    (calls : List (Fin batch.length)) : Batch.send service.wary batch calls s =
      ((Batch.send service batch calls s.1).1, (Batch.send service batch calls s.1).2, s.2) := by
  have asked : ∀ run ∈ Batch.asked batch calls, run ∈ s.2 := by
    intro run mem
    obtain ⟨i, -, rfl⟩ := List.mem_map.1 mem
    exact known _ (List.mem_map_of_mem (List.getElem_mem i.isLt))
  rw [Batch.send, wary_statuses asked]
  rfl

theorem wary_trip {τ : Type} {batch : Batch τ} (k : Nat) : ∀ (calls : List (Fin batch.length)) (s : WithRuns σ),
    (∀ run ∈ Batch.runs batch, run ∈ s.2) →
    Batch.trip service.wary batch calls s k = Batch.trip service batch calls s.1 k := by
  induction k with
  | zero =>
    intro calls s known
    rw [Batch.trip, wary_send known, Batch.trip]
  | succ k ih =>
    intro calls s known
    rw [Batch.trip, wary_send known, Batch.trip]
    exact ih _ (_, s.2) known

/-- A service that is obliging stays so when it refuses requests about runs that it has not handed out. -/
theorem Obliging.wary {limit : Float} (h : service.Obliging others limit (bare x)) (covered : Covered x) :
    service.wary.Obliging (OthersKeep others) limit x where
  submits y deals task mem idle := h.submits _ (deals.bare covered).1 task mem idle
  probes y deals task mem idle whole := h.probes _ (deals.bare covered).1 task mem idle whole
  cools y deals := (h.cools _ (deals.bare covered).1).wary y.remote.2
  answers y deals batch fewer i := by
    obtain ⟨deals, covered⟩ := deals.bare covered
    have known : ∀ run ∈ Batch.runs batch, run ∈ y.remote.2 :=
      fun run mem => covered run (Multiset.mem_of_le fewer mem)
    obtain ⟨n, fails⟩ := h.answers _ deals batch fewer i
    refine ⟨n, ?_⟩
    simp only [Batch.failures, wary_trip _ _ _ known]
    exact fails
  documents y deals ids fewer k id document run place answer decoded := by
    obtain ⟨deals, covered⟩ := deals.bare covered
    have known : ∀ run ∈ ids, run ∈ y.remote.2 := fun run mem => covered run (Multiset.mem_of_le fewer mem)
    rw [wary_statuses known] at answer
    exact h.documents _ deals ids fewer k id document run place answer decoded
  settles y deals id mem := by
    obtain ⟨deals, covered⟩ := deals.bare covered
    exact (h.settles _ deals id mem).wary covered

end Service

end AsyncReports
