import AsyncReports.Proofs.Job.Heir
import AsyncReports.Proofs.Waiting
import Mathlib.Algebra.BigOperators.Group.Multiset.Basic
import Mathlib.Algebra.Order.Group.Multiset

set_option autoImplicit false

/-!
# Dealings with a service

What there is to ask of a service depends on what is left to do. A report that is not under way can be submitted, or
probed to be split, and a run that was handed out can be checked until its end has been told. `Dealings` are the
state of the remote side with these tasks, and an `Exchange` is a request that they call for, with what the answer
makes of them. What others do to the remote side in the meantime is a parameter.

`Obliging` is what is asked of a service so that nobody waits for it forever: submissions, probes and readings succeed,
a load that is too high is not so for good, no check stays unanswered, documents are about the run that was asked for,
and a run cannot be put off again and again. It is asked about the tasks of all dealings that can come up, and about no
other reports and runs.
-/

namespace AsyncReports

/-- A report that is not done with. -/
structure Task where
  report : ReportJob
  /-- Parts of a report are not split again. -/
  whole : Bool
  /-- The run that is waited for, if the report is under way. -/
  run : Option String := none

namespace Task

/-- What the answer to a check of the run leaves to do. -/
def left (task : Task) (answer : Answer Json) : Multiset Task :=
  match ReportJob.reading answer with
  | none => {task}
  | some run =>
    if run.status.isFailure then {{ task with run := none }}
    else if run.status.isTerminal then 0
    else {task}

/-- The runs that are waited for. -/
def runs (tasks : Multiset Task) : Multiset String := tasks.filterMap Task.run

theorem runs_add (tasks tasks' : Multiset Task) : runs (tasks + tasks') = runs tasks + runs tasks' :=
  Multiset.filterMap_add ..

theorem runs_cons {task : Task} {id : String} (waits : task.run = some id) (tasks : Multiset Task) :
    runs (task ::ₘ tasks) = id ::ₘ runs tasks := Multiset.filterMap_cons_some _ _ _ waits

theorem runs_cons_idle {task : Task} (idle : task.run = none) (tasks : Multiset Task) :
    runs (task ::ₘ tasks) = runs tasks := Multiset.filterMap_cons_none _ _ idle

theorem runs_left_le {task : Task} {id : String} (waits : task.run = some id) (answer : Answer Json) :
    runs (task.left answer) ≤ {id} := by
  have same : runs {task} = {id} := runs_cons waits 0
  unfold left
  split
  · exact same.le
  · split_ifs
    · exact Multiset.zero_le _
    · exact Multiset.zero_le _
    · exact same.le

/-- Answers to checks, each of which belongs to a task of its own, and what they make of the tasks. -/
inductive Hear : List (Check Slot × Answer Json) → Multiset Task → Multiset Task → Prop
  | nothing (tasks : Multiset Task) : Hear [] tasks tasks
  | cons {check : Check Slot} {answer : Answer Json} {answered : List (Check Slot × Answer Json)}
    {tasks tasks' : Multiset Task} {task : Task} (waits : task.run = some check.run)
    (rest : Hear answered tasks tasks') :
    Hear ((check, answer) :: answered) (task ::ₘ tasks) (task.left answer + tasks')

namespace Hear

variable {answered : List (Check Slot × Answer Json)} {tasks tasks' : Multiset Task}

theorem beside (h : Hear answered tasks tasks') (more : Multiset Task) :
    Hear answered (tasks + more) (tasks' + more) := by
  induction h with
  | nothing tasks => exact .nothing (tasks + more)
  | cons waits _ ih =>
    rw [Multiset.cons_add, add_assoc]
    exact .cons waits ih

/-- The runs that are asked about are among those that are waited for. -/
theorem runs_le (h : Hear answered tasks tasks') : (Batch.runs (answered.map Prod.fst) : Multiset String) ≤ runs tasks
    := by
  induction h with
  | nothing => exact Multiset.zero_le _
  | cons waits _ ih =>
    rw [runs_cons waits]
    exact Multiset.cons_le_cons _ ih

theorem left_le (h : Hear answered tasks tasks') : runs tasks' ≤ runs tasks := by
  induction h with
  | nothing => exact le_rfl
  | @cons check answer _ _ _ task waits _ ih =>
    rw [runs_add, runs_cons waits, ← Multiset.singleton_add]
    exact add_le_add (runs_left_le waits answer) ih

end Hear

end Task

structure Dealings (σ : Type) where
  remote : σ
  tasks : Multiset Task

namespace Dealings

variable {σ : Type}

def runs (x : Dealings σ) : Multiset String := Task.runs x.tasks

/-- The same with further tasks. -/
def beside (x : Dealings σ) (more : Multiset Task) : Dealings σ := ⟨x.remote, x.tasks + more⟩

theorem runs_le_beside (x : Dealings σ) (more : Multiset Task) : x.runs ≤ (x.beside more).runs := by
  rw [runs, runs, beside, Task.runs_add]
  exact Multiset.le_add_right _ _

end Dealings

namespace Service

variable {σ : Type} {service : Service σ} {others : σ → σ → Prop} {limit : Float} {x y z : Dealings σ}

/-- A request that one can wait with: a reading, or a round trip of checks. -/
inductive Wait (service : Service σ) : Dealings σ → Dealings σ → Prop
  | read (s : σ) (tasks : Multiset Task) : Wait service ⟨s, tasks⟩ ⟨(service.throttle s).2, tasks⟩
  | check (s : σ) (batch : Batch Slot) {tasks tasks' : Multiset Task}
    (hear : Task.Hear (Batch.pair batch (service.statuses (Batch.runs batch) s).1) tasks tasks') :
    Wait service ⟨s, tasks⟩ ⟨(service.statuses (Batch.runs batch) s).2, tasks'⟩

inductive Exchange (service : Service σ) (others : σ → σ → Prop) : Dealings σ → Dealings σ → Prop
  | wait {x y : Dealings σ} (h : Wait service x y) : Exchange service others x y
  | submit (task : Task) (idle : task.run = none) {s : σ} {run : Run} (rest : Multiset Task)
    (answer : (service.submit task.report.edge task.report.params s).1 = .ok run) :
    Exchange service others ⟨s, task ::ₘ rest⟩
      ⟨(service.submit task.report.edge task.report.params s).2, { task with run := some run.id } ::ₘ rest⟩
  /-- The report gives way to its parts. -/
  | probe (task : Task) (idle : task.run = none) (whole : task.whole) {s : σ} {rows : List Row} (rest : Multiset Task)
    (answer : (service.query task.report.edge task.report.probe s).1 = .ok rows) :
    Exchange service others ⟨s, task ::ₘ rest⟩
      ⟨(service.query task.report.edge task.report.probe s).2,
        ((task.report.parts rows).leaves.map fun part => ⟨part, false, none⟩ : List Task) + rest⟩
  | between {s s' : σ} (tasks : Multiset Task) (other : others s s') : Exchange service others ⟨s, tasks⟩ ⟨s', tasks⟩

def Waits (service : Service σ) : Dealings σ → Dealings σ → Prop := Relation.ReflTransGen service.Wait

def Deals (service : Service σ) (others : σ → σ → Prop) : Dealings σ → Dealings σ → Prop :=
  Relation.ReflTransGen (service.Exchange others)

/-- A document that does not say that the run has ended. -/
def Vague (document : Json) : Prop := ∀ run, Run.decode document = .ok run → run.status.isTerminal = false

/-- On the way, while nothing is submitted, a check of the run is answered, and not with its end. -/
def PutsOff (service : Service σ) (id : String) (x y : Dealings σ) : Prop :=
  ∃ (s : σ) (batch : Batch Slot) (tasks tasks' : Multiset Task) (k : Nat) (document : Json),
    service.Waits x ⟨s, tasks⟩ ∧
    Task.Hear (Batch.pair batch (service.statuses (Batch.runs batch) s).1) tasks tasks' ∧
    (Batch.runs batch)[k]? = some id ∧ (service.statuses (Batch.runs batch) s).1[k]? = some (.ok document) ∧
    Vague document ∧ service.Waits ⟨(service.statuses (Batch.runs batch) s).2, tasks'⟩ y

/-- From these dealings on, the run is put off only finitely often before anything else is submitted. -/
def Settles (service : Service σ) (id : String) (x : Dealings σ) : Prop := Acc (fun y x => service.PutsOff id x y) x

/-- What makes a service obliging in some dealings, and whatever becomes of them, where `limit` is what a load may not
be above. -/
structure Obliging (service : Service σ) (others : σ → σ → Prop) (limit : Float) (x : Dealings σ) : Prop where
  submits : ∀ y, service.Deals others x y → ∀ task ∈ y.tasks, task.run = none →
    ∃ run, (service.submit task.report.edge task.report.params y.remote).1 = .ok run
  probes : ∀ y, service.Deals others x y → ∀ task ∈ y.tasks, task.run = none → task.whole →
    ∃ rows, (service.query task.report.edge task.report.probe y.remote).1 = .ok rows
  cools : ∀ y, service.Deals others x y → service.Cools limit y.remote
  answers : ∀ y, service.Deals others x y → ∀ batch : Batch Slot, (Batch.runs batch : Multiset String) ≤ y.runs →
    ∀ i, ∃ n : Nat, Batch.failures service batch y.remote i = n
  documents : ∀ y, service.Deals others x y → ∀ ids : List String, (ids : Multiset String) ≤ y.runs →
    ∀ (k : Nat) id document run, ids[k]? = some id → (service.statuses ids y.remote).1[k]? = some (.ok document) →
      Run.decode document = .ok run → run.id = id
  settles : ∀ y, service.Deals others x y → ∀ id ∈ y.runs, service.Settles id y

/-! ## Going on -/

theorem Waits.refl (x : Dealings σ) : service.Waits x x := Relation.ReflTransGen.refl

theorem Waits.trans (h : service.Waits x y) (h' : service.Waits y z) : service.Waits x z :=
  Relation.ReflTransGen.trans h h'

theorem Wait.waits (h : service.Wait x y) : service.Waits x y := .single h

theorem Deals.refl (x : Dealings σ) : service.Deals others x x := Relation.ReflTransGen.refl

theorem Deals.trans (h : service.Deals others x y) (h' : service.Deals others y z) : service.Deals others x z :=
  Relation.ReflTransGen.trans h h'

theorem Exchange.deals (h : service.Exchange others x y) : service.Deals others x y := .single h

theorem Waits.deals (h : service.Waits x y) : service.Deals others x y := by
  induction h with
  | refl => exact .refl x
  | tail _ wait ih => exact ih.trans (Exchange.wait wait).deals

theorem Obliging.deals (h : service.Obliging others limit x) (deals : service.Deals others x y) :
    service.Obliging others limit y where
  submits z later := h.submits z (deals.trans later)
  probes z later := h.probes z (deals.trans later)
  cools z later := h.cools z (deals.trans later)
  answers z later := h.answers z (deals.trans later)
  documents z later := h.documents z (deals.trans later)
  settles z later := h.settles z (deals.trans later)

/-! ## Further tasks change nothing -/

theorem Wait.beside (h : service.Wait x y) (more : Multiset Task) : service.Wait (x.beside more) (y.beside more) := by
  cases h with
  | read s tasks => exact .read s (tasks + more)
  | check s batch hear => exact .check s batch (hear.beside more)

theorem Waits.beside (h : service.Waits x y) (more : Multiset Task) :
    service.Waits (x.beside more) (y.beside more) := by
  induction h with
  | refl => exact .refl _
  | tail _ wait ih => exact ih.trans (wait.beside more).waits

theorem Exchange.beside (h : service.Exchange others x y) (more : Multiset Task) :
    service.Exchange others (x.beside more) (y.beside more) := by
  cases h with
  | wait h => exact .wait (h.beside more)
  | submit task idle rest answer =>
    simp only [Dealings.beside, Multiset.cons_add]
    exact .submit task idle (rest + more) answer
  | probe task idle whole rest answer =>
    simp only [Dealings.beside, Multiset.cons_add, add_assoc]
    exact .probe task idle whole (rest + more) answer
  | between tasks other => exact .between (tasks + more) other

theorem Deals.beside (h : service.Deals others x y) (more : Multiset Task) :
    service.Deals others (x.beside more) (y.beside more) := by
  induction h with
  | refl => exact .refl _
  | tail _ exchange ih => exact ih.trans (exchange.beside more).deals

theorem PutsOff.beside {id : String} (h : service.PutsOff id x y) (more : Multiset Task) :
    service.PutsOff id (x.beside more) (y.beside more) := by
  obtain ⟨s, batch, tasks, tasks', k, document, before, hear, place, answer, vague, after⟩ := h
  exact ⟨s, batch, tasks + more, tasks' + more, k, document, before.beside more, hear.beside more, place, answer,
    vague, after.beside more⟩

theorem Settles.of_beside {id : String} {more : Multiset Task} (h : service.Settles id (x.beside more)) :
    service.Settles id x := by
  have along := InvImage.accessible (fun x : Dealings σ => x.beside more) h
  exact Subrelation.accessible (fun off => PutsOff.beside off more) along

/-- A service is obliging about some of the tasks if it is so about all. -/
theorem Obliging.of_beside {more : Multiset Task} (h : service.Obliging others limit (x.beside more)) :
    service.Obliging others limit x where
  submits _ deals task mem := h.submits _ (deals.beside more) task (Multiset.mem_add.2 (.inl mem))
  probes _ deals task mem := h.probes _ (deals.beside more) task (Multiset.mem_add.2 (.inl mem))
  cools y deals := h.cools (y.beside more) (deals.beside more)
  answers y deals batch fewer := h.answers _ (deals.beside more) batch (fewer.trans (y.runs_le_beside more))
  documents y deals ids fewer := h.documents _ (deals.beside more) ids (fewer.trans (y.runs_le_beside more))
  settles y deals id mem :=
    (h.settles _ (deals.beside more) id (Multiset.mem_of_le (y.runs_le_beside more) mem)).of_beside

/-! ## Putting off -/

/-- While one waits, no run is added to those that are waited for. -/
theorem Waits.runs_le (h : service.Waits x y) : y.runs ≤ x.runs := by
  induction h with
  | refl => exact le_rfl
  | tail _ wait ih =>
    refine le_trans ?_ ih
    cases wait with
    | read => exact le_rfl
    | check _ _ hear => exact hear.left_le

theorem PutsOff.waits {id : String} (h : service.PutsOff id x y) : service.Waits x y := by
  obtain ⟨s, batch, tasks, tasks', k, document, before, hear, -, -, -, after⟩ := h
  exact before.trans ((Wait.check s batch hear).waits.trans after)

theorem PutsOff.widen {id : String} {x' y' : Dealings σ} (before : service.Waits x' x) (h : service.PutsOff id x y)
    (after : service.Waits y y') : service.PutsOff id x' y' := by
  obtain ⟨s, batch, tasks, tasks', k, document, lead, hear, place, answer, vague, rest⟩ := h
  exact ⟨s, batch, tasks, tasks', k, document, before.trans lead, hear, place, answer, vague, rest.trans after⟩

/-- Only a run that is waited for is put off. -/
theorem PutsOff.mem {id : String} (h : service.PutsOff id x y) : id ∈ x.runs := by
  obtain ⟨s, batch, tasks, tasks', k, document, before, hear, place, -⟩ := h
  have asked := hear.runs_le
  rw [Batch.pair_checks] at asked
  exact Multiset.mem_of_le (asked.trans before.runs_le) (List.mem_of_getElem? place)

/-- Some run is put off. -/
def Delays (service : Service σ) (x y : Dealings σ) : Prop := ∃ id, service.PutsOff id x y

theorem Delays.widen {x' y' : Dealings σ} (before : service.Waits x' x) (h : service.Delays x y)
    (after : service.Waits y y') : service.Delays x' y' := h.imp fun _ off => off.widen before after

theorem Delays.beside (h : service.Delays x y) (more : Multiset Task) :
    service.Delays (x.beside more) (y.beside more) := h.imp fun _ off => off.beside more

theorem acc_waits {ids : Multiset String} (h : Acc (fun y x => ∃ id ∈ ids, service.PutsOff id x y) x)
    (waits : service.Waits x y) : Acc (fun y x => ∃ id ∈ ids, service.PutsOff id x y) y :=
  .intro y fun z ⟨id, mem, off⟩ => h.inv ⟨id, mem, off.widen waits (.refl z)⟩

/-- If each of some runs is put off only finitely often, they are so together. -/
theorem settle_together {ids : Multiset String} (each : ∀ id ∈ ids, service.Settles id x) :
    Acc (fun y x => ∃ id ∈ ids, service.PutsOff id x y) x := by
  induction ids using Multiset.induction with
  | empty => exact .intro x (by simp)
  | cons first ids ih =>
    rw [Multiset.forall_mem_cons] at each
    obtain ⟨one, together⟩ := each
    replace together := ih together
    clear ih
    -- Putting off the first run brings the outer induction on, and putting off another one the inner induction, which
    -- has to run from all dealings that can follow.
    induction one with
    | intro x _ outer =>
      have along : ∀ y, Acc (fun y x => ∃ id ∈ ids, service.PutsOff id x y) y → service.Waits x y →
          Acc (fun y x => ∃ id ∈ first ::ₘ ids, service.PutsOff id x y) y := by
        intro y acc
        induction acc with
        | intro y acc inner =>
          intro waits
          refine .intro y fun z ⟨id, mem, off⟩ => ?_
          rcases Multiset.mem_cons.1 mem with rfl | mem
          · have off' : service.PutsOff id x z := off.widen waits (.refl z)
            exact outer z off' (acc_waits together off'.waits)
          · exact inner z ⟨id, mem, off⟩ (waits.trans off.waits)
      exact along x together (.refl x)

end Service

end AsyncReports
