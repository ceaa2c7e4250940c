import AsyncReports.Proofs.Dealings
import AsyncReports.Proofs.Job.Addressing

set_option autoImplicit false

/-!
# What jobs leave to do

A report job that has no run, or whose run has failed, is a task that is not under way; while its run goes on it waits
for it, and with a completed run it leaves nothing to do. The tasks of a group are those of its leaves. So the tasks of
jobs are read off what is known of their runs, and answers that are about the runs that were asked for change them as
the service means it.
-/

namespace AsyncReports

variable {whole : Bool}

theorem Status.step?_of_active {status : Status} (active : status.isActive) (seen : Status) :
    ∃ next, status.step? (.observed seen) = some next ∧ next.isTerminal = seen.isTerminal ∧
      next.isFailure = seen.isFailure ∧ (next.isTerminal = false → next.isActive) := by
  cases status <;> cases seen <;> simp_all [isActive, isTerminal, isFailure, step?]

namespace ReportJob

/-- The run has ended, or it is known and active. -/
structure Engaged (leaf : ReportJob) : Prop where
  sound : leaf.progress.Sound
  busy : leaf.completed = false → leaf.progress.run.isSome ∧ leaf.progress.status.isActive

/-- What is left to do about a report job, where `whole` says whether it could be split. -/
def tasks (whole : Bool) (leaf : ReportJob) : Multiset Task :=
  match leaf.pending with
  | .unstarted => {⟨leaf.asMade, whole, none⟩}
  | .running run => {⟨leaf.asMade, whole, some run.id⟩}
  | .finished _ => if leaf.failed then {⟨leaf.asMade, whole, none⟩} else 0

theorem tasks_idle {leaf : ReportJob} (none : leaf.progress.run = none) :
    leaf.tasks whole = {⟨leaf.asMade, whole, Option.none⟩} := by
  rw [tasks, pending, none]

theorem tasks_running {leaf : ReportJob} {run : Run} (known : leaf.progress.run = some run)
    (open_ : leaf.completed = false) : leaf.tasks whole = {⟨leaf.asMade, whole, some run.id⟩} := by
  have going : leaf.progress.finishedAt = none := by simpa [completed] using open_
  rw [tasks, pending, known, going]

theorem tasks_completed {leaf : ReportJob} {run : Run} (known : leaf.progress.run = some run)
    (ended : leaf.completed) : leaf.tasks whole = if leaf.failed then {⟨leaf.asMade, whole, none⟩} else 0 := by
  obtain ⟨time, at_⟩ := Option.isSome_iff_exists.1 ended
  rw [tasks, pending, known, at_]

theorem tasks_failed {leaf : ReportJob} (sound : leaf.progress.Sound) (failed : leaf.failed) :
    leaf.tasks whole = {⟨leaf.asMade, whole, none⟩} := by
  obtain ⟨known, -, failure⟩ := restartable_of_failed sound failed
  obtain ⟨run, known⟩ := Option.isSome_iff_exists.1 known
  have ended : leaf.completed := by
    rw [completed, sound.finished_eq, Status.isTerminal_iff]
    exact .inr failure
  rw [tasks_completed known ended, if_pos failed]

theorem Engaged.run_ne_none {leaf : ReportJob} (h : Engaged leaf) : leaf.progress.run ≠ none := by
  intro none
  have open_ : leaf.completed = false := h.sound.unfinished none
  have known := (h.busy open_).1
  rw [none] at known
  cases known

/-! ## Hearing -/

/-- The answer is about this run, if it is about any. -/
def About (id : String) (answer : Answer Json) : Prop := ∀ run, reading answer = some run → run.id = id

theorem going_of_asks {leaf : ReportJob} {id : String} (asking : (Job.report leaf).asks = some id) :
    ∃ run, leaf.progress.run = some run ∧ leaf.completed = false ∧ run.id = id := by
  rw [Job.asks, pending] at asking
  cases known : leaf.progress.run <;> cases finished : leaf.progress.finishedAt <;> simp_all [completed]

theorem heard_some {leaf : ReportJob} {answer : Answer Json} {run : Run} (told : reading answer = some run)
    (now : Nat) : leaf.heard now answer = { leaf with progress := leaf.progress.observe now run } := by
  rw [heard, told]

theorem observe_open {leaf : ReportJob} (h : Engaged leaf) (open_ : leaf.completed = false) (now : Nat) (run : Run) :
    ∃ next, (next.isTerminal = false → next.isActive) ∧ leaf.progress.observe now run =
      { leaf.progress with
        run := some run
        status := next
        finishedAt := if run.status.isTerminal then some now else none
        failed := run.status.isFailure } := by
  obtain ⟨-, active⟩ := h.busy open_
  obtain ⟨next, step, terminal, failure, going⟩ := Status.step?_of_active active run.status
  have unfailed : leaf.progress.failed = false := by
    rw [h.sound.failed_eq]
    exact (Status.not_terminal_of_active active).2.1
  refine ⟨next, going, ?_⟩
  rcases leaf.progress.observe_cases now run with ⟨ended, -⟩ | ⟨-, idle, -⟩ | ⟨-, next', step', moved⟩
  · rw [← completed, open_] at ended
    cases ended
  · rw [active] at idle
    cases idle
  · rw [step] at step'
    cases step'
    rw [moved, terminal, failure, unfailed, Bool.false_or]

theorem Engaged.heard {leaf : ReportJob} (h : Engaged leaf) (now : Nat) (answer : Answer Json) :
    Engaged (leaf.heard now answer) := by
  cases ended : leaf.completed with
  | true =>
    rw [heard_of_completed ended]
    exact h
  | false =>
    cases told : reading answer with
    | none =>
      rw [ReportJob.heard, told]
      exact h
    | some run =>
      obtain ⟨next, going, seen⟩ := observe_open h ended now run
      have sound := h.sound.observe now run
      rw [heard_some told]
      refine ⟨sound, fun still => ?_⟩
      have unended : (leaf.progress.observe now run).status.isTerminal = false := by
        rw [← sound.finished_eq]
        exact still
      rw [seen] at unended ⊢
      exact ⟨rfl, going unended⟩

/-- What is left to do about a job that has heard of its run. -/
theorem tasks_heard {leaf : ReportJob} {id : String} {answer : Answer Json} (h : Engaged leaf)
    (asking : (Job.report leaf).asks = some id) (about : About id answer) (now : Nat) :
    (leaf.heard now answer).tasks whole = Task.left ⟨leaf.asMade, whole, some id⟩ answer := by
  obtain ⟨old, known, open_, rfl⟩ := going_of_asks asking
  cases told : reading answer with
  | none => rw [heard, Task.left, told, tasks_running known open_]
  | some run =>
    obtain ⟨next, -, seen⟩ := observe_open h open_ now run
    have same : run.id = old.id := about run told
    rw [heard_some told, seen, Task.left, told]
    cases terminal : run.status.isTerminal with
    | false =>
      have unfailed : run.status.isFailure = false := by
        rw [Bool.eq_false_iff]
        intro failure
        have ended := (Status.isTerminal_iff run.status).2 (.inr failure)
        rw [terminal] at ended
        cases ended
      simp [tasks, pending, unfailed, terminal, same, asMade]
    | true => cases failure : run.status.isFailure <;> simp [tasks, pending, failed, failure, terminal, asMade]

theorem completed_heard {leaf : ReportJob} (h : Engaged leaf) {document : Json} {run : Run}
    (told : Run.decode document = .ok run) (ends : run.status.isTerminal) (now : Nat) :
    (leaf.heard now (.ok document)).completed := by
  cases ended : leaf.completed with
  | true => rw [heard_of_completed ended, ended]
  | false =>
    obtain ⟨next, -, seen⟩ := observe_open h ended now run
    rw [heard_some (reading_ok.2 told), completed, seen]
    simp [ends]

end ReportJob

namespace Job

open ReportJob

/-- What is left to do about a job, of which only a report job in the queue of a manager could be split. -/
def tasks (whole : Bool) : Job → Multiset Task
  | .report leaf => leaf.tasks whole
  | .group _ members => ((allLeaves members).map (ReportJob.tasks false)).sum

def allTasks (whole : Bool) (jobs : List Job) : Multiset Task := (jobs.map (tasks whole)).sum

@[simp] theorem allTasks_nil : allTasks whole [] = 0 := rfl

@[simp] theorem allTasks_cons (job : Job) (jobs : List Job) :
    allTasks whole (job :: jobs) = job.tasks whole + allTasks whole jobs := by
  rw [allTasks, List.map_cons, List.sum_cons, allTasks]

@[simp] theorem allTasks_append (jobs jobs' : List Job) :
    allTasks whole (jobs ++ jobs') = allTasks whole jobs + allTasks whole jobs' := by
  rw [allTasks, List.map_append, List.sum_append, allTasks, allTasks]

theorem allTasks_perm {jobs jobs' : List Job} (h : jobs.Perm jobs') : allTasks whole jobs = allTasks whole jobs' :=
  (h.map _).sum_eq

theorem tasks_of_leaves (job : Job) : job.tasks false = (job.leaves.map (ReportJob.tasks false)).sum := by
  cases job with
  | report leaf => simp [tasks, leaves]
  | group => rfl

theorem tasks_group (g : Group) (members : List Job) : (Job.group g members).tasks whole = allTasks false members := by
  change ((allLeaves members).map (ReportJob.tasks false)).sum = allTasks false members
  induction members with
  | nil => rfl
  | cons job rest ih => rw [allTasks_cons, ← ih, allLeaves, List.map_append, List.sum_append, tasks_of_leaves]

/-- The tasks of one of several jobs, and those of the others. -/
theorem allTasks_set {jobs : List Job} {i : Nat} {job : Job} (here : jobs[i]? = some job) (g : Group) :
    allTasks whole jobs = job.tasks whole + allTasks whole (jobs.set i (.group g [])) := by
  induction jobs generalizing i with
  | nil => cases here
  | cons first rest ih =>
    cases i with
    | zero =>
      cases here
      rw [List.set_cons_zero, allTasks_cons, allTasks_cons, tasks_group, allTasks_nil, zero_add]
    | succ i =>
      rw [List.set_cons_succ, allTasks_cons, allTasks_cons, ih here, add_left_comm]

/-! ## Batches that are waited for -/

/-- Each check asks about the run that a report job at a position of its own waits for. -/
structure Awaited (jobs : List Job) (batch : Batch Slot) : Prop where
  distinct : (positions batch).Nodup
  asking : ∀ check ∈ batch, ∃ job, jobs[check.owner.position]? = some job ∧ job.asks = some check.run

theorem Awaited.addressed {jobs : List Job} {batch : Batch Slot} (h : Awaited jobs batch) : Addressed jobs batch := by
  refine ⟨h.distinct, fun check mem => ?_⟩
  obtain ⟨job, here, asking⟩ := h.asking check mem
  obtain ⟨leaf, rfl⟩ := report_of_asks asking
  exact ⟨leaf, here⟩

/-- What each answer leaves of the task at its position, it leaves of all tasks, if there is nothing new elsewhere. -/
theorem hear_of_each {answered : List (Check Slot × Answer Json)} :
    ∀ {jobs jobs' : List Job}, (positions (answered.map Prod.fst)).Nodup →
      (∀ i, i ∉ positions (answered.map Prod.fst) → jobs'[i]? = jobs[i]?) →
      (∀ check answer, (check, answer) ∈ answered → ∃ job job' task, jobs[check.owner.position]? = some job ∧
        jobs'[check.owner.position]? = some job' ∧ job.tasks whole = {task} ∧ task.run = some check.run ∧
        job'.tasks whole = task.left answer) →
      Task.Hear answered (allTasks whole jobs) (allTasks whole jobs') := by
  induction answered with
  | nil =>
    intro jobs jobs' _ untouched _
    rw [List.ext_getElem? fun i => untouched i (by simp [positions])]
    exact .nothing _
  | cons head rest ih =>
    obtain ⟨check, answer⟩ := head
    intro jobs jobs' distinct untouched each
    obtain ⟨fresh, distinct⟩ := List.nodup_cons.1 distinct
    obtain ⟨job, job', task, here, here', known, waits, left⟩ := each check answer List.mem_cons_self
    -- The other answers find the jobs as they are, but for an empty place where the first one has gone.
    have inside : check.owner.position < jobs.length := (List.getElem?_eq_some_iff.1 here).1
    have inside' : check.owner.position < jobs'.length := (List.getElem?_eq_some_iff.1 here').1
    let hole : Job := .group { interval := job.interval } []
    have others : Task.Hear rest (allTasks whole (jobs.set check.owner.position hole))
        (allTasks whole (jobs'.set check.owner.position hole)) := by
      refine ih distinct (fun i outside => ?_) fun c a mem => ?_
      · by_cases same : check.owner.position = i
        · subst same
          rw [List.getElem?_set_self inside', List.getElem?_set_self inside]
        · rw [List.getElem?_set_ne same, List.getElem?_set_ne same]
          exact untouched i (mt List.mem_cons.1 (not_or.2 ⟨Ne.symm same, outside⟩))
      · have other : check.owner.position ≠ c.owner.position :=
          fun same => fresh (List.mem_map.2 ⟨c, List.mem_map_of_mem mem, same.symm⟩)
        rw [List.getElem?_set_ne other, List.getElem?_set_ne other]
        exact each c a (List.mem_cons_of_mem _ mem)
    rw [allTasks_set here { interval := job.interval }, allTasks_set here' { interval := job.interval }, known, left,
      Multiset.singleton_add]
    exact .cons waits others

theorem Awaited.task {jobs : List Job} {batch : Batch Slot} (h : Awaited jobs batch) (whole : Bool)
    {check : Check Slot} (mem : check ∈ batch) : ∃ leaf, jobs[check.owner.position]? = some (.report leaf) ∧
      (Job.report leaf).asks = some check.run ∧ leaf.tasks whole = {⟨leaf.asMade, whole, some check.run⟩} := by
  obtain ⟨job, here, asking⟩ := h.asking check mem
  obtain ⟨leaf, rfl⟩ := report_of_asks asking
  obtain ⟨run, known, open_, same⟩ := going_of_asks asking
  exact ⟨leaf, here, asking, by rw [tasks_running known open_, same]⟩

/-- The runs that a batch asks about are among those that are waited for. -/
theorem Awaited.runs_le {jobs : List Job} {batch : Batch Slot} (h : Awaited jobs batch) :
    (Batch.runs batch : Multiset String) ≤ Task.runs (allTasks whole jobs) := by
  -- Answers that say nothing leave the jobs as they are.
  have nothing : Task.Hear (Batch.pair batch []) (allTasks whole jobs) (allTasks whole jobs) := by
    refine hear_of_each (by rw [Batch.pair_checks]; exact h.distinct) (fun _ _ => rfl) fun check answer mem => ?_
    have asked := List.mem_map_of_mem (f := Prod.fst) mem
    rw [Batch.pair_checks] at asked
    obtain ⟨leaf, here, -, known⟩ := h.task whole asked
    refine ⟨_, _, _, here, here, known, rfl, ?_⟩
    rcases Batch.mem_pair mem with ⟨k, -, there⟩ | rfl
    · cases there
    · exact known
  simpa only [Batch.pair_checks] using nothing.runs_le

end Job

end AsyncReports
