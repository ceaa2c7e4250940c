import AsyncReports.Proofs.Batch
import AsyncReports.Proofs.ReportJob
import AsyncReports.Script
import Mathlib.Logic.Relation

set_option autoImplicit false

/-!
# Report jobs in use

A desk is a report job in the hands of a caller, with all batches in which its checks may wait. The caller starts,
restarts and updates the job, queues checks, and executes batches, in any order. A batch may wait for any time and
hold the checks of other jobs. For every answer that reaches the job the desk notes which check it belongs to and
what it did.

All that an operation can do is a sequence of a few changes. A property of all jobs in use is shown by looking at
each change once.
-/

namespace AsyncReports

variable {σ : Type}

/-- For whom a check was queued. One of the job's own remembers the run and the attempt of the job at that time. -/
inductive Asker
  | own (run : Option String) (attempt : Nat) (label : String)
  | other

/-- An answer to a check of the job, and the job before and after it was taken in. -/
structure Hearing where
  run : Option String
  attempt : Nat
  answer : Answer Json
  before : ReportJob
  after : ReportJob

structure Desk where
  job : ReportJob
  batches : Nat → Batch Asker := fun _ => []
  hearings : List Hearing := []
  /-- The runs that the submissions of the job were answered with. -/
  runs : List String := []

inductive Operation
  | start
  | restart
  | update
  | queue (batch : Nat)
  /-- A check of another job is queued. -/
  | queueOther (batch : Nat) (run : String)
  | execute (batch : Nat)

namespace ReportJob

def runId (job : ReportJob) : Option String := job.progress.run.map (·.id)

def asker (job : ReportJob) (label : String) : Asker := .own job.runId job.attempt label

end ReportJob

namespace Desk

def put (desk : Desk) (i : Nat) (batch : Batch Asker) : Desk :=
  { desk with batches := fun j => if j = i then batch else desk.batches j }

def submitted (desk : Desk) (out : Outcome ReportJob) : Desk :=
  { desk with
    job := out.1
    runs := match out.2 with
      | .ok () => desk.runs ++ out.1.runId.toList
      | .error _ => desk.runs }

def hear (desk : Desk) (run : Option String) (attempt : Nat) (answer : Answer Json) (job : ReportJob) : Desk :=
  { desk with job, hearings := desk.hearings ++ [⟨run, attempt, answer, desk.job, job⟩] }

def receive (desk : Desk) (asker : Asker) (answer : Answer Json) : Act σ Desk :=
  match asker with
  | .other => pure desk
  | .own run attempt label => do
    let job ← desk.job.receive label answer
    pure (desk.hear run attempt answer job)

def operate (service : Service σ) (desk : Desk) : Operation → Act σ Desk
  | .start => do
    let out ← desk.job.start service
    pure (desk.submitted out)
  | .restart => do
    let out ← desk.job.restart service
    pure (desk.submitted out)
  | .update => do
    let (job, _) ← desk.job.update service
    pure { desk with job }
  | .queue i => do
    let (checks, _) ← desk.job.check desk.job.asker
    pure (desk.put i (desk.batches i ++ checks))
  | .queueOther i run => pure (desk.put i (desk.batches i ++ [⟨run, .other⟩]))
  | .execute i => do
    let (desk, retry) ← Batch.execute service receive desk (desk.batches i)
    pure (desk.put i retry)

/-- The desks that a job comes to by operations, whatever the world is like at each of them. -/
inductive Reached (service : Service σ) (first : ReportJob) : Desk → Prop
  | new : Reached service first { job := first }
  | operation {desk desk' : Desk} {op : Operation} {w w' : World σ} (before : Reached service first desk)
    (run : desk.operate service op w = some (desk', w')) : Reached service first desk'

/-- The job as it is now, and as it was around every answer. -/
def states (desk : Desk) : List ReportJob := desk.job :: desk.hearings.flatMap fun h => [h.before, h.after]

/-! ## Changes -/

inductive Change (service : Service σ) (desk : Desk) : Desk → Prop
  | start (fit : desk.job.Startable) (run : Run) (now : Nat) :
    Change service desk { desk with job := desk.job.launched run now, runs := desk.runs ++ [run.id] }
  | reset (fit : desk.job.Restartable) : Change service desk { desk with job := desk.job.cleared }
  | observe {run latest : Run} {s : σ} (known : desk.job.progress.run = some run)
    (read : (service.status run.id s).1 = .ok latest) (now : Nat) :
    Change service desk { desk with job := { desk.job with progress := desk.job.progress.observe now latest } }
  | queue {run : Run} (known : desk.job.progress.run = some run) (going : desk.job.completed = false) (i : Nat) :
    Change service desk (desk.put i (desk.batches i ++ [⟨run.id, desk.job.asker desk.job.label⟩]))
  | queueOther (i : Nat) (run : String) : Change service desk (desk.put i (desk.batches i ++ [⟨run, .other⟩]))
  | keep {i : Nat} {batch : Batch Asker} (kept : batch.Sublist (desk.batches i)) :
    Change service desk (desk.put i batch)
  | hear {i attempt : Nat} {id label : String} {run : Option String} {answer : Answer Json} {s : σ}
    (paired : (⟨id, .own run attempt label⟩, answer) ∈
      Batch.pair (desk.batches i) (service.statuses (Batch.runs (desk.batches i)) s).1) (now : Nat) :
    Change service desk (desk.hear run attempt answer (desk.job.heard now answer))

abbrev Changes (service : Service σ) : Desk → Desk → Prop := Relation.ReflTransGen (Change service)

variable {service : Service σ} {desk : Desk}

theorem receive_changes {i : Nat} {check : Check Asker} {answer : Answer Json} {s : σ}
    (paired : (check, answer) ∈ Batch.pair (desk.batches i) (service.statuses (Batch.runs (desk.batches i)) s).1)
    (w : World σ) :
    Act.Ensures (desk.receive check.owner answer) w fun desk' _ =>
      Changes service desk desk' ∧ desk'.batches = desk.batches := by
  obtain ⟨id, asker⟩ := check
  cases asker with
  | other => exact Act.ensures_pure.2 ⟨.refl, rfl⟩
  | own run attempt label =>
    simp only [receive, Act.ensures_bind, Act.ensures_pure]
    refine (ReportJob.receive_eq_heard label answer desk.job w).mono ?_
    intro job w₁ same
    rw [same]
    exact ⟨.single (.hear paired w.clock), rfl⟩

theorem execute_changes (desk : Desk) (i : Nat) (w : World σ) :
    Act.Ensures (Batch.execute service receive desk (desk.batches i)) w fun out _ =>
      (Changes service desk out.1 ∧ out.1.batches = desk.batches) ∧ out.2.Sublist (desk.batches i) := by
  refine Batch.execute_keeps service (p := fun later => Changes service desk later ∧ later.batches = desk.batches)
    ?_ ⟨.refl, rfl⟩ w
  intro s check answer paired later w₁ ⟨changes, batches⟩
  rw [← batches] at paired
  refine (receive_changes paired w₁).mono fun desk' _ ⟨more, same⟩ => ?_
  exact ⟨changes.trans more, same.trans batches⟩

/-- What a batch leaves alone, if no answer that is heard touches it. -/
theorem execute_hears (service : Service σ) {p : Desk → Prop} (step : ∀ later run attempt now answer, p later →
    p (later.hear run attempt answer (later.job.heard now answer))) (before : p desk) (batch : Batch Asker)
    (w : World σ) : Act.Ensures (Batch.execute service receive desk batch) w fun out _ => p out.1 := by
  have onward : ∀ (s : σ) (check : Check Asker) (answer : Answer Json),
      (check, answer) ∈ Batch.pair batch (service.statuses (Batch.runs batch) s).1 →
        ∀ (later : Desk) (w₁ : World σ), p later →
          Act.Ensures (later.receive check.owner answer) w₁ fun desk' _ => p desk' := by
    intro _ check answer _ later w₁ kept
    cases check.owner with
    | other => exact Act.ensures_pure.2 kept
    | own run attempt label =>
      simp only [receive, Act.ensures_bind, Act.ensures_pure]
      intro job w₂ received
      have heard := ReportJob.receive_eq_heard label answer later.job w₁ job w₂ received
      rw [heard]
      exact step later run attempt w₁.clock answer kept
  exact (Batch.execute_keeps service onward before w).mono fun _ _ kept => kept.1

theorem operate_changes (op : Operation) (w : World σ) :
    Act.Ensures (desk.operate service op) w fun desk' _ => Changes service desk desk' := by
  cases op with
  | start =>
    simp only [operate, Act.ensures_bind, Act.ensures_pure]
    refine (ReportJob.start_ensures service desk.job w).mono ?_
    rintro _ _ (⟨fit, ⟨run, now, rfl⟩ | ⟨cause, rfl⟩⟩ | ⟨-, rfl⟩)
    · exact .single (.start fit run now)
    · exact .refl
    · exact .refl
  | restart =>
    simp only [operate, Act.ensures_bind, Act.ensures_pure]
    refine (ReportJob.restart_ensures service desk.job w).mono ?_
    rintro _ _ (⟨fit, ⟨run, now, rfl⟩ | ⟨cause, rfl⟩⟩ | ⟨-, rfl⟩)
    · have again : Change service { desk with job := desk.job.cleared } _ := .start ⟨rfl, rfl⟩ run now
      exact .tail (.single (.reset fit)) again
    · exact .single (.reset fit)
    · exact .refl
  | update =>
    simp only [operate, Act.ensures_bind, Act.ensures_pure]
    refine (ReportJob.update_ensures service desk.job w).mono ?_
    rintro _ _ (⟨-, rfl⟩ | ⟨-, -, rfl⟩ | ⟨run, known, -, answered⟩)
    · exact .refl
    · exact .refl
    · cases read : (service.status run.id w.remote).1 with
      | error cause =>
        rw [read] at answered
        subst answered
        exact .refl
      | ok latest =>
        rw [read] at answered
        subst answered
        exact .single (.observe known read w.clock)
  | queue i =>
    simp only [operate, Act.ensures_bind, Act.ensures_pure]
    refine (ReportJob.check_ensures desk.job.asker desk.job w).mono ?_
    have same : Changes service desk (desk.put i (desk.batches i ++ [])) := by
      rw [List.append_nil]
      exact .single (.keep (List.Sublist.refl _))
    rintro _ _ (⟨-, rfl⟩ | ⟨-, -, rfl⟩ | ⟨run, known, going, rfl⟩)
    · exact same
    · exact same
    · exact .single (.queue known going i)
  | queueOther i run => exact Act.ensures_pure.2 (.single (.queueOther i run))
  | execute i =>
    simp only [operate, Act.ensures_bind, Act.ensures_pure]
    refine (execute_changes desk i w).mono ?_
    rintro out _ ⟨⟨changes, batches⟩, kept⟩
    rw [← batches] at kept
    exact changes.tail (.keep kept)

theorem Reached.changes {first : ReportJob} (reached : Reached service first desk) :
    Changes service { job := first } desk := by
  induction reached with
  | new => exact .refl
  | operation _ run ih => exact ih.trans (operate_changes _ _ _ _ run)

theorem Change.asMade {desk' : Desk} (change : Change service desk desk') : desk'.job.asMade = desk.job.asMade := by
  cases change with
  | start | reset | observe | queue | queueOther | keep => rfl
  | hear paired now => exact ReportJob.heard_asMade now _ desk.job

/-- Nothing that is done with a job changes what it was made as. -/
theorem Reached.asMade {first : ReportJob} (reached : Reached service first desk) :
    desk.job.asMade = first.asMade := by
  have changes := reached.changes
  clear reached
  induction changes with
  | refl => rfl
  | tail _ change ih => exact change.asMade.trans ih

theorem Reached.operations {first : ReportJob} (reached : Reached service first desk) (ops : List Operation)
    (w : World σ) : Act.Ensures (ops.foldlM (operate service) desk) w fun desk' _ => Reached service first desk' := by
  induction ops generalizing desk w with
  | nil => exact Act.ensures_pure.2 reached
  | cons op ops ih =>
    rw [List.foldlM_cons, Act.ensures_bind]
    intro desk₁ w₁ run
    exact ih (.operation reached run) w₁

/-! ## The lifecycle -/

theorem mem_states_hear {run : Option String} {attempt : Nat} {answer : Answer Json} {job state : ReportJob}
    (mem : state ∈ (desk.hear run attempt answer job).states) : state ∈ desk.states ∨ state = job := by
  simp only [states, hear, List.mem_cons, List.flatMap_append, List.mem_append, List.flatMap_cons, List.flatMap_nil,
    List.append_nil, List.not_mem_nil, or_false] at mem ⊢
  rcases mem with mem | mem | mem | mem
  · exact .inr mem
  · exact .inl (.inr mem)
  · exact .inl (.inl mem)
  · exact .inr mem

theorem sound_heard {job : ReportJob} (sound : job.progress.Sound) (now : Nat) (answer : Answer Json) :
    (job.heard now answer).progress.Sound := by
  unfold ReportJob.heard
  cases ReportJob.reading answer with
  | none => exact sound
  | some run => exact sound.observe now run

theorem Change.sound {desk' : Desk} (change : Change service desk desk')
    (sound : ∀ job ∈ desk.states, job.progress.Sound) : ∀ job ∈ desk'.states, job.progress.Sound := by
  have now_sound : desk.job.progress.Sound := sound _ List.mem_cons_self
  have earlier : ∀ {job' : ReportJob}, job'.progress.Sound →
      ∀ job ∈ ({ desk with job := job' } : Desk).states, job.progress.Sound := by
    intro job' sound' job mem
    rcases List.mem_cons.1 mem with rfl | mem
    · exact sound'
    · exact sound job (List.mem_cons_of_mem _ mem)
  cases change with
  | start fit run now => exact earlier (fit.sound_launched now_sound run now)
  | reset => exact earlier (ReportJob.sound_cleared _)
  | observe known read now => exact earlier (now_sound.observe now _)
  | queue known going i => exact sound
  | queueOther i run => exact sound
  | keep kept => exact sound
  | hear paired now =>
    intro job mem
    rcases mem_states_hear mem with mem | rfl
    · exact sound job mem
    · exact sound_heard now_sound now _

theorem Reached.sound {first : ReportJob} (fresh : first.progress = {}) (reached : Reached service first desk) :
    ∀ job ∈ desk.states, job.progress.Sound := by
  have changes := reached.changes
  clear reached
  induction changes with
  | refl =>
    intro job mem
    rw [List.mem_singleton.1 mem, fresh]
    exact Progress.Sound.initial
  | tail _ last ih => exact last.sound ih

/-- What is known of a report job goes together in all states that it can come to: its status, its times, the
failure flag and the run last read. -/
theorem lifecycle {edge : Edge} {params : Params} {interval : Interval} {settings : Settings}
    (reached : Reached service (.new edge params interval settings) desk) :
    ∀ job ∈ desk.states,
      (job.failed ↔ job.progress.status = .failed ∨ job.progress.status = .skipped) ∧
      (job.completed ↔ job.progress.status.isTerminal) ∧
      (job.failed → job.completed) ∧
      (job.progress.startedAt.isSome ↔ job.progress.status ≠ .notStarted) ∧
      (∀ now, (job.elapsed now).isSome ↔ job.progress.status ≠ .notStarted) ∧
      (job.progress.status ≠ .notStarted → job.progress.run.isSome) ∧
      (job.progress.status.isTerminal → ∃ run, job.progress.run = some run ∧ run.status = job.progress.status) := by
  intro job mem
  have sound := reached.sound rfl job mem
  have failed : job.failed = job.progress.status.isFailure := sound.failed_eq
  have completed : job.completed = job.progress.status.isTerminal := sound.finished_eq
  have failure : job.failed ↔ job.progress.status = .failed ∨ job.progress.status = .skipped := by
    rw [failed]
    cases job.progress.status <;> simp [Status.isFailure]
  refine ⟨failure, by rw [completed], ?_, sound.started_iff, ?_, sound.run_isSome, ?_⟩
  · intro fails
    rw [completed, Status.isTerminal_iff, ← failed]
    exact .inr fails
  · intro now
    rw [ReportJob.elapsed, Option.isSome_map]
    exact sound.started_iff
  · intro ended
    obtain ⟨run, known⟩ := Option.isSome_iff_exists.1 (sound.run_isSome (Status.started_of_terminal ended))
    exact ⟨run, known, sound.snapshot run known ended⟩

/-! ## A check that waits too long -/

/-- A remote side on which every run fails. It counts the submissions, from zero, and refuses some of them. -/
def failing (refused : List Nat) : Service Nat where
  submit _ _ count :=
    if count ∈ refused then (.error (.request 503 "busy"), count + 1)
    else (.ok { id := "run-" ++ toString (count + 1), status := .started }, count + 1)
  query _ _ count := (.ok [], count)
  status run count := (.ok { id := run, status := .failed }, count)
  statuses runs count := (runs.map fun run => .ok (Script.statusDocument run Status.failed.text), count)
  rows _ _ count := ([], count)
  throttle count := (.ok {}, count)

/-- A check is queued, and executed after the job has been restarted. -/
def lateCheck : List Operation := [.start, .queue 0, .update, .restart, .execute 0]

theorem lateCheck_run : ∃ desk w, lateCheck.foldlM (operate (failing [])) { job := .sample } { remote := 0 } =
    some (desk, w) ∧ desk.job.progress.status = .failed := by
  have run : (lateCheck.foldlM (operate (failing [])) { job := .sample } { remote := 0 }).map
      (fun out => out.1.job.progress.status) = some .failed := by
    decide +kernel
  obtain ⟨⟨desk, w⟩, ran, status⟩ := Option.map_eq_some_iff.1 run
  exact ⟨desk, w, ran, status⟩

theorem lifecycle_lateCheck : ∃ desk, Reached (failing []) .sample desk ∧ desk.job.progress.status = .failed ∧
    desk.job.failed ∧ desk.job.completed ∧ ∃ run, desk.job.progress.run = some run ∧ run.status = .failed := by
  obtain ⟨desk, w, ran, failed⟩ := lateCheck_run
  have reached : Reached (failing []) .sample desk := Reached.operations .new lateCheck { remote := 0 } desk w ran
  obtain ⟨failure, completed, implies, -, -, -, snapshot⟩ := lifecycle reached desk.job List.mem_cons_self
  have fails : desk.job.failed := failure.2 (.inl failed)
  rw [failed] at snapshot
  exact ⟨desk, reached, failed, fails, implies fails, snapshot rfl⟩

end Desk

end AsyncReports
