import AsyncReports.Proofs.Ensures
import AsyncReports.ReportJob

set_option autoImplicit false

/-!
# What happens to a report job

One statement for each operation on a report job says everything that it can do. `Progress.Sound` ties what is
known of a run to its status; every operation keeps it, and so does an answer that comes in late.
-/

namespace AsyncReports

variable {σ : Type}

namespace Status

theorem step?_observed {status seen next : Status} (h : status.step? (.observed seen) = some next) :
    status.isActive ∧ (next = status ∨ next = seen) ∧ next ≠ .notStarted := by
  cases status <;> cases seen <;> simp_all [step?, isActive] <;> subst next <;> simp

theorem step?_observed_none {status seen : Status} (h : status.step? (.observed seen) = none) :
    status.isActive = false := by
  cases status <;> cases seen <;> simp_all [step?, isActive]

theorem isTerminal_iff (status : Status) : status.isTerminal ↔ status = .completed ∨ status.isFailure := by
  cases status <;> simp [isTerminal, isFailure]

theorem not_terminal_of_active {status : Status} (h : status.isActive) :
    status.isTerminal = false ∧ status.isFailure = false ∧ status ≠ .notStarted := by
  cases status <;> simp_all [isActive, isTerminal, isFailure]

theorem started_of_terminal {status : Status} (h : status.isTerminal) : status ≠ .notStarted := by
  rintro rfl
  cases h

end Status

namespace Progress

/-- What an observation does to what is known: nothing once the run has ended, else the new snapshot is stored,
and the status follows it where the lifecycle allows. -/
theorem observe_cases (now : Nat) (run : Run) (p : Progress) :
    (p.finishedAt.isSome ∧ p.observe now run = p) ∨
      (p.finishedAt = none ∧ p.status.isActive = false ∧ p.observe now run = { p with run := some run }) ∨
        (p.finishedAt = none ∧ ∃ next, p.status.step? (.observed run.status) = some next ∧
          p.observe now run =
            { p with
              run := some run
              status := next
              finishedAt := if next.isTerminal then some now else none
              failed := p.failed || next.isFailure }) := by
  cases finished : p.finishedAt with
  | some time => exact .inl ⟨rfl, by simp [observe, finished]⟩
  | none =>
    refine .inr ?_
    cases step : p.status.step? (.observed run.status) with
    | none => exact .inl ⟨rfl, Status.step?_observed_none step, by simp [observe, finished, step]⟩
    | some next =>
      refine .inr ⟨rfl, next, rfl, ?_⟩
      cases next <;> simp [observe, finished, step, Status.isTerminal, Status.isFailure]

theorem observe_of_finished {p : Progress} (ended : p.finishedAt.isSome) (now : Nat) (run : Run) :
    p.observe now run = p := by
  rw [observe, if_pos ended]

structure Sound (p : Progress) : Prop where
  failed_eq : p.failed = p.status.isFailure
  finished_eq : p.finishedAt.isSome = p.status.isTerminal
  run_isSome : p.status ≠ .notStarted → p.run.isSome
  started_iff : p.startedAt.isSome ↔ p.status ≠ .notStarted
  snapshot : ∀ run, p.run = some run → p.status.isTerminal → run.status = p.status

theorem Sound.initial : ({} : Progress).Sound := by
  constructor <;> simp [Status.isFailure, Status.isTerminal]

theorem Sound.unfinished {p : Progress} (sound : p.Sound) (idle : p.run = none) : p.finishedAt.isSome = false := by
  rw [sound.finished_eq, Bool.eq_false_iff]
  intro ended
  have run := sound.run_isSome (Status.started_of_terminal ended)
  simp [idle] at run

theorem Sound.observe {p : Progress} (sound : p.Sound) (now : Nat) (run : Run) : (p.observe now run).Sound := by
  rcases observe_cases now run p with ⟨-, same⟩ | ⟨unfinished, -, stored⟩ | ⟨-, next, step, moved⟩
  · rw [same]
    exact sound
  · have open_ : ¬ p.status.isTerminal := by simp [← sound.finished_eq, unfinished]
    rw [stored]
    exact ⟨sound.failed_eq, sound.finished_eq, fun _ => rfl, sound.started_iff, fun _ _ ended => absurd ended open_⟩
  · obtain ⟨active, target, known⟩ := Status.step?_observed step
    obtain ⟨open_, unfailed, begun⟩ := Status.not_terminal_of_active active
    rw [moved]
    refine ⟨?_, ?_, fun _ => rfl, ?_, ?_⟩
    · simp [sound.failed_eq, unfailed]
    · cases next.isTerminal <;> rfl
    · simp [sound.started_iff, begun, known]
    · rintro _ ⟨⟩ ended
      rcases target with rfl | rfl
      · rw [open_] at ended
        cases ended
      · rfl

end Progress

namespace ReportJob

/-- The job as it was made: all that stays the same as long as the job lives. -/
def asMade (job : ReportJob) : ReportJob := { job with attempt := 1, progress := {} }

def launched (job : ReportJob) (run : Run) (now : Nat) : ReportJob :=
  { job with progress := { job.progress with status := .started, run := some run, startedAt := some now } }

def cleared (job : ReportJob) : ReportJob := { job with progress := {}, attempt := job.attempt + 1 }

/-- A report on one day, never started. -/
def sample : ReportJob :=
  .new (.account "act_1") { level := .ad, fields := ["impressions"] } (.day ⟨18628, by decide⟩) {}

def Startable (job : ReportJob) : Prop := job.progress.run = none ∧ job.progress.status = .notStarted

def Restartable (job : ReportJob) : Prop :=
  job.progress.run.isSome ∧ job.progress.failed ∧ job.progress.status.isFailure

theorem Startable.of_fresh {job : ReportJob} (fresh : job.progress = {}) : job.Startable := by
  rw [Startable, fresh]
  exact ⟨rfl, rfl⟩

/-- The world once a submission of the job has arrived. -/
def sent (service : Service σ) (job : ReportJob) (w : World σ) : World σ :=
  { w with
    remote := (service.submit job.edge job.params w.remote).2
    calls := w.calls ++ [.submit job.edge job.params] }

/-- The job was submitted, and has taken in the answer. -/
inductive Submits (service : Service σ) (job : ReportJob) (w : World σ) : Outcome ReportJob → World σ → Prop
  | granted (run : Run) (log : List LogEntry) (answer : (service.submit job.edge job.params w.remote).1 = .ok run) :
    Submits service job w (job.launched run w.clock, .ok ()) { job.sent service w with log }
  | refused (cause : ServiceError) (answer : (service.submit job.edge job.params w.remote).1 = .error cause) :
    Submits service job w (job, .error (.service cause)) (job.sent service w)

theorem start_submits (service : Service σ) {job : ReportJob} (fit : job.Startable) (w : World σ) :
    Act.Ensures (job.start service) w (Submits service job w) := by
  obtain ⟨unknown, idle⟩ := fit
  have next : job.progress.status.step? .start = some .started := by
    rw [idle]
    rfl
  unfold start
  simp only [unknown, next, Act.ensures_bind, Service.submitted, Act.ensures_call]
  cases answer : (service.submit job.edge job.params w.remote).1 with
  | error cause => exact Act.ensures_pure.2 (.refused cause answer)
  | ok run =>
    simp only [Act.ensures_bind, Act.ensures_now, Act.ensures_log, Act.ensures_pure]
    exact .granted run _ answer

theorem start_refused {service : Service σ} {job : ReportJob} (unfit : ¬ job.Startable) (w : World σ) :
    job.start service w = some ((job, .error (.misuse job.label .startTwice)), w) := by
  cases known : job.progress.run with
  | some run =>
    rw [start, known]
    rfl
  | none =>
    have begun : job.progress.status.step? .start = none := by
      cases status : job.progress.status <;> simp_all [Startable, Status.step?]
    rw [start, known, begun]
    rfl

theorem start_ensures (service : Service σ) (job : ReportJob) (w : World σ) :
    Act.Ensures (job.start service) w fun out _ =>
      (job.Startable ∧ ((∃ run now, out = (job.launched run now, .ok ())) ∨
        ∃ cause, out = (job, .error (.service cause)))) ∨
      (¬ job.Startable ∧ out = (job, .error (.misuse job.label .startTwice))) := by
  by_cases fit : job.Startable
  · refine (start_submits service fit w).mono ?_
    intro _ _ submits
    cases submits with
    | granted run => exact .inl ⟨fit, .inl ⟨run, w.clock, rfl⟩⟩
    | refused cause => exact .inl ⟨fit, .inr ⟨cause, rfl⟩⟩
  · intro out _ run
    rw [start_refused fit] at run
    cases run
    exact .inr ⟨fit, rfl⟩

theorem reset?_eq (job : ReportJob) [Decidable job.Restartable] :
    job.reset? = if job.Restartable then some job.cleared else none := by
  cases run : job.progress.run <;> cases failed : job.progress.failed <;>
    cases status : job.progress.status <;>
      simp_all [reset?, Restartable, cleared, Status.step?, Status.isFailure]

theorem restart_submits (service : Service σ) {job : ReportJob} (fit : job.Restartable) (w : World σ) :
    Act.Ensures (job.restart service) w (Submits service job.cleared w) := by
  classical
  unfold restart
  rw [reset?_eq, if_pos fit, Act.ensures_bind]
  have fresh : job.cleared.Startable := ⟨rfl, rfl⟩
  refine (start_submits service fresh w).mono ?_
  intro _ w₁ submits
  cases submits with
  | granted run log answer =>
    simp only [Act.ensures_bind, Act.ensures_log, Act.ensures_pure]
    exact .granted run _ answer
  | refused cause answer => exact Act.ensures_pure.2 (.refused cause answer)

theorem restart_refused {service : Service σ} {job : ReportJob} (unfit : ¬ job.Restartable) (w : World σ) :
    job.restart service w = some ((job, .error (.misuse job.label .restartUnfailed)), w) := by
  classical
  rw [restart, reset?_eq, if_neg unfit]
  rfl

/-- A restart clears a failed job and submits it again. When the submission fails, the job stays cleared. -/
theorem restart_ensures (service : Service σ) (job : ReportJob) (w : World σ) :
    Act.Ensures (job.restart service) w fun out _ =>
      (job.Restartable ∧ ((∃ run now, out = (job.cleared.launched run now, .ok ())) ∨
        ∃ cause, out = (job.cleared, .error (.service cause)))) ∨
      (¬ job.Restartable ∧ out = (job, .error (.misuse job.label .restartUnfailed))) := by
  by_cases fit : job.Restartable
  · refine (restart_submits service fit w).mono ?_
    intro _ _ submits
    cases submits with
    | granted run => exact .inl ⟨fit, .inl ⟨run, w.clock, rfl⟩⟩
    | refused cause => exact .inl ⟨fit, .inr ⟨cause, rfl⟩⟩
  · intro out _ run
    rw [restart_refused fit] at run
    cases run
    exact .inr ⟨fit, rfl⟩

/-- The run that an answer tells about, if it tells about one. -/
def reading : Answer Json → Option Run
  | .error _ => none
  | .ok document => (Run.decode document).toOption

/-- The job once it has taken in an answer. -/
def heard (now : Nat) (answer : Answer Json) (job : ReportJob) : ReportJob :=
  match reading answer with
  | none => job
  | some run => { job with progress := job.progress.observe now run }

theorem heard_of_completed {job : ReportJob} (ended : job.completed) (now : Nat) (answer : Answer Json) :
    job.heard now answer = job := by
  unfold heard
  cases reading answer with
  | none => rfl
  | some run =>
    dsimp only
    rw [Progress.observe_of_finished ended]

theorem heard_asMade (now : Nat) (answer : Answer Json) (job : ReportJob) :
    (job.heard now answer).asMade = job.asMade := by
  unfold heard
  cases reading answer <;> rfl

theorem receive_eq_heard (label : String) (answer : Answer Json) (job : ReportJob) (w : World σ) :
    Act.Ensures (job.receive label answer) w fun out _ => out = job.heard w.clock answer := by
  cases answer with
  | error cause => simp [receive, heard, reading]
  | ok document =>
    unfold receive
    cases decoded : Run.decode document with
    | error cause => simp [heard, reading, decoded, Except.toOption]
    | ok run => simp [heard, reading, decoded, Except.toOption, observe]

theorem receive_ensures (label : String) (answer : Answer Json) (job : ReportJob) (w : World σ) :
    Act.Ensures (job.receive label answer) w fun out _ =>
      out = job ∨ ∃ now run, out = { job with progress := job.progress.observe now run } := by
  refine (receive_eq_heard label answer job w).mono ?_
  rintro _ _ rfl
  unfold heard
  cases reading answer with
  | none => exact .inl rfl
  | some run => exact .inr ⟨w.clock, run, rfl⟩

theorem update_ensures (service : Service σ) (job : ReportJob) (w : World σ) :
    Act.Ensures (job.update service) w fun out _ =>
      (job.progress.run = none ∧ out = (job, .error (.misuse job.label .updateUnstarted))) ∨
      (job.progress.run.isSome ∧ job.completed ∧ out = (job, .ok ())) ∨
      ∃ run, job.progress.run = some run ∧ job.completed = false ∧
        match (service.status run.id w.remote).1 with
        | .error cause => out = (job, .error (.service cause))
        | .ok latest => out = ({ job with progress := job.progress.observe w.clock latest }, .ok ()) := by
  unfold update pending completed
  cases known : job.progress.run with
  | none => simp
  | some run =>
    cases ended : job.progress.finishedAt with
    | some time => simp
    | none =>
      simp only [Act.ensures_bind, Service.statusOf, Act.ensures_call]
      cases answer : (service.status run.id w.remote).1 with
      | error cause => simp [answer]
      | ok latest => simp [observe, answer]

theorem update_observes (service : Service σ) (job : ReportJob) (w : World σ) :
    Act.Ensures (job.update service) w fun out _ =>
      out.1 = job ∨ ∃ now run, out.1 = { job with progress := job.progress.observe now run } := by
  refine (update_ensures service job w).mono ?_
  rintro out _ (⟨-, rfl⟩ | ⟨-, -, rfl⟩ | ⟨run, -, -, answered⟩)
  · exact .inl rfl
  · exact .inl rfl
  · cases read : (service.status run.id w.remote).1 with
    | error cause =>
      rw [read] at answered
      exact .inl (congrArg Prod.fst answered)
    | ok latest =>
      rw [read] at answered
      exact .inr ⟨w.clock, latest, congrArg Prod.fst answered⟩

theorem check_ensures {τ : Type} (owner : String → τ) (job : ReportJob) (w : World σ) :
    Act.Ensures (job.check owner) w fun out _ =>
      (job.progress.run = none ∧ out = ([], .error (.misuse job.label .updateUnstarted))) ∨
      (job.progress.run.isSome ∧ job.completed ∧ out = ([], .ok ())) ∨
      ∃ run, job.progress.run = some run ∧ job.completed = false ∧ out = ([⟨run.id, owner job.label⟩], .ok ()) := by
  unfold check pending completed
  cases run : job.progress.run <;> cases finished : job.progress.finishedAt <;> simp

/-! ## What every operation keeps -/

@[simp] theorem sound_cleared (job : ReportJob) : job.cleared.progress.Sound := Progress.Sound.initial

theorem Startable.sound_launched {job : ReportJob} (fit : job.Startable) (sound : job.progress.Sound)
    (run : Run) (now : Nat) : (job.launched run now).progress.Sound := by
  have failed := sound.failed_eq
  have finished := sound.finished_eq
  rw [fit.2] at failed finished
  exact ⟨failed, finished, fun _ => rfl, by simp [launched], by simp [launched, Status.isTerminal]⟩

theorem restartable_of_failed {job : ReportJob} (sound : job.progress.Sound) (failed : job.failed) :
    job.Restartable := by
  have failure : job.progress.status.isFailure := by rw [← sound.failed_eq]; exact failed
  refine ⟨sound.run_isSome ?_, failed, failure⟩
  exact Status.started_of_terminal ((Status.isTerminal_iff _).2 (.inr failure))

end ReportJob

end AsyncReports
