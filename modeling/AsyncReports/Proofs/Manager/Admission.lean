import AsyncReports.Proofs.Load
import AsyncReports.Proofs.Manager.Course
import AsyncReports.Proofs.Manager.Handover

set_option autoImplicit false

/-!
# Admission

Jobs are started below the limit of the load and of the queue, and failed jobs are recovered while the load is not
above its limit. The load that a manager goes by is the one that was read last, in whatever call, and the requests of a
history are those of its steps. `Aware` is what a manager knows of the readings so far; every allowed step keeps it.
-/

namespace AsyncReports

namespace Manager

open Job

variable {σ : Type} {service : Service σ}

/-! ## The requests of a step -/

def Deed.Makes : Deed → Call → Prop
  | .read _, .throttle => True
  | .poll _, .statuses _ => True
  | .enlist _ _, .submit _ _ => True
  | .recover _ _ _, .submit _ _ => True
  | .recover _ _ _, .query _ _ => True
  | _, _ => False

theorem Does.asks {a b : Manager × World σ} {deed : Deed} (h : Does service a deed b) :
    Asks service deed.Makes a.2 b.2 := by
  cases h with
  | read asked => exact Act.Only.throttleNow trivial _ _ _ asked
  | unread asked => exact Act.Only.throttleNow trivial _ _ _ asked
  | pause w _ log clock => exact Asks.nothing.quiet log clock
  | poll polled =>
    exact pollPass_only _ _ (fun job _ => permits_of_any (fun _ => trivial) job) (fun _ _ => trivial) _ _ _ polled
  | enlist _ started => exact Job.start_only _ (fun _ _ => trivial) _ _ _ started
  | refuse _ refused => exact Job.start_only _ (fun _ _ => trivial) _ _ _ refused
  | recover _ _ _ recovered =>
    exact recover_only _ (fun _ _ => trivial) (fun _ _ => trivial) (fun _ _ _ _ _ => trivial) _ _ _ recovered
  | hand => exact .nothing
  | abandon => exact .nothing

/-! ## What a manager knows -/

/-- What a manager's state tells about the readings so far, the last of which is `reading`. -/
structure Aware (m : Manager) (reading : Option Throttle) : Prop where
  fits : m.queue.length ≤ m.settings.maxQueue
  known : ∀ load, reading = some load → m.throttle = load.current
  read : m.queue ≠ [] → reading.isSome
  number : m.queue ≠ [] → m.settings.throttleLimit.isNaN = false

theorem aware_new (settings : ManagerSettings) (source : List Job) : Aware { settings, source } none where
  fits := Nat.zero_le _
  known := nofun
  read none := absurd rfl none
  number none := absurd rfl none

/-- A queue that has not grown leaves the manager as aware as it was. -/
theorem Aware.of_queue {m m' : Manager} {reading : Option Throttle} (h : Aware m reading)
    (same : m'.settings = m.settings) (throttle : m'.throttle = m.throttle)
    (shorter : m'.queue.length ≤ m.queue.length) : Aware m' reading := by
  have running : m'.queue ≠ [] → m.queue ≠ [] := by
    intro some none
    rw [none] at shorter
    exact some (List.length_eq_zero_iff.1 (Nat.le_zero.1 shorter))
  refine ⟨?_, ?_, fun some => h.read (running some), fun some => ?_⟩
  · rw [same]
    exact Nat.le_trans shorter h.fits
  · rw [throttle]
    exact h.known
  · rw [same]
    exact h.number (running some)

theorem Aware.step {a b : Manager × World σ} {deed : Deed} {reading : Option Throttle} (h : Aware a.1 reading)
    (does : Does service a deed b) (allowed : Step.Allowed reading ⟨a, deed, b⟩) :
    Aware b.1 ((Step.reading ⟨a, deed, b⟩).or reading) := by
  cases does with
  | read => exact ⟨h.fits, by simp [Step.reading], by simp [Step.reading], h.number⟩
  | unread => exact h
  | abandon => exact h.of_queue rfl rfl (Nat.le_refl _)
  | pause _ same => exact h.of_queue rfl rfl (Nat.le_of_eq same.length_eq)
  | poll polled =>
    obtain ⟨queue, run, rfl⟩ := pollPass_eq_some.1 polled
    have heard : AllHeard _ queue := (pollQueue_ensures service _ _ _ [] [] _ _ _ run).1
    exact h.of_queue rfl rfl (Nat.le_of_eq heard.length_eq.symm)
  | @enlist m job job' rest w w' =>
    obtain ⟨known, room⟩ := allowed
    obtain ⟨below, space⟩ := (hasRoom_iff m).1 room
    have grown : (m.queue ++ [job']).length = m.queue.length + 1 := List.length_append
    refine ⟨?_, h.known, fun _ => known, fun _ => number_of_lt below⟩
    rw [grown]
    exact space
  | refuse => exact h.of_queue rfl rfl (Nat.le_refl _)
  | recover _ before after => exact h.of_queue rfl rfl (by simp [before.length_eq, after.length_eq])
  | hand _ parts =>
    have count := parts.length_eq
    rw [List.length_append] at count
    exact h.of_queue rfl rfl (count ▸ Nat.le_add_left _ _)

/-- The requests of a step are of its kind, and what the step starts or recovers is allowed by the last reading. -/
structure Step.Controlled (settings : ManagerSettings) (reading : Option Throttle) (step : Step σ) : Prop where
  requests : ∃ made, step.after.2.calls = step.before.2.calls ++ made ∧ ∀ c ∈ made, step.deed.Makes c
  fits : step.before.1.queue.length ≤ settings.maxQueue ∧ step.after.1.queue.length ≤ settings.maxQueue
  admits : ∀ job result, step.deed = .enlist job result → step.before.1.queue.length < settings.maxQueue ∧
    ∃ load, reading = some load ∧ load.current < settings.throttleLimit
  recovers : ∀ job recovery result, step.deed = .recover job recovery result →
    job ∈ step.before.1.queue ∧ job.failed ∧ ∃ load, reading = some load ∧
      ¬ settings.throttleLimit < load.current ∧
      (load.current.isNaN = false → load.current ≤ settings.throttleLimit)
  /-- The load that counts is the smaller one of the two that were read. -/
  smaller : ∀ load, reading = some load → (load.current = load.perApplication ∨ load.current = load.perAccount) ∧
    ¬ load.perApplication < load.current ∧ ¬ load.perAccount < load.current

theorem Does.of_recover {a b : Manager × World σ} {job : Job} {recovery : Recovery} {result : Except JobError Unit}
    (h : Does service a (.recover job recovery result) b) : job ∈ a.1.queue ∧ job.failed := by
  cases h with
  | recover failed before => exact ⟨before.mem_iff.2 List.mem_cons_self, failed⟩

theorem Aware.controlled {step : Step σ} {reading : Option Throttle} (h : Aware step.before.1 reading)
    (does : Does service step.before step.deed step.after) (allowed : step.Allowed reading) :
    step.Controlled step.before.1.settings reading := by
  refine ⟨does.asks.calls, ⟨h.fits, ?_⟩, fun job result enlist => ?_, fun job recovery result recover => ?_,
    fun load _ => load.current_smaller⟩
  · have fits := (h.step does allowed).fits
    rwa [does.settings_eq] at fits
  · rw [Step.Allowed, enlist] at allowed
    obtain ⟨known, room⟩ := allowed
    obtain ⟨below, space⟩ := (hasRoom_iff _).1 room
    obtain ⟨load, last⟩ := Option.isSome_iff_exists.1 known
    rw [h.known load last] at below
    exact ⟨space, load, last, below⟩
  · rw [Step.Allowed, recover] at allowed
    rw [recover] at does
    obtain ⟨mem, failed⟩ := does.of_recover
    obtain ⟨load, last⟩ := Option.isSome_iff_exists.1 (h.read (List.ne_nil_of_mem mem))
    rw [h.known load last] at allowed
    exact ⟨mem, failed, load, last, allowed, fun number =>
      le_of_not_lt allowed number (h.number (List.ne_nil_of_mem mem))⟩

/-- All steps are controlled, each by what was read last before it. -/
def AllControlled (settings : ManagerSettings) (reading : Option Throttle) (steps : List (Step σ)) : Prop :=
  ∀ before step after, steps = before ++ step :: after → step.Controlled settings ((lastReading before).or reading)

theorem AllControlled.append {settings : ManagerSettings} {reading : Option Throttle} {xs ys : List (Step σ)}
    (h : AllControlled settings reading xs) (h' : AllControlled settings ((lastReading xs).or reading) ys) :
    AllControlled settings reading (xs ++ ys) := by
  intro before step after place
  rcases List.append_eq_append_iff.1 place with ⟨later, rfl, rest⟩ | ⟨earlier, rfl, rest⟩
  · have controlled := h' later step after rest
    rwa [← Option.or_assoc, ← lastReading_append] at controlled
  · cases earlier with
    | nil =>
      have controlled := h' [] step after rest.symm
      simpa [lastReading] using controlled
    | cons first earlier =>
      obtain ⟨rfl, rfl⟩ := List.cons.inj rest
      exact h before _ earlier rfl

theorem Aware.course {a b : Manager × World σ} {steps : List (Step σ)} (h : Course service a steps b) :
    ∀ {reading : Option Throttle}, Aware a.1 reading → Fair reading steps →
      Aware b.1 ((lastReading steps).or reading) ∧ b.1.settings = a.1.settings ∧
        AllControlled a.1.settings reading steps := by
  induction h with
  | nil =>
    intro reading start _
    exact ⟨start, rfl, by simp [AllControlled]⟩
  | @cons a b c deed rest first _ ih =>
    rintro reading start ⟨allowed, fair⟩
    obtain ⟨finish, settings, all⟩ := ih (start.step first allowed) fair
    have same := first.settings_eq
    rw [same] at settings all
    have one : AllControlled a.1.settings reading [⟨a, deed, b⟩] := by
      intro before step after place
      obtain ⟨rfl, rfl, rfl⟩ : before = [] ∧ step = ⟨a, deed, b⟩ ∧ after = [] := by
        cases before <;> simp_all
      exact start.controlled first allowed
    have single : lastReading [⟨a, deed, b⟩] = Step.reading ⟨a, deed, b⟩ := lastReading_singleton _
    rw [lastReading_cons_or]
    refine ⟨finish, settings, one.append ?_⟩
    rwa [single]

/-! ## Histories -/

/-- The steps of all the calls of a history, one call after another. -/
inductive Chronicle (service : Service σ) (first : Manager) : List (NextCall σ) → List (Step σ) → Manager → Prop
  | start : Chronicle service first [] [] first
  | call {calls : List (NextCall σ)} {steps more : List (Step σ)} {m m' : Manager} {w w' : World σ} {rounds : Nat}
    {result : Except JobError (Option (List Job))} (before : Chronicle service first calls steps m)
    (run : m.next service rounds w = some ((m', result), w')) (course : Course service (m, w) more (m', w')) :
    Chronicle service first (calls ++ [⟨m, w, rounds, result⟩]) (steps ++ more) m'

theorem History.chronicle {settings : ManagerSettings} {source : List Job} {calls : List (NextCall σ)} {m : Manager}
    (h : History service { settings, source } calls m) :
    ∃ steps, Chronicle service { settings, source } calls steps m ∧ Aware m ((lastReading steps).or none) ∧
      m.settings = settings ∧ AllControlled settings none steps := by
  induction h with
  | start => exact ⟨[], .start, aware_new settings source, rfl, by simp [AllControlled]⟩
  | call _ run ih =>
    obtain ⟨steps, chronicle, aware, ours, controlled⟩ := ih
    obtain ⟨more, conducted, -⟩ := next_course _ _ _ _ _ run
    obtain ⟨finish, same, all⟩ := aware.course conducted.course (conducted.fair _)
    rw [ours] at same all
    rw [← Option.or_assoc, ← lastReading_append] at finish
    exact ⟨steps ++ more, chronicle.call run conducted.course, finish, same, controlled.append all⟩

/-- Over all calls of a manager, whatever came of them, the queue holds no more jobs than it may. A job of the source
is started while the queue has room and the load that was read last is below its limit, and a failed job is recovered
after a reading, and while the last one is not above the limit: within it, or no number. No step but those two submits
or probes. -/
theorem admission_controlled {service : Service σ} {settings : ManagerSettings} {source : List Job}
    {calls : List (NextCall σ)} {m : Manager} (h : History service { settings, source } calls m) :
    m.queue.length ≤ settings.maxQueue ∧ ∃ steps, Chronicle service { settings, source } calls steps m ∧
      AllControlled settings none steps := by
  obtain ⟨steps, chronicle, aware, ours, controlled⟩ := h.chronicle
  have fits := aware.fits
  rw [ours] at fits
  exact ⟨fits, steps, chronicle, controlled⟩

/-- The one job fails once and is recovered, and then it completes. -/
theorem admission_controlled_second : ∃ calls m, History Script.service { source := [sampleJob] } calls m ∧
    calls ≠ [] ∧ m.queue.length ≤ ({} : ManagerSettings).maxQueue ∧ ∃ steps,
      Chronicle Script.service { source := [sampleJob] } calls steps m ∧ AllControlled {} none steps := by
  obtain ⟨m', w', jobs, run, -⟩ := second_run
  have history : History Script.service { source := [sampleJob] } _ m' := .call .start run
  exact ⟨_, m', history, by simp, admission_controlled history⟩

/-- The load is low until something has been submitted, and from then on it is no number. -/
def numberless : Service Script :=
  { Script.service with throttle := fun s => (.ok (if s.submitted = 0 then ⟨10, 10⟩ else ⟨0 / 0, 0 / 0⟩), s) }

/-- The first job completes at once, and the second one fails a round trip later. -/
def failingLater : World Script :=
  { remote :=
      { defaultStatus := .ok (.named "Job Completed")
        status := [("run-2", [.ok (.named "Job Running"), .ok (.named "Job Failed")])] } }

/-- Requests that begin with a round trip of checks and a submission, and with no reading. -/
def submitsUnread : List Call → Bool
  | .statuses _ :: .submit _ _ :: _ => true
  | _ => false

/-- A load that is no number is neither above the limit nor within it. A job that has failed is restarted all the
same, and the load is not read again before that. -/
theorem recovered_at_no_number : ∃ m₁ result w₁ m₂ result' w₂,
    next numberless 3 { source := [sampleJob, sampleJob] } failingLater = some ((m₁, result), w₁) ∧
    m₁.source = [] ∧ m₁.throttle.isNaN ∧ ¬ m₁.throttle ≤ m₁.settings.throttleLimit ∧
    next numberless 3 m₁ w₁ = some ((m₂, result'), w₂) ∧ submitsUnread (w₂.calls.drop w₁.calls.length) := by
  have run : ((next numberless 3 { source := [sampleJob, sampleJob] } failingLater).bind fun out =>
      (next numberless 3 out.1.1 out.2).map fun out' =>
        out.1.1.source.isEmpty && out.1.1.throttle.isNaN && !(out.1.1.throttle ≤ out.1.1.settings.throttleLimit) &&
          submitsUnread (out'.2.calls.drop out.2.calls.length)) = some true := by
    decide +kernel
  rw [Option.bind_eq_some_iff] at run
  obtain ⟨⟨⟨m₁, result⟩, w₁⟩, first, later⟩ := run
  rw [Option.map_eq_some_iff] at later
  obtain ⟨⟨⟨m₂, result'⟩, w₂⟩, second, seen⟩ := later
  simp only [Bool.and_eq_true, List.isEmpty_iff, Bool.not_eq_true', decide_eq_false_iff_not] at seen
  obtain ⟨⟨⟨none, nan⟩, above⟩, submits⟩ := seen
  exact ⟨m₁, result, w₁, m₂, result', w₂, first, none, nan, above, second, submits⟩

end Manager

end AsyncReports
