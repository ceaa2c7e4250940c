import AsyncReports.Proofs.Requests
import AsyncReports.Proofs.Job.Attempts
import AsyncReports.Proofs.Manager.Calls

set_option autoImplicit false

/-!
# The course of a call

A call of a manager is a chain of steps: it reads the load, polls, starts a job of the source, recovers a job of the
queue, or hands jobs out. Each step that makes requests is the run of one operation, and each begins in the world that
the one before it left. What a step says of the manager holds at that moment, also in the middle of a pass, where the
jobs sorted so far are in the queue with those still to be sorted. `next_course` takes a call apart.
-/

namespace AsyncReports.Manager

open ReportJob Job

variable {σ : Type} {service : Service σ}

inductive Deed
  | read (answer : Answer Throttle)
  | pause
  | poll (result : Except JobError Unit)
  | enlist (job : Job) (result : Except JobError Unit)
  | recover (job : Job) (recovery : Recovery) (result : Except JobError Unit)
  | hand (jobs : List Job)
  | abandon (jobs : List Job)

/-- The error that a step ends in. -/
def Deed.error? : Deed → Option JobError
  | .read (.error cause) => some (.service cause)
  | .poll (.error cause) => some cause
  | .enlist _ (.error cause) => some cause
  | .recover _ _ (.error cause) => some cause
  | _ => none

inductive Does (service : Service σ) : Manager × World σ → Deed → Manager × World σ → Prop
  | read {m : Manager} {w w' : World σ} {load : Throttle} (asked : service.throttleNow w = some (.ok load, w')) :
    Does service (m, w) (.read (.ok load)) ({ m with throttle := load.current }, w')
  | unread {m : Manager} {w w' : World σ} {cause : ServiceError}
    (asked : service.throttleNow w = some (.error cause, w')) : Does service (m, w) (.read (.error cause)) (m, w')
  /-- No request is made, and the queue is at most put into another order. -/
  | pause {m : Manager} {queue : List Job} (w : World σ) (same : queue.Perm m.queue) (log : List LogEntry)
    (clock : Nat) : Does service (m, w) .pause ({ m with queue }, { w with log, clock })
  | poll {m m' : Manager} {w w' : World σ} {rounds : Nat} {result : Except JobError Unit}
    (polled : m.pollPass service rounds w = some ((m', result), w')) : Does service (m, w) (.poll result) (m', w')
  | enlist {m : Manager} {job job' : Job} {rest : List Job} {w w' : World σ} (front : m.source = job :: rest)
    (started : job.start service w = some ((job', .ok ()), w')) :
    Does service (m, w) (.enlist job (.ok ())) ({ m with source := rest, queue := m.queue ++ [job'] }, w')
  | refuse {m : Manager} {job job' : Job} {rest : List Job} {cause : JobError} {w w' : World σ}
    (front : m.source = job :: rest) (refused : job.start service w = some ((job', .error cause), w')) :
    Does service (m, w) (.enlist job (.error cause)) ({ m with source := rest, retired := m.retired ++ [job'] }, w')
  /-- The job gives way to what it was recovered to. -/
  | recover {m : Manager} {job : Job} {others queue : List Job} {recovery : Recovery}
    {result : Except JobError Unit} {w w' : World σ} (failed : job.failed) (before : m.queue.Perm (job :: others))
    (after : queue.Perm (recovery.job :: others))
    (recovered : recover service m.settings job w = some ((recovery, result), w')) :
    Does service (m, w) (.recover job recovery result)
      ({ m with queue, retired := m.retired ++ recovery.replaced.toList }, w')
  | hand {m : Manager} {done queue : List Job} (w : World σ) (parts : m.queue.Perm (done ++ queue)) :
    Does service (m, w) (.hand done) ({ m with queue }, w)
  | abandon (m : Manager) (done : List Job) (w : World σ) :
    Does service (m, w) (.abandon done) ({ m with retired := m.retired ++ done }, w)

theorem Does.of_hand {a b : Manager × World σ} {jobs : List Job} (h : Does service a (.hand jobs) b) :
    ∀ job ∈ jobs, job ∈ a.1.queue := by
  cases h with
  | hand _ parts => exact fun job mem => parts.mem_iff.2 (List.mem_append_left _ mem)

structure Step (σ : Type) where
  before : Manager × World σ
  deed : Deed
  after : Manager × World σ

inductive Course (service : Service σ) : Manager × World σ → List (Step σ) → Manager × World σ → Prop
  | nil (a : Manager × World σ) : Course service a [] a
  | cons {a b c : Manager × World σ} {deed : Deed} {steps : List (Step σ)} (first : Does service a deed b)
    (rest : Course service b steps c) : Course service a (⟨a, deed, b⟩ :: steps) c

theorem Course.append {a b c : Manager × World σ} {xs ys : List (Step σ)} (h : Course service a xs b)
    (h' : Course service b ys c) : Course service a (xs ++ ys) c := by
  induction h with
  | nil => exact h'
  | cons first _ ih => exact .cons first (ih h')

/-- What each step keeps holds throughout. -/
theorem Course.keeps {p : Manager × World σ → Prop}
    (step : ∀ a deed b, Does service a deed b → p a → p b) {a b : Manager × World σ} {steps : List (Step σ)}
    (h : Course service a steps b) (start : p a) :
    p b ∧ ∀ s ∈ steps, Does service s.before s.deed s.after ∧ p s.before ∧ p s.after := by
  induction h with
  | nil => exact ⟨start, by simp⟩
  | @cons a b c deed steps first rest ih =>
    have next := step a deed b first start
    obtain ⟨finish, all⟩ := ih next
    exact ⟨finish, List.forall_mem_cons.2 ⟨⟨first, start, next⟩, all⟩⟩

theorem Course.asks {p : Call → Prop} {a b : Manager × World σ} {steps : List (Step σ)} (h : Course service a steps b)
    (all : ∀ step ∈ steps, Asks service p step.before.2 step.after.2) : Asks service p a.2 b.2 := by
  induction h with
  | nil => exact .nothing
  | cons _ _ ih =>
    rw [List.forall_mem_cons] at all
    exact all.1.trans (ih all.2)

/-! ## What every step keeps -/

theorem pollPass_eq_some {rounds : Nat} {m m' : Manager} {w w' : World σ} {result : Except JobError Unit} :
    m.pollPass service rounds w = some ((m', result), w') ↔ ∃ queue,
      pollQueue service rounds m.settings.maxChecks [] [] m.queue w = some ((queue, result), w') ∧
        m' = { m with queue } := by
  rw [pollPass, Act.bind_eq_some]
  constructor
  · rintro ⟨⟨queue, result'⟩, w₁, polled, same⟩
    cases same
    exact ⟨queue, polled, rfl⟩
  · rintro ⟨queue, polled, rfl⟩
    exact ⟨_, _, polled, rfl⟩

theorem Does.settings_eq {a b : Manager × World σ} {deed : Deed} (h : Does service a deed b) :
    b.1.settings = a.1.settings := by
  cases h with
  | poll polled =>
    obtain ⟨queue, -, rfl⟩ := pollPass_eq_some.1 polled
    rfl
  | _ => rfl

/-- A property of jobs that is kept by whatever is done to them in the queue, and that jobs have once they are started
if they were `fresh` in the source. -/
structure JobInvariant (service : Service σ) (settings : ManagerSettings) (fresh p : Job → Prop) : Prop where
  heard : ∀ job job', Becomes Heard job job' → job'.attempt = job.attempt → p job → p job'
  launched : ∀ job job', Becomes Launch job job' → fresh job → p job'
  recovered : ∀ job recovery result w w', job.failed →
    recover service settings job w = some ((recovery, result), w') → p job → p recovery.job

structure Keeps (settings : ManagerSettings) (fresh p : Job → Prop) (m : Manager) : Prop where
  ours : m.settings = settings
  queue : ∀ job ∈ m.queue, p job
  source : ∀ job ∈ m.source, fresh job

theorem keeps_new {settings : ManagerSettings} {source : List Job} {fresh p : Job → Prop}
    (all : ∀ job ∈ source, fresh job) : Keeps settings fresh p { settings, source } :=
  ⟨rfl, by simp, all⟩

theorem JobInvariant.step {settings : ManagerSettings} {fresh p : Job → Prop}
    (inv : JobInvariant service settings fresh p) (a : Manager × World σ) (deed : Deed) (b : Manager × World σ)
    (does : Does service a deed b) (h : Keeps settings fresh p a.1) : Keeps settings fresh p b.1 := by
  obtain ⟨ours, queue, source⟩ := h
  cases does with
  | read | unread | abandon => exact ⟨ours, queue, source⟩
  | pause _ same => exact ⟨ours, fun job mem => queue job (same.mem_iff.1 mem), source⟩
  | poll polled =>
    obtain ⟨_, run, rfl⟩ := pollPass_eq_some.1 polled
    have heard := pollQueue_heard _ _ _ _ _ _ run
    exact ⟨ours, forall₂_carry (fun job job' heard kept => inv.heard job job' heard.1 heard.2 kept) heard queue, source⟩
  | @enlist _ job job' _ _ _ front started =>
    rw [front, List.forall_mem_cons] at source
    have launched : p job' := inv.launched job job' (start_ensures service job _ _ _ started) source.1
    exact ⟨ours, List.forall_mem_append.2 ⟨queue, List.forall_mem_singleton.2 launched⟩, source.2⟩
  | refuse front =>
    rw [front, List.forall_mem_cons] at source
    exact ⟨ours, queue, source.2⟩
  | @recover m job others queue' recovery result w w' failed before after recovered =>
    have all : ∀ job' ∈ job :: others, p job' := fun job' mem => queue job' (before.mem_iff.2 mem)
    rw [List.forall_mem_cons] at all
    have ours : m.settings = settings := ours
    rw [ours] at recovered
    refine ⟨ours, fun job' mem => ?_, source⟩
    rcases List.mem_cons.1 (after.mem_iff.1 mem) with rfl | other
    · exact inv.recovered job recovery result w w' failed recovered all.1
    · exact all.2 job' other
  | hand _ parts => exact ⟨ours, fun job mem => queue job (parts.mem_iff.2 (List.mem_append_right _ mem)), source⟩

/-! ## Readings -/

def Step.reading (step : Step σ) : Option Throttle :=
  match step.deed with
  | .read (.ok load) => some load
  | _ => none

/-- The load that was read last; a reading that failed does not count. -/
def lastReading (steps : List (Step σ)) : Option Throttle := steps.reverse.findSome? Step.reading

theorem lastReading_append (xs ys : List (Step σ)) :
    lastReading (xs ++ ys) = (lastReading ys).or (lastReading xs) := by
  simp [lastReading, List.findSome?_append]

/-- The load, as the manager knows it, allows the step. -/
def Step.Allowed (reading : Option Throttle) (step : Step σ) : Prop :=
  match step.deed with
  | .enlist _ _ => reading.isSome ∧ step.before.1.hasRoom
  | .recover _ _ _ => ¬ step.before.1.settings.throttleLimit < step.before.1.throttle
  | _ => True

/-- All steps are allowed, where `reading` is what was read last before them. -/
def Fair : Option Throttle → List (Step σ) → Prop
  | _, [] => True
  | reading, step :: rest => step.Allowed reading ∧ Fair (step.reading.or reading) rest

theorem lastReading_singleton (step : Step σ) : lastReading [step] = step.reading := by
  cases known : step.reading <;> simp [lastReading, known]

theorem lastReading_cons_or (step : Step σ) (rest : List (Step σ)) (reading : Option Throttle) :
    (lastReading (step :: rest)).or reading = (lastReading rest).or (step.reading.or reading) := by
  have split : lastReading ([step] ++ rest) = (lastReading rest).or (lastReading [step]) := lastReading_append _ _
  rw [List.singleton_append, lastReading_singleton] at split
  rw [split, Option.or_assoc]

theorem fair_append {reading : Option Throttle} {xs ys : List (Step σ)} :
    Fair reading (xs ++ ys) ↔ Fair reading xs ∧ Fair ((lastReading xs).or reading) ys := by
  induction xs generalizing reading with
  | nil => simp [Fair, lastReading]
  | cons step rest ih => rw [List.cons_append, Fair, ih, Fair, and_assoc, lastReading_cons_or]

/-! ## Taking a call apart -/

/-- Steps that are allowed whatever was read before them. -/
structure Conducted (service : Service σ) (a : Manager × World σ) (steps : List (Step σ)) (b : Manager × World σ) :
    Prop where
  course : Course service a steps b
  fair : ∀ reading, Fair reading steps

namespace Conducted

theorem nil (a : Manager × World σ) : Conducted service a [] a := ⟨.nil a, fun _ => trivial⟩

theorem append {a b c : Manager × World σ} {xs ys : List (Step σ)} (h : Conducted service a xs b)
    (h' : Conducted service b ys c) : Conducted service a (xs ++ ys) c :=
  ⟨h.course.append h'.course, fun reading => fair_append.2 ⟨h.fair reading, h'.fair _⟩⟩

theorem single {a b : Manager × World σ} {deed : Deed} (does : Does service a deed b)
    (allowed : ∀ reading, Step.Allowed reading ⟨a, deed, b⟩) : Conducted service a [⟨a, deed, b⟩] b :=
  ⟨.cons does (.nil b), fun reading => ⟨allowed reading, trivial⟩⟩

theorem pause (service : Service σ) {m : Manager} {queue : List Job} (w : World σ) (same : queue.Perm m.queue)
    (log : List LogEntry) (clock : Nat) :
    ∃ step, Conducted service (m, w) [step] ({ m with queue }, { w with log, clock }) :=
  ⟨_, single (.pause w same log clock) fun _ => trivial⟩

end Conducted

/-- An error comes from one of the steps, and what is handed out is what one of them took out of the queue. -/
structure Accounts {α : Type} (steps : List (Step σ)) (result : Except JobError α) (jobs : α → List Job) : Prop where
  error : ∀ cause, result = .error cause → ∃ step ∈ steps, step.deed.error? = some cause
  handed : ∀ out, result = .ok out → jobs out ≠ [] → ∃ step ∈ steps, step.deed = .hand (jobs out)

/-- A part of a call that hands nothing out. -/
abbrev Accounts.Silent (steps : List (Step σ)) (result : Except JobError Unit) : Prop :=
  Accounts steps result fun _ => []

namespace Accounts

variable {α : Type} {steps : List (Step σ)} {result : Except JobError α} {jobs : α → List Job}

theorem mono {steps' : List (Step σ)} (h : Accounts steps result jobs) (more : ∀ step ∈ steps, step ∈ steps') :
    Accounts steps' result jobs := by
  refine ⟨fun cause error => ?_, fun out ok some => ?_⟩
  · obtain ⟨step, mem, blame⟩ := h.error cause error
    exact ⟨step, more step mem, blame⟩
  · obtain ⟨step, mem, hand⟩ := h.handed out ok some
    exact ⟨step, more step mem, hand⟩

theorem later {before : List (Step σ)} (h : Accounts steps result jobs) : Accounts (before ++ steps) result jobs :=
  h.mono fun _ => List.mem_append_right before

theorem cast {β : Type} {jobs' : β → List Job} {cause : JobError}
    (h : Accounts steps (.error cause : Except JobError α) jobs) :
    Accounts steps (.error cause : Except JobError β) jobs' :=
  ⟨fun _ same => h.error _ (by cases same; rfl), by simp⟩

theorem ok {out : α} (none : jobs out = []) : Accounts steps (.ok out) jobs :=
  ⟨by simp, by rintro _ ⟨⟩ some; exact absurd none some⟩

theorem blamed {step : Step σ} {cause : JobError} (blame : step.deed.error? = some cause) :
    Accounts [step] (.error cause : Except JobError α) jobs :=
  ⟨by rintro _ ⟨⟩; exact ⟨step, List.mem_singleton_self step, blame⟩, by simp⟩

end Accounts

/-- The first step is a poll. -/
def Polls (a : Manager × World σ) (steps : List (Step σ)) : Prop :=
  ∃ result b rest, steps = ⟨a, .poll result, b⟩ :: rest

theorem Polls.append {a : Manager × World σ} {steps : List (Step σ)} (h : Polls a steps) (later : List (Step σ)) :
    Polls a (steps ++ later) := by
  obtain ⟨result, b, rest, rfl⟩ := h
  exact ⟨result, b, rest ++ later, rfl⟩

theorem readThrottle_course (m : Manager) (w : World σ) :
    Act.Ensures (m.readThrottle service) w fun out w' => ∃ steps, Conducted service (m, w) steps (out.1, w') ∧
      Accounts.Silent steps out.2 ∧ (out.2 = .ok () → (lastReading steps).isSome) := by
  rw [readThrottle, Act.ensures_bind]
  rintro (cause | load) w₁ asked
  · exact Act.ensures_pure.2 ⟨_, .single (.unread asked) fun _ => trivial, .blamed rfl, by simp⟩
  · refine Act.ensures_pure.2 ⟨_, .single (.read asked) fun _ => trivial, .ok rfl, ?_⟩
    simp [lastReading, Step.reading]

theorem awaitThrottle_course (rounds : Nat) :
    ∀ (m : Manager) (w : World σ), Act.Ensures (awaitThrottle service rounds m) w fun out w' =>
      ∃ steps, Conducted service (m, w) steps (out.1, w') ∧ Accounts.Silent steps out.2 := by
  induction rounds with
  | zero =>
    intro m w
    rw [awaitThrottle]
    split
    · exact Act.ensures_unfinished
    · exact Act.ensures_pure.2 ⟨[], .nil _, .ok rfl⟩
  | succ rounds ih =>
    intro m w
    rw [awaitThrottle]
    split
    · simp only [Act.ensures_bind, Act.ensures_log, Act.ensures_sleep]
      obtain ⟨wait, waited⟩ := Conducted.pause service (m := m) w (.refl m.queue) (w.log ++ [m.waitEntry])
        (w.clock + min m.settings.pollSeconds Act.longestSleep)
      refine (readThrottle_course m _).mono ?_
      rintro ⟨m₁, cause | _⟩ w₁ ⟨steps, reads, accounts, -⟩
      · exact Act.ensures_pure.2 ⟨_, waited.append reads, accounts.later⟩
      · refine (ih m₁ w₁).mono ?_
        rintro out w₂ ⟨more, rest, accounts⟩
        exact ⟨_, waited.append (reads.append rest), accounts.later.later⟩
    · exact Act.ensures_pure.2 ⟨[], .nil _, .ok rfl⟩

/-- Jobs of the source are only started where there is room, and once something has been read. -/
theorem startFrom_course (source : List Job) :
    ∀ (m : Manager) (w : World σ), Act.Ensures (startFrom service m source) w fun out w' =>
      ∃ steps, Course service ({ m with source }, w) steps (out.1, w') ∧ Accounts.Silent steps out.2 ∧
        ∀ reading : Option Throttle, reading.isSome → Fair reading steps := by
  induction source with
  | nil =>
    intro m w
    exact Act.ensures_pure.2 ⟨[], .nil _, .ok rfl, fun _ _ => trivial⟩
  | cons job rest ih =>
    intro m w
    rw [startFrom]
    split
    · rename_i room
      have room : hasRoom { m with source := job :: rest } := room
      rw [Act.ensures_bind]
      rintro ⟨job', cause | _⟩ w₁ started
      · refine Act.ensures_pure.2 ⟨_, .cons (.refuse rfl started) (.nil _), .blamed rfl, fun reading known => ?_⟩
        exact ⟨⟨known, room⟩, trivial⟩
      · refine (ih { m with queue := m.queue ++ [job'] } w₁).mono ?_
        rintro out w₂ ⟨steps, course, accounts, fair⟩
        refine ⟨_, .cons (.enlist rfl started) course, accounts.mono fun _ => List.mem_cons_of_mem _,
          fun reading known => ?_⟩
        exact ⟨⟨known, room⟩, fair _ (by simpa [Step.reading] using known)⟩
    · exact Act.ensures_pure.2 ⟨[], .nil _, .ok rfl, fun _ _ => trivial⟩

theorem fill_course (rounds : Nat) (m : Manager) (w : World σ) :
    Act.Ensures (m.fill service rounds) w fun out w' => ∃ steps, Conducted service (m, w) steps (out.1, w') ∧
      Accounts.Silent steps out.2 := by
  rw [fill, Act.ensures_bind]
  refine (readThrottle_course m w).mono ?_
  rintro ⟨m₁, cause | _⟩ w₁ ⟨reads, first, accounts, known⟩
  · exact Act.ensures_pure.2 ⟨reads, first, accounts⟩
  · refine Act.ensures_bind.2 ((awaitThrottle_course rounds m₁ w₁).mono ?_)
    rintro ⟨m₂, cause | _⟩ w₂ ⟨waits, second, accounts⟩
    · exact Act.ensures_pure.2 ⟨_, first.append second, accounts.later⟩
    · refine Act.ensures_bind.2 ((startFrom_course m₂.source m₂ w₂).mono ?_)
      rintro ⟨m₃, result⟩ w₃ ⟨starts, course, accounts, fair⟩
      -- The reading at the beginning is what the starts go by, unless a later one has replaced it.
      have third : Conducted service (m, w) ((reads ++ waits) ++ starts) (m₃, w₃) := by
        refine ⟨(first.append second).course.append course, fun reading => ?_⟩
        rw [fair_append]
        refine ⟨(first.append second).fair reading, fair _ ?_⟩
        have known := known rfl
        rw [lastReading_append]
        cases lastReading waits <;> simp_all
      cases result with
      | error cause => exact Act.ensures_pure.2 ⟨_, third, accounts.later⟩
      | ok =>
        simp only [Act.ensures_bind, Act.ensures_log, Act.ensures_pure]
        obtain ⟨step, logged⟩ := Conducted.pause service (m := m₃) w₃ (.refl m₃.queue)
          (w₃.log ++ [m₃.filledEntry (m₃.queue.length - m₂.queue.length)]) w₃.clock
        exact ⟨_, third.append logged, .ok rfl⟩

/-- In the middle of sorting, the queue holds the jobs that stay, those that have completed, and those still to be
looked at. -/
theorem sort_course (m : Manager) (within : ¬ m.settings.throttleLimit < m.throttle) (jobs : List Job) :
    ∀ (s : Sorting) (w : World σ), Act.Ensures (sort service m.settings s jobs) w fun out w' =>
      ∃ steps, Conducted service
          ({ m with queue := s.kept ++ s.completed ++ jobs, retired := m.retired ++ s.replaced }, w) steps
          ({ m with queue := out.1.kept ++ out.1.completed, retired := m.retired ++ out.1.replaced }, w') ∧
        Accounts.Silent steps out.2 := by
  induction jobs with
  | nil =>
    intro s w
    refine Act.ensures_pure.2 ⟨[], ?_, .ok rfl⟩
    rw [List.append_nil]
    exact .nil _
  | cons job rest ih =>
    intro s w
    rw [sort]
    split
    · rename_i failed
      rw [Act.ensures_bind]
      rintro ⟨recovery, result⟩ w₁ recovered
      have before : (s.kept ++ s.completed ++ job :: rest).Perm (job :: (s.kept ++ s.completed ++ rest)) :=
        List.perm_middle
      have middle : (s.kept ++ [recovery.job] ++ s.completed ++ rest).Perm
          (recovery.job :: (s.kept ++ s.completed ++ rest)) := by
        simp only [List.append_assoc, List.singleton_append]
        exact List.perm_middle
      have taken := Does.recover
        (m := { m with queue := s.kept ++ s.completed ++ job :: rest, retired := m.retired ++ s.replaced })
        failed before middle recovered
      have step := Conducted.single taken fun _ => within
      rw [List.append_assoc m.retired] at step
      cases result with
      | error cause =>
        exact Act.ensures_pure.2 ⟨_, by simpa only [List.append_nil] using step, .blamed rfl⟩
      | ok =>
        refine (ih { s with kept := s.kept ++ [recovery.job], failures := s.failures + 1,
                            replaced := s.replaced ++ recovery.replaced.toList } w₁).mono ?_
        rintro out w₂ ⟨steps, later, accounts⟩
        exact ⟨_, step.append later, accounts.later⟩
    · split
      · refine (ih { s with completed := s.completed ++ [job] } w).mono ?_
        rintro out w₁ ⟨steps, later, accounts⟩
        refine ⟨steps, ?_, accounts⟩
        simpa only [List.append_assoc, List.singleton_append] using later
      · refine (ih { s with kept := s.kept ++ [job] } w).mono ?_
        rintro out w₁ ⟨steps, later, accounts⟩
        have same : (s.kept ++ [job] ++ s.completed ++ rest).Perm (s.kept ++ s.completed ++ job :: rest) := by
          have left : (s.kept ++ [job] ++ s.completed ++ rest).Perm (job :: (s.kept ++ s.completed ++ rest)) := by
            simp only [List.append_assoc, List.singleton_append]
            exact List.perm_middle
          exact left.trans List.perm_middle.symm
        obtain ⟨step, moved⟩ := Conducted.pause service
          (m := { m with queue := s.kept ++ s.completed ++ job :: rest, retired := m.retired ++ s.replaced }) w same
          w.log w.clock
        exact ⟨_, moved.append later, accounts.later⟩

theorem pass_course (rounds : Nat) (m : Manager) (w : World σ) :
    Act.Ensures (m.pass service rounds) w fun out w' => ∃ steps, Conducted service (m, w) steps (out.1, w') ∧
      Accounts steps out.2 id ∧ Polls (m, w) steps := by
  rw [pass, Act.ensures_bind]
  rintro ⟨m₁, result⟩ w₁ polled
  have first : Conducted service (m, w) _ (m₁, w₁) := .single (.poll polled) fun _ => trivial
  have polls : Polls (m, w) [⟨(m, w), .poll result, (m₁, w₁)⟩] := ⟨result, _, [], rfl⟩
  cases result with
  | error cause => exact Act.ensures_pure.2 ⟨_, first, .blamed rfl, polls⟩
  | ok =>
    refine Act.ensures_bind.2 (fun out w₂ waiting => ?_)
    obtain ⟨waits, second, accounts⟩ := awaitThrottle_course rounds m₁ w₁ out w₂ waiting
    cases awaitThrottle_ensures service rounds m₁ w₁ _ _ waiting with
    | unread => exact Act.ensures_pure.2 ⟨_, first.append second, accounts.cast.later, polls.append _⟩
    | @low load within =>
      refine Act.ensures_bind.2 ((sort_course { m₁ with throttle := load } within m₁.queue {} w₂).with_run.mono ?_)
      rintro ⟨s, result⟩ w₃ ⟨⟨sorts, third, accounts⟩, sorting⟩
      simp only [List.nil_append, List.append_nil] at third
      have all := (first.append second).append third
      have sorted := sort_ensures service m₁.settings m₁.queue {} w₂ _ _ sorting
      cases result with
      | error cause =>
        have none : s.completed = [] := sorted.completed_of_error
        rw [none, List.append_nil] at all
        exact Act.ensures_pure.2 ⟨_, all, accounts.cast.later, (polls.append _).append _⟩
      | ok =>
        simp only [Act.ensures_bind, Act.ensures_log, Act.ensures_pure]
        have parts : (s.kept ++ s.completed).Perm (s.completed ++ s.kept) := List.perm_append_comm
        have handed : Conducted service _ _ (_, w₃) := .single (.hand
          (m := { m₁ with throttle := load, queue := s.kept ++ s.completed, retired := m₁.retired ++ s.replaced })
          w₃ parts) fun _ => trivial
        obtain ⟨last, logged⟩ := Conducted.pause service
          (m := { m₁ with throttle := load, queue := s.kept, retired := m₁.retired ++ s.replaced }) w₃ (.refl s.kept)
          (w₃.log ++ [passEntry s.completed.length s.failures s.kept.length]) w₃.clock
        refine ⟨_, all.append (handed.append logged), ⟨by simp, ?_⟩, ((polls.append _).append _).append _⟩
        rintro _ ⟨⟩ -
        exact ⟨_, List.mem_append_right _ (List.mem_append_left _ (List.mem_singleton_self _)), rfl⟩

theorem awaitCompleted_course (rounds passes : Nat) :
    ∀ (m : Manager) (w : World σ), Act.Ensures (awaitCompleted service rounds passes m) w fun out w' =>
      ∃ steps, Conducted service (m, w) steps (out.1, w') ∧ Accounts steps out.2 id ∧ Polls (m, w) steps := by
  induction passes with
  | zero => exact fun m w => Act.ensures_unfinished
  | succ passes ih =>
    intro m w
    rw [awaitCompleted, Act.ensures_bind]
    refine (pass_course rounds m w).mono ?_
    rintro ⟨m₁, cause | _ | ⟨job, rest⟩⟩ w₁ ⟨steps, first, accounts, polls⟩
    · exact Act.ensures_pure.2 ⟨steps, first, accounts, polls⟩
    · simp only [Act.ensures_bind, Act.ensures_log, Act.ensures_sleep]
      obtain ⟨idle, slept⟩ := Conducted.pause service (m := m₁) w₁ (.refl m₁.queue)
        (w₁.log ++ [m₁.idleEntry]) (w₁.clock + min m₁.settings.pollSeconds Act.longestSleep)
      refine (ih m₁ _).mono ?_
      rintro out w₂ ⟨more, rest, accounts, -⟩
      exact ⟨_, (first.append slept).append rest, accounts.later, (polls.append _).append _⟩
    · exact Act.ensures_pure.2 ⟨steps, first, accounts, polls⟩

theorem Opened.course {rounds : Nat} {m m₁ : Manager} {w w₁ : World σ} (h : Opened service rounds m w m₁ w₁) :
    ∃ steps, Conducted service (m, w) steps (m₁, w₁) := by
  cases h with
  | busy => exact ⟨[], .nil _⟩
  | filled _ opening =>
    obtain ⟨steps, filled, -⟩ := fill_course _ m w _ _ opening
    exact ⟨steps, filled⟩

/-- Every step of a call is allowed by what was read before it, be it in an earlier call. -/
theorem next_course (rounds : Nat) (m : Manager) (w : World σ) :
    Act.Ensures (m.next service rounds) w fun out w' => ∃ steps, Conducted service (m, w) steps (out.1, w') ∧
      Accounts steps out.2 (·.getD []) := by
  refine (next_ensures service rounds m w).mono ?_
  intro out w' call
  cases call with
  | unopened _ opening =>
    obtain ⟨steps, first, accounts⟩ := fill_course rounds m w _ _ opening
    exact ⟨steps, first, accounts.cast⟩
  | ended _ opening =>
    obtain ⟨steps, first, -⟩ := fill_course rounds m w _ _ opening
    exact ⟨steps, first, .ok rfl⟩
  | interrupted opened _ waiting =>
    obtain ⟨start, first⟩ := opened.course
    obtain ⟨steps, second, accounts, -⟩ := awaitCompleted_course rounds rounds _ _ _ _ waiting
    exact ⟨_, first.append second, accounts.cast.later⟩
  | @unclosed m₁ m₂ m' w₁ w₂ w' done cause opened _ waiting closing =>
    obtain ⟨start, first⟩ := opened.course
    obtain ⟨steps, second, -⟩ := awaitCompleted_course rounds rounds _ _ _ _ waiting
    obtain ⟨close, third, accounts⟩ := fill_course rounds m₂ w₂ _ _ closing
    have gone : Conducted service _ _ (_, w') := .single (.abandon m' done w') fun _ => trivial
    exact ⟨_, (first.append second).append (third.append gone),
      (accounts.cast.mono fun _ => List.mem_append_left _).later⟩
  | @returned m₁ m₂ m' w₁ w₂ w' done opened _ waiting closing =>
    obtain ⟨start, first⟩ := opened.course
    obtain ⟨steps, second, accounts, -⟩ := awaitCompleted_course rounds rounds _ _ _ _ waiting
    obtain ⟨close, third, -⟩ := fill_course rounds m₂ w₂ _ _ closing
    refine ⟨_, (first.append second).append third, ⟨by simp, ?_⟩⟩
    rintro _ ⟨⟩ some_
    obtain ⟨step, mem, hand⟩ := accounts.handed done rfl some_
    exact ⟨step, List.mem_append_left _ (List.mem_append_right _ mem), hand⟩

theorem JobInvariant.history {settings : ManagerSettings} {fresh p : Job → Prop}
    (inv : JobInvariant service settings fresh p) {first m : Manager} {calls : List (NextCall σ)}
    (h : History service first calls m) (start : Keeps settings fresh p first) : Keeps settings fresh p m := by
  refine h.keeps (fun m rounds w kept => ?_) start
  refine (next_course rounds m w).mono fun out w' run => ?_
  obtain ⟨steps, conducted, -⟩ := run
  exact (conducted.course.keeps inv.step kept).1

end AsyncReports.Manager
