import AsyncReports.Manager
import AsyncReports.Proofs.Job.Submission

set_option autoImplicit false

/-!
# Filling the queue

Reading the load changes nothing but the load, and waiting for it ends with a load that is not above its limit.
The jobs that are started are a prefix of the source and go to the end of the queue in order. When a start fails,
that job is in neither place.
-/

namespace AsyncReports.Manager

open ReportJob Job

variable {σ : Type}

theorem readThrottle_ensures (service : Service σ) (m : Manager) (w : World σ) :
    Act.Ensures (m.readThrottle service) w fun out _ =>
      (∃ cause, out = (m, .error (.service cause))) ∨ ∃ load, out = ({ m with throttle := load }, .ok ()) := by
  simp only [readThrottle, Act.ensures_bind, Service.throttleNow, Act.ensures_call]
  split
  · rename_i cause _
    exact Act.ensures_pure.2 (.inl ⟨cause, rfl⟩)
  · rename_i throttle _
    exact Act.ensures_pure.2 (.inr ⟨throttle.current, rfl⟩)

inductive AwaitEnd (m : Manager) : Outcome Manager → Prop
  | low {load : Float} (within : ¬ m.settings.throttleLimit < load) : AwaitEnd m ({ m with throttle := load }, .ok ())
  | unread {load : Float} {cause : ServiceError} :
    AwaitEnd m ({ m with throttle := load }, .error (.service cause))

theorem awaitThrottle_ensures (service : Service σ) (rounds : Nat) :
    ∀ (m : Manager) (w : World σ), Act.Ensures (awaitThrottle service rounds m) w fun out _ => AwaitEnd m out := by
  induction rounds with
  | zero =>
    intro m w
    rw [awaitThrottle]
    split
    · exact Act.ensures_unfinished
    · rename_i within
      exact Act.ensures_pure.2 (AwaitEnd.low within)
  | succ rounds ih =>
    intro m w
    rw [awaitThrottle]
    split
    · simp only [Act.ensures_bind, Act.ensures_log, Act.ensures_sleep]
      refine (readThrottle_ensures service m _).mono ?_
      rintro _ w₁ (⟨cause, rfl⟩ | ⟨load, rfl⟩)
      · exact Act.ensures_pure.2 .unread
      · refine (ih { m with throttle := load } w₁).mono ?_
        rintro _ _ (⟨within⟩ | _)
        · exact .low within
        · exact .unread
    · rename_i within
      exact Act.ensures_pure.2 (AwaitEnd.low within)

theorem hasRoom_iff (m : Manager) :
    m.hasRoom ↔ m.throttle < m.settings.throttleLimit ∧ m.queue.length < m.settings.maxQueue := by
  simp [hasRoom]

/-- The queue had room for each of the jobs that were added. -/
def Admits (m : Manager) (added : List Job) : Prop :=
  added = [] ∨ (m.throttle < m.settings.throttleLimit ∧ (m.queue ++ added).length ≤ m.settings.maxQueue)

theorem Admits.cons {m : Manager} {job : Job} {added : List Job} (room : m.hasRoom)
    (h : Admits { m with queue := m.queue ++ [job] } added) : Admits m (job :: added) := by
  rw [hasRoom_iff] at room
  refine .inr ⟨room.1, ?_⟩
  rcases h with rfl | ⟨-, fits⟩
  · rw [List.length_append]
    exact room.2
  · rwa [List.append_assoc] at fits

/-- How starting the jobs of a source came out: those `taken` were `started`, and those `left` were not looked at. -/
inductive StartEnd (m : Manager) (source : List Job) : Outcome Manager → Prop
  | stopped {taken started left : List Job} (order : source = taken ++ left)
    (launched : List.Forall₂ (Becomes Launch) taken started) (admitted : Admits m started)
    (full : left = [] ∨ hasRoom { m with queue := m.queue ++ started } = false) :
    StartEnd m source ({ m with queue := m.queue ++ started, source := left }, .ok ())
  | refused {taken started left : List Job} {job job' : Job} {cause : JobError}
    (order : source = taken ++ job :: left) (launched : List.Forall₂ (Becomes Launch) taken started)
    (admitted : Admits m (started ++ [job])) (half : Becomes HalfStart job job')
    (blame : cause.From .startTwice job.Unstartable) :
    StartEnd m source
      ({ m with queue := m.queue ++ started, source := left, retired := m.retired ++ [job'] }, .error cause)

theorem StartEnd.cons {m : Manager} {job job' : Job} {rest : List Job} {out : Outcome Manager} (room : m.hasRoom)
    (launched : Becomes Launch job job') (h : StartEnd { m with queue := m.queue ++ [job'] } rest out) :
    StartEnd m (job :: rest) out := by
  cases h with
  | @stopped taken started left order others admitted full =>
    rw [List.append_assoc] at full
    have h : StartEnd m (job :: rest) ({ m with queue := m.queue ++ job' :: started, source := left }, .ok ()) :=
      .stopped (congrArg (job :: ·) order) (.cons launched others) (admitted.cons room) full
    simpa only [List.append_assoc, List.singleton_append] using h
  | @refused taken started left other other' cause order others admitted half blame =>
    have h : StartEnd m (job :: rest)
        ({ m with queue := m.queue ++ job' :: started, source := left, retired := m.retired ++ [other'] },
          .error cause) :=
      .refused (congrArg (job :: ·) order) (.cons launched others) (admitted.cons room) half blame
    simpa only [List.append_assoc, List.singleton_append] using h

theorem startFrom_ensures (service : Service σ) (source : List Job) :
    ∀ (m : Manager) (w : World σ),
      Act.Ensures (startFrom service m source) w fun out _ => StartEnd m source out := by
  induction source with
  | nil =>
    intro m w
    have h : StartEnd m [] ({ m with queue := m.queue ++ [], source := [] }, .ok ()) :=
      .stopped rfl .nil (.inl rfl) (.inl rfl)
    rw [List.append_nil] at h
    exact Act.ensures_pure.2 h
  | cons job rest ih =>
    intro m w
    rw [startFrom]
    split
    · rename_i room
      rw [Act.ensures_bind]
      refine (start_ensures service job w).mono ?_
      rintro ⟨job', _ | _⟩ w₁ h
      · have admitted : Admits m [job] := .cons room (.inl rfl)
        have h : StartEnd m (job :: rest)
            ({ m with queue := m.queue ++ [], source := rest, retired := m.retired ++ [job'] }, .error _) :=
          .refused rfl .nil admitted h.1 h.2
        rw [List.append_nil] at h
        exact Act.ensures_pure.2 h
      · exact (ih { m with queue := m.queue ++ [job'] } w₁).mono fun _ _ later => later.cons room h
    · rename_i full
      have h : StartEnd m (job :: rest) ({ m with queue := m.queue ++ [], source := job :: rest }, .ok ()) := by
        refine .stopped rfl .nil (.inl rfl) (.inr ?_)
        rw [List.append_nil]
        exact eq_false_of_ne_true full
      rw [List.append_nil] at h
      exact Act.ensures_pure.2 h

/-- While the queue is being filled, a start fails. -/
def StartFails (service : Service σ) (rounds : Nat) (m : Manager) (w : World σ) : Prop :=
  ∃ m₁ w₁ m₂ w₂ m₃ w₃ cause,
    m.readThrottle service w = some ((m₁, .ok ()), w₁) ∧
    awaitThrottle service rounds m₁ w₁ = some ((m₂, .ok ()), w₂) ∧
    startFrom service m₂ m₂.source w₂ = some ((m₃, .error cause), w₃)

/-- How filling the queue came out, where `fails` says whether a start failed. -/
inductive FillEnd (m : Manager) (fails : Prop) : Outcome Manager → Prop
  | unread {load : Float} {cause : ServiceError} (unfailed : ¬ fails) :
    FillEnd m fails ({ m with throttle := load }, .error (.service cause))
  | tried {load : Float} {out : Outcome Manager} (within : ¬ m.settings.throttleLimit < load)
    (starts : StartEnd { m with throttle := load } m.source out) (whether : fails ↔ ∃ cause, out.2 = .error cause) :
    FillEnd m fails out

theorem fill_ensures (service : Service σ) (rounds : Nat) (m : Manager) (w : World σ) :
    Act.Ensures (m.fill service rounds) w fun out _ => FillEnd m (StartFails service rounds m w) out := by
  rw [fill, Act.ensures_bind]
  refine (readThrottle_ensures service m w).with_run.mono ?_
  rintro _ w₁ ⟨⟨cause, rfl⟩ | ⟨load, rfl⟩, reading⟩
  -- A failed start would be preceded by the same reading and waiting in the same world, which came out otherwise.
  · refine Act.ensures_pure.2 (.unread ?_)
    rintro ⟨m₁, _, _, _, _, _, _, read, -⟩
    simp [reading] at read
  · refine Act.ensures_bind.2 ((awaitThrottle_ensures service rounds _ w₁).with_run.mono ?_)
    rintro _ w₂ ⟨⟨within⟩ | _, waiting⟩
    · refine Act.ensures_bind.2 ((startFrom_ensures service m.source _ w₂).with_run.mono ?_)
      rintro ⟨m', _ | _⟩ w₃ ⟨starts, starting⟩
      · refine Act.ensures_pure.2 (.tried within starts ?_)
        exact iff_of_true ⟨_, w₁, _, w₂, m', w₃, _, reading, waiting, starting⟩ ⟨_, rfl⟩
      · simp only [Act.ensures_bind, Act.ensures_log, Act.ensures_pure]
        refine .tried within starts (iff_of_false ?_ (by simp))
        rintro ⟨m₁, _, m₂, _, _, _, _, read, awaited, failed⟩
        obtain ⟨rfl, rfl⟩ : _ ∧ _ := by simpa [reading] using read
        obtain ⟨rfl, rfl⟩ : _ ∧ _ := by simpa [waiting] using awaited
        simp [starting] at failed
    · refine Act.ensures_pure.2 (.unread ?_)
      rintro ⟨m₁, _, m₂, _, _, _, _, read, awaited, -⟩
      obtain ⟨rfl, rfl⟩ : _ ∧ _ := by simpa [reading] using read
      simp [waiting] at awaited

end AsyncReports.Manager
