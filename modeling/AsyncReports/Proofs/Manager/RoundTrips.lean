import AsyncReports.Proofs.Manager.Termination

set_option autoImplicit false

/-!
# The size of round trips

The remote side takes a limited number of checks in one round trip. Checked settings keep the chunks of a group below
that limit. The batch that the queue shares is as large as the number of jobs to check and the queue allow, and nothing
is checked about these two together.
-/

namespace AsyncReports

namespace Job

variable {settings : Settings}

mutual
/-- The job and all of its parts go by the same settings. -/
def Carries (settings : Settings) : Job → Prop
  | .report leaf => leaf.settings = settings
  | .group g members => g.settings = settings ∧ AllCarry settings members

def AllCarry (settings : Settings) : List Job → Prop
  | [] => True
  | job :: rest => Carries settings job ∧ AllCarry settings rest
end

theorem allCarry_iff (jobs : List Job) : AllCarry settings jobs ↔ ∀ job ∈ jobs, job.Carries settings := by
  induction jobs with
  | nil => simp [AllCarry]
  | cons job rest ih => rw [AllCarry, ih, List.forall_mem_cons]

mutual
theorem carries_asMade : ∀ job : Job, job.asMade.Carries settings ↔ job.Carries settings
  | .report _ => Iff.rfl
  | .group _ members => and_congr_right fun _ => allCarry_asMade members

theorem allCarry_asMade : ∀ jobs : List Job, AllCarry settings (allAsMade jobs) ↔ AllCarry settings jobs
  | [] => Iff.rfl
  | job :: rest => and_congr (carries_asMade job) (allCarry_asMade rest)
end

theorem carries_parts {leaf : ReportJob} (h : leaf.settings = settings) (rows : List Row) :
    (leaf.parts rows).Carries settings := by
  refine ⟨h, (allCarry_iff _).2 fun part mem => ?_⟩
  obtain ⟨key, -, rfl⟩ := List.mem_map.1 mem
  exact h

theorem Heir.carries {job job' : Job} (heir : Heir job job') (h : job.Carries settings) : job'.Carries settings := by
  rw [← carries_asMade] at h ⊢
  cases heir with
  | same same => rwa [same]
  | split leaf rows whole parts =>
    rw [whole] at h
    rw [parts]
    exact carries_parts h rows

variable {p : Call → Prop}

mutual
theorem Carries.permits (kind : ∀ ids, ids.length ≤ max settings.batch.maxCalls 1 → p (.statuses ids)) :
    ∀ job : Job, job.Carries settings → job.Permits p
  | .report _, _ => trivial
  | .group g members, h => by
    refine ⟨?_, AllCarry.permits kind members h.2⟩
    rw [h.1]
    exact kind

theorem AllCarry.permits (kind : ∀ ids, ids.length ≤ max settings.batch.maxCalls 1 → p (.statuses ids)) :
    ∀ jobs : List Job, AllCarry settings jobs → AllPermit p jobs
  | [], _ => trivial
  | job :: rest, h => ⟨Carries.permits kind job h.1, AllCarry.permits kind rest h.2⟩
end

end Job

namespace Manager

open ReportJob Job

variable {σ : Type} {service : Service σ} {settings : Settings}

theorem carries_invariant (service : Service σ) (settings : Settings) :
    JobInvariant service settings.manager (Carries settings) (Carries settings) where
  heard _ _ heard _ carries := heard.heir.carries carries
  launched _ _ launched carries := launched.heir.carries carries
  recovered job _ _ w _ _ run carries := (recover_ensures service _ job w _ _ run).heir.carries carries

/-- A round trip is within the limit; other requests have no size. -/
def Fits : Call → Prop
  | .statuses ids => ids.length ≤ Limits.callsPerBatch
  | _ => True

theorem fits_of_makes {deed : Deed} {c : Call} (made : deed.Makes c) (other : ∀ result, deed ≠ .poll result) :
    Fits c := by
  cases c with
  | statuses ids =>
    cases deed with
    | poll result => exact absurd rfl (other result)
    | _ => cases made
  | _ => trivial

theorem Does.fits {a b : Manager × World σ} {deed : Deed} (does : Does service a deed b)
    (valid : settings.check = .ok ())
    (small : min settings.manager.maxChecks settings.manager.maxQueue ≤ Limits.callsPerBatch)
    (kept : Keeps settings.manager (Carries settings) (Carries settings) a.1)
    (full : a.1.queue.length ≤ settings.manager.maxQueue) : Asks service Fits a.2 b.2 := by
  obtain ⟨⟨positive, chunk⟩, -⟩ := (Settings.check_ok_iff settings).1 valid
  obtain ⟨ours, queue, -⟩ := kept
  cases deed with
  | poll =>
    cases does with
    | @poll m _ w _ rounds _ polled =>
      have ours : m.settings = settings.manager := ours
      have full : m.queue.length ≤ settings.manager.maxQueue := full
      refine pollPass_only rounds m (fun job mem => ?_) (fun ids le => ?_) w _ _ polled
      · refine Carries.permits (fun ids le => ?_) job (queue job mem)
        have le : ids.length ≤ Limits.callsPerBatch := by omega
        exact le
      · rw [ours] at le
        have le : ids.length ≤ Limits.callsPerBatch := by omega
        exact le
  | _ => exact does.asks.mono fun _ made => fits_of_makes made (by simp)

theorem next_fits (valid : settings.check = .ok ())
    (small : min settings.manager.maxChecks settings.manager.maxQueue ≤ Limits.callsPerBatch)
    {source : List Job} {calls : List (NextCall σ)} {m m' : Manager} {rounds : Nat} {w w' : World σ}
    {result : Except JobError (Option (List Job))} (carries : ∀ job ∈ source, job.Carries settings)
    (h : History service { settings := settings.manager, source } calls m)
    (run : m.next service rounds w = some ((m', result), w')) : Asks service Fits w w' := by
  obtain ⟨_, -, aware, ours, -⟩ := h.chronicle
  have inv := carries_invariant service settings
  obtain ⟨steps, conducted, -⟩ := next_course rounds m w _ _ run
  obtain ⟨-, all⟩ := conducted.course.keeps inv.step (inv.history h (keeps_new carries))
  obtain ⟨-, -, controlled⟩ := aware.course conducted.course (conducted.fair _)
  rw [ours] at controlled
  refine conducted.course.asks fun step mem => ?_
  obtain ⟨before, after, place⟩ := List.append_of_mem mem
  exact (all step mem).1.fits valid small (all step mem).2.1 (controlled before step after place).fits.1

end Manager

/-! ## A round trip that is too long -/

variable {σ : Type} {service : Service σ} {limit : Float}

namespace Job

open ReportJob

/-- A report job whose run is not known to have ended. -/
def Underway (job : Job) : Prop := ∃ leaf, job = .report leaf ∧ leaf.progress.run ≠ none ∧ leaf.completed = false

/-- The first round trip of a batch carries all of it. -/
theorem settle_trip {batch : Batch Slot} (some_ : batch ≠ []) (rounds : Nat) (jobs : List Job) (w : World σ) :
    Act.Ensures (settle service rounds jobs batch) w fun _ w' => .statuses (Batch.runs batch) ∈ w'.calls := by
  cases rounds with
  | zero =>
    obtain ⟨check, rest, rfl⟩ := List.exists_cons_of_ne_nil some_
    exact Act.ensures_unfinished
  | succ rounds =>
    have delivers : ∀ answers, Act.Only service AnyCall (Batch.deliver receiveAt jobs (Batch.pair batch answers)) :=
      fun answers => Batch.deliver_only receiveAt_only jobs _
    simp only [settle, Batch.drain_succ some_, Batch.execute_eq some_, Service.statusesOf, Act.ensures_bind,
      Act.ensures_call, Act.ensures_log, Act.ensures_pure]
    refine (delivers _ _).mono fun jobs' w₁ first => ?_
    have sent := first.keeps_calls (List.mem_append_right w.calls (List.mem_singleton_self (Call.statuses batch.runs)))
    refine (settle_only (p := AnyCall) rounds jobs' _ (fun _ _ => trivial) _).mono fun _ w' later => ?_
    exact later.keeps_calls sent

/-- Jobs that are underway are polled in one round trip, if the batch may grow that large. -/
theorem pollQueue_trip (rounds size : Nat) (jobs : List Job) (underway : ∀ job ∈ jobs, job.Underway) :
    ∀ (done : List Job) (batch : Batch Slot) (w : World σ), batch.length + jobs.length ≤ size →
      batch.length + jobs.length ≠ 0 →
      Act.Ensures (pollQueue service rounds size done batch jobs) w fun _ w' =>
        ∃ ids, .statuses ids ∈ w'.calls ∧ ids.length = batch.length + jobs.length := by
  induction jobs with
  | nil =>
    intro done batch w _ some_
    have some_ : batch ≠ [] := by
      rintro rfl
      exact some_ rfl
    simp only [pollQueue, Act.ensures_bind, Act.ensures_pure]
    exact (settle_trip some_ rounds done w).mono fun _ w' sent => ⟨_, sent, by simp [Batch.runs]⟩
  | cons job rest ih =>
    intro done batch w fits _
    rw [List.forall_mem_cons] at underway
    obtain ⟨⟨leaf, rfl, known, open_⟩, others⟩ := underway
    rw [List.length_cons] at fits
    rw [pollQueue, if_neg (by omega), Act.ensures_bind]
    refine (poll_ensures service rounds done.length (.report leaf) w).mono ?_
    rintro ⟨job', checks, cause | _⟩ w₁ ⟨-, polled, count⟩
    · obtain ⟨⟨other, mem, none⟩, -⟩ := polled
      rw [List.mem_singleton.1 mem] at none
      exact absurd none known
    · have count : checks.length = 1 := by
        have one : (Job.report leaf).checks = 1 := by simp [Job.checks, open_]
        exact (count rfl).trans one
      have longer : (batch ++ checks).length = batch.length + 1 := by rw [List.length_append, count]
      refine (ih others (done ++ [job']) (batch ++ checks) w₁ (by omega) (by omega)).mono ?_
      rintro _ w' ⟨ids, sent, size⟩
      exact ⟨ids, sent, by rw [size, longer, List.length_cons]; omega⟩

theorem underway_of_new {job job' : Job} (new : Manager.NewReport job) (launched : Becomes Launch job job') :
    job'.Underway := by
  obtain ⟨leaf, rfl, fresh, -⟩ := new
  obtain ⟨leaf', rfl, -, run, now, rfl⟩ := launched.of_report
  exact ⟨_, rfl, by simp [ReportJob.launched], by simp [ReportJob.completed, ReportJob.launched, fresh]⟩

end Job

namespace Manager

open Job ReportJob

/-- Every report that is submitted is accepted. -/
def Grants (service : Service σ) : Prop := ∀ edge params s, ∃ run, (service.submit edge params s).1 = .ok run

theorem start_ok (grants : Grants service) {job : Job} (new : NewReport job) (w : World σ) :
    Act.Ensures (Job.start service job) w fun out _ => out.2 = .ok () := by
  obtain ⟨leaf, rfl, fresh, -⟩ := new
  simp only [Job.start, Act.ensures_bind, Act.ensures_pure]
  refine (start_submits service (.of_fresh fresh) w).mono ?_
  intro out w' submits
  cases submits with
  | granted => rfl
  | refused cause answer =>
    obtain ⟨run, granted⟩ := grants leaf.edge leaf.params w.remote
    rw [answer] at granted
    cases granted

theorem startFrom_all (grants : Grants service) {jobs : List Job} (new : ∀ job ∈ jobs, NewReport job) :
    ∀ {m : Manager} {w : World σ}, m.throttle < m.settings.throttleLimit →
      m.queue.length + jobs.length ≤ m.settings.maxQueue →
      Act.Ensures (startFrom service m jobs) w fun out _ => out.2 = .ok () ∧ out.1.settings = m.settings ∧
        ∃ started, List.Forall₂ (Becomes Launch) jobs started ∧ out.1.queue = m.queue ++ started := by
  induction jobs with
  | nil =>
    intro m w _ _
    exact Act.ensures_pure.2 ⟨rfl, rfl, [], .nil, (List.append_nil _).symm⟩
  | cons job rest ih =>
    intro m w low room
    rw [List.forall_mem_cons] at new
    rw [List.length_cons] at room
    have below : m.queue.length < m.settings.maxQueue := by omega
    rw [startFrom, if_pos ((hasRoom_iff m).2 ⟨low, below⟩), Act.ensures_bind]
    refine ((start_ok grants new.1 w).and (Job.start_ensures service job w)).mono ?_
    rintro ⟨job', result⟩ w₁ ⟨fine, launched⟩
    have fine : result = .ok () := fine
    subst fine
    have longer : (m.queue ++ [job']).length = m.queue.length + 1 := List.length_append
    have fits : (m.queue ++ [job']).length + rest.length ≤ m.settings.maxQueue := by omega
    refine (ih new.2 (m := { m with queue := m.queue ++ [job'] }) low fits).mono ?_
    rintro out w₂ ⟨fine, same, started, others, queue⟩
    exact ⟨fine, same, job' :: started, .cons launched others, by rw [queue, List.append_assoc]; rfl⟩

theorem fill_all (grants : Grants service) {m : Manager} {w : World σ} {load : Throttle}
    (read : (service.throttle w.remote).1 = .ok load) (low : load.current < m.settings.throttleLimit)
    (new : ∀ job ∈ m.source, NewReport job) (room : m.queue.length + m.source.length ≤ m.settings.maxQueue)
    (rounds : Nat) :
    Act.Ensures (m.fill service rounds) w fun out _ => out.2 = .ok () ∧ out.1.settings = m.settings ∧
      ∃ started, List.Forall₂ (Becomes Launch) m.source started ∧ out.1.queue = m.queue ++ started := by
  rw [fill, Act.ensures_bind]
  intro out w₁ reading
  cases reading.symm.trans (readThrottle_ok read)
  dsimp only
  rw [awaitThrottle_low (m := { m with throttle := load.current }) (not_lt_of_lt low), pure_bind]
  refine Act.ensures_bind.2 ?_
  refine (startFrom_all grants new (m := { m with throttle := load.current }) low room).mono ?_
  rintro ⟨m', result⟩ w₂ ⟨fine, all⟩
  have fine : result = .ok () := fine
  subst fine
  simp only [Act.ensures_bind, Act.ensures_log, Act.ensures_pure]
  exact ⟨trivial, all⟩

theorem Course.keeps_calls {a b : Manager × World σ} {steps : List (Step σ)} (h : Course service a steps b) {c : Call}
    (made : c ∈ a.2.calls) : c ∈ b.2.calls := by
  induction h with
  | nil => exact made
  | cons first _ ih => exact ih (first.asks.keeps_calls made)

/-- Waiting begins with a poll of the queue, in one round trip if that may be as long as the queue. -/
theorem awaitCompleted_trip {m : Manager} (underway : ∀ job ∈ m.queue, job.Underway) (busy : m.queue ≠ [])
    (fits : m.queue.length ≤ m.settings.maxChecks) (rounds passes : Nat) (w : World σ) :
    Act.Ensures (awaitCompleted service rounds passes m) w fun _ w' =>
      ∃ ids, .statuses ids ∈ w'.calls ∧ ids.length = m.queue.length := by
  refine (awaitCompleted_course rounds passes m w).mono ?_
  rintro out w' ⟨_, ⟨course, -⟩, -, result, b, rest, rfl⟩
  cases course with
  | cons first later =>
    cases first with
    | poll polled =>
      obtain ⟨queue, run, -⟩ := pollPass_eq_some.1 polled
      have some_ : ([] : Batch Slot).length + m.queue.length ≠ 0 := by simpa using busy
      obtain ⟨ids, sent, size⟩ := pollQueue_trip _ _ m.queue underway [] [] w (by simpa using fits) some_ _ _ run
      exact ⟨ids, later.keeps_calls sent, by simpa using size⟩

/-- Jobs that are one more than a round trip may carry. -/
def crowd (settings : Settings) : List Job :=
  List.replicate (Limits.callsPerBatch + 1) (.report { ReportJob.sample with settings })

theorem crowd_new (settings : Settings) : ∀ job ∈ crowd settings, NewReport job := by
  intro job mem
  rw [List.eq_of_mem_replicate mem]
  exact ⟨_, rfl, rfl, rfl⟩

theorem crowd_carries (settings : Settings) : ∀ job ∈ crowd settings, job.Carries settings := by
  intro job mem
  rw [List.eq_of_mem_replicate mem]
  exact rfl

/-- The load is below every limit that passes the check, and all runs have completed. -/
def calm : Service Tally := tallying (fun _ => -1) fun _ => some .completed

theorem calm_obliging (below : -1 < limit) (x : Dealings Tally) : calm.Obliging (fun _ _ => False) limit x :=
  tallying_obliging (n := 0) (fun _ _ => not_lt_of_lt below) (fun _ _ => ⟨.completed, rfl, rfl⟩) _ x

theorem fill_crowd {settings : Settings} (below : -1 < settings.manager.throttleLimit)
    (room : Limits.callsPerBatch < settings.manager.maxQueue) (rounds : Nat) :
    Act.Ensures (fill calm rounds { settings := settings.manager, source := crowd settings }) { remote := {} }
      fun out _ => out.2 = .ok () ∧ out.1.settings = settings.manager ∧ (∀ job ∈ out.1.queue, job.Underway) ∧
        out.1.queue.length = Limits.callsPerBatch + 1 := by
  have size : (crowd settings).length = Limits.callsPerBatch + 1 := List.length_replicate
  have read : (calm.throttle {}).1 = .ok ⟨-1, -1⟩ := rfl
  have low : (⟨-1, -1⟩ : Throttle).current < settings.manager.throttleLimit := by
    rw [Throttle.current_same]
    exact below
  have fits : ([] : List Job).length + (crowd settings).length ≤ settings.manager.maxQueue := by
    rw [List.length_nil, size]
    omega
  have grants : Grants calm := fun _ _ _ => ⟨_, rfl⟩
  have filled := fill_all grants (m := { settings := settings.manager, source := crowd settings })
    (w := { remote := ({} : Tally) }) read low (crowd_new settings) fits rounds
  refine filled.mono ?_
  rintro out _ ⟨fine, ours, started, launched, queue⟩
  have queue : out.1.queue = started := queue
  rw [queue]
  refine ⟨fine, ours, ?_, launched.length_eq.symm.trans size⟩
  exact forall₂_carry (fun _ _ launched new => underway_of_new new launched) launched (crowd_new settings)

theorem crowd_trip {settings : Settings} (valid : settings.check = .ok ())
    (large : Limits.callsPerBatch < min settings.manager.maxChecks settings.manager.maxQueue) :
    ∃ rounds m' result w' ids,
      next calm rounds { settings := settings.manager, source := crowd settings } { remote := {} } =
        some ((m', result), w') ∧
      .statuses ids ∈ w'.calls ∧ Limits.callsPerBatch < ids.length := by
  obtain ⟨-, -, room, load, -, positive⟩ := (Settings.check_ok_iff settings).1 valid
  have below := Settings.below_of_isPercentage load
  have start := working_new (s := ({} : Tally)) (calm_obliging below _) (crowd_new settings)
  obtain ⟨⟨m', result⟩, w', rounds, ends⟩ := next_ends (w := { remote := ({} : Tally) }) room positive start
  have run := ends rounds (Nat.le_refl _)
  have trip : ∀ {m₁ m₂ : Manager} {w₁ w₂ : World Tally} {result : Except JobError (List Job)},
      Opened calm rounds { settings := settings.manager, source := crowd settings } { remote := {} } m₁ w₁ →
      awaitCompleted calm rounds rounds m₁ w₁ = some ((m₂, result), w₂) →
      ∃ ids, .statuses ids ∈ w₂.calls ∧ ids.length = Limits.callsPerBatch + 1 := by
    intro m₁ m₂ w₁ w₂ result opened waiting
    cases opened with
    | busy busy => exact absurd rfl busy
    | filled _ opening =>
      -- The queue was empty at first, so all of the crowd was started before the waiting began.
      obtain ⟨-, ours, underway, size⟩ := fill_crowd below (by omega) rounds _ _ opening
      have ours : m₁.settings = settings.manager := ours
      have size : m₁.queue.length = Limits.callsPerBatch + 1 := size
      have busy : m₁.queue ≠ [] := by
        rintro none
        rw [none] at size
        cases size
      rw [← size]
      exact awaitCompleted_trip underway busy (by rw [ours, size]; omega) rounds rounds w₁ _ _ waiting
  refine ⟨rounds, m', result, w', ?_⟩
  cases next_ensures calm rounds _ _ _ _ run with
  | unopened _ opening =>
    obtain ⟨fine, -⟩ := fill_crowd below (by omega) rounds _ _ opening
    cases fine
  | ended _ opening still =>
    obtain ⟨-, -, -, size⟩ := fill_crowd below (by omega) rounds _ _ opening
    dsimp only at size
    rw [still] at size
    cases size
  | interrupted opened _ waiting =>
    obtain ⟨ids, sent, size⟩ := trip opened waiting
    exact ⟨ids, run, sent, by omega⟩
  | unclosed opened _ waiting closing | returned opened _ waiting closing =>
    obtain ⟨ids, sent, size⟩ := trip opened waiting
    obtain ⟨steps, conducted, -⟩ := fill_course rounds _ _ _ _ closing
    exact ⟨ids, run, conducted.course.keeps_calls sent, by omega⟩

/-- All round trips are within the limit exactly when the settings keep the shared batch within it. -/
theorem round_trips_fit_iff {settings : Settings} (valid : settings.check = .ok ()) :
    (∀ (σ : Type) (service : Service σ) (source : List Job) (calls : List (NextCall σ)) (m m' : Manager)
        (rounds : Nat) (w w' : World σ) (result : Except JobError (Option (List Job))),
        (∀ job ∈ source, job.Carries settings) → History service { settings := settings.manager, source } calls m →
        m.next service rounds w = some ((m', result), w') → Asks service Fits w w') ↔
      min settings.manager.maxChecks settings.manager.maxQueue ≤ Limits.callsPerBatch := by
  constructor
  · intro fits
    by_contra large
    obtain ⟨rounds, m', result, w', ids, run, sent, size⟩ := crowd_trip valid (Nat.lt_of_not_le large)
    obtain ⟨made, calls, all⟩ := (fits _ _ _ _ _ _ _ _ _ _ (crowd_carries settings) .start run).calls
    rw [calls, List.nil_append] at sent
    have le : ids.length ≤ Limits.callsPerBatch := all _ sent
    omega
  · intro small σ service source calls m m' rounds w w' result carries h run
    exact next_fits valid small carries h run

theorem round_trips_fit_iff_default : ({} : Settings).check = .ok () ∧
    ((∀ (σ : Type) (service : Service σ) (source : List Job) (calls : List (NextCall σ)) (m m' : Manager)
        (rounds : Nat) (w w' : World σ) (result : Except JobError (Option (List Job))),
        (∀ job ∈ source, job.Carries {}) → History service { source } calls m →
        m.next service rounds w = some ((m', result), w') → Asks service Fits w w') ↔
      min ({} : Settings).manager.maxChecks ({} : Settings).manager.maxQueue ≤ Limits.callsPerBatch) := by
  have valid : ({} : Settings).check = .ok () := by decide +kernel
  exact ⟨valid, round_trips_fit_iff valid⟩

/-- Settings that pass the check and let the shared batch grow beyond the limit. -/
def wide : Settings := { manager := { maxChecks := 51 } }

theorem wide_exceeds_limit : wide.check = .ok () ∧ (∀ job ∈ crowd wide, job.Carries wide) ∧
    ∃ rounds m' result w' ids,
      next calm rounds { settings := wide.manager, source := crowd wide } { remote := {} } = some ((m', result), w') ∧
      .statuses ids ∈ w'.calls ∧ Limits.callsPerBatch < ids.length := by
  have valid : wide.check = .ok () := by decide +kernel
  exact ⟨valid, crowd_carries wide, crowd_trip valid (by decide)⟩

end Manager

end AsyncReports
