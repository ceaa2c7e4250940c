import AsyncReports.Proofs.Batch.Rounds
import AsyncReports.Proofs.Ends
import AsyncReports.Proofs.Requests

set_option autoImplicit false

/-!
# Waiting comes to an end

Two things make a call of a manager wait without counting rounds: checks that have to be sent again, and a load that is
too high. A drain ends if the checks of its batch fail finitely often, and the wait for the load ends if readings one
after another come to one that is not above the limit.
-/

namespace AsyncReports

variable {σ τ : Type}

namespace Service

variable {service : Service σ}

/-- Readings one after another come to one that is not above the limit. -/
inductive Cools (service : Service σ) (limit : Float) : σ → Prop
  | low {s : σ} {load : Throttle} (read : (service.throttle s).1 = .ok load) (within : ¬ limit < load.current) :
    Cools service limit s
  | high {s : σ} {load : Throttle} (read : (service.throttle s).1 = .ok load)
    (later : Cools service limit (service.throttle s).2) : Cools service limit s

theorem Cools.read {limit : Float} {s : σ} (h : service.Cools limit s) : ∃ load, (service.throttle s).1 = .ok load := by
  cases h with
  | low read | high read => exact ⟨_, read⟩

theorem Leads.refl (s : σ) : service.Leads s s := Relation.ReflTransGen.refl

theorem Leads.trans {a b c : σ} (h : service.Leads a b) (h' : service.Leads b c) : service.Leads a c :=
  Relation.ReflTransGen.trans h h'

theorem Request.leads {c : Call} {s s' : σ} (h : service.Request c s s') : service.Leads s s' := .single ⟨c, h⟩

/-- From this state on, no check of any batch stays unanswered. -/
def Answers (service : Service σ) (s : σ) : Prop :=
  ∀ s', service.Leads s s' → ∀ (batch : Batch Slot) (i : Fin batch.length),
    ∃ n : Nat, Batch.failures service batch s' i = n

theorem Answers.leads {s s' : σ} (h : service.Answers s) (leads : service.Leads s s') : service.Answers s' :=
  fun t later => h t (leads.trans later)

end Service

open Service

variable {service : Service σ} {limit : Float}

/-- A batch whose calls fail finitely often can be drained. -/
theorem Batch.drain_ends {β : Type} {receive : β → τ → Answer Json → Act σ β} (passive : Passive receive) (b : β)
    (batch : Batch τ) (w : World σ) (finite : ∀ i, ∃ n : Nat, failures service batch w.remote i = n) :
    Act.Ends (fun rounds => drain service receive rounds b batch) w := by
  choose f fails using finite
  have failing : Fails service batch (allCalls batch) w.remote f :=
    fun i _ => (failures_eq_iff w.remote i (f i)).1 (fails i)
  obtain ⟨b', notes, w', -, ends⟩ := drain_noting passive (needed (allCalls batch) f) (allCalls batch) f b [] w
    (List.nodup_finRange _) failing fun i mem => (needed_le_iff _ f _).1 le_rfl i mem
  refine ⟨b', w', needed (allCalls batch) f, fun rounds enough => drain_noted.2 ⟨notes, ?_⟩⟩
  exact ends rounds ((needed_le_iff _ f _).1 enough)

/-! ## Polling and waiting come to an end -/

namespace Job

theorem settle_ends {w : World σ} (answers : service.Answers w.remote) (jobs : List Job) (batch : Batch Slot) :
    Act.Ends (fun rounds => settle service rounds jobs batch) w :=
  Batch.drain_ends Batch.passive_receiveAt jobs batch w (answers w.remote (.refl _) batch)

def AnyCall (_ : Call) : Prop := True

theorem settle_leads {rounds : Nat} {jobs jobs' : List Job} {batch : Batch Slot} {w w' : World σ}
    (run : settle service rounds jobs batch w = some (jobs', w')) : service.Leads w.remote w'.remote :=
  (settle_only (p := AnyCall) rounds jobs batch fun _ _ => trivial).leads run

theorem poll_leads {rounds position : Nat} {job : Job} {w w' : World σ} {out : Job × Batch Slot × Except JobError Unit}
    (run : poll service rounds position job w = some (out, w')) : service.Leads w.remote w'.remote :=
  (poll_only (p := AnyCall) rounds position job (permits_of_any (fun _ => trivial) job)).leads run

mutual
theorem poll_ends : ∀ (position : Nat) (job : Job) {w : World σ}, service.Answers w.remote →
    Act.Ends (fun rounds => poll service rounds position job) w
  | position, .report job, w, _ => by
    simp only [poll]
    exact (Act.Total.bind (ReportJob.check_total _ job) fun _ => .pure _).ends w
  | position, .group g members, w, answers => by
    simp only [poll]
    refine .bind (pollMembers_ends (max g.settings.batch.maxCalls 1) [] [] 0 members answers) fun _ w₁ _ _ => ?_
    exact (Act.Total.pure _).ends w₁

theorem pollMembers_ends (size : Nat) : ∀ (done : List Job) (batch : Batch Slot) (taken : Nat) (members : List Job)
    {w : World σ}, service.Answers w.remote →
    Act.Ends (fun rounds => pollMembers service rounds size done batch taken members) w
  | done, batch, taken, [], w, answers => by
    simp only [pollMembers]
    exact .bind (settle_ends answers done batch) fun _ w₁ _ _ => (Act.Total.pure _).ends w₁
  | done, batch, taken, job :: rest, w, answers => by
    simp only [pollMembers]
    split
    · exact pollMembers_ends size (done ++ [job]) batch taken rest answers
    · refine .bind (poll_ends done.length job answers) ?_
      rintro ⟨job', checks, cause | _⟩ w₁ _ polled
      · refine .bind (settle_ends (answers.leads (poll_leads polled)) _ _) fun _ w₂ _ _ => ?_
        exact (Act.Total.pure _).ends w₂
      · have later := answers.leads (poll_leads polled)
        dsimp only
        split
        · refine .bind (settle_ends later _ _) fun done' w₂ _ settled => ?_
          exact pollMembers_ends size done' [] 0 rest (later.leads (settle_leads settled))
        · exact pollMembers_ends size (done ++ [job']) (batch ++ checks) (taken + 1) rest later
end

theorem pollQueue_ends (queueLimit : Nat) (jobs : List Job) :
    ∀ (done : List Job) (batch : Batch Slot) {w : World σ}, service.Answers w.remote →
      Act.Ends (fun rounds => pollQueue service rounds queueLimit done batch jobs) w := by
  induction jobs with
  | nil =>
    intro done batch w answers
    simp only [pollQueue]
    exact .bind (settle_ends answers done batch) fun _ w₁ _ _ => (Act.Total.pure _).ends w₁
  | cons job rest ih =>
    intro done batch w answers
    simp only [pollQueue]
    split
    · refine .bind ((Act.Total.log _).ends w) ?_
      rintro _ w₁ _ ⟨⟩
      exact .bind (settle_ends (w := { w with log := w.log ++ [queueLimitEntry] }) answers done batch)
        fun _ w₂ _ _ => (Act.Total.pure _).ends w₂
    · refine .bind (poll_ends done.length job answers) ?_
      rintro ⟨job', checks, cause | _⟩ w₁ _ polled
      · refine .bind (settle_ends (answers.leads (poll_leads polled)) _ _) fun _ w₂ _ _ => ?_
        exact (Act.Total.pure _).ends w₂
      · exact ih (done ++ [job']) (batch ++ checks) (answers.leads (poll_leads polled))

end Job

namespace Manager

theorem pollPass_ends (m : Manager) {w : World σ} (answers : service.Answers w.remote) :
    Act.Ends (fun rounds => m.pollPass service rounds) w := by
  simp only [pollPass]
  refine .bind (Job.pollQueue_ends m.settings.maxChecks m.queue [] [] answers) fun _ w₁ _ _ => ?_
  exact (Act.Total.pure _).ends w₁

theorem readThrottle_ok {m : Manager} {w : World σ} {load : Throttle}
    (read : (service.throttle w.remote).1 = .ok load) :
    m.readThrottle service w = some (({ m with throttle := load.current }, .ok ()),
      { w with remote := (service.throttle w.remote).2, calls := w.calls ++ [.throttle] }) := by
  rw [readThrottle, Act.bind_eq_some]
  refine ⟨.ok load, _, ?_, rfl⟩
  rw [← read]
  rfl

theorem awaitThrottle_low {m : Manager} (within : ¬ m.settings.throttleLimit < m.throttle) (rounds : Nat) :
    awaitThrottle service rounds m = pure (m, .ok ()) := by
  cases rounds <;> rw [awaitThrottle, if_neg within]

/-- A manager that has to wait reads the load again, and goes by what it has read. -/
theorem awaitThrottle_read {m : Manager} {w : World σ} {load : Throttle}
    (read : (service.throttle w.remote).1 = .ok load)
    (later : ∀ w', w'.remote = (service.throttle w.remote).2 →
      Act.Ends (fun rounds => awaitThrottle service rounds { m with throttle := load.current }) w') :
    Act.Ends (fun rounds => awaitThrottle service rounds m) w := by
  by_cases high : m.settings.throttleLimit < m.throttle
  · refine .succ ?_
    simp only [awaitThrottle, if_pos high]
    refine .bind ((Act.Total.log _).ends w) ?_
    rintro _ _ _ ⟨⟩
    refine .bind ((Act.Total.sleep _).ends _) ?_
    rintro _ _ _ ⟨⟩
    refine .bind ((readThrottle_total service m).ends _) ?_
    rintro out w₁ _ reading
    cases reading.symm.trans (readThrottle_ok read)
    exact later _ rfl
  · simp only [awaitThrottle_low high]
    exact (Act.Total.pure _).ends w

theorem awaitThrottle_ends {s : σ} (cools : service.Cools limit s) :
    ∀ (m : Manager) (w : World σ), m.settings.throttleLimit = limit → w.remote = s →
      Act.Ends (fun rounds => awaitThrottle service rounds m) w := by
  induction cools with
  | @low s load read within =>
    rintro m w rfl rfl
    refine awaitThrottle_read read fun w' _ => ?_
    have low : ∀ rounds, awaitThrottle service rounds { m with throttle := load.current } = pure (_, .ok ()) :=
      awaitThrottle_low within
    simp only [low]
    exact (Act.Total.pure _).ends w'
  | high read _ ih =>
    rintro m w rfl rfl
    exact awaitThrottle_read read fun w' same => ih _ w' rfl same

end Manager

end AsyncReports
