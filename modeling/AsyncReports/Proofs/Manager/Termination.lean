import AsyncReports.Proofs.Settings
import AsyncReports.Proofs.Tallying
import AsyncReports.Proofs.Wary
import AsyncReports.Proofs.Manager.Progress

set_option autoImplicit false

/-!
# Calls come to an end

The loop that waits for completed jobs counts nothing. It ends because of what a pass gains: recovering lowers the
credit of the queue, and in between every pass puts off one of finitely many runs, none of which can be put off
forever. The other loops are over once the load has come down or the batch has been answered.
-/

namespace AsyncReports

theorem Act.Ends.shift {σ α : Type} {act : Nat → Act σ α} {w : World σ} (h : Ends act w) (k : Nat) :
    Ends (fun rounds => act (rounds + k)) w := by
  obtain ⟨a, w', enough, ends⟩ := h
  exact ⟨a, w', enough, fun rounds le => ends (rounds + k) (by omega)⟩

namespace Manager

open Act ReportJob Job Service

variable {σ : Type} {service : Service σ} {others : σ → σ → Prop} {settings : ManagerSettings}

theorem fill_ends {m : Manager} {w : World σ}
    (cools : service.Cools m.settings.throttleLimit (service.throttle w.remote).2) :
    Ends (fun rounds => m.fill service rounds) w := by
  simp only [fill]
  refine .bind ((readThrottle_total service m).ends w) ?_
  rintro ⟨m₁, cause | _⟩ w₁ _ reading
  · exact (Total.pure _).ends w₁
  have same : m₁.settings = m.settings := by
    rcases readThrottle_ensures service m w _ _ reading with ⟨_, out⟩ | ⟨_, out⟩ <;> cases out
    rfl
  have read : w₁.remote = (service.throttle w.remote).2 := readThrottle_remote m w _ _ reading
  refine .bind (awaitThrottle_ends cools m₁ w₁ (by rw [same]) read) ?_
  rintro ⟨m₂, cause | _⟩ w₂ _ _
  · exact (Total.pure _).ends w₂
  refine (Total.bind (startFrom_total service m₂.source m₂) ?_).ends w₂
  rintro ⟨m₃, cause | _⟩
  · exact .pure _
  · exact .bind (.log _) fun _ => .pure _

theorem pass_ends {m : Manager} {w : World σ} (polls : Ends (fun rounds => m.pollPass service rounds) w)
    (cools : ∀ rounds m' result w', m.pollPass service rounds w = some ((m', result), w') →
      service.Cools m.settings.throttleLimit w'.remote) : Ends (fun rounds => m.pass service rounds) w := by
  simp only [pass]
  refine .bind polls ?_
  rintro ⟨m₁, cause | _⟩ w₁ rounds polled
  · exact (Total.pure _).ends w₁
  have same : m₁.settings = m.settings := by
    obtain ⟨_, -, rfl⟩ := pollPass_eq_some.1 polled
    rfl
  refine .bind (awaitThrottle_ends (cools rounds _ _ w₁ polled) m₁ w₁ (by rw [same]) rfl) ?_
  rintro ⟨m₂, cause | _⟩ w₂ _ _
  · exact (Total.pure _).ends w₂
  refine (Total.bind (sort_total service m₂.settings m₂.queue {}) ?_).ends w₂
  rintro ⟨s, cause | _⟩
  · exact .pure _
  · exact .bind (.log _) fun _ => .pure _

/-! ## A working manager -/

namespace Working

variable {m m' : Manager} {w w' : World σ} {rounds : Nat}

theorem fill_ends (h : Working service others settings m w.remote) : Ends (fun rounds => m.fill service rounds) w := by
  refine Manager.fill_ends ?_
  rw [h.keeps.ours]
  exact h.obliging.cools _ (Wait.read w.remote (m.dealings w.remote).tasks).waits.deals

theorem pass_ends (h : Working service others settings m w.remote) (room : 1 ≤ settings.maxAttempts) :
    Ends (fun rounds => m.pass service rounds) w := by
  refine Manager.pass_ends (pollPass_polls h.obliging h.engaged).ends fun rounds m' result w' polled => ?_
  have later := ((Does.poll polled).working room h).1
  rw [h.keeps.ours]
  exact later.obliging.cools _ (.refl _)

theorem pass {result : Except JobError (List Job)} (h : Working service others settings m w.remote)
    (room : 1 ≤ settings.maxAttempts) (run : m.pass service rounds w = some ((m', result), w')) :
    Working service others settings m' w'.remote := by
  obtain ⟨steps, conducted, -⟩ := pass_course rounds m w _ _ run
  exact (h.course room conducted.course).1

theorem fill {result : Except JobError Unit} (h : Working service others settings m w.remote)
    (room : 1 ≤ settings.maxAttempts) (run : m.fill service rounds w = some ((m', result), w')) :
    Working service others settings m' w'.remote := by
  obtain ⟨steps, conducted, -⟩ := fill_course rounds m w _ _ run
  exact (h.course room conducted.course).1

end Working

/-- Waiting for a completed job comes to an end. The number of passes is as large as the rounds of each of them, or
`k` smaller. -/
theorem waiting_ends (room : 1 ≤ settings.maxAttempts) (positive : 0 < settings.maxChecks) (c : Nat ×ₗ Nat) :
    ∀ (m : Manager) (w : World σ), Working service others settings m w.remote → m.queue ≠ [] →
      credits settings.maxAttempts m.queue = c → ∀ k,
      Ends (fun passes => awaitCompleted service (passes + k) passes m) w := by
  induction c using WellFoundedLT.induction with
  | ind c outer =>
  intro m w working busy same
  -- With the credit as it is, a pass that gains anything puts off one of the runs that are waited for by now.
  generalize named : (m.dealings w.remote).runs = ids
  have settles : ∀ id ∈ ids, service.Settles id (m.dealings w.remote) := by
    rw [← named]
    exact working.obliging.settles _ (.refl _)
  have along : ∀ x, Acc (fun y x => ∃ id ∈ ids, service.PutsOff id x y) x → ∀ (m : Manager) (w : World σ),
      m.dealings w.remote = x → x.runs ≤ ids → Working service others settings m w.remote → m.queue ≠ [] →
      credits settings.maxAttempts m.queue = c → ∀ k,
      Ends (fun passes => awaitCompleted service (passes + k) passes m) w := by
    intro x acc
    induction acc with
    | intro x _ inner =>
    rintro m w rfl known working busy same k
    refine .succ ?_
    simp only [awaitCompleted]
    refine .bind (((working.pass_ends room).shift k).shift 1) ?_
    rintro ⟨m₁, cause | _ | ⟨job, rest⟩⟩ w₁ passes passed
    · exact (Total.pure _).ends w₁
    · obtain ⟨busy', gain⟩ := pass_gains working positive busy _ _ _ passed rfl
      have working' := working.pass room passed
      refine .bind ((Total.log _).ends w₁) ?_
      rintro _ w₂ _ logged
      refine .bind ((Total.sleep _).ends w₂) ?_
      rintro _ w₃ _ slept
      have quiet : w₃.remote = w₁.remote := by
        cases logged
        cases slept
        rfl
      rw [← quiet] at gain working'
      simp only [Nat.add_right_comm _ 1 k]
      cases gain with
      | recovered less => exact outer _ (same ▸ less) m₁ w₃ working' busy' rfl (k + 1)
      | delayed same' off =>
        obtain ⟨id, off⟩ := off
        have fewer := off.waits.runs_le.trans known
        exact inner _ ⟨id, Multiset.mem_of_le known off.mem, off⟩ m₁ w₃ rfl fewer working' busy' (same'.trans same)
          (k + 1)
    · exact (Total.pure _).ends w₁
  exact along _ (settle_together settles) m w rfl named.le working busy same

theorem next_ends (room : 1 ≤ settings.maxAttempts) (positive : 0 < settings.maxChecks) {m : Manager} {w : World σ}
    (working : Working service others settings m w.remote) : Ends (fun rounds => m.next service rounds) w := by
  have running : ∀ {m : Manager} {w : World σ}, Working service others settings m w.remote → m.queue ≠ [] →
      Ends (fun rounds => m.nextRunning service rounds) w := by
    intro m w working busy
    simp only [nextRunning]
    refine .bind (waiting_ends room positive _ m w working busy rfl 0) ?_
    rintro ⟨m₁, cause | completed⟩ w₁ rounds waited
    · exact (Total.pure _).ends w₁
    obtain ⟨steps, conducted, -⟩ := awaitCompleted_course rounds rounds m w _ _ waited
    obtain ⟨working', -⟩ := working.course room conducted.course
    refine .bind working'.fill_ends ?_
    rintro ⟨m₂, cause | _⟩ w₂ _ _
    · exact (Total.pure _).ends w₂
    · exact (Total.pure _).ends w₂
  simp only [next_eq]
  cases empty : m.queue.isEmpty with
  | false =>
    simp only [Bool.false_eq_true, if_false, pure_bind, empty]
    exact running working (by simpa using empty)
  | true =>
    simp only [if_true]
    refine .bind working.fill_ends ?_
    rintro ⟨m₁, cause | _⟩ w₁ _ filled
    · exact (Total.pure _).ends w₁
    dsimp only
    split
    · exact (Total.pure _).ends w₁
    · rename_i busy
      exact running (working.fill room filled) (by simpa using busy)

/-- What calls of the manager have made of it and of the remote side, which others may change between the calls. -/
inductive Served (service : Service σ) (others : σ → σ → Prop) (first : Manager) (s₀ : σ) : Manager → σ → Prop
  | start : Served service others first s₀ first s₀
  | between {m : Manager} {s s' : σ} (before : Served service others first s₀ m s) (other : others s s') :
    Served service others first s₀ m s'
  | call {m m' : Manager} {w w' : World σ} {rounds : Nat} {result : Except JobError (Option (List Job))}
    (before : Served service others first s₀ m w.remote) (run : m.next service rounds w = some ((m', result), w')) :
    Served service others first s₀ m' w'.remote

theorem working_new {source : List Job} {s : σ}
    (obliging : service.Obliging others settings.throttleLimit (Job.dealings true s source))
    (new : ∀ job ∈ source, NewReport job) : Working service others settings { settings, source } s :=
  ⟨obliging, keeps_new new, List.forall_mem_nil _⟩

theorem Served.working {first m : Manager} {s₀ s : σ} (h : Served service others first s₀ m s)
    (room : 1 ≤ settings.maxAttempts) (start : Working service others settings first s₀) :
    Working service others settings m s := by
  induction h with
  | start => exact start
  | @between m s s' _ other ih =>
    exact ⟨ih.obliging.deals (Exchange.between (m.dealings s).tasks other).deals, ih.keeps, ih.engaged⟩
  | @call m m' w w' rounds result _ run ih =>
    obtain ⟨steps, conducted, -⟩ := next_course rounds m w _ _ run
    exact (ih.course room conducted.course).1

/-- Every call of a manager with checked settings, over report jobs that were never started, ends if the service is
obliging about what the jobs leave to do, and the only error it can end in is that of spent attempts. -/
theorem next_returns {settings : Settings} {source : List Job} {s₀ : σ} {m : Manager} {w : World σ}
    (valid : settings.check = .ok ()) (new : ∀ job ∈ source, NewReport job)
    (obliging : service.Obliging others settings.manager.throttleLimit (Job.dealings true s₀ source))
    (served : Served service others { settings := settings.manager, source } s₀ m w.remote) :
    ∃ m' result w' enough, (∀ rounds, enough ≤ rounds → m.next service rounds w = some ((m', result), w')) ∧
      ∀ cause, result = .error cause → ∃ label attempts, cause = .attemptsExhausted label attempts := by
  obtain ⟨-, -, room, -, -, positive⟩ := (Settings.check_ok_iff settings).1 valid
  have working := served.working room (working_new obliging new)
  obtain ⟨⟨m', result⟩, w', enough, ends⟩ := next_ends room positive working
  refine ⟨m', result, w', enough, ends, fun cause error => ?_⟩
  obtain ⟨steps, conducted, accounts⟩ := next_course enough m w _ _ (ends enough (Nat.le_refl _))
  obtain ⟨step, mem, blame⟩ := accounts.error cause error
  exact (working.course room conducted.course).2 step mem cause blame

/-- The load is too high at first. The first round trip goes unanswered, and the second one finds the run running. -/
def hesitant : Service Tally :=
  tallying (fun | 0 => 90 | 1 => 90 | _ => 10) fun | 0 => none | 1 => some .running | _ => some .completed

/-- Others read the load, and have runs of their own. -/
abbrev Reads (s s' : WithRuns Tally) : Prop := OthersKeep (fun t t' => t' = { t with reads := t.reads + 1 }) s s'

theorem hesitant_obliging :
    hesitant.wary.Obliging Reads ({} : Settings).manager.throttleLimit (Job.dealings true ({}, []) [sampleJob]) := by
  refine Obliging.wary (tallying_obliging (n := 2) (fun k le => ?_) (fun k le => ?_) _ _) ?_
  · obtain ⟨k, rfl⟩ := Nat.exists_eq_add_of_le' le
    change ¬ ({} : Settings).manager.throttleLimit < 10
    decide +kernel
  · obtain ⟨k, rfl⟩ := Nat.exists_eq_add_of_le' le
    exact ⟨.completed, rfl, rfl⟩
  · exact fun run mem => absurd mem (Multiset.notMem_zero run)

/-- The service refuses every request about a run that it has not handed out. -/
theorem next_returns_hesitant : ({} : Settings).check = .ok () ∧ (∀ job ∈ [sampleJob], NewReport job) ∧
    hesitant.wary.Obliging Reads ({} : Settings).manager.throttleLimit (Job.dealings true ({}, []) [sampleJob]) ∧
    Served hesitant.wary Reads { source := [sampleJob] } ({}, []) { source := [sampleJob] }
      ({ reads := 1 }, ["run-7"]) ∧
    ∃ m' result w' enough,
      (∀ rounds, enough ≤ rounds →
        next hesitant.wary rounds { source := [sampleJob] } { remote := ({ reads := 1 }, ["run-7"]) } =
          some ((m', result), w')) ∧
      ∀ cause, result = .error cause → ∃ label attempts, cause = .attemptsExhausted label attempts := by
  have valid : ({} : Settings).check = .ok () := by decide +kernel
  have served : Served hesitant.wary Reads { source := [sampleJob] } ({}, []) { source := [sampleJob] }
      ({ reads := 1 }, ["run-7"]) := .between .start ⟨rfl, by simp⟩
  exact ⟨valid, sampleJob_new, hesitant_obliging, served,
    next_returns (w := { remote := ({ reads := 1 }, ["run-7"]) }) valid sampleJob_new hesitant_obliging served⟩

end Manager

end AsyncReports
