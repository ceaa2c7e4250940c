import AsyncReports.Script
import AsyncReports.Proofs.Settings
import AsyncReports.Proofs.Manager.Calls

set_option autoImplicit false

/-!
# When a manager reports the end

A call hands out nothing when no job runs and none could be started. That is the end only if the source is
exhausted. Jobs are started below the limit of the load, and waited for above it; a load that is at the limit, or
that is no number, is neither, so that jobs are left then.
-/

namespace AsyncReports

namespace Manager

variable {σ : Type}

/-- The load that was read last is at its limit, or is no number. -/
def AtLimit (m : Manager) : Prop := m.throttle == m.settings.throttleLimit ∨ m.throttle.isNaN

theorem StartEnd.empty_iff {m m' : Manager} {source : List Job} (h : StartEnd m source (m', .ok ()))
    (empty : m.queue = []) (room : 0 < m.settings.maxQueue) :
    (m'.queue = [] ↔ source = [] ∨ ¬ m.throttle < m.settings.throttleLimit) ∧
      (m'.queue = [] → m'.source = source) := by
  cases h with
  | @stopped taken started left order launched admitted full =>
    have same : taken = [] ↔ started = [] := by
      rw [← List.length_eq_zero_iff, ← List.length_eq_zero_iff, launched.length_eq]
    simp only [empty, List.nil_append] at full ⊢
    refine ⟨⟨?_, ?_⟩, ?_⟩
    · rintro rfl
      rw [same.2 rfl, List.nil_append] at order
      -- Nothing was started although the queue was empty, so the load left no room.
      rcases full with rfl | full
      · exact .inl order
      · refine .inr fun low => ?_
        have fits : hasRoom { m with queue := [] } := (hasRoom_iff _).2 ⟨low, room⟩
        simp [fits] at full
    · rintro (rfl | high)
      · exact same.1 (List.append_eq_nil_iff.1 order.symm).1
      · exact admitted.resolve_right fun fits => high fits.1
    · rintro rfl
      rw [order, same.2 rfl, List.nil_append]

theorem fill_empty_iff {service : Service σ} {settings : Settings} (valid : settings.check = .ok ()) {rounds : Nat}
    {m m' : Manager} {w w' : World σ} (ours : m.settings = settings.manager) (empty : m.queue = [])
    (run : m.fill service rounds w = some ((m', .ok ()), w')) :
    (m'.queue = [] ↔ m.source = [] ∨ m'.AtLimit) ∧ (m'.queue = [] → m'.source = m.source) := by
  obtain ⟨-, -, -, percentage, room, -⟩ := (Settings.check_ok_iff settings).1 valid
  rw [← ours] at percentage room
  cases fill_ensures service rounds m w _ _ run with
  | @tried load _ within starts =>
    have atLimit : m'.AtLimit ↔ ¬ load < m.settings.throttleLimit := by
      rw [not_lt_iff within (Settings.number_of_isPercentage percentage)]
      cases starts with
      | stopped => rfl
    rw [atLimit]
    exact starts.empty_iff empty room

/-- A call reports the end too early exactly when it finds an empty queue, and reads a load that is at its limit while
the source still holds jobs. -/
theorem ends_early_iff {service : Service σ} {settings : Settings} (valid : settings.check = .ok ()) {rounds : Nat}
    {m m' : Manager} {w w' : World σ} {result : Except JobError (Option (List Job))}
    (ours : m.settings = settings.manager) (run : m.next service rounds w = some ((m', result), w')) :
    (result = .ok none ∧ ¬ (m'.source = [] ∧ m'.queue = [])) ↔
      m.queue = [] ∧ m.source ≠ [] ∧
        ∃ m₁ w₁, m.fill service rounds w = some ((m₁, .ok ()), w₁) ∧ m₁.AtLimit := by
  have call := next_ensures service rounds m w _ _ run
  constructor
  · rintro ⟨rfl, early⟩
    cases call with
    | ended empty opening still =>
      obtain ⟨unfilled, source⟩ := fill_empty_iff valid ours empty opening
      have some : m.source ≠ [] := fun none => early ⟨(source still).trans none, still⟩
      exact ⟨empty, some, m', w', opening, (unfilled.1 still).resolve_left some⟩
  · rintro ⟨empty, some, m₁, w₁, opening, limit⟩
    obtain ⟨unfilled, source⟩ := fill_empty_iff valid ours empty opening
    have still : m₁.queue = [] := unfilled.2 (.inr limit)
    have idle : ∀ {m₂ w₂}, Opened service rounds m w m₂ w₂ → m₂.queue = [] := by
      intro m₂ w₂ opened
      rw [← (Opened.unique (.filled empty opening) opened).1]
      exact still
    cases call with
    | unopened _ opening' => simp [opening] at opening'
    | ended _ opening' =>
      rw [opening] at opening'
      cases opening'
      exact ⟨rfl, fun none => some ((source still).symm.trans none.1)⟩
    | interrupted opened running | unclosed opened running | returned opened running =>
      exact absurd (idle opened) running

/-- The load is exactly at the limit of the settings that nobody changed. -/
def levelWorld : World Script := { remote := { throttles := [.ok (Throttle.encode ⟨70, 70⟩)] } }

theorem level_run : ∃ m' w', next Script.service 3 { source := [sampleJob] } levelWorld =
    some ((m', .ok none), w') ∧ m'.source = [sampleJob] :=
  ⟨_, _, rfl, rfl⟩

theorem ends_early_iff_level : ({} : Settings).check = .ok () ∧ ∃ m' w' result,
    next Script.service 3 { source := [sampleJob] } levelWorld = some ((m', result), w') ∧
    ((result = .ok none ∧ ¬ (m'.source = [] ∧ m'.queue = [])) ↔
      ([] : List Job) = [] ∧ [sampleJob] ≠ [] ∧ ∃ m₁ w₁,
        fill Script.service 3 { source := [sampleJob] } levelWorld = some ((m₁, .ok ()), w₁) ∧ m₁.AtLimit) := by
  obtain ⟨m', w', run, -⟩ := level_run
  have valid : ({} : Settings).check = .ok () := rfl
  exact ⟨valid, m', w', _, run, ends_early_iff valid rfl run⟩

theorem level_load_ends_early : ({} : Settings).check = .ok () ∧ ∃ m' w',
    next Script.service 3 { settings := ({} : Settings).manager, source := [sampleJob] } levelWorld =
      some ((m', .ok none), w') ∧ ¬ (m'.source = [] ∧ m'.queue = []) := by
  obtain ⟨m', w', run, source⟩ := level_run
  exact ⟨rfl, m', w', run, fun ended => by simp [source] at ended⟩

end Manager

end AsyncReports
