import AsyncReports.Service

set_option autoImplicit false

/-!
# What an action ensures

`Ensures act w post` says that whenever `act`, begun in the world `w`, ends, `post` holds of its value and of the
world it leaves. It is silent about actions that do not end within their rounds. Every way to build an action has
one equivalence here, so that a statement about an action turns into statements about its parts.
-/

namespace AsyncReports.Act

variable {σ α β : Type}

def Ensures (act : Act σ α) (w : World σ) (post : α → World σ → Prop) : Prop :=
  ∀ a w', act w = some (a, w') → post a w'

theorem Ensures.mono {act : Act σ α} {w : World σ} {post post' : α → World σ → Prop}
    (h : Ensures act w post) (weaker : ∀ a w', post a w' → post' a w') : Ensures act w post' :=
  fun a w' run => weaker a w' (h a w' run)

theorem Ensures.and {act : Act σ α} {w : World σ} {post post' : α → World σ → Prop} (h : Ensures act w post)
    (h' : Ensures act w post') : Ensures act w fun a w' => post a w' ∧ post' a w' :=
  fun a w' run => ⟨h a w' run, h' a w' run⟩

theorem Ensures.with_run {act : Act σ α} {w : World σ} {post : α → World σ → Prop} (h : Ensures act w post) :
    Ensures act w fun a w' => post a w' ∧ act w = some (a, w') :=
  fun a w' run => ⟨h a w' run, run⟩

@[simp] theorem pure_eq_some {a b : α} {w w' : World σ} :
    (pure a : Act σ α) w = some (b, w') ↔ a = b ∧ w = w' := by
  change some (a, w) = some (b, w') ↔ a = b ∧ w = w'
  simp

theorem bind_eq_some {act : Act σ α} {f : α → Act σ β} {w w' : World σ} {b : β} :
    (act >>= f) w = some (b, w') ↔ ∃ a w₁, act w = some (a, w₁) ∧ f a w₁ = some (b, w') := by
  simp [bind, StateT.bind, Option.bind_eq_some_iff]

theorem bind_congr_left {act act' : Act σ α} {f : α → Act σ β} {w : World σ} (same : act w = act' w) :
    (act >>= f) w = (act' >>= f) w := by
  change (act w).bind _ = (act' w).bind _
  rw [same]

/-- What follows an action only matters where the action can lead. -/
theorem bind_congr {act : Act σ α} {f g : α → Act σ β} {w : World σ} {p : α → Prop}
    (h : Ensures act w fun a _ => p a) (same : ∀ a w', p a → f a w' = g a w') : (act >>= f) w = (act >>= g) w := by
  change (act w).bind _ = (act w).bind _
  cases run : act w with
  | none => rfl
  | some out => exact same out.1 out.2 (h out.1 out.2 run)

@[simp] theorem ensures_pure {a : α} {w : World σ} {post : α → World σ → Prop} :
    Ensures (pure a : Act σ α) w post ↔ post a w := by
  simp [Ensures]

@[simp] theorem ensures_bind {act : Act σ α} {f : α → Act σ β} {w : World σ} {post : β → World σ → Prop} :
    Ensures (act >>= f) w post ↔ Ensures act w fun a w₁ => Ensures (f a) w₁ post := by
  simp only [Ensures, bind_eq_some]
  constructor
  · intro h a w₁ run b w' rest
    exact h b w' ⟨a, w₁, run, rest⟩
  · rintro h b w' ⟨a, w₁, run, rest⟩
    exact h a w₁ run b w' rest

@[simp] theorem ensures_map {act : Act σ α} {f : α → β} {w : World σ} {post : β → World σ → Prop} :
    Ensures (f <$> act) w post ↔ Ensures act w fun a w₁ => post (f a) w₁ := by
  rw [map_eq_pure_bind, ensures_bind]
  simp only [ensures_pure]

@[simp] theorem ensures_call {c : Call} {ask : σ → α × σ} {w : World σ} {post : α → World σ → Prop} :
    Ensures (call c ask) w post ↔
      post (ask w.remote).1 { w with remote := (ask w.remote).2, calls := w.calls ++ [c] } := by
  simp [Ensures, call]

@[simp] theorem ensures_log {entries : List LogEntry} {w : World σ} {post : Unit → World σ → Prop} :
    Ensures (log entries) w post ↔ post () { w with log := w.log ++ entries } := by
  constructor
  · exact fun h => h () _ rfl
  · rintro h _ _ ⟨⟩
    exact h

@[simp] theorem ensures_now {w : World σ} {post : Nat → World σ → Prop} :
    Ensures now w post ↔ post w.clock w := by
  simp [Ensures, now]

@[simp] theorem ensures_sleep {seconds : Nat} {w : World σ} {post : Unit → World σ → Prop} :
    Ensures (sleep seconds) w post ↔ post () { w with clock := w.clock + min seconds longestSleep } := by
  constructor
  · exact fun h => h () _ rfl
  · rintro h _ _ ⟨⟩
    exact h

@[simp] theorem ensures_unfinished {w : World σ} {post : α → World σ → Prop} :
    Ensures (unfinished : Act σ α) w post := by
  simp [Ensures, unfinished]

end AsyncReports.Act
