import AsyncReports.Proofs.Ensures

set_option autoImplicit false

/-!
# Actions side by side

Nothing that is done goes by the log. Two actions keep together if, begun in worlds that differ in the log alone, they
both end, come to related results, and leave such worlds again. Whatever else an observer sees is the same then: the
requests in their order, what the remote side has become, and the clock.
-/

namespace AsyncReports

variable {σ α β α' β' : Type}

/-- The worlds differ in the log alone. -/
structure World.Alike (w v : World σ) : Prop where
  remote : v.remote = w.remote
  calls : v.calls = w.calls
  clock : v.clock = w.clock

theorem World.Alike.refl (w : World σ) : w.Alike w := ⟨rfl, rfl, rfl⟩

namespace Act

def Together (r : α → β → Prop) (act : Act σ α) (act' : Act σ β) : Prop :=
  ∀ w v : World σ, w.Alike v → ∃ a w' b v', act w = some (a, w') ∧ act' v = some (b, v') ∧ r a b ∧ w'.Alike v'

namespace Together

variable {r : α → β → Prop} {s : α' → β' → Prop}

theorem pure {a : α} {b : β} (related : r a b) : Together r (pure a : Act σ α) (pure b) :=
  fun w v alike => ⟨a, w, b, v, rfl, rfl, related, alike⟩

theorem bind {act : Act σ α} {act' : Act σ β} {f : α → Act σ α'} {g : β → Act σ β'} (first : Together r act act')
    (later : ∀ a b, r a b → Together s (f a) (g b)) : Together s (act >>= f) (act' >>= g) := by
  intro w v alike
  obtain ⟨a, w₁, b, v₁, run, run', related, alike₁⟩ := first w v alike
  obtain ⟨a', w₂, b', v₂, rest, rest', related', alike₂⟩ := later a b related w₁ v₁ alike₁
  exact ⟨a', w₂, b', v₂, bind_eq_some.2 ⟨a, w₁, run, rest⟩, bind_eq_some.2 ⟨b, v₁, run', rest'⟩, related', alike₂⟩

theorem call (c : Call) (ask : σ → α × σ) : Together Eq (Act.call c ask) (Act.call c ask) := by
  intro w v alike
  have same : (ask v.remote) = ask w.remote := congrArg ask alike.remote
  refine ⟨_, _, _, _, rfl, rfl, by rw [same], ?_⟩
  exact ⟨congrArg Prod.snd same, congrArg (· ++ [c]) alike.calls, alike.clock⟩

theorem now : Together Eq (now : Act σ Nat) now :=
  fun w v alike => ⟨w.clock, w, v.clock, v, rfl, rfl, alike.clock.symm, alike⟩

theorem log (entries entries' : List LogEntry) : Together Eq (log entries : Act σ Unit) (Act.log entries') :=
  fun _ _ alike => ⟨(), _, (), _, rfl, rfl, rfl, alike.remote, alike.calls, alike.clock⟩

/-- What one side logs, the other side need not. -/
theorem log_then {act : Act σ α} {act' : Act σ β} (h : Together r act act') (entries : List LogEntry) :
    Together r (Act.log entries >>= fun _ => act) act' := by
  intro w v alike
  obtain ⟨a, w', b, v', run, run', related⟩ := h { w with log := w.log ++ entries } v ⟨alike.1, alike.2, alike.3⟩
  exact ⟨a, w', b, v', bind_eq_some.2 ⟨(), _, rfl, run⟩, run', related⟩

end Together

end Act

end AsyncReports
