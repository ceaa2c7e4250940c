import AsyncReports.Report
import Mathlib.Order.Compare

set_option autoImplicit false

/-!
# Comparing loads

Loads are compared as floating-point numbers are. Two of them that are not below one another are the same, unless
one of them is no number. Of the two loads of a reading the smaller one counts.
-/

namespace AsyncReports

open Float.Model

theorem compare_swap (a b : UnpackedFloat) : b.compare a = (a.compare b).map Ordering.swap := by
  cases a with
  | notANumber => cases b <;> rfl
  | infinity s =>
    cases b with
    | infinity t => cases s <;> cases t <;> rfl
    | _ => cases s <;> rfl
  | zero s =>
    cases b with
    | infinity t => cases t <;> rfl
    | finite t => cases t <;> rfl
    | _ => rfl
  | finite s m e =>
    cases b with
    | notANumber => rfl
    | infinity t => cases t <;> rfl
    | zero => cases s <;> rfl
    | finite t m' e' =>
      have sizes : (compare e' e).then (compare m' m) = ((compare e e').then (compare m m')).swap := by
        rw [Ordering.swap_then, Int.compare_swap, Nat.compare_swap]
      cases s with
      | negative =>
        cases t with
        | negative => exact congrArg (some ·.swap) sizes
        | positive => rfl
      | positive =>
        cases t with
        | negative => rfl
        | positive => exact congrArg some sizes

theorem compare_eq_none_iff (a b : UnpackedFloat) : a.compare b = none ↔ a.isNaN ∨ b.isNaN := by
  have number : ∀ {x y : UnpackedFloat} {o : Ordering}, x.compare y = some o → x.isNaN = false → y.isNaN = false →
      (x.compare y = none ↔ x.isNaN ∨ y.isNaN) := by
    intro x y o compared left right
    rw [compared, left, right]
    simp
  cases a with
  | notANumber => exact iff_of_true (by cases b <;> rfl) (.inl rfl)
  | infinity s =>
    cases b with
    | notANumber => exact iff_of_true (by cases s <;> rfl) (.inr rfl)
    | _ => cases s <;> exact number rfl rfl rfl
  | zero s =>
    cases b with
    | notANumber => exact iff_of_true rfl (.inr rfl)
    | infinity t => cases t <;> exact number rfl rfl rfl
    | zero => exact number rfl rfl rfl
    | finite t => cases t <;> exact number rfl rfl rfl
  | finite s m e =>
    cases b with
    | notANumber => exact iff_of_true rfl (.inr rfl)
    | infinity t => cases t <;> exact number rfl rfl rfl
    | zero => cases s <;> exact number rfl rfl rfl
    | finite t => cases s <;> cases t <;> exact number rfl rfl rfl

theorem lt_iff_compare (a b : Float) : a < b ↔ a.toModel.unpack.compare b.toModel.unpack = some .lt := by
  change decide ((a.toModel.unpack.compare b.toModel.unpack == some .lt) = true) = true ↔ _
  simp

theorem beq_iff_compare (a b : Float) : a == b ↔ a.toModel.unpack.compare b.toModel.unpack = some .eq := by
  change (a.toModel.unpack.compare b.toModel.unpack == some .eq) = true ↔ _
  simp

theorem not_lt_iff {a b : Float} (within : ¬ b < a) (number : b.isNaN = false) :
    ¬ a < b ↔ a == b ∨ a.isNaN := by
  change b.toModel.unpack.isNaN = false at number
  change _ ↔ _ ∨ a.toModel.unpack.isNaN
  have none := compare_eq_none_iff a.toModel.unpack b.toModel.unpack
  rw [lt_iff_compare, compare_swap] at within
  rw [lt_iff_compare, beq_iff_compare]
  rw [number] at none
  generalize a.toModel.unpack.compare b.toModel.unpack = order at within none ⊢
  rcases order with _ | _ | _ | _ <;> simp_all

theorem not_lt_of_lt {a b : Float} (less : a < b) : ¬ b < a := by
  rw [lt_iff_compare] at less
  rw [lt_iff_compare, compare_swap, less]
  simp

theorem not_lt_self (a : Float) : ¬ a < a := fun less => not_lt_of_lt less less

theorem number_of_lt {a b : Float} (less : a < b) : b.isNaN = false := by
  rw [lt_iff_compare] at less
  have none := compare_eq_none_iff a.toModel.unpack b.toModel.unpack
  rw [less] at none
  have number : b.toModel.unpack.isNaN = false := by
    cases nan : b.toModel.unpack.isNaN with
    | false => rfl
    | true => simp [nan] at none
  exact number

theorem le_of_not_lt {a b : Float} (within : ¬ b < a) (number : a.isNaN = false) (number' : b.isNaN = false) :
    a ≤ b := by
  change a.toModel.unpack.isNaN = false at number
  change b.toModel.unpack.isNaN = false at number'
  have none := compare_eq_none_iff a.toModel.unpack b.toModel.unpack
  rw [lt_iff_compare, compare_swap] at within
  change decide (((a.toModel.unpack.compare b.toModel.unpack).any (·.isLE)) = true) = true
  rw [number, number'] at none
  generalize a.toModel.unpack.compare b.toModel.unpack = order at within none ⊢
  rcases order with _ | _ | _ | _ <;> simp_all

/-- The load that counts is one of the two, and neither of them is below it. -/
theorem Throttle.current_smaller (load : Throttle) :
    (load.current = load.perApplication ∨ load.current = load.perAccount) ∧
      ¬ load.perApplication < load.current ∧ ¬ load.perAccount < load.current := by
  unfold current
  split
  · rename_i application
    refine ⟨.inl rfl, not_lt_self _, fun less => ?_⟩
    rw [Bool.or_eq_true, decide_eq_true_eq] at application
    rcases application with nan | below
    · rw [lt_iff_compare] at less
      have none := (compare_eq_none_iff load.perAccount.toModel.unpack load.perApplication.toModel.unpack).2 (.inl nan)
      rw [none] at less
      cases less
    · exact not_lt_of_lt below less
  · rename_i account
    rw [Bool.or_eq_true, decide_eq_true_eq, not_or] at account
    exact ⟨.inr rfl, account.2, not_lt_self _⟩

end AsyncReports
