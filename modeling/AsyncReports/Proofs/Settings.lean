import AsyncReports.Settings
import AsyncReports.Proofs.Load

set_option autoImplicit false

/-!
# Checked settings

What it takes for settings to pass the check, and what they are refused for if they do not.
-/

namespace AsyncReports.Settings

/-- A range that the check wants a setting to be in, with what it says of a value outside. -/
structure Range where
  field : String
  holds : Settings → Bool
  value : Settings → String
  rule : String

def Range.error (range : Range) (s : Settings) : SettingsError := .outOfRange range.field (range.value s) range.rule

def Range.positive (field : String) (count : Settings → Nat) : Range where
  field := field
  holds s := 0 < count s
  value s := toString (count s)
  rule := "must be greater than 0"

def Range.calls : Range where
  field := "batch.max_calls_per_batch"
  holds s := 0 < s.batch.maxCalls && s.batch.maxCalls ≤ Limits.callsPerBatch
  value s := toString s.batch.maxCalls
  rule := "must be between 1 and 50"

def Range.load : Range where
  field := "manager.throttle_limit"
  holds s := isPercentage s.manager.throttleLimit
  value s := Decimal.Layout.sentence.write s.manager.throttleLimit
  rule := "must be a percentage between 0 and 100"

/-- The ranges in the order of the check. -/
def ranges : List Range :=
  [.calls, .positive "results.page_size" (·.results.pageSize), .positive "manager.max_attempts" (·.manager.maxAttempts),
    .load, .positive "manager.max_jobs_in_queue" (·.manager.maxQueue),
    .positive "manager.max_jobs_to_check" (·.manager.maxChecks)]

/-- The first range that settings are out of. -/
def broken? (s : Settings) : Option Range := ranges.find? fun range => !range.holds s

def Range.check (range : Range) (s : Settings) : Except SettingsError Unit :=
  if range.holds s then .ok () else .error (range.error s)

theorem positive_eq_check (field : String) (count : Settings → Nat) (s : Settings) :
    positive field (count s) = (Range.positive field count).check s := by
  unfold positive Range.check Range.positive
  simp only [decide_eq_true_eq, Nat.pos_iff_ne_zero, ite_not]
  rfl

/-- Settings are refused for what is out of its range. -/
theorem refuse_eq_check {range : Range} {s : Settings} {out : Prop} [Decidable out]
    (broken : out ↔ range.holds s = false) (later : Unit → Except SettingsError Unit) :
    (if out then throw (range.error s) >>= later else later ()) = range.check s >>= later := by
  unfold Range.check
  cases known : range.holds s with
  | true =>
    rw [known] at broken
    rw [if_neg (broken.not.2 (by decide)), if_pos rfl]
    rfl
  | false =>
    rw [known] at broken
    rw [if_pos (broken.2 rfl), if_neg (by decide)]
    rfl

theorem checks_eq (list : List Range) (s : Settings) :
    list.foldr (fun range (later : Except SettingsError Unit) => range.check s >>= fun _ => later) (.ok ()) =
      match list.find? fun range => !range.holds s with
      | some range => .error (range.error s)
      | none => .ok () := by
  induction list with
  | nil => rfl
  | cons range rest ih =>
    rw [List.foldr_cons, List.find?_cons, Range.check]
    cases range.holds s with
    | true => exact ih
    | false => rfl

theorem check_eq_checks (s : Settings) : s.check =
    ranges.foldr (fun range (later : Except SettingsError Unit) => range.check s >>= fun _ => later) (.ok ()) := by
  have calls : (s.batch.maxCalls = 0 ∨ Limits.callsPerBatch < s.batch.maxCalls) ↔ Range.calls.holds s = false := by
    simp only [Range.calls, Bool.and_eq_false_iff, decide_eq_false_iff_not]
    omega
  have load : (!isPercentage s.manager.throttleLimit) = true ↔ Range.load.holds s = false := by
    rw [Bool.not_eq_true']
    rfl
  have last : ∀ x : Except SettingsError Unit, (x >>= fun _ => .ok ()) = x := by rintro (_ | _) <;> rfl
  simp only [ranges, List.foldr_cons, List.foldr_nil, last, ← refuse_eq_check calls, ← refuse_eq_check load,
    ← positive_eq_check]
  rfl

/-- The check refuses settings for the first range that they are out of. -/
theorem check_eq (s : Settings) : s.check =
    match s.broken? with
    | some range => .error (range.error s)
    | none => .ok () := by
  rw [check_eq_checks, checks_eq]
  rfl

theorem broken?_eq_none {s : Settings} : s.broken? = none ↔ ∀ range ∈ ranges, range.holds s := by
  simp only [broken?, List.find?_eq_none, Bool.not_eq_true', Bool.not_eq_false]

theorem check_eq_ok (s : Settings) : s.check = .ok () ↔ ∀ range ∈ ranges, range.holds s := by
  rw [check_eq, ← broken?_eq_none]
  cases s.broken? <;> simp

theorem check_ok_iff (s : Settings) :
    s.check = .ok () ↔
      (0 < s.batch.maxCalls ∧ s.batch.maxCalls ≤ Limits.callsPerBatch) ∧ 0 < s.results.pageSize ∧
      0 < s.manager.maxAttempts ∧ isPercentage s.manager.throttleLimit ∧ 0 < s.manager.maxQueue ∧
      0 < s.manager.maxChecks := by
  simp only [check_eq_ok, ranges, List.forall_mem_cons, List.not_mem_nil, false_implies, implies_true, and_true,
    Range.calls, Range.load, Range.positive, Bool.and_eq_true, decide_eq_true_eq]

theorem number_of_isPercentage {x : Float} (h : isPercentage x) : x.isNaN = false := by
  rw [isPercentage, Bool.and_eq_true, decide_eq_true_eq] at h
  have below : decide ((((0 : Float).toModel.unpack.compare x.toModel.unpack).any (·.isLE)) = true) = true := h.1
  have none := compare_eq_none_iff (0 : Float).toModel.unpack x.toModel.unpack
  change x.toModel.unpack.isNaN = false
  cases number : x.toModel.unpack.isNaN with
  | false => rfl
  | true =>
    rw [none.2 (.inr number)] at below
    simp at below

theorem below_of_isPercentage {x : Float} (h : isPercentage x) : -1 < x := by
  rw [isPercentage, Bool.and_eq_true, decide_eq_true_eq] at h
  have least : decide (((0 : Float).toModel.unpack.compare x.toModel.unpack).any (·.isLE) = true) = true := h.1
  have zero : (0 : Float).toModel.unpack = .zero .positive := by rfl
  obtain ⟨m, e, _, negative⟩ : ∃ m e h, (-1 : Float).toModel.unpack = .finite .negative m e h := ⟨_, _, _, by rfl⟩
  rw [zero] at least
  rw [lt_iff_compare, negative]
  cases place : x.toModel.unpack with
  | notANumber =>
    rw [place] at least
    cases least
  | zero s => rfl
  | infinity s | finite s =>
    rw [place] at least
    cases s with
    | negative => cases least
    | positive => rfl

end AsyncReports.Settings
