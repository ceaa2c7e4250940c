import AsyncReports.Lifecycle
import Mathlib.Computability.RegularExpressions

set_option autoImplicit false

/-!
# The words of a run's life

Which events may follow which is a regular language: attempts that fail and are reset, and at last one that succeeds.
What is left of a life in each status is a regular expression too, and the transition table says how these
expressions hang together. So a run of the table to its end spells a word of the language, and the other way round. Any
status can be led to the end, so that the runs of the table are the prefixes of these words.
-/

namespace AsyncReports

open RegularExpression (char)
open scoped Computability

namespace Event

/-- The remote side has not finished. -/
def going : RegularExpression Event :=
  char (.observed .notStarted) + char (.observed .started) + char (.observed .running)

def failing : RegularExpression Event := char (.observed .failed) + char (.observed .skipped)

def succeeding : RegularExpression Event := char (.observed .completed)

def failedAttempt : RegularExpression Event := char .start * going.star * failing * char .reset

def lastAttempt : RegularExpression Event := char .start * going.star * succeeding

/-- A life to its end. -/
def life : RegularExpression Event := failedAttempt.star * lastAttempt

end Event

namespace Status

open Event

/-- What may still come in a status, to the end. -/
def rest : Status → RegularExpression Event
  | .notStarted => life
  | .started | .running => going.star * (failing * (char .reset * life) + succeeding)
  | .completed => 1
  | .failed | .skipped => char .reset * life

theorem cons_mem_char_mul {event first : Event} {word : List Event} {l : Language Event} :
    event :: word ∈ (char first).matches' * l ↔ event = first ∧ word ∈ l := by
  rw [RegularExpression.matches'_char, Language.mem_mul]
  constructor
  · rintro ⟨_, rfl, later, mem, same⟩
    obtain ⟨rfl, rfl⟩ := List.cons.inj same
    exact ⟨rfl, mem⟩
  · rintro ⟨rfl, mem⟩
    exact ⟨[event], rfl, word, mem, rfl⟩

theorem nil_notMem_char_mul (first : Event) (l : Language Event) : [] ∉ (char first).matches' * l := by
  rw [RegularExpression.matches'_char, Language.mem_mul]
  rintro ⟨_, rfl, later, -, same⟩
  cases same

theorem rest_notStarted : (rest .notStarted).matches' = (char .start).matches' * (rest .started).matches' := by
  simp only [rest, life, failedAttempt, lastAttempt, RegularExpression.matches'_mul, RegularExpression.matches'_add,
    RegularExpression.matches'_star]
  generalize (char Event.start).matches' = start, going.matches'∗ = observed, failing.matches' = fails,
    (char Event.reset).matches' = reset, succeeding.matches' = succeeds
  calc (start * observed * fails * reset)∗ * (start * observed * succeeds)
      = (1 + start * observed * fails * reset * (start * observed * fails * reset)∗) *
          (start * observed * succeeds) := by rw [Language.one_add_self_mul_kstar_eq_kstar]
    _ = start * (observed * (fails * (reset * ((start * observed * fails * reset)∗ *
          (start * observed * succeeds))) + succeeds)) := by
      simp only [add_mul, mul_add, one_mul, mul_assoc]
      rw [add_comm]

theorem rest_started : (rest .started).matches' =
    going.matches' * (rest .started).matches' + failing.matches' * (rest .failed).matches' +
      succeeding.matches' * (rest .completed).matches' := by
  simp only [rest, RegularExpression.matches'_mul, RegularExpression.matches'_add, RegularExpression.matches'_star,
    RegularExpression.matches'_epsilon, mul_one]
  generalize going.matches' = observed, failing.matches' * ((char Event.reset).matches' * life.matches') = fails,
    succeeding.matches' = succeeds
  calc observed∗ * (fails + succeeds)
      = (1 + observed * observed∗) * (fails + succeeds) := by rw [Language.one_add_self_mul_kstar_eq_kstar]
    _ = observed * (observed∗ * (fails + succeeds)) + fails + succeeds := by
      rw [add_mul, one_mul, mul_assoc, add_comm, add_assoc]

/-- What is left of a life begins with an event that the table accepts, and goes on with what is left then. -/
theorem cons_mem_rest {status : Status} {event : Event} {word : List Event} :
    event :: word ∈ (rest status).matches' ↔
      ∃ next, status.step? event = some next ∧ word ∈ (rest next).matches' := by
  cases status with
  | notStarted =>
    rw [rest_notStarted, cons_mem_char_mul]
    cases event <;> simp [step?]
  | started | running =>
    change event :: word ∈ (rest .started).matches' ↔ _
    rw [rest_started]
    simp only [going, failing, succeeding, RegularExpression.matches'_add, add_mul, Language.mem_add,
      cons_mem_char_mul]
    cases event with
    | observed seen => cases seen <;> simp [step?] <;> rfl
    | start | reset => simp [step?]
  | completed => simp [rest, step?]
  | failed | skipped =>
    rw [rest, RegularExpression.matches'_mul, cons_mem_char_mul]
    cases event <;> simp [step?, rest]

theorem nil_mem_rest {status : Status} : [] ∈ (rest status).matches' ↔ status = .completed := by
  cases status with
  | notStarted =>
    rw [rest_notStarted]
    exact iff_of_false (nil_notMem_char_mul _ _) nofun
  | started | running =>
    change [] ∈ (rest .started).matches' ↔ _
    rw [rest_started]
    simp only [going, failing, succeeding, RegularExpression.matches'_add, add_mul, Language.mem_add,
      nil_notMem_char_mul, or_false]
    exact iff_of_false id nofun
  | completed => simp [rest]
  | failed | skipped => exact iff_of_false (nil_notMem_char_mul _ _) nofun

/-! ## Runs of the table -/

theorem run?_append (status : Status) (before later : List Event) :
    status.run? (before ++ later) = (status.run? before).bind fun next => next.run? later := by
  induction before generalizing status with
  | nil => rfl
  | cons event before ih =>
    simp only [List.cons_append, run?]
    cases status.step? event with
    | none => rfl
    | some next => exact ih next

/-- The words that are left of a life are those that lead to its end. -/
theorem mem_rest_iff {status : Status} {word : List Event} :
    word ∈ (rest status).matches' ↔ status.run? word = some .completed := by
  induction word generalizing status with
  | nil => simp [nil_mem_rest, run?]
  | cons event word ih =>
    rw [cons_mem_rest, run?]
    cases status.step? event with
    | none => simp
    | some next => simp [ih]

theorem exists_rest (status : Status) : ∃ word, status.run? word = some .completed := by
  cases status with
  | notStarted => exact ⟨[.start, .observed .completed], rfl⟩
  | started | running => exact ⟨[.observed .completed], rfl⟩
  | completed => exact ⟨[], rfl⟩
  | failed | skipped => exact ⟨[.reset, .start, .observed .completed], rfl⟩

/-- The table accepts the prefixes of the words that are left. -/
theorem run?_isSome_iff {status : Status} {events : List Event} :
    (status.run? events).isSome ↔ ∃ word ∈ (rest status).matches', events <+: word := by
  constructor
  · intro accepts
    obtain ⟨next, run⟩ := Option.isSome_iff_exists.1 accepts
    obtain ⟨later, ends⟩ := exists_rest next
    refine ⟨events ++ later, ?_, List.prefix_append events later⟩
    rw [mem_rest_iff, run?_append, run]
    exact ends
  · rintro ⟨_, mem, later, rfl⟩
    rw [mem_rest_iff, run?_append] at mem
    obtain ⟨next, run, -⟩ := Option.bind_eq_some_iff.1 mem
    rw [run]
    rfl

/-! ## Events that are refused -/

/-- The events that the table accepts on the way, where a refused one changes nothing. -/
def accepted (status : Status) : List Event → List Event
  | [] => []
  | event :: later =>
    match status.step? event with
    | some next => event :: next.accepted later
    | none => status.accepted later

theorem accepted_sublist (status : Status) (events : List Event) : (status.accepted events).Sublist events := by
  induction events generalizing status with
  | nil => exact .slnil
  | cons event events ih =>
    rw [accepted]
    cases status.step? event with
    | none => exact (ih status).cons event
    | some next => exact (ih next).cons_cons event

theorem run?_accepted (status : Status) (events : List Event) :
    status.run? (status.accepted events) = some (status.walk events) := by
  induction events generalizing status with
  | nil => rfl
  | cons event events ih =>
    rw [accepted, walk]
    cases step : status.step? event with
    | none => exact ih status
    | some next =>
      simp only [run?, step]
      exact ih next

theorem walk_append (status : Status) (before later : List Event) :
    status.walk (before ++ later) = (status.walk before).walk later := by
  induction before generalizing status with
  | nil => rfl
  | cons event before ih => exact ih _

theorem walk_completed (events : List Event) : completed.walk events = .completed := by
  induction events with
  | nil => rfl
  | cons event events ih =>
    rw [walk]
    exact ih

theorem step?_start_isSome {status : Status} : (status.step? .start).isSome ↔ status = .notStarted := by
  cases status <;> simp [step?]

/-- A run that is worked on goes on, succeeds, or is seen to fail. -/
theorem step?_active {status next : Status} {event : Event} (active : status.isActive)
    (step : status.step? event = some next) :
    next.isActive ∨ next = .completed ∨ next.isFailure ∧ event = .observed next := by
  cases event with
  | observed seen => cases status <;> cases seen <;> simp_all [step?, isActive, isFailure] <;> subst next <;> simp
  | start | reset => cases status <;> simp_all [step?, isActive]

theorem run?_completed {status : Status} {word : List Event} (run : completed.run? word = some status) :
    status = .completed := by
  cases word with
  | nil => exact (Option.some.inj run).symm
  | cons event word => cases run

/-- After a failure, the way back to the beginning starts with a reset. -/
theorem reset_prefix {status : Status} {word : List Event} (failed : status.isFailure)
    (run : status.run? word = some .notStarted) : [.reset] <+: word := by
  cases word with
  | nil =>
    obtain rfl := Option.some.inj run
    cases failed
  | cons event word => cases status <;> cases event <;> simp_all [run?, step?, isFailure]

/-- From a run that is worked on, the way back to the beginning leads through a failure and a reset. -/
theorem failure_reset_infix {status : Status} {word : List Event} (active : status.isActive)
    (run : status.run? word = some .notStarted) :
    ∃ seen, seen.isFailure ∧ [.observed seen, .reset] <:+: word := by
  induction word generalizing status with
  | nil =>
    obtain rfl := Option.some.inj run
    cases active
  | cons event word ih =>
    rw [run?] at run
    cases step : status.step? event with
    | none =>
      rw [step] at run
      cases run
    | some next =>
      simp only [step] at run
      -- Success is for good, so the word cannot have led back past it.
      rcases step?_active active step with goes_on | rfl | ⟨failed, rfl⟩
      · obtain ⟨seen, failed, within⟩ := ih goes_on run
        exact ⟨seen, failed, List.infix_cons within⟩
      · cases run?_completed run
      · have reset := reset_prefix failed run
        exact ⟨next, failed, ((List.prefix_cons_inj _).2 reset).isInfix⟩

/-- The table accepts a list of events exactly if it is the beginning of a life. Past refused events, it ends where the
accepted ones alone lead; nothing leads away from success; and of two starts that are accepted, the second comes after
a failure that was seen and reset. -/
theorem accepts_iff_beginning (events : List Event) :
    ((notStarted.run? events).isSome ↔ ∃ word ∈ life.matches', events <+: word) ∧
    (notStarted.accepted events).Sublist events ∧
    notStarted.run? (notStarted.accepted events) = some (notStarted.walk events) ∧
    (notStarted.walk events = .completed → ∀ later, notStarted.walk (events ++ later) = .completed) ∧
    ∀ between, ((notStarted.walk events).step? .start).isSome →
      ((notStarted.walk (events ++ .start :: between)).step? .start).isSome →
        ∃ seen, seen.isFailure ∧
          [.observed seen, .reset] <:+: (notStarted.walk (events ++ [.start])).accepted between := by
  refine ⟨run?_isSome_iff, accepted_sublist _ _, run?_accepted _ _, fun succeeded later => ?_, ?_⟩
  · rw [walk_append, succeeded, walk_completed]
  · intro between first second
    rw [walk_append] at second ⊢
    rw [step?_start_isSome] at first second
    have begun : (notStarted.walk events).walk [.start] = .started := by rw [first]; rfl
    rw [first] at second
    rw [begun]
    refine failure_reset_infix (show started.isActive from rfl) ?_
    rw [run?_accepted]
    exact congrArg some second

theorem accepts_iff_beginning_refusals :
    notStarted.walk ([.start, .observed .completed] ++ [.reset, .start]) = .completed ∧
    ∃ seen, seen.isFailure ∧ [.observed seen, .reset] <:+:
      started.accepted [.observed .running, .start, .observed .skipped, .observed .completed, .reset] :=
  ⟨(accepts_iff_beginning [.start, .observed .completed]).2.2.2.1 rfl [.reset, .start],
    (accepts_iff_beginning []).2.2.2.2
      [.observed .running, .start, .observed .skipped, .observed .completed, .reset] rfl rfl⟩

end Status

end AsyncReports
