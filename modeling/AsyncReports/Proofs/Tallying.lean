import AsyncReports.Proofs.Dealings

set_option autoImplicit false

/-!
# Services that keep a tally

A service whose answers depend on nothing but how often it was asked. It is obliging if its load stays low and all runs
stay ended once it has been asked often enough.
-/

namespace AsyncReports

/-- How often the load was read, and how many round trips were made. -/
structure Tally where
  reads : Nat := 0
  trips : Nat := 0

/-- All runs are in the status that belongs to the round trip; where there is none, the round trip goes unanswered. -/
def tallying (load : Nat → Float) (status : Nat → Option Status) : Service Tally where
  submit _ _ t := (.ok { id := "run-1", status := .started }, t)
  query _ _ t := (.ok [], t)
  status run t := (.ok { id := run, status := .started }, t)
  statuses runs t :=
    (match status t.trips with
      | none => []
      | some seen => runs.map fun run => .ok (Script.statusDocument run seen.text),
      { t with trips := t.trips + 1 })
  rows _ _ t := ([], t)
  throttle t := (.ok ⟨load t.reads, load t.reads⟩, { t with reads := t.reads + 1 })

theorem decode_statusDocument (run : String) (status : Status) : ∃ percent,
    Run.decode (Script.statusDocument run status.text) =
      .ok { id := run, status, percent, dateStart := none, dateStop := none } := by
  cases status <;> exact ⟨_, rfl⟩

theorem Throttle.current_same (x : Float) : (⟨x, x⟩ : Throttle).current = x := by
  unfold current
  split <;> rfl

namespace Tally

open Service

variable {load : Nat → Float} {status : Nat → Option Status} {limit : Float} {n : Nat}

theorem mono_of_waits {x y : Dealings Tally} (h : (tallying load status).Waits x y) :
    x.remote.trips ≤ y.remote.trips := by
  induction h with
  | refl => exact Nat.le_refl _
  | tail _ wait ih =>
    cases wait with
    | read => exact ih
    | check => exact Nat.le_succ_of_le ih

theorem status_of_answer {ids : List String} {k : Nat} {id : String} {document : Json} {t : Tally}
    (place : ids[k]? = some id) (answer : ((tallying load status).statuses ids t).1[k]? = some (.ok document)) :
    ∃ seen, status t.trips = some seen ∧ document = Script.statusDocument id seen.text := by
  simp only [tallying] at answer
  cases known : status t.trips with
  | none =>
    rw [known] at answer
    cases answer
  | some seen =>
    simp only [known, List.getElem?_map, place, Option.map_some, Option.some.injEq, Except.ok.injEq] at answer
    exact ⟨seen, rfl, answer.symm⟩

/-- Each time a run is put off, the day comes nearer on which all runs are ended. -/
theorem putsOff_lt (ended : ∀ k, n ≤ k → ∃ seen, status k = some seen ∧ seen.isTerminal) {id : String}
    {x y : Dealings Tally} (off : (tallying load status).PutsOff id x y) :
    n - y.remote.trips < n - x.remote.trips := by
  obtain ⟨u, batch, _, _, k, document, before, -, place, answer, vague, after⟩ := off
  obtain ⟨seen, known, rfl⟩ := status_of_answer place answer
  have early : u.trips < n := by
    by_contra late
    obtain ⟨last, known', terminal⟩ := ended u.trips (by omega)
    rw [known] at known'
    cases known'
    obtain ⟨percent, decoded⟩ := decode_statusDocument id seen
    have open_ := vague _ decoded
    dsimp only at open_
    rw [terminal] at open_
    cases open_
  have first : x.remote.trips ≤ u.trips := mono_of_waits before
  have later : u.trips + 1 ≤ y.remote.trips := mono_of_waits after
  omega

theorem settles (ended : ∀ k, n ≤ k → ∃ seen, status k = some seen ∧ seen.isTerminal) (id : String)
    (x : Dealings Tally) : (tallying load status).Settles id x := by
  have finite : WellFounded fun y x => (tallying load status).PutsOff id x y :=
    Subrelation.wf (fun off => putsOff_lt ended off) (measure fun x : Dealings Tally => n - x.remote.trips).wf
  exact finite.apply x

theorem cools (low : ∀ k, n ≤ k → ¬ limit < load k) (t : Tally) : (tallying load status).Cools limit t := by
  induction left : n - t.reads generalizing t with
  | zero =>
    refine .low rfl ?_
    rw [Throttle.current_same]
    exact low t.reads (by omega)
  | succ left ih => exact .high rfl (ih { t with reads := t.reads + 1 } (by dsimp only; omega))

theorem left_eq_nil {τ : Type} {batch : Batch τ} {calls : List (Fin batch.length)} {t : Tally} {seen : Status}
    (known : status t.trips = some seen) : (Batch.send (tallying load status) batch calls t).1.left batch = [] := by
  have all : (Batch.send (tallying load status) batch calls t).1.answers =
      (Batch.asked batch calls).map fun run => .ok (Script.statusDocument run seen.text) := by
    simp only [Batch.send, tallying, known]
  rw [List.eq_nil_iff_forall_not_mem]
  intro i mem
  obtain ⟨carried, unanswered⟩ := Batch.Trip.mem_left.1 mem
  have carried : i ∈ calls := carried
  have place : calls[calls.idxOf i]? = some i := List.getElem?_idxOf carried
  have same : (Batch.send (tallying load status) batch calls t).1.calls = calls := rfl
  simp only [Batch.Trip.reply, all, same, Batch.asked, List.getElem?_map, place, Option.map_some, Option.getD_some,
    Except.isOk, Except.toBool] at unanswered
  cases unanswered

theorem trip_left_eq_nil {τ : Type} {batch : Batch τ}
    (ended : ∀ k, n ≤ k → ∃ seen, status k = some seen ∧ seen.isTerminal) (k : Nat) :
    ∀ (calls : List (Fin batch.length)) (t : Tally), n ≤ t.trips + k →
      (Batch.trip (tallying load status) batch calls t k).left batch = [] := by
  induction k with
  | zero =>
    intro calls t late
    obtain ⟨seen, known, -⟩ := ended t.trips late
    exact left_eq_nil known
  | succ k ih =>
    intro calls t late
    refine ih _ _ ?_
    change n ≤ t.trips + 1 + k
    omega

theorem answers {τ : Type} (ended : ∀ k, n ≤ k → ∃ seen, status k = some seen ∧ seen.isTerminal) (batch : Batch τ)
    (t : Tally) (i : Fin batch.length) : ∃ m : Nat, Batch.failures (tallying load status) batch t i = m := by
  have bounded : {k | i ∈ (Batch.trip (tallying load status) batch (Batch.allCalls batch) t k).left batch} ⊆
      Finset.range n := by
    intro k mem
    by_contra late
    have late : n ≤ k := by simpa using late
    have mem : i ∈ (Batch.trip (tallying load status) batch (Batch.allCalls batch) t k).left batch := mem
    rw [trip_left_eq_nil ended k _ t (by omega)] at mem
    cases mem
  have finite := ((Finset.range n).finite_toSet.subset bounded).encard_lt_top.ne
  obtain ⟨m, same⟩ := ENat.ne_top_iff_exists.1 finite
  exact ⟨m, same.symm⟩

end Tally

theorem tallying_obliging {load : Nat → Float} {status : Nat → Option Status} {limit : Float} {n : Nat}
    (low : ∀ k, n ≤ k → ¬ limit < load k) (ended : ∀ k, n ≤ k → ∃ seen, status k = some seen ∧ seen.isTerminal)
    (others : Tally → Tally → Prop) (x : Dealings Tally) : (tallying load status).Obliging others limit x where
  submits _ _ _ _ _ := ⟨_, rfl⟩
  probes _ _ _ _ _ _ := ⟨_, rfl⟩
  cools y _ := Tally.cools low y.remote
  answers y _ batch _ i := Tally.answers ended batch y.remote i
  documents y _ ids _ k id document run place answer decoded := by
    obtain ⟨seen, -, rfl⟩ := Tally.status_of_answer place answer
    obtain ⟨percent, decoded'⟩ := decode_statusDocument id seen
    rw [decoded] at decoded'
    cases decoded'
    rfl
  settles y _ id _ := Tally.settles ended id y

end AsyncReports
