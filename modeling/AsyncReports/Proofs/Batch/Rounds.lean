import AsyncReports.Proofs.Batch
import AsyncReports.Proofs.Job.Polling
import AsyncReports.Script
import Mathlib.Data.Fintype.Basic
import Mathlib.Data.List.FinRange
import Mathlib.Data.Set.Card
import Mathlib.Order.Lattice.Nat

set_option autoImplicit false

/-!
# The round trips of a batch

The calls of a batch are told apart by their places in it, so that one run may be asked about several times. A
service settles what becomes of each call when the unanswered ones, and only these, are sent again and again: `trip`
lists the round trips, and `failures` counts those that leave a call unanswered. If all counts are finite, a drain
makes one round trip more than the greatest of them. It hands every call its failures and then its document, and
nothing else.
-/

namespace AsyncReports.Batch

variable {σ τ β ι : Type}

/-- A round trip: the places of the calls that it carries, and the answers that come back. -/
structure Trip (size : Nat) where
  calls : List (Fin size)
  answers : List (Answer Json)

def asked (batch : Batch τ) (calls : List (Fin batch.length)) : List String :=
  calls.map fun i => batch[i].run

/-- What a call hears in a round trip: the answer in its own place, and an error if there is none. -/
def Trip.reply (batch : Batch τ) (t : Trip batch.length) (i : Fin batch.length) : Answer Json :=
  (t.answers[t.calls.idxOf i]?).getD (.error (unanswered batch[i].run))

/-- The calls that a round trip carries and does not answer. -/
def Trip.left (batch : Batch τ) (t : Trip batch.length) : List (Fin batch.length) :=
  t.calls.filter fun i => !(t.reply batch i).isOk

def send (service : Service σ) (batch : Batch τ) (calls : List (Fin batch.length)) (s : σ) :
    Trip batch.length × σ :=
  let (answers, s) := service.statuses (asked batch calls) s
  (⟨calls, answers⟩, s)

/-- The round trips in order, when each sends again what the one before it left unanswered. -/
def trip (service : Service σ) (batch : Batch τ) (calls : List (Fin batch.length)) (s : σ) : Nat → Trip batch.length
  | 0 => (send service batch calls s).1
  | k + 1 => trip service batch ((send service batch calls s).1.left batch) (send service batch calls s).2 k

/-- The state that the first round trips leave behind. -/
def after (service : Service σ) (batch : Batch τ) (calls : List (Fin batch.length)) (s : σ) : Nat → σ
  | 0 => s
  | k + 1 => after service batch ((send service batch calls s).1.left batch) (send service batch calls s).2 k

/-- The world after a round trip, and after whatever was logged. -/
def sent (service : Service σ) (batch : Batch τ) (calls : List (Fin batch.length)) (w : World σ)
    (log : List LogEntry) : World σ :=
  { w with
    remote := (service.statuses (asked batch calls) w.remote).2
    calls := w.calls ++ [.statuses (asked batch calls)]
    log }

/-- What the calls of a round trip hear. -/
def Trip.notes (batch : Batch τ) (t : Trip batch.length) : List (Fin batch.length × Answer Json) :=
  t.calls.map fun i => (i, t.reply batch i)

def allCalls (batch : Batch τ) : List (Fin batch.length) := List.finRange batch.length

/-- How many of the round trips that carry a call leave it unanswered. -/
noncomputable def failures (service : Service σ) (batch : Batch τ) (s : σ) (i : Fin batch.length) : ℕ∞ :=
  {k | i ∈ (trip service batch (allCalls batch) s k).left batch}.encard

/-- One round trip more than any call fails in, and none without calls. -/
def roundTrips (batch : Batch τ) (f : Fin batch.length → Nat) : Nat :=
  if batch.isEmpty then 0 else 1 + Finset.univ.sup f

/-! ## Counting failures -/

variable {service : Service σ} {batch : Batch τ}

theorem Trip.mem_left {t : Trip batch.length} {i : Fin batch.length} :
    i ∈ t.left batch ↔ i ∈ t.calls ∧ (t.reply batch i).isOk = false := by
  simp [Trip.left]

theorem trip_succ_calls (calls : List (Fin batch.length)) (s : σ) (k : Nat) :
    (trip service batch calls s (k + 1)).calls = (trip service batch calls s k).left batch := by
  induction k generalizing calls s with
  | zero => rfl
  | succ k ih => exact ih _ _

theorem left_antitone (calls : List (Fin batch.length)) (s : σ) {i : Fin batch.length} {j k : Nat} (le : j ≤ k)
    (h : i ∈ (trip service batch calls s k).left batch) : i ∈ (trip service batch calls s j).left batch := by
  induction le with
  | refl => exact h
  | step _ ih =>
    rw [Trip.mem_left, trip_succ_calls] at h
    exact ih h.1

theorem encard_eq_iff_of_downward {p : Nat → Prop} (down : ∀ j k, j ≤ k → p k → p j) (n : Nat) :
    {k | p k}.encard = n ↔ ∀ k, p k ↔ k < n := by
  classical
  have below : ∀ m : Nat, (∀ k, p k ↔ k < m) → {k | p k}.encard = m := by
    intro m h
    have same : {k | p k} = (Finset.range m : Set Nat) := by
      ext k
      simp [h k]
    rw [same, Set.encard_coe_eq_coe_finsetCard, Finset.card_range]
  refine ⟨fun count => ?_, below n⟩
  by_cases all : ∀ k, p k
  · have infinite : {k | p k}.encard = ⊤ := by
      have every : {k | p k} = Set.univ := Set.eq_univ_of_forall all
      rw [every]
      exact Set.encard_eq_top Set.infinite_univ
    rw [infinite] at count
    exact absurd count.symm (ENat.natCast_ne_top n)
  · -- The first index at which `p` fails is the count.
    rw [not_forall] at all
    have first : ∀ k, p k ↔ k < Nat.find all := by
      intro k
      constructor
      · intro h
        by_contra beyond
        exact Nat.find_spec all (down _ k (by omega) h)
      · intro lt
        exact not_not.1 (Nat.find_min all lt)
    have found := below _ first
    rw [count] at found
    have same : n = Nat.find all := by exact_mod_cast found
    rwa [same]

theorem failures_eq_iff (s : σ) (i : Fin batch.length) (n : Nat) :
    failures service batch s i = n ↔
      ∀ k, i ∈ (trip service batch (allCalls batch) s k).left batch ↔ k < n :=
  encard_eq_iff_of_downward (fun _ _ le h => left_antitone _ _ le h) n

/-- Each of the calls is left unanswered by exactly the first `f` round trips. -/
def Fails (service : Service σ) (batch : Batch τ) (calls : List (Fin batch.length)) (s : σ)
    (f : Fin batch.length → Nat) : Prop :=
  ∀ i ∈ calls, ∀ k, i ∈ (trip service batch calls s k).left batch ↔ k < f i

theorem Fails.left_eq {calls : List (Fin batch.length)} {s : σ} {f : Fin batch.length → Nat}
    (h : Fails service batch calls s f) :
    (send service batch calls s).1.left batch = calls.filter fun i => decide (0 < f i) := by
  refine List.filter_congr fun i (mem : i ∈ calls) => ?_
  have zero := h i mem 0
  rw [Trip.mem_left] at zero
  change i ∈ calls ∧ ((send service batch calls s).1.reply batch i).isOk = false ↔ 0 < f i at zero
  rw [and_iff_right mem] at zero
  rw [Bool.eq_iff_iff, Bool.not_eq_true', decide_eq_true_iff]
  exact zero

theorem Fails.mem_left {calls : List (Fin batch.length)} {s : σ} {f : Fin batch.length → Nat}
    (h : Fails service batch calls s f) {i : Fin batch.length} :
    i ∈ (send service batch calls s).1.left batch ↔ i ∈ calls ∧ 0 < f i := by
  rw [h.left_eq, List.mem_filter, decide_eq_true_eq]

theorem left_nodup {t : Trip batch.length} (distinct : t.calls.Nodup) : (t.left batch).Nodup := distinct.filter _

theorem Fails.next {calls : List (Fin batch.length)} {s : σ} {f : Fin batch.length → Nat}
    (h : Fails service batch calls s f) :
    Fails service batch ((send service batch calls s).1.left batch) (send service batch calls s).2
      fun i => f i - 1 := by
  intro i mem k
  have earlier := h i (Trip.mem_left.1 mem).1 (k + 1)
  rw [trip] at earlier
  rw [earlier]
  dsimp only
  omega

/-! ## One round trip -/

/-- A check that carries its place in the batch. -/
def place (batch : Batch τ) (i : Fin batch.length) : Check (Fin batch.length × τ) :=
  ⟨batch[i].run, (i, batch[i].owner)⟩

/-- The batch with the place of every call. -/
def placed (batch : Batch τ) : Batch (Fin batch.length × τ) := (allCalls batch).map (place batch)

/-- Takes answers in as `receive` does, and notes which call heard which answer. -/
def noting (receive : β → τ → Answer Json → Act σ β) (b : β × List (ι × Answer Json)) (owner : ι × τ)
    (answer : Answer Json) : Act σ (β × List (ι × Answer Json)) := do
  let taken ← receive b.1 owner.2 answer
  pure (taken, b.2 ++ [(owner.1, answer)])

/-- To take an answer in always ends, and makes no request. -/
def Passive (receive : β → τ → Answer Json → Act σ β) : Prop :=
  ∀ b owner answer w, ∃ b' log, receive b owner answer w = some (b', { w with log })

theorem reply_cons_of_ne {i c : Fin batch.length} (ne : i ≠ c) (rest : List (Fin batch.length)) (a : Answer Json)
    (answers : List (Answer Json)) :
    Trip.reply batch ⟨c :: rest, a :: answers⟩ i = Trip.reply batch ⟨rest, answers⟩ i := by
  simp only [Trip.reply, List.idxOf_cons_ne rest ne.symm, Nat.succ_eq_add_one, List.getElem?_cons_succ]

theorem pair_place {calls : List (Fin batch.length)} (distinct : calls.Nodup) (answers : List (Answer Json)) :
    pair (calls.map (place batch)) answers =
      calls.map fun i => (place batch i, Trip.reply batch ⟨calls, answers⟩ i) := by
  induction calls generalizing answers with
  | nil => rfl
  | cons c rest ih =>
    obtain ⟨fresh, distinct⟩ := List.nodup_cons.1 distinct
    have ne : ∀ i ∈ rest, i ≠ c := fun i mem same => fresh (same ▸ mem)
    cases answers with
    | nil =>
      have none : ∀ i, Trip.reply batch ⟨c :: rest, []⟩ i = .error (unanswered batch[i].run) := fun i => rfl
      rw [List.map_cons, pair, ih distinct [], List.map_cons, none c]
      rfl
    | cons a answers =>
      have head : Trip.reply batch ⟨c :: rest, a :: answers⟩ c = a := by simp [Trip.reply]
      rw [List.map_cons, pair, ih distinct answers, List.map_cons, head]
      congr 1
      exact List.map_congr_left fun i mem => by rw [reply_cons_of_ne (ne i mem)]

theorem retries_place (t : Trip batch.length) :
    retries (t.calls.map fun i => (place batch i, t.reply batch i)) = (t.left batch).map (place batch) := by
  simp only [retries, List.filter_map, List.map_map, Trip.left]
  congr 1
  refine List.filter_congr fun i _ => ?_
  dsimp only [Function.comp_apply]
  cases t.reply batch i <;> rfl

theorem deliver_noting {receive : β → τ → Answer Json → Act σ β} (passive : Passive receive)
    (reply : Fin batch.length → Answer Json) (calls : List (Fin batch.length)) (b : β)
    (notes : List (Fin batch.length × Answer Json)) (w : World σ) :
    ∃ b' log, deliver (noting receive) (b, notes) (calls.map fun i => (place batch i, reply i)) w =
      some ((b', notes ++ calls.map fun i => (i, reply i)), { w with log }) := by
  induction calls generalizing b notes w with
  | nil => exact ⟨b, w.log, by simp [deliver]⟩
  | cons i rest ih =>
    obtain ⟨b₁, log₁, taken⟩ := passive b batch[i].owner (reply i) w
    obtain ⟨b₂, log₂, later⟩ := ih b₁ (notes ++ [(i, reply i)]) { w with log := log₁ }
    refine ⟨b₂, log₂, ?_⟩
    rw [List.append_assoc] at later
    rw [List.map_cons, deliver, Act.bind_eq_some]
    refine ⟨_, _, ?_, later⟩
    rw [noting, Act.bind_eq_some]
    exact ⟨b₁, _, taken, Act.pure_eq_some.2 ⟨rfl, rfl⟩⟩

theorem execute_of_deliver {receive : β → τ → Answer Json → Act σ β} {b b' : β} {batch : Batch τ} {w w' : World σ}
    {ids : List String} {answered : List (Check τ × Answer Json)} (some_ : batch ≠ []) (asks : runs batch = ids)
    (answers : pair batch (service.statuses ids w.remote).1 = answered)
    (delivered : deliver receive b answered
      { w with remote := (service.statuses ids w.remote).2, calls := w.calls ++ [.statuses ids] } = some (b', w')) :
    ∃ log, execute service receive b batch w = some ((b', retries answered), { w' with log }) := by
  subst asks answers
  rw [execute_eq some_]
  simp only [Act.bind_eq_some]
  exact ⟨_, _, _, rfl, _, _, delivered, _, _, rfl, rfl⟩

/-- One round trip sends the calls in their order, hands each its reply, and keeps those that are left. -/
theorem execute_noting (service : Service σ) {receive : β → τ → Answer Json → Act σ β} (passive : Passive receive)
    {calls : List (Fin batch.length)} (distinct : calls.Nodup) (some_ : calls ≠ []) (b : β)
    (notes : List (Fin batch.length × Answer Json)) (w : World σ) :
    ∃ b' log, execute service (noting receive) (b, notes) (calls.map (place batch)) w =
      some (((b', notes ++ (send service batch calls w.remote).1.notes batch),
        ((send service batch calls w.remote).1.left batch).map (place batch)), sent service batch calls w log) := by
  have asks : runs (calls.map (place batch)) = asked batch calls := by
    simp only [runs, asked, List.map_map]
    rfl
  obtain ⟨b', log, delivered⟩ := deliver_noting passive ((send service batch calls w.remote).1.reply batch) calls b
    notes (sent service batch calls w w.log)
  have answers := pair_place distinct (send service batch calls w.remote).1.answers
  obtain ⟨log', executed⟩ := execute_of_deliver (by simpa using some_) asks answers delivered
  have kept := retries_place (send service batch calls w.remote).1
  rw [← kept]
  exact ⟨b', log', executed⟩

/-! ## Notes change nothing -/

def unplaced (batch : Batch (ι × τ)) : Batch τ := batch.map fun check => ⟨check.run, check.owner.2⟩

theorem unplaced_placed (batch : Batch τ) : unplaced (placed batch) = batch := by
  simp only [unplaced, placed, allCalls, List.map_map]
  exact List.map_getElem_finRange batch

theorem drain_unplaced (service : Service σ) (receive : β → τ → Answer Json → Act σ β) (rounds : Nat) (b : β)
    (notes : List (ι × Answer Json)) (batch : Batch (ι × τ)) :
    Prod.fst <$> drain service (noting receive) rounds (b, notes) batch =
      drain service receive rounds b (unplaced batch) := by
  have maps : Maps (noting receive) receive Prod.fst (Prod.snd : ι × τ → τ) (fun _ => True) batch :=
    ⟨fun _ _ _ _ _ _ _ _ _ => trivial, fun _ _ _ _ _ => by simp [noting]⟩
  exact funext fun w => (drain_map service rounds maps trivial w).symm

/-- A drain without notes is one with notes that are thrown away. -/
theorem drain_noted {receive : β → τ → Answer Json → Act σ β} {rounds : Nat} {b b' : β} {batch : Batch τ}
    {w w' : World σ} : drain service receive rounds b batch w = some (b', w') ↔
      ∃ notes, drain service (noting receive) rounds (b, []) (placed batch) w = some ((b', notes), w') := by
  have same := drain_unplaced service receive rounds b [] (placed batch)
  rw [unplaced_placed] at same
  rw [← same, map_eq_pure_bind, Act.bind_eq_some]
  constructor
  · rintro ⟨⟨_, notes⟩, _, run, kept⟩
    obtain ⟨rfl, rfl⟩ := Act.pure_eq_some.1 kept
    exact ⟨notes, run⟩
  · rintro ⟨notes, run⟩
    exact ⟨_, _, run, rfl⟩

/-! ## All round trips -/

def heardBy [DecidableEq ι] (notes : List (ι × Answer Json)) (i : ι) : List (Answer Json) :=
  (notes.filter fun note => decide (note.1 = i)).map (·.2)

theorem heardBy_append [DecidableEq ι] (notes more : List (ι × Answer Json)) (i : ι) :
    heardBy (notes ++ more) i = heardBy notes i ++ heardBy more i := by
  rw [heardBy, List.filter_append, List.map_append, heardBy, heardBy]

theorem heardBy_notes {t : Trip batch.length} (distinct : t.calls.Nodup) (i : Fin batch.length) :
    heardBy (t.notes batch) i = if i ∈ t.calls then [t.reply batch i] else [] := by
  have only : t.calls.filter (fun j => decide (j = i)) = if i ∈ t.calls then [i] else [] := by
    rw [List.filter_eq, distinct.count]
    split <;> rfl
  rw [heardBy, Trip.notes, List.filter_map, List.map_map]
  change (t.calls.filter fun j => decide (j = i)).map (t.reply batch) = _
  rw [only]
  split <;> rfl

/-- The round trips that it takes until each of the calls is answered. -/
def needed {size : Nat} (calls : List (Fin size)) (f : Fin size → Nat) : Nat := calls.toFinset.sup fun i => f i + 1

theorem needed_le_iff {size : Nat} (calls : List (Fin size)) (f : Fin size → Nat) (m : Nat) :
    needed calls f ≤ m ↔ ∀ i ∈ calls, f i < m := by
  simp [needed, Finset.sup_le_iff]

theorem needed_succ {size : Nat} {calls : List (Fin size)} (some_ : calls ≠ []) (f : Fin size → Nat) :
    needed calls f = needed (calls.filter fun i => decide (0 < f i)) (fun i => f i - 1) + 1 := by
  obtain ⟨c, mem⟩ := List.exists_mem_of_ne_nil calls some_
  refine eq_of_forall_ge_iff fun m => ?_
  cases m with
  | zero =>
    have positive : ¬ needed calls f ≤ 0 := fun le => absurd ((needed_le_iff calls f 0).1 le c mem) (Nat.not_lt_zero _)
    omega
  | succ m =>
    rw [Nat.succ_le_succ_iff, needed_le_iff, needed_le_iff]
    simp only [List.mem_filter, decide_eq_true_eq, and_imp]
    constructor
    · intro h i mem positive
      have := h i mem
      omega
    · intro h i mem
      by_cases positive : 0 < f i
      · have := h i mem positive
        omega
      · omega

theorem roundTrips_eq (f : Fin batch.length → Nat) : roundTrips batch f = needed (allCalls batch) f := by
  cases batch with
  | nil => rfl
  | cons check rest =>
    refine eq_of_forall_ge_iff fun m => ?_
    rw [needed_le_iff, roundTrips]
    simp only [List.isEmpty_cons, Bool.false_eq_true, if_false, allCalls, List.mem_finRange, true_imp_iff]
    cases m with
    | zero =>
      constructor
      · omega
      · intro h
        exact absurd (h ⟨0, by simp⟩) (Nat.not_lt_zero _)
    | succ m =>
      rw [Nat.add_comm, Nat.succ_le_succ_iff, Finset.sup_le_iff]
      simp

/-- What a drain leaves behind: the requests that it made, and what each call heard. -/
structure Drained (service : Service σ) (batch : Batch τ) (calls : List (Fin batch.length))
    (f : Fin batch.length → Nat) (w : World σ) (notes : List (Fin batch.length × Answer Json)) (w' : World σ) :
    Prop where
  requests : w'.calls = w.calls ++ (List.range (needed calls f)).map
    fun k => .statuses (asked batch (calls.filter fun i => decide (k ≤ f i)))
  remote : w'.remote = after service batch calls w.remote (needed calls f)
  hears : ∀ i, heardBy notes i =
    if i ∈ calls then (List.range (f i + 1)).map fun k => (trip service batch calls w.remote k).reply batch i else []

theorem Drained.nil (f : Fin batch.length → Nat) (w : World σ) : Drained service batch [] f w [] w where
  requests := by simp [needed]
  remote := rfl
  hears := by simp [heardBy]

theorem Drained.cons {calls : List (Fin batch.length)} {f : Fin batch.length → Nat} {w w' : World σ}
    {notes : List (Fin batch.length × Answer Json)} {log : List LogEntry} (distinct : calls.Nodup)
    (some_ : calls ≠ []) (fails : Fails service batch calls w.remote f)
    (later : Drained service batch ((send service batch calls w.remote).1.left batch) (fun i => f i - 1)
      (sent service batch calls w log) notes w') :
    Drained service batch calls f w ((send service batch calls w.remote).1.notes batch ++ notes) w' where
  requests := by
    have again : ∀ k, ((send service batch calls w.remote).1.left batch).filter (fun i => decide (k ≤ f i - 1)) =
        calls.filter fun i => decide (k + 1 ≤ f i) := by
      intro k
      rw [fails.left_eq, List.filter_filter]
      refine List.filter_congr fun i _ => ?_
      rw [← Bool.decide_and, decide_eq_decide]
      omega
    have all : calls.filter (fun i => decide (0 ≤ f i)) = calls := by simp
    have first : (sent service batch calls w log).calls = w.calls ++ [.statuses (asked batch calls)] := rfl
    rw [later.requests, first, needed_succ some_, ← fails.left_eq, List.range_succ_eq_map, List.map_cons, List.map_map,
      all, List.append_assoc]
    refine congrArg (w.calls ++ _ :: ·) (List.map_congr_left fun k _ => ?_)
    rw [again k]
    rfl
  remote := by
    rw [later.remote, needed_succ some_, ← fails.left_eq]
    rfl
  hears := by
    intro i
    have first : heardBy ((send service batch calls w.remote).1.notes batch) i =
        if i ∈ calls then [(send service batch calls w.remote).1.reply batch i] else [] := heardBy_notes distinct i
    rw [heardBy_append, first, later.hears i]
    simp only [fails.mem_left]
    by_cases mem : i ∈ calls
    · cases count : f i with
      | zero => simp [mem, trip]
      | succ n =>
        simp only [mem, Nat.succ_pos, and_self, if_true, Nat.add_sub_cancel]
        rw [List.range_succ_eq_map (n := n + 1), List.map_cons, List.map_map, List.singleton_append]
        rfl
    · simp [mem]

/-- What a drain does that is given rounds enough, by induction on a bound of the failures. -/
theorem drain_noting {receive : β → τ → Answer Json → Act σ β} (passive : Passive receive) (bound : Nat) :
    ∀ (calls : List (Fin batch.length)) (f : Fin batch.length → Nat) (b : β)
      (notes : List (Fin batch.length × Answer Json)) (w : World σ),
      calls.Nodup → Fails service batch calls w.remote f → (∀ i ∈ calls, f i < bound) →
      ∃ b' new w', Drained service batch calls f w new w' ∧
        ∀ rounds, (∀ i ∈ calls, f i < rounds) →
          drain service (noting receive) rounds (b, notes) (calls.map (place batch)) w =
            some ((b', notes ++ new), w') := by
  induction bound with
  | zero =>
    intro calls f b notes w _ _ within
    obtain rfl : calls = [] := List.eq_nil_iff_forall_not_mem.2 fun i mem => absurd (within i mem) (Nat.not_lt_zero _)
    refine ⟨b, [], w, .nil f w, fun rounds _ => ?_⟩
    simp [drain_nil]
  | succ bound ih =>
    intro calls f b notes w distinct fails within
    by_cases some_ : calls = []
    · subst some_
      refine ⟨b, [], w, .nil f w, fun rounds _ => ?_⟩
      simp [drain_nil]
    obtain ⟨b₁, log, first⟩ := execute_noting service passive distinct some_ b notes w
    have below : ∀ i ∈ (send service batch calls w.remote).1.left batch, f i - 1 < bound := by
      intro i mem
      obtain ⟨old, positive⟩ := fails.mem_left.1 mem
      have lt := within i old
      omega
    obtain ⟨b₂, new, w', drained, later⟩ := ih _ (fun i => f i - 1) b₁
      (notes ++ (send service batch calls w.remote).1.notes batch) (sent service batch calls w log)
      (left_nodup distinct) fails.next below
    refine ⟨b₂, _, w', drained.cons distinct some_ fails, fun rounds enough => ?_⟩
    obtain ⟨c, mem⟩ := List.exists_mem_of_ne_nil calls some_
    have positive := enough c mem
    obtain ⟨rest, rfl⟩ : ∃ rest, rounds = rest + 1 := ⟨rounds - 1, by omega⟩
    rw [drain_succ (by simpa using some_), Act.bind_eq_some]
    refine ⟨_, _, first, ?_⟩
    rw [← List.append_assoc]
    refine later rest fun i mem => ?_
    obtain ⟨old, positive⟩ := fails.mem_left.1 mem
    have lt := enough i old
    change f i - 1 < rest
    omega

theorem drain_eq_none {receive : β → τ → Answer Json → Act σ β} (passive : Passive receive) (rounds : Nat) :
    ∀ (calls : List (Fin batch.length)) (f : Fin batch.length → Nat) (b : β)
      (notes : List (Fin batch.length × Answer Json)) (w : World σ),
      calls.Nodup → Fails service batch calls w.remote f → (∃ i ∈ calls, rounds ≤ f i) →
      drain service (noting receive) rounds (b, notes) (calls.map (place batch)) w = none := by
  induction rounds with
  | zero =>
    rintro calls f b notes w _ _ ⟨i, mem, -⟩
    obtain ⟨c, rest, rfl⟩ := List.exists_cons_of_ne_nil (List.ne_nil_of_mem mem)
    rfl
  | succ rounds ih =>
    rintro calls f b notes w distinct fails ⟨i, mem, few⟩
    have some_ : calls ≠ [] := List.ne_nil_of_mem mem
    obtain ⟨b₁, log, first⟩ := execute_noting service passive distinct some_ b notes w
    have open_ : i ∈ (send service batch calls w.remote).1.left batch := by
      rw [fails.mem_left]
      exact ⟨mem, by omega⟩
    have later := ih _ (fun i => f i - 1) b₁ (notes ++ (send service batch calls w.remote).1.notes batch)
      (sent service batch calls w log) (left_nodup distinct) fails.next ⟨i, open_, by omega⟩
    rw [drain_succ (by simpa using some_)]
    change Option.bind _ _ = none
    rw [first]
    exact later

theorem trip_nil_calls (s : σ) (k : Nat) : (trip service batch [] s k).calls = [] := by
  induction k generalizing s with
  | zero => rfl
  | succ k ih => exact ih _

/-- When a drain has ended, a round trip more would carry no call. -/
theorem trip_calls_of_drain {receive : β → τ → Answer Json → Act σ β} (passive : Passive receive) (rounds : Nat) :
    ∀ {calls : List (Fin batch.length)} {b : β} {notes : List (Fin batch.length × Answer Json)} {w : World σ}
      {out : (β × List (Fin batch.length × Answer Json)) × World σ}, calls.Nodup →
      drain service (noting receive) rounds (b, notes) (calls.map (place batch)) w = some out →
      (trip service batch calls w.remote rounds).calls = [] := by
  induction rounds with
  | zero =>
    intro calls b notes w out _ ended
    cases calls with
    | nil => rfl
    | cons c rest => cases ended
  | succ rounds ih =>
    intro calls b notes w out distinct ended
    by_cases some_ : calls = []
    · subst some_
      exact trip_nil_calls w.remote (rounds + 1)
    · obtain ⟨b₁, log, first⟩ := execute_noting service passive distinct some_ b notes w
      rw [drain_succ (by simpa using some_), Act.bind_eq_some] at ended
      obtain ⟨_, _, executed, ended⟩ := ended
      rw [first] at executed
      cases executed
      exact ih (left_nodup distinct) ended

/-- A drain ends only if every call fails finitely often. -/
theorem failures_finite_of_drain {receive : β → τ → Answer Json → Act σ β} (passive : Passive receive) {rounds : Nat}
    {b : β} {w : World σ} {out : (β × List (Fin batch.length × Answer Json)) × World σ}
    (ended : drain service (noting receive) rounds (b, []) (placed batch) w = some out) (i : Fin batch.length) :
    ∃ n : Nat, failures service batch w.remote i = n := by
  have none := trip_calls_of_drain passive rounds (List.nodup_finRange _) ended
  have below : {k | i ∈ (trip service batch (allCalls batch) w.remote k).left batch} ⊆ {k | k < rounds} := by
    intro k left
    by_contra late
    have carried := (Trip.mem_left.1 (left_antitone (allCalls batch) w.remote (not_lt.1 late) left)).1
    change i ∈ (trip service batch (List.finRange _) w.remote rounds).calls at carried
    rw [none] at carried
    cases carried
  have finite := (Set.finite_lt_nat rounds).subset below
  exact ⟨_, finite.encard_eq_coe_toFinset_card⟩

/-- What a drain leaves behind that has ended. -/
theorem drained_of_drain {receive : β → τ → Answer Json → Act σ β} (passive : Passive receive) {rounds : Nat}
    {b b' : β} {w w' : World σ} {notes : List (Fin batch.length × Answer Json)}
    (ended : drain service (noting receive) rounds (b, []) (placed batch) w = some ((b', notes), w')) :
    ∃ f : Fin batch.length → Nat, (∀ i, failures service batch w.remote i = f i) ∧
      Drained service batch (allCalls batch) f w notes w' := by
  choose f fails using failures_finite_of_drain passive ended
  have failing : Fails service batch (allCalls batch) w.remote f :=
    fun i _ => (failures_eq_iff w.remote i (f i)).1 (fails i)
  have distinct : (allCalls batch).Nodup := List.nodup_finRange _
  refine ⟨f, fails, ?_⟩
  obtain ⟨b₁, notes₁, w₁, drained, ends⟩ := drain_noting passive (needed (allCalls batch) f) (allCalls batch) f b [] w
    distinct failing fun i mem => (needed_le_iff _ f _).1 le_rfl i mem
  have enough : ∀ i ∈ allCalls batch, f i < rounds := by
    by_contra few
    push Not at few
    have unfinished := drain_eq_none passive rounds (allCalls batch) f b [] w distinct failing few
    change drain service (noting receive) rounds (b, []) (placed batch) w = none at unfinished
    rw [unfinished] at ended
    cases ended
  have same := ends rounds enough
  change drain service (noting receive) rounds (b, []) (placed batch) w = _ at same
  rw [ended] at same
  cases same
  exact drained

/-- The calls that `k` round trips leave unanswered, in the order in which they were queued. -/
def waiting (batch : Batch τ) (f : Fin batch.length → Nat) (k : Nat) : List (Fin batch.length) :=
  (allCalls batch).filter fun i => decide (k ≤ f i)

theorem Fails.trip_calls {calls : List (Fin batch.length)} {s : σ} {f : Fin batch.length → Nat}
    (h : Fails service batch calls s f) (k : Nat) :
    (trip service batch calls s k).calls = calls.filter fun i => decide (k ≤ f i) := by
  induction k with
  | zero => simp [trip, send]
  | succ k ih =>
    rw [trip_succ_calls, Trip.left, ih, List.filter_filter]
    refine List.filter_congr fun i mem => ?_
    have left := h i mem k
    rw [Trip.mem_left, ih, List.mem_filter, decide_eq_true_iff] at left
    rw [Bool.eq_iff_iff, Bool.and_eq_true, Bool.not_eq_true', decide_eq_true_iff, decide_eq_true_iff, Nat.succ_le_iff,
      ← left]
    constructor
    · intro ⟨error, open_⟩
      exact ⟨⟨mem, open_⟩, error⟩
    · intro ⟨⟨_, open_⟩, error⟩
      exact ⟨error, open_⟩

theorem Trip.answer_of_reply {t : Trip batch.length} {i : Fin batch.length} {document : Json}
    (reply : t.reply batch i = .ok document) : t.answers[t.calls.idxOf i]? = some (.ok document) := by
  rw [Trip.reply] at reply
  cases answer : t.answers[t.calls.idxOf i]? with
  | none =>
    rw [answer] at reply
    cases reply
  | some a =>
    rw [answer] at reply
    exact congrArg some reply

theorem Fails.reply_early {calls : List (Fin batch.length)} {s : σ} {f : Fin batch.length → Nat}
    (h : Fails service batch calls s f) {i : Fin batch.length} (mem : i ∈ calls) {k : Nat} (early : k < f i) :
    ∃ cause, (trip service batch calls s k).reply batch i = .error cause := by
  have left := (Trip.mem_left.1 ((h i mem k).2 early)).2
  cases reply : (trip service batch calls s k).reply batch i with
  | error cause => exact ⟨cause, rfl⟩
  | ok document =>
    rw [reply] at left
    cases left

theorem Fails.reply_last {calls : List (Fin batch.length)} {s : σ} {f : Fin batch.length → Nat}
    (h : Fails service batch calls s f) {i : Fin batch.length} (mem : i ∈ calls) :
    ∃ document, (trip service batch calls s (f i)).reply batch i = .ok document := by
  cases reply : (trip service batch calls s (f i)).reply batch i with
  | ok document => exact ⟨document, rfl⟩
  | error cause =>
    have carried : i ∈ (trip service batch calls s (f i)).calls := by
      rw [h.trip_calls, List.mem_filter]
      exact ⟨mem, by simp⟩
    have left : i ∈ (trip service batch calls s (f i)).left batch := by
      rw [Trip.mem_left, reply]
      exact ⟨carried, rfl⟩
    exact absurd ((h i mem (f i)).1 left) (lt_irrefl _)

/-- A call hears an error in each round trip that it fails in, and then its document. -/
theorem Fails.replies {calls : List (Fin batch.length)} {s : σ} {f : Fin batch.length → Nat}
    (h : Fails service batch calls s f) {i : Fin batch.length} (mem : i ∈ calls) :
    ∃ (failed : List ServiceError) (document : Json),
      ((List.range (f i + 1)).map fun k => (trip service batch calls s k).reply batch i) =
          failed.map .error ++ [.ok document] ∧
        failed.length = f i ∧
        (trip service batch calls s (f i)).answers[(trip service batch calls s (f i)).calls.idxOf i]? =
          some (.ok document) := by
  obtain ⟨document, last⟩ := h.reply_last mem
  have errors : ((List.range (f i)).map fun k => (trip service batch calls s k).reply batch i) ∈
      Set.range (List.map Except.error) := by
    rw [Set.range_list_map]
    intro answer heard
    obtain ⟨k, below, rfl⟩ := List.mem_map.1 heard
    obtain ⟨cause, reply⟩ := h.reply_early mem (List.mem_range.1 below)
    exact ⟨cause, reply.symm⟩
  obtain ⟨failed, all⟩ := errors
  have lengths := congrArg List.length all
  rw [List.length_map, List.length_map, List.length_range] at lengths
  refine ⟨failed, document, ?_, lengths, Trip.answer_of_reply last⟩
  rw [List.range_succ, List.map_append, ← all, List.map_singleton, last]

/-- A drain of calls that fail finitely often ends after as many round trips as the most unlucky call needs. Each
round trip asks about the calls that are still unanswered, in the order in which they were queued, and each call
hears all its failures and after them the one document in its own place. -/
theorem drain_delivers_once {receive : β → τ → Answer Json → Act σ β} (passive : Passive receive) (b : β)
    (batch : Batch τ) (w : World σ) (f : Fin batch.length → Nat)
    (fails : ∀ i, failures service batch w.remote i = f i) :
    ∃ b' notes w',
      (∀ rounds, roundTrips batch f ≤ rounds →
        drain service receive rounds b batch w = some (b', w') ∧
          drain service (noting receive) rounds (b, []) (placed batch) w = some ((b', notes), w')) ∧
      (∀ rounds < roundTrips batch f, drain service receive rounds b batch w = none) ∧
      w'.calls = w.calls ++ ((List.range (roundTrips batch f)).map fun k =>
        Call.statuses (asked batch (waiting batch f k))) ∧
      ∀ i, ∃ (failed : List ServiceError) (document : Json),
        heardBy notes i = failed.map .error ++ [.ok document] ∧ failed.length = f i ∧
          (trip service batch (allCalls batch) w.remote (f i)).answers[(waiting batch f (f i)).idxOf i]? =
            some (.ok document) := by
  have failing : Fails service batch (allCalls batch) w.remote f :=
    fun i _ => (failures_eq_iff w.remote i (f i)).1 (fails i)
  have distinct : (allCalls batch).Nodup := List.nodup_finRange _
  have every : ∀ i, i ∈ allCalls batch := List.mem_finRange
  -- A drain without notes is one with notes that are thrown away.
  have plain : ∀ rounds, drain service receive rounds b batch w =
      (drain service (noting receive) rounds (b, []) (placed batch) w).map fun out => (out.1.1, out.2) := by
    intro rounds
    have same := drain_unplaced service receive rounds b [] (placed batch)
    rw [unplaced_placed] at same
    rw [← same]
    change Option.bind _ _ = Option.map _ _
    cases drain service (noting receive) rounds (b, []) (placed batch) w <;> rfl
  obtain ⟨b', notes, w', drained, ends⟩ := drain_noting passive (needed (allCalls batch) f) (allCalls batch) f b [] w
    distinct failing fun i mem => (needed_le_iff _ f _).1 le_rfl i mem
  refine ⟨b', notes, w', ?_, ?_, ?_, ?_⟩
  · intro rounds enough
    rw [roundTrips_eq, needed_le_iff] at enough
    have ended := ends rounds enough
    rw [plain]
    change drain service (noting receive) rounds (b, []) (placed batch) w = some ((b', notes), w') at ended
    rw [ended]
    exact ⟨rfl, rfl⟩
  · intro rounds few
    rw [roundTrips_eq, ← not_le, needed_le_iff] at few
    push Not at few
    have unfinished := drain_eq_none passive rounds (allCalls batch) f b [] w distinct failing few
    rw [plain]
    change drain service (noting receive) rounds (b, []) (placed batch) w = none at unfinished
    rw [unfinished]
    rfl
  · rw [roundTrips_eq]
    exact drained.requests
  · intro i
    obtain ⟨failed, document, heard, length, answer⟩ := failing.replies (every i)
    have hears := drained.hears i
    rw [if_pos (every i)] at hears
    rw [hears]
    rw [failing.trip_calls] at answer
    exact ⟨failed, document, heard, length, answer⟩

/-! ## The handlers in use -/

theorem passive_receive : Passive fun (job : ReportJob) label answer => job.receive (σ := σ) label answer := by
  intro job label answer w
  cases answer with
  | error cause => exact ⟨job, _, rfl⟩
  | ok document =>
    unfold ReportJob.receive
    dsimp only
    cases Run.decode document with
    | error cause => exact ⟨job, _, rfl⟩
    | ok run => exact ⟨_, _, rfl⟩

theorem passive_receiveAt : Passive (Job.receiveAt (σ := σ)) := by
  intro jobs slot answer w
  induction jobs generalizing slot w with
  | nil => exact ⟨[], w.log, rfl⟩
  | cons job rest ih =>
    obtain ⟨position, label⟩ := slot
    cases position with
    | zero =>
      cases job with
      | report job =>
        obtain ⟨job', log, taken⟩ := passive_receive job label answer w
        exact ⟨.report job' :: rest, log, Act.bind_eq_some.2 ⟨job', _, taken, rfl⟩⟩
      | group g members => exact ⟨.group g members :: rest, w.log, rfl⟩
    | succ position =>
      obtain ⟨rest', log, taken⟩ := ih ⟨position, label⟩ w
      refine ⟨job :: rest', log, ?_⟩
      rw [Job.receiveAt, Act.bind_eq_some]
      exact ⟨rest', _, taken, rfl⟩

/-! ## A batch that asks twice about one run -/

theorem failures_eq_of {s : σ} {i : Fin batch.length} {n : Nat}
    (before : ∀ k < n, i ∈ (trip service batch (allCalls batch) s k).left batch)
    (after : i ∉ (trip service batch (allCalls batch) s n).left batch) : failures service batch s i = n := by
  refine (failures_eq_iff s i n).2 fun k => ⟨fun left => ?_, before k⟩
  by_contra late
  exact after (left_antitone _ _ (not_lt.1 late) left)

def sampleJobs : List Job :=
  ["run-1", "run-2", "run-1"].map fun run => .report (ReportJob.sample.launched { id := run } 0)

def sampleChecks : Batch Slot := [⟨"run-1", 0, "first"⟩, ⟨"run-2", 1, "second"⟩, ⟨"run-1", 2, "third"⟩]

/-- The first check is answered with an error, and the third one not at all. -/
def sampleAnswers : Script :=
  { status := [("run-1", [.error (.transport "busy"), .ok (.named "Job Running")])], batchLimits := [2] }

def sampleFailures (i : Fin sampleChecks.length) : Nat := if i.val = 1 then 0 else 1

theorem sample_failures (i : Fin sampleChecks.length) :
    failures Script.service sampleChecks sampleAnswers i = sampleFailures i := by
  have counted : ∀ i : Fin sampleChecks.length,
      (∀ k < sampleFailures i, i ∈ (trip Script.service sampleChecks (allCalls sampleChecks) sampleAnswers k).left
        sampleChecks) ∧
      i ∉ (trip Script.service sampleChecks (allCalls sampleChecks) sampleAnswers (sampleFailures i)).left
        sampleChecks := by
    decide +kernel
  exact failures_eq_of (counted i).1 (counted i).2

theorem drain_delivers_once_sample : (∀ i, failures Script.service sampleChecks sampleAnswers i = sampleFailures i) ∧
    ∃ jobs notes w',
      (∀ rounds, 2 ≤ rounds →
        drain Script.service Job.receiveAt rounds sampleJobs sampleChecks { remote := sampleAnswers } =
            some (jobs, w') ∧
          drain Script.service (noting Job.receiveAt) rounds (sampleJobs, []) (placed sampleChecks)
            { remote := sampleAnswers } = some ((jobs, notes), w')) ∧
      w'.calls = [.statuses ["run-1", "run-2", "run-1"], .statuses ["run-1", "run-1"]] ∧
      ∀ i, ∃ (failed : List ServiceError) (document : Json), heardBy notes i = failed.map .error ++ [.ok document] ∧
        failed.length = sampleFailures i := by
  obtain ⟨jobs, notes, w', ends, -, requests, hears⟩ :=
    drain_delivers_once passive_receiveAt sampleJobs sampleChecks { remote := sampleAnswers } sampleFailures
      sample_failures
  refine ⟨sample_failures, jobs, notes, w', ends, requests, fun i => ?_⟩
  obtain ⟨failed, document, heard, length, -⟩ := hears i
  exact ⟨failed, document, heard, length⟩

end AsyncReports.Batch
