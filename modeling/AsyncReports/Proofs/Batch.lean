import AsyncReports.Batch
import AsyncReports.Proofs.Ensures

set_option autoImplicit false

/-!
# What a batch does to its holder

The holder of a batch only changes by taking in answers, so that what every answer leads to is what a whole drain
leads to. A check only gets the answer in its own place, and only checks of the batch are sent again. Two holders who
take answers in alike are led to the same.
-/

namespace AsyncReports.Batch

variable {σ τ τ' β γ : Type} {service : Service σ} {receive : β → τ → Answer Json → Act σ β}
  {p : β → Prop} {r : β → β → Prop}

theorem execute_eq {batch : Batch τ} (some_ : batch ≠ []) (receive : β → τ → Answer Json → Act σ β) (b : β) :
    execute service receive b batch = (do
      let answers ← service.statusesOf (runs batch)
      let b ← deliver receive b (pair batch answers)
      let retry := retries (pair batch answers)
      Act.log (if retry.isEmpty then [] else [retryEntry retry])
      pure (b, retry)) := by
  obtain ⟨check, rest, rfl⟩ := List.exists_cons_of_ne_nil some_
  rfl

theorem drain_nil (receive : β → τ → Answer Json → Act σ β) (rounds : Nat) (b : β) :
    drain service receive rounds b [] = pure b := by
  cases rounds <;> rfl

theorem drain_succ {batch : Batch τ} (some_ : batch ≠ []) (receive : β → τ → Answer Json → Act σ β) (rounds : Nat)
    (b : β) :
    drain service receive (rounds + 1) b batch =
      execute service receive b batch >>= fun out => drain service receive rounds out.1 out.2 := by
  obtain ⟨check, rest, rfl⟩ := List.exists_cons_of_ne_nil some_
  rfl

theorem pair_checks (batch : Batch τ) (answers : List (Answer Json)) : (pair batch answers).map Prod.fst = batch := by
  induction batch generalizing answers with
  | nil => rfl
  | cons check rest ih =>
    cases answers with
    | nil => exact congrArg (check :: ·) (ih [])
    | cons answer answers => exact congrArg (check :: ·) (ih answers)

theorem retries_sublist_checks (answered : List (Check τ × Answer Json)) :
    (retries answered).Sublist (answered.map Prod.fst) :=
  List.filter_sublist.map Prod.fst

theorem retries_sublist (batch : Batch τ) (answers : List (Answer Json)) :
    (retries (pair batch answers)).Sublist batch := by
  have sublist := retries_sublist_checks (pair batch answers)
  rwa [pair_checks] at sublist

theorem retries_cons (pair : Check τ × Answer Json) (rest : List (Check τ × Answer Json)) :
    retries (pair :: rest) = retries [pair] ++ retries rest := by
  simp only [retries, ← List.map_append, ← List.filter_append, List.singleton_append]

/-- A check is paired with the answer in its place, or with an error if there is none. -/
theorem mem_pair {batch : Batch τ} {answers : List (Answer Json)} {check : Check τ} {answer : Answer Json}
    (mem : (check, answer) ∈ pair batch answers) :
    (∃ k : Nat, batch[k]? = some check ∧ answers[k]? = some answer) ∨ answer = .error (unanswered check.run) := by
  induction batch generalizing answers with
  | nil => cases mem
  | cons first rest ih =>
    cases answers with
    | nil =>
      rcases List.mem_cons.1 mem with same | later
      · cases same
        exact .inr rfl
      · rcases ih later with ⟨k, -, none⟩ | error
        · cases none
        · exact .inr error
    | cons answer' answers =>
      rcases List.mem_cons.1 mem with same | later
      · cases same
        exact .inl ⟨0, rfl, rfl⟩
      · rcases ih later with ⟨k, here, there⟩ | error
        · exact .inl ⟨k + 1, here, there⟩
        · exact .inr error

theorem deliver_keeps {answered : List (Check τ × Answer Json)}
    (step : ∀ check answer, (check, answer) ∈ answered → ∀ b w, p b →
      Act.Ensures (receive b check.owner answer) w fun b' _ => p b')
    {b : β} (before : p b) (w : World σ) : Act.Ensures (deliver receive b answered) w fun b' _ => p b' := by
  induction answered generalizing b w with
  | nil =>
    rw [deliver]
    exact Act.ensures_pure.2 before
  | cons head rest ih =>
    obtain ⟨check, answer⟩ := head
    rw [deliver, Act.ensures_bind]
    refine (step check answer List.mem_cons_self b w before).mono fun b₁ w₁ first => ?_
    exact ih (fun check answer mem => step check answer (List.mem_cons_of_mem _ mem)) first w₁

/-- What a round trip keeps, if every answer that it can bring keeps it. -/
theorem execute_keeps (service : Service σ) {batch : Batch τ}
    (step : ∀ s check answer, (check, answer) ∈ pair batch (service.statuses (runs batch) s).1 → ∀ b w, p b →
      Act.Ensures (receive b check.owner answer) w fun b' _ => p b')
    {b : β} (before : p b) (w : World σ) :
    Act.Ensures (execute service receive b batch) w fun out _ => p out.1 ∧ out.2.Sublist batch := by
  cases batch with
  | nil => exact Act.ensures_pure.2 ⟨before, List.Sublist.refl []⟩
  | cons check rest =>
    simp only [execute, Service.statusesOf, Act.ensures_bind, Act.ensures_call, Act.ensures_log, Act.ensures_pure]
    refine (deliver_keeps (step w.remote) before _).mono fun b' _ kept => ?_
    exact ⟨kept, retries_sublist _ _⟩

/-- What a drain keeps, if the answer to each of the checks keeps it. -/
theorem drain_keeps (service : Service σ) (rounds : Nat) {batch : Batch τ}
    (step : ∀ check ∈ batch, ∀ answer b w, p b → Act.Ensures (receive b check.owner answer) w fun b' _ => p b')
    {b : β} (before : p b) (w : World σ) : Act.Ensures (drain service receive rounds b batch) w fun b' _ => p b' := by
  induction rounds generalizing b batch w with
  | zero =>
    cases batch with
    | nil => exact Act.ensures_pure.2 before
    | cons check rest => exact Act.ensures_unfinished
  | succ rounds ih =>
    cases batch with
    | nil => exact Act.ensures_pure.2 before
    | cons check rest =>
      have queued : ∀ s c answer, (c, answer) ∈ pair (check :: rest) (service.statuses (runs (check :: rest)) s).1 →
          c ∈ check :: rest := by
        intro s c answer mem
        have checked := List.mem_map_of_mem (f := Prod.fst) mem
        rwa [pair_checks] at checked
      rw [drain, Act.ensures_bind]
      refine (execute_keeps service (fun s c answer mem => step c (queued s c answer mem) answer) before w).mono ?_
      rintro ⟨b₁, retry⟩ w₁ ⟨kept, fewer⟩
      exact ih (fun c mem => step c (fewer.subset mem)) kept w₁

theorem drain_ensures (service : Service σ) (refl : ∀ b, r b b) (trans : ∀ a b c, r a b → r b c → r a c)
    (step : ∀ b owner answer w, Act.Ensures (receive b owner answer) w fun b' _ => r b b')
    (rounds : Nat) (b : β) (batch : Batch τ) (w : World σ) :
    Act.Ensures (drain service receive rounds b batch) w fun b' _ => r b b' := by
  refine drain_keeps (p := r b) service rounds (fun check _ answer b₁ w₁ earlier => ?_) (refl b) w
  exact (step b₁ check.owner answer w₁).mono fun b₂ _ later => trans b b₁ b₂ earlier later

variable {receive' : γ → τ' → Answer Json → Act σ γ} {φ : β → γ} {ψ : τ → τ'}

/-! ## Two holders of one batch -/

def relabel (ψ : τ → τ') (batch : Batch τ) : Batch τ' := batch.map fun check => ⟨check.run, ψ check.owner⟩

@[simp] theorem relabel_id (batch : Batch τ) : relabel id batch = batch := List.map_id batch

/-- Two holders take the answers to some checks in alike, as long as `p` holds of the first of them. -/
structure Maps (receive : β → τ → Answer Json → Act σ β) (receive' : γ → τ' → Answer Json → Act σ γ)
    (φ : β → γ) (ψ : τ → τ') (p : β → Prop) (batch : Batch τ) : Prop where
  keeps : ∀ check ∈ batch, ∀ answer b w, p b → Act.Ensures (receive b check.owner answer) w fun b' _ => p b'
  same : ∀ check ∈ batch, ∀ answer b, p b → receive' (φ b) (ψ check.owner) answer = φ <$> receive b check.owner answer

theorem Maps.of_subset {batch retry : Batch τ} (h : Maps receive receive' φ ψ p batch) (fewer : retry ⊆ batch) :
    Maps receive receive' φ ψ p retry :=
  ⟨fun check mem => h.keeps check (fewer mem), fun check mem => h.same check (fewer mem)⟩

theorem pair_relabel (batch : Batch τ) (answers : List (Answer Json)) :
    pair (relabel ψ batch) answers = (pair batch answers).map fun p => (⟨p.1.run, ψ p.1.owner⟩, p.2) := by
  induction batch generalizing answers with
  | nil => rfl
  | cons check rest ih =>
    cases answers with
    | nil => exact congrArg (_ :: ·) (ih [])
    | cons a answers => exact congrArg (_ :: ·) (ih answers)

theorem retries_relabel (answered : List (Check τ × Answer Json)) :
    retries (answered.map fun p => (⟨p.1.run, ψ p.1.owner⟩, p.2)) = relabel ψ (retries answered) := by
  simp only [retries, relabel, List.filter_map, List.map_map]
  rfl

theorem deliver_map {answered : List (Check τ × Answer Json)}
    (maps : Maps receive receive' φ ψ p (answered.map Prod.fst)) {b : β} (before : p b) (w : World σ) :
    deliver receive' (φ b) (answered.map fun p => (⟨p.1.run, ψ p.1.owner⟩, p.2)) w =
      (φ <$> deliver receive b answered) w := by
  induction answered generalizing b w with
  | nil => simp [deliver]
  | cons head rest ih =>
    obtain ⟨check, answer⟩ := head
    rw [List.map_cons, deliver, deliver, maps.same check List.mem_cons_self answer b before, bind_map_left, map_bind]
    refine Act.bind_congr (maps.keeps check List.mem_cons_self answer b w before) fun b₁ w₁ kept => ?_
    exact ih (maps.of_subset (List.subset_cons_self _ _)) kept w₁

theorem execute_map (service : Service σ) {batch : Batch τ} (maps : Maps receive receive' φ ψ p batch) {b : β}
    (before : p b) (w : World σ) :
    execute service receive' (φ b) (relabel ψ batch) w =
      ((fun out => (φ out.1, relabel ψ out.2)) <$> execute service receive b batch) w := by
  by_cases some_ : batch = []
  · subst some_
    simp [execute, relabel]
  have some' : relabel ψ batch ≠ [] := by simpa [relabel] using some_
  have ids : runs (relabel ψ batch) = runs batch := by
    simp only [runs, relabel, List.map_map]
    rfl
  have entry : ∀ retry : Batch τ, (if (relabel ψ retry).isEmpty then [] else [retryEntry (relabel ψ retry)]) =
      if retry.isEmpty then [] else [retryEntry retry] := by
    simp [relabel, retryEntry]
  simp only [execute_eq some_, execute_eq some', map_bind, ids, pair_relabel, retries_relabel, entry]
  refine Act.bind_congr (fun _ _ _ => trivial) fun answers w₁ (_ : True) => ?_
  have all : Maps receive receive' φ ψ p ((pair batch answers).map Prod.fst) := by rwa [pair_checks]
  rw [Act.bind_congr_left (deliver_map all before w₁), bind_map_left]
  simp only [map_pure]

/-- Holders who take answers in alike drain a batch alike. -/
theorem drain_map (service : Service σ) (rounds : Nat) {batch : Batch τ} (maps : Maps receive receive' φ ψ p batch)
    {b : β} (before : p b) (w : World σ) :
    drain service receive' rounds (φ b) (relabel ψ batch) w = (φ <$> drain service receive rounds b batch) w := by
  induction rounds generalizing b batch w with
  | zero =>
    cases batch with
    | nil => simp [drain, relabel]
    | cons check rest => rfl
  | succ rounds ih =>
    by_cases some_ : batch = []
    · subst some_
      simp [drain, relabel]
    have some' : relabel ψ batch ≠ [] := by simpa [relabel] using some_
    rw [drain_succ some_, drain_succ some', map_bind, Act.bind_congr_left (execute_map service maps before w),
      bind_map_left]
    have kept : Act.Ensures (execute service receive b batch) w fun out _ => p out.1 ∧ out.2.Sublist batch := by
      refine execute_keeps service (fun s check answer mem => maps.keeps check ?_ answer) before w
      have checked := List.mem_map_of_mem (f := Prod.fst) mem
      rwa [pair_checks] at checked
    refine Act.bind_congr kept fun out w₁ ⟨kept, fewer⟩ => ?_
    exact ih (maps.of_subset fewer.subset) kept w₁

end AsyncReports.Batch
