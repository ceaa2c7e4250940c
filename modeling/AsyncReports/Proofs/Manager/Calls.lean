import AsyncReports.Proofs.Manager.Passes

set_option autoImplicit false

/-!
# Calls of a manager

A call of `next` fills an empty queue, makes passes until one finds something, and fills the queue again. Each of
the three parts can end it. A history is any number of calls of one manager, whatever came of the earlier ones and
whatever happened in the world in between.
-/

namespace AsyncReports.Manager

variable {σ : Type}

/-- The call begins with the queue as it is, or with one that was empty and has been filled. -/
inductive Opened (service : Service σ) (rounds : Nat) (m : Manager) (w : World σ) : Manager → World σ → Prop
  | busy (running : m.queue ≠ []) : Opened service rounds m w m w
  | filled {m₁ : Manager} {w₁ : World σ} (empty : m.queue = [])
    (opening : m.fill service rounds w = some ((m₁, .ok ()), w₁)) : Opened service rounds m w m₁ w₁

theorem Opened.unique {service : Service σ} {rounds : Nat} {m m₁ m₂ : Manager} {w w₁ w₂ : World σ}
    (h : Opened service rounds m w m₁ w₁) (h' : Opened service rounds m w m₂ w₂) : m₁ = m₂ ∧ w₁ = w₂ := by
  cases h with
  | busy running =>
    cases h' with
    | busy => exact ⟨rfl, rfl⟩
    | filled empty => exact absurd empty running
  | filled empty opening =>
    cases h' with
    | busy running => exact absurd empty running
    | filled _ opening' => simpa [opening] using opening'

/-- How a call came out, with the runs of its parts. -/
inductive NextRun (service : Service σ) (rounds : Nat) (m : Manager) (w : World σ) :
    Manager × Except JobError (Option (List Job)) → World σ → Prop
  | unopened {m' : Manager} {cause : JobError} {w' : World σ} (empty : m.queue = [])
    (opening : m.fill service rounds w = some ((m', .error cause), w')) :
    NextRun service rounds m w (m', .error cause) w'
  | ended {m' : Manager} {w' : World σ} (empty : m.queue = [])
    (opening : m.fill service rounds w = some ((m', .ok ()), w')) (still : m'.queue = []) :
    NextRun service rounds m w (m', .ok none) w'
  | interrupted {m₁ m' : Manager} {w₁ w' : World σ} {cause : JobError} (opened : Opened service rounds m w m₁ w₁)
    (running : m₁.queue ≠ [])
    (waiting : awaitCompleted service rounds rounds m₁ w₁ = some ((m', .error cause), w')) :
    NextRun service rounds m w (m', .error cause) w'
  | unclosed {m₁ m₂ m' : Manager} {w₁ w₂ w' : World σ} {done : List Job} {cause : JobError}
    (opened : Opened service rounds m w m₁ w₁) (running : m₁.queue ≠ [])
    (waiting : awaitCompleted service rounds rounds m₁ w₁ = some ((m₂, .ok done), w₂))
    (closing : m₂.fill service rounds w₂ = some ((m', .error cause), w')) :
    NextRun service rounds m w ({ m' with retired := m'.retired ++ done }, .error cause) w'
  | returned {m₁ m₂ m' : Manager} {w₁ w₂ w' : World σ} {done : List Job}
    (opened : Opened service rounds m w m₁ w₁) (running : m₁.queue ≠ [])
    (waiting : awaitCompleted service rounds rounds m₁ w₁ = some ((m₂, .ok done), w₂))
    (closing : m₂.fill service rounds w₂ = some ((m', .ok ()), w')) :
    NextRun service rounds m w (m', .ok (some done)) w'

theorem next_eq (service : Service σ) (rounds : Nat) (m : Manager) :
    m.next service rounds =
      (if m.queue.isEmpty then m.fill service rounds else pure (m, .ok ()) : Act σ (Outcome Manager)) >>=
        (fun out => match out.2 with
          | .error cause => pure (out.1, .error cause)
          | .ok () => if out.1.queue.isEmpty then pure (out.1, .ok none) else out.1.nextRunning service rounds) := by
  rw [next]
  split <;> rfl

theorem next_of_busy (service : Service σ) (rounds : Nat) {m : Manager} (busy : m.queue ≠ []) :
    m.next service rounds = m.nextRunning service rounds := by
  have full : m.queue.isEmpty = false := by simpa using busy
  simp only [next_eq, full, Bool.false_eq_true, if_false, pure_bind]

theorem nextRunning_ensures (service : Service σ) (rounds : Nat) {m m₁ : Manager} {w w₁ : World σ}
    (opened : Opened service rounds m w m₁ w₁) (running : m₁.queue ≠ []) :
    Act.Ensures (m₁.nextRunning service rounds) w₁ fun out w' => NextRun service rounds m w out w' := by
  rw [nextRunning, Act.ensures_bind]
  rintro ⟨m₂, _ | done⟩ w₂ waiting
  · exact Act.ensures_pure.2 (.interrupted opened running waiting)
  · rw [Act.ensures_bind]
    rintro ⟨m₃, _ | _⟩ w₃ closing
    · exact Act.ensures_pure.2 (.unclosed opened running waiting closing)
    · exact Act.ensures_pure.2 (.returned opened running waiting closing)

theorem next_ensures (service : Service σ) (rounds : Nat) (m : Manager) (w : World σ) :
    Act.Ensures (m.next service rounds) w fun out w' => NextRun service rounds m w out w' := by
  rw [next_eq, Act.ensures_bind]
  cases empty : m.queue.isEmpty with
  | false =>
    have running : m.queue ≠ [] := by simpa using empty
    refine Act.ensures_pure.2 ?_
    simp only [empty, Bool.false_eq_true, if_false]
    exact nextRunning_ensures service rounds (.busy running) running
  | true =>
    have idle : m.queue = [] := by simpa using empty
    rintro ⟨m₁, _ | _⟩ w₁ opening
    · exact Act.ensures_pure.2 (.unopened idle opening)
    · dsimp only
      split
      · rename_i still
        exact Act.ensures_pure.2 (.ended idle opening (by simpa using still))
      · rename_i filled
        exact nextRunning_ensures service rounds (.filled idle opening) (by simpa using filled)

def handed : Except JobError (Option (List Job)) → List Job
  | .ok (some jobs) => jobs
  | _ => []

/-- A call of `next`: what it began with and what it returned. -/
structure NextCall (σ : Type) where
  manager : Manager
  world : World σ
  rounds : Nat
  result : Except JobError (Option (List Job))

/-- The calls made of a manager so far, and the manager they left. -/
inductive History (service : Service σ) (first : Manager) : List (NextCall σ) → Manager → Prop
  | start : History service first [] first
  | call {calls : List (NextCall σ)} {m m' : Manager} {w w' : World σ} {rounds : Nat}
    {result : Except JobError (Option (List Job))} (before : History service first calls m)
    (run : m.next service rounds w = some ((m', result), w')) :
    History service first (calls ++ [⟨m, w, rounds, result⟩]) m'

def handedOut (calls : List (NextCall σ)) : List Job := calls.flatMap (handed ·.result)

theorem History.keeps {service : Service σ} {first m : Manager} {calls : List (NextCall σ)} {p : Manager → Prop}
    (step : ∀ (m : Manager) (rounds : Nat) (w : World σ), p m →
      Act.Ensures (m.next service rounds) w fun out _ => p out.1)
    (h : History service first calls m) (start : p first) : p m := by
  induction h with
  | start => exact start
  | call _ run ih => exact step _ _ _ ih _ _ run

def sampleJob : Job := .report .sample

end AsyncReports.Manager
