import AsyncReports.Proofs.Job.Polling
import AsyncReports.Proofs.Manager.Filling
import AsyncReports.Proofs.Manager.Recovery

set_option autoImplicit false

/-!
# Passes over the queue

A pass ends in one of four ways: a poll is refused, the load cannot be read, a recovery fails, or the queue is
sorted. A call of the manager repeats passes that end well and find nothing, and ends with the first other one.
-/

namespace AsyncReports.Manager

open ReportJob Job

variable {σ : Type}

/-- The leaves that a poll of the queue goes through, unless it is refused. -/
def polled (m : Manager) : List ReportJob := allLeaves (visited m.settings.maxChecks 0 m.queue)

inductive PassEnd (m : Manager) : Manager × Except JobError (List Job) → Prop
  | refused {queue : List Job} {label : String} (heard : AllHeard m.queue queue)
    (stranded : ∃ leaf ∈ m.polled, leaf.progress.run = none) :
    PassEnd m ({ m with queue }, .error (.misuse label .updateUnstarted))
  | unread {queue : List Job} {load : Float} {cause : ServiceError} (heard : AllHeard m.queue queue)
    (fine : Pollable m.polled) :
    PassEnd m ({ m with queue, throttle := load }, .error (.service cause))
  | stuck {queue retired : List Job} {load : Float} {s : Sorting} {cause : JobError}
    (heard : AllHeard m.queue queue) (fine : Pollable m.polled) (sorts : SortEnd m.settings {} queue s (.error cause)) :
    PassEnd m ({ m with queue := s.kept, throttle := load, retired }, .error cause)
  | sorted {queue retired : List Job} {load : Float} {s : Sorting} (heard : AllHeard m.queue queue)
    (fine : Pollable m.polled) (sorts : SortEnd m.settings {} queue s (.ok ())) :
    PassEnd m ({ m with queue := s.kept, throttle := load, retired }, .ok s.completed)

theorem pass_ensures (service : Service σ) (rounds : Nat) (m : Manager) (w : World σ) :
    Act.Ensures (m.pass service rounds) w fun out _ => PassEnd m out := by
  simp only [pass, pollPass, Act.ensures_bind, Act.ensures_pure]
  refine (pollQueue_ensures service rounds m.settings.maxChecks m.queue [] [] w).mono ?_
  rintro ⟨queue, _ | _⟩ w₁ ⟨heard, poll⟩
  · obtain ⟨stranded, label, rfl⟩ := poll
    exact Act.ensures_pure.2 (.refused heard stranded)
  · refine Act.ensures_bind.2 ((awaitThrottle_ensures service rounds _ w₁).mono ?_)
    rintro _ w₂ (_ | _)
    · refine Act.ensures_bind.2 ((sort_ensures service m.settings queue {} w₂).mono ?_)
      rintro ⟨s, _ | _⟩ w₃ sorts
      · exact Act.ensures_pure.2 (.stuck heard poll sorts)
      · simp only [Act.ensures_bind, Act.ensures_log, Act.ensures_pure]
        exact .sorted heard poll sorts
    · exact Act.ensures_pure.2 (.unread heard poll)

/-- A pass ended well and found nothing, and the manager went to sleep after it. -/
def Idle (service : Service σ) (rounds : Nat) (before after : Manager × World σ) : Prop :=
  ∃ w, before.1.pass service rounds before.2 = some ((after.1, .ok []), w) ∧
    after.2 = { w with log := w.log ++ [after.1.idleEntry],
                       clock := w.clock + min after.1.settings.pollSeconds Act.longestSleep }

def Idles (service : Service σ) (rounds : Nat) : Manager × World σ → Manager × World σ → Prop :=
  Relation.ReflTransGen (Idle service rounds)

theorem awaitCompleted_ensures (service : Service σ) (rounds passes : Nat) :
    ∀ (m : Manager) (w : World σ),
      Act.Ensures (awaitCompleted service rounds passes m) w fun out w' =>
        ∃ m₁ w₁, Idles service rounds (m, w) (m₁, w₁) ∧ m₁.pass service rounds w₁ = some (out, w') ∧
          out.2 ≠ .ok [] := by
  induction passes with
  | zero => exact fun m w => Act.ensures_unfinished
  | succ passes ih =>
    intro m w
    rw [awaitCompleted, Act.ensures_bind]
    rintro ⟨m₁, cause | _ | ⟨job, rest⟩⟩ w₁ run
    · exact Act.ensures_pure.2 ⟨m, w, .refl, run, by simp⟩
    · simp only [Act.ensures_bind, Act.ensures_log, Act.ensures_sleep]
      refine (ih m₁ _).mono ?_
      rintro out w' ⟨m₂, w₂, idles, last, found⟩
      exact ⟨m₂, w₂, .head ⟨w₁, run, rfl⟩ idles, last, found⟩
    · exact Act.ensures_pure.2 ⟨m, w, .refl, run, by simp⟩

/-- The first pass that is not idle is the last one. -/
theorem awaitCompleted_ends {service : Service σ} {rounds passes : Nat} {a b : Manager × World σ} {w : World σ}
    {out : Manager × Except JobError (List Job)} (idles : Idles service rounds a b)
    (last : ∀ m' w', b.1.pass service rounds b.2 ≠ some ((m', .ok []), w'))
    (run : awaitCompleted service rounds passes a.1 a.2 = some (out, w)) :
    b.1.pass service rounds b.2 = some (out, w) := by
  -- Every idle pass uses up one of `passes`, so these are generalized.
  induction idles using Relation.ReflTransGen.head_induction_on generalizing passes with
  | refl =>
    cases passes with
    | zero => cases run
    | succ passes =>
      rw [awaitCompleted, Act.bind_eq_some] at run
      obtain ⟨⟨m', cause | _ | ⟨job, rest⟩⟩, w', pass, run⟩ := run
      · obtain ⟨rfl, rfl⟩ := Act.pure_eq_some.1 run
        exact pass
      · exact absurd pass (last m' w')
      · obtain ⟨rfl, rfl⟩ := Act.pure_eq_some.1 run
        exact pass
  | @head a a' idle _ ih =>
    obtain ⟨m', w'⟩ := a'
    obtain ⟨w₁, pass, slept⟩ := idle
    dsimp only at pass slept
    subst slept
    cases passes with
    | zero => cases run
    | succ passes =>
      rw [awaitCompleted, Act.bind_eq_some] at run
      obtain ⟨out', w₁', pass', run⟩ := run
      rw [pass] at pass'
      cases pass'
      exact ih run

end AsyncReports.Manager
