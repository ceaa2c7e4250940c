import AsyncReports.Manager
import AsyncReports.Proofs.Ensures

set_option autoImplicit false

/-!
# Actions that end

An action that does not count rounds ends in every world: it is `Total`. A loop ends if there are rounds enough, and
then more rounds change nothing. `Ends` says this of a family of actions, one for each number of rounds, and a loop
around it is settled part by part, like a single action.
-/

namespace AsyncReports

variable {σ α β : Type}

namespace Act

def Total (act : Act σ α) : Prop := ∀ w, ∃ a w', act w = some (a, w')

namespace Total

theorem pure (a : α) : Total (pure a : Act σ α) := fun w => ⟨a, w, rfl⟩

theorem call (c : Call) (ask : σ → α × σ) : Total (Act.call c ask) := fun _ => ⟨_, _, rfl⟩

theorem log (entries : List LogEntry) : Total (Act.log entries : Act σ Unit) := fun _ => ⟨_, _, rfl⟩

theorem sleep (seconds : Nat) : Total (Act.sleep seconds : Act σ Unit) := fun _ => ⟨_, _, rfl⟩

theorem now : Total (Act.now : Act σ Nat) := fun _ => ⟨_, _, rfl⟩

theorem bind {act : Act σ α} {f : α → Act σ β} (first : Total act) (later : ∀ a, Total (f a)) : Total (act >>= f) := by
  intro w
  obtain ⟨a, w₁, run⟩ := first w
  obtain ⟨b, w₂, rest⟩ := later a w₁
  exact ⟨b, w₂, bind_eq_some.2 ⟨a, w₁, run, rest⟩⟩

end Total

/-- Given rounds enough, the action ends, and always in the same way. -/
def Ends (act : Nat → Act σ α) (w : World σ) : Prop :=
  ∃ a w' enough, ∀ rounds, enough ≤ rounds → act rounds w = some (a, w')

theorem Total.ends {act : Act σ α} (h : Total act) (w : World σ) : Ends (fun _ => act) w := by
  obtain ⟨a, w', run⟩ := h w
  exact ⟨a, w', 0, fun _ _ => run⟩

namespace Ends

theorem bind {act : Nat → Act σ α} {f : Nat → α → Act σ β} {w : World σ} (first : Ends act w)
    (later : ∀ a w₁ rounds, act rounds w = some (a, w₁) → Ends (fun rounds => f rounds a) w₁) :
    Ends (fun rounds => act rounds >>= f rounds) w := by
  obtain ⟨a, w₁, enough, ends⟩ := first
  obtain ⟨b, w₂, enough', ends'⟩ := later a w₁ enough (ends enough (Nat.le_refl _))
  refine ⟨b, w₂, max enough enough', fun rounds le => ?_⟩
  rw [bind_eq_some]
  exact ⟨a, w₁, ends rounds (by omega), ends' rounds (by omega)⟩

/-- One round more is spent before the others. -/
theorem succ {act : Nat → Act σ α} {w : World σ} (h : Ends (fun rounds => act (rounds + 1)) w) : Ends act w := by
  obtain ⟨a, w', enough, ends⟩ := h
  refine ⟨a, w', enough + 1, fun rounds le => ?_⟩
  obtain ⟨rest, rfl⟩ : ∃ rest, rounds = rest + 1 := ⟨rounds - 1, by omega⟩
  exact ends rest (by omega)

end Ends

/-- Given rounds enough the action ends, and however many rounds it takes, it ends like this. -/
structure Concludes (act : Nat → Act σ α) (w : World σ) (post : α → World σ → Prop) : Prop where
  ends : Ends act w
  ensures : ∀ rounds, Ensures (act rounds) w post

namespace Concludes

variable {act : Nat → Act σ α} {w : World σ} {post post' : α → World σ → Prop}

theorem mono (h : Concludes act w post) (weaker : ∀ a w', post a w' → post' a w') : Concludes act w post' :=
  ⟨h.ends, fun rounds => (h.ensures rounds).mono weaker⟩

theorem of_total {act : Act σ α} (total : Total act) (ensures : Ensures act w post) :
    Concludes (fun _ => act) w post :=
  ⟨total.ends w, fun _ => ensures⟩

theorem pure {a : α} (h : post a w) : Concludes (fun _ => (Pure.pure a : Act σ α)) w post :=
  of_total (.pure a) (ensures_pure.2 h)

theorem bind {f : Nat → α → Act σ β} {post' : β → World σ → Prop} (first : Concludes act w post)
    (later : ∀ a w₁, post a w₁ → Concludes (fun rounds => f rounds a) w₁ post') :
    Concludes (fun rounds => act rounds >>= f rounds) w post' where
  ends := first.ends.bind fun a w₁ rounds run => (later a w₁ (first.ensures rounds a w₁ run)).ends
  ensures rounds := ensures_bind.2 fun a w₁ run => (later a w₁ (first.ensures rounds a w₁ run)).ensures rounds

end Concludes

end Act

open Act

/-! ## What never waits for anything -/

namespace ReportJob

theorem start_total (service : Service σ) (job : ReportJob) : Total (job.start service) := by
  unfold start
  split
  · refine .bind (.call _ _) fun answer => ?_
    cases answer with
    | error cause => exact .pure _
    | ok run => exact .bind .now fun _ => .bind (.log _) fun _ => .pure _
  · exact .pure _

theorem restart_total (service : Service σ) (job : ReportJob) : Total (job.restart service) := by
  unfold restart
  split
  · exact .pure _
  · refine .bind (start_total service _) ?_
    rintro ⟨started, _ | _⟩
    · exact .pure _
    · exact .bind (.log _) fun _ => .pure _

theorem update_total (service : Service σ) (job : ReportJob) : Total (job.update service) := by
  unfold update
  cases job.pending with
  | unstarted => exact .pure _
  | finished run => exact .bind (.log _) fun _ => .pure _
  | running run =>
    refine .bind (.call _ _) fun answer => ?_
    cases answer with
    | error cause => exact .pure _
    | ok latest => exact .bind (.bind .now fun _ => .bind (.log _) fun _ => .pure _) fun _ => .pure _

theorem split_total (service : Service σ) (job : ReportJob) : Total (job.split service) := by
  refine .bind (.call _ _) fun answer => ?_
  cases answer with
  | error cause => exact .pure _
  | ok rows => exact .bind (.log _) fun _ => .pure _

theorem check_total {τ : Type} (owner : String → τ) (job : ReportJob) : Total (job.check owner : Act σ _) := by
  unfold check
  cases job.pending with
  | unstarted => exact .pure _
  | finished run => exact .bind (.log _) fun _ => .pure _
  | running run => exact .pure _

theorem result_total (service : Service σ) (job : ReportJob) : Total (job.result service) := by
  unfold result
  split
  · exact .bind (.call _ _) fun _ => .pure _
  · exact .pure _

end ReportJob

namespace Job

variable (service : Service σ)

mutual
theorem start_total : ∀ job : Job, Total (start service job)
  | .report job => .bind (ReportJob.start_total service job) fun _ => .pure _
  | .group _ members => .bind (startAll_total members) fun _ => .pure _

theorem startAll_total : ∀ jobs : List Job, Total (startAll service jobs)
  | [] => .pure _
  | job :: rest => by
    refine .bind (start_total job) ?_
    rintro ⟨job', _ | _⟩
    · exact .pure _
    · exact .bind (startAll_total rest) fun _ => .pure _
end

mutual
theorem restart_total : ∀ job : Job, Total (restart service job)
  | .report job => .bind (ReportJob.restart_total service job) fun _ => .pure _
  | .group g members => by
    simp only [restart]
    split
    · refine .bind (restartFailed_total g.attempt members) ?_
      rintro ⟨members', attempt, _ | _⟩
      · exact .pure _
      · exact .bind (.log _) fun _ => .pure _
    · exact .pure _

theorem restartFailed_total (attempt : Nat) : ∀ jobs : List Job, Total (restartFailed service attempt jobs)
  | [] => .pure _
  | job :: rest => by
    have later : ∀ out : Outcome Job, Total (match out.2 with
        | .error cause => pure (out.1 :: rest, attempt, .error cause)
        | .ok () => do
          let (rest, attempt, result) ← restartFailed service (max attempt out.1.attempt) rest
          pure (out.1 :: rest, attempt, result)) := by
      rintro ⟨job', _ | _⟩
      · exact .pure _
      · exact .bind (restartFailed_total (max attempt job'.attempt) rest) fun _ => .pure _
    rw [restartFailed]
    split
    · exact .bind (restart_total job) later
    · exact .bind (.pure _) later
end

theorem split_total (job : Job) : Total (job.split service) := by
  cases job with
  | report job => exact ReportJob.split_total service job
  | group g members => exact .pure _

end Job

namespace Manager

variable (service : Service σ)

theorem readThrottle_total (m : Manager) : Total (m.readThrottle service) := by
  refine .bind (.call _ _) fun answer => ?_
  cases answer <;> exact .pure _

theorem restartJob_total (job : Job) : Total (restartJob service job) := by
  refine .bind (Job.restart_total service job) ?_
  rintro ⟨job', _ | _⟩
  · exact .pure _
  · exact .bind (.log _) fun _ => .pure _

theorem recover_total (settings : ManagerSettings) (job : Job) : Total (recover service settings job) := by
  rw [recover]
  split
  · exact .pure _
  split
  · refine .bind (.log _) fun _ => .bind (Job.split_total service job) fun out => ?_
    split
    · refine .bind (Job.start_total service _) ?_
      rintro ⟨parts, _ | _⟩
      · exact .pure _
      · exact .bind (.log _) fun _ => .pure _
    · exact .bind (.log _) fun _ => restartJob_total service job
    · exact .pure _
  · exact .bind (.log _) fun _ => restartJob_total service job

theorem sort_total (settings : ManagerSettings) (jobs : List Job) :
    ∀ s : Sorting, Total (sort service settings s jobs) := by
  induction jobs with
  | nil => exact fun _ => .pure _
  | cons job rest ih =>
    intro s
    rw [sort]
    split
    · refine .bind (recover_total service settings job) ?_
      rintro ⟨recovery, _ | _⟩
      · exact .pure _
      · exact ih _
    · split
      · exact ih _
      · exact ih _

theorem startFrom_total (source : List Job) : ∀ m : Manager, Total (startFrom service m source) := by
  induction source with
  | nil => exact fun _ => .pure _
  | cons job rest ih =>
    intro m
    rw [startFrom]
    split
    · refine .bind (Job.start_total service job) ?_
      rintro ⟨job', _ | _⟩
      · exact .pure _
      · exact ih _
    · exact .pure _

end Manager

end AsyncReports
