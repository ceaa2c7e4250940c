import AsyncReports.Job.Polling
import AsyncReports.Proofs.Batch
import AsyncReports.Proofs.Job.Tree
import Mathlib.Logic.Relation

set_option autoImplicit false

/-!
# What polling does to jobs

A poll takes in observations and does nothing else to a job. It is refused exactly where it comes to a leaf that
has no run, and then the jobs before that one have been polled, and none behind it.
-/

namespace AsyncReports

variable {σ : Type}

namespace ReportJob

def Observe (a b : ReportJob) : Prop := ∃ now run, b = { a with progress := a.progress.observe now run }

def Heard : ReportJob → ReportJob → Prop := Relation.ReflTransGen Observe

theorem Heard.keeps {p : ReportJob → Prop} (step : ∀ a b, Observe a b → p a → p b) {a b : ReportJob}
    (h : Heard a b) (start : p a) : p b := by
  induction h with
  | refl => exact start
  | tail _ last ih => exact step _ _ last ih

theorem Heard.asMade {a b : ReportJob} (h : Heard a b) : b.asMade = a.asMade := by
  refine h.keeps (p := fun job => job.asMade = a.asMade) ?_ rfl
  rintro _ _ ⟨now, run, rfl⟩ same
  exact same

theorem Heard.sound {a b : ReportJob} (h : Heard a b) (sound : a.progress.Sound) : b.progress.Sound := by
  refine h.keeps (p := fun job => job.progress.Sound) ?_ sound
  rintro _ _ ⟨now, run, rfl⟩ before
  exact before.observe now run

theorem Heard.run_isSome {a b : ReportJob} (h : Heard a b) (run : a.progress.run.isSome) :
    b.progress.run.isSome := by
  refine h.keeps (p := fun job => job.progress.run.isSome) ?_ run
  rintro a b ⟨now, seen, rfl⟩ before
  rcases Progress.observe_cases now seen a.progress with ⟨-, same⟩ | ⟨-, -, stored⟩ | ⟨-, next, -, moved⟩
  · rw [same]
    exact before
  · rw [stored]
    rfl
  · rw [moved]
    rfl

theorem receive_heard (label : String) (answer : Answer Json) (job : ReportJob) (w : World σ) :
    Act.Ensures (job.receive label answer) w fun job' _ => Heard job job' := by
  refine (receive_ensures label answer job w).mono ?_
  rintro _ _ (rfl | observed)
  · exact .refl
  · exact .single observed

end ReportJob

namespace Job

open ReportJob

abbrev AllHeard : List Job → List Job → Prop := List.Forall₂ (Becomes Heard)

theorem becomes_heard_refl (job : Job) : Becomes Heard job job := .same fun _ _ => .refl

theorem becomes_heard_trans (a b c : Job) (h : Becomes Heard a b) (h' : Becomes Heard b c) : Becomes Heard a c :=
  h.trans h' fun _ _ _ => .trans

theorem allHeard_refl (jobs : List Job) : AllHeard jobs jobs :=
  List.forall₂_same.2 fun job _ => becomes_heard_refl job

theorem allHeard_trans (as bs cs : List Job) (h : AllHeard as bs) (h' : AllHeard bs cs) : AllHeard as cs :=
  forall₂_trans becomes_heard_trans h h'

theorem allHeard_polled {job job' : Job} (polled : Becomes Heard job job') (done rest : List Job) :
    AllHeard (done ++ job :: rest) ((done ++ [job']) ++ rest) := by
  rw [List.append_assoc]
  exact List.rel_append (allHeard_refl done) (.cons polled (allHeard_refl rest))

theorem allHeard_settled {job job' : Job} {done done' : List Job} (polled : Becomes Heard job job')
    (settled : AllHeard (done ++ [job']) done') (rest : List Job) :
    AllHeard (done ++ job :: rest) (done' ++ rest) :=
  allHeard_trans _ _ _ (allHeard_polled polled done rest) (List.rel_append settled (allHeard_refl rest))

theorem receiveAt_ensures (jobs : List Job) (slot : Slot) (answer : Answer Json) (w : World σ) :
    Act.Ensures (receiveAt jobs slot answer) w fun jobs' _ => AllHeard jobs jobs' := by
  induction jobs generalizing slot w with
  | nil => simp [receiveAt]
  | cons job rest ih =>
    obtain ⟨_ | position, label⟩ := slot
    · cases job with
      | report job =>
        simp only [receiveAt, Act.ensures_bind, Act.ensures_pure]
        refine (receive_heard label answer job w).mono fun job' _ heard => ?_
        exact .cons (.report heard.asMade heard) (allHeard_refl rest)
      | group g members =>
        simp only [receiveAt, Act.ensures_pure]
        exact allHeard_refl _
    · simp only [receiveAt, Act.ensures_bind, Act.ensures_pure]
      exact (ih ⟨position, label⟩ w).mono fun rest' _ later => .cons (becomes_heard_refl job) later

theorem settle_ensures (service : Service σ) (rounds : Nat) (jobs : List Job) (batch : Batch Slot) (w : World σ) :
    Act.Ensures (settle service rounds jobs batch) w fun jobs' _ => AllHeard jobs jobs' :=
  Batch.drain_ensures service allHeard_refl allHeard_trans receiveAt_ensures rounds jobs batch w

/-- Every leaf that is still to be polled has a run. -/
def Pollable (leaves : List ReportJob) : Prop := ∀ leaf ∈ leaves, leaf.progress.run = none → leaf.completed

/-- How a poll came out that was to reach all of `leaves`. -/
def PollEnd (leaves : List ReportJob) : Except JobError Unit → Prop
  | .ok () => Pollable leaves
  | .error cause => (∃ leaf ∈ leaves, leaf.progress.run = none) ∧ ∃ label, cause = .misuse label .updateUnstarted

theorem PollEnd.nil : PollEnd [] (.ok ()) := fun _ mem => (List.not_mem_nil mem).elim

theorem PollEnd.append {first later : List ReportJob} {result : Except JobError Unit} (fine : Pollable first)
    (h : PollEnd later result) : PollEnd (first ++ later) result := by
  cases result with
  | error cause =>
    obtain ⟨⟨leaf, mem, none⟩, error⟩ := h
    exact ⟨⟨leaf, List.mem_append_right first mem, none⟩, error⟩
  | ok =>
    intro leaf mem none
    rcases List.mem_append.1 mem with here | later
    · exact fine leaf here none
    · exact h leaf later none

theorem PollEnd.refused {first : List ReportJob} {cause : JobError} (h : PollEnd first (.error cause))
    (later : List ReportJob) : PollEnd (first ++ later) (.error cause) := by
  obtain ⟨⟨leaf, mem, none⟩, error⟩ := h
  exact ⟨⟨leaf, List.mem_append_left later mem, none⟩, error⟩

theorem pollable_of_completed {job : Job} (ended : job.completed) : Pollable job.leaves := by
  rw [completed_eq_all, List.all_eq_true] at ended
  exact fun leaf mem _ => ended leaf mem

/-- How many checks a poll of the job queues in the batch that it shares. -/
def checks : Job → Nat
  | .report job => if job.completed then 0 else 1
  | .group _ _ => 0

mutual
theorem poll_ensures (service : Service σ) (rounds : Nat) : ∀ (position : Nat) (job : Job) (w : World σ),
    Act.Ensures (poll service rounds position job) w fun out _ =>
      Becomes Heard job out.1 ∧ PollEnd job.leaves out.2.2 ∧ (out.2.2 = .ok () → out.2.1.length = job.checks)
  | position, .report job, w => by
    simp only [poll, Act.ensures_bind, Act.ensures_pure]
    refine (check_ensures (fun label => (⟨position, label⟩ : Slot)) job w).mono ?_
    rintro _ _ (⟨none, rfl⟩ | ⟨some, ended, rfl⟩ | ⟨run, some, going, rfl⟩)
    · exact ⟨becomes_heard_refl _, ⟨⟨job, List.mem_singleton_self job, none⟩, _, rfl⟩, nofun⟩
    · exact ⟨becomes_heard_refl _, by simp [PollEnd, Pollable, leaves, ended], by simp [checks, ended]⟩
    · exact ⟨becomes_heard_refl _, by simp [PollEnd, Pollable, leaves, some], by simp [checks, going]⟩
  | position, .group g members, w => by
    simp only [poll, Act.ensures_bind, Act.ensures_pure]
    refine (pollMembers_ensures service rounds _ [] [] 0 members w).mono ?_
    rintro ⟨members', result⟩ _ ⟨heard, fine⟩
    exact ⟨.group heard, fine, fun _ => rfl⟩

theorem pollMembers_ensures (service : Service σ) (rounds size : Nat) :
    ∀ (done : List Job) (batch : Batch Slot) (taken : Nat) (members : List Job) (w : World σ),
      Act.Ensures (pollMembers service rounds size done batch taken members) w fun out _ =>
        AllHeard (done ++ members) out.1 ∧ PollEnd (allLeaves members) out.2
  | done, batch, taken, [], w => by
    simp only [pollMembers, Act.ensures_bind, Act.ensures_pure]
    refine (settle_ensures service rounds done batch w).mono fun done' _ heard => ?_
    exact ⟨by simpa using heard, .nil⟩
  | done, batch, taken, job :: rest, w => by
    rw [pollMembers]
    split
    · rename_i ended
      refine (pollMembers_ensures service rounds size (done ++ [job]) batch taken rest w).mono ?_
      rintro out _ ⟨heard, later⟩
      exact ⟨by simpa using heard, later.append (pollable_of_completed ended)⟩
    · rw [Act.ensures_bind]
      refine (poll_ensures service rounds done.length job w).mono ?_
      rintro ⟨job', checks, _ | _⟩ w₁ ⟨polled, first, -⟩
      · simp only [Act.ensures_bind, Act.ensures_pure]
        refine (settle_ensures service rounds (done ++ [job']) (batch ++ checks) w₁).mono fun done' _ settled => ?_
        exact ⟨allHeard_settled polled settled rest, first.refused _⟩
      · dsimp only
        split
        · rw [Act.ensures_bind]
          refine (settle_ensures service rounds (done ++ [job']) (batch ++ checks) w₁).mono fun done' w₂ settled => ?_
          refine (pollMembers_ensures service rounds size done' [] 0 rest w₂).mono ?_
          rintro out _ ⟨heard, later⟩
          exact ⟨allHeard_trans _ _ _ (allHeard_settled polled settled rest) heard, later.append first⟩
        · refine (pollMembers_ensures service rounds size (done ++ [job']) _ (taken + 1) rest w₁).mono ?_
          rintro out _ ⟨heard, later⟩
          exact ⟨allHeard_trans _ _ _ (allHeard_polled polled done rest) heard, later.append first⟩
end

/-- The jobs of a queue that a pass comes to: those before which fewer than `limit` checks are queued. -/
def visited (limit queued : Nat) : List Job → List Job
  | [] => []
  | job :: rest => if limit ≤ queued then [] else job :: visited limit (queued + job.checks) rest

theorem visited_initial (limit queued : Nat) (jobs : List Job) : visited limit queued jobs <+: jobs := by
  induction jobs generalizing queued with
  | nil => exact List.prefix_refl []
  | cons job rest ih =>
    rw [visited]
    split
    · exact List.nil_prefix
    · exact List.cons_prefix_cons.2 ⟨rfl, ih _⟩

theorem pollQueue_ensures (service : Service σ) (rounds limit : Nat) (jobs : List Job) :
    ∀ (done : List Job) (batch : Batch Slot) (w : World σ),
      Act.Ensures (pollQueue service rounds limit done batch jobs) w fun out _ =>
        AllHeard (done ++ jobs) out.1 ∧ PollEnd (allLeaves (visited limit batch.length jobs)) out.2 := by
  induction jobs with
  | nil =>
    intro done batch w
    simp only [pollQueue, Act.ensures_bind, Act.ensures_pure]
    refine (settle_ensures service rounds done batch w).mono fun done' _ heard => ?_
    exact ⟨by simpa using heard, .nil⟩
  | cons job rest ih =>
    intro done batch w
    rw [pollQueue, visited]
    split
    · simp only [Act.ensures_bind, Act.ensures_log, Act.ensures_pure]
      refine (settle_ensures service rounds done batch _).mono fun done' _ heard => ?_
      exact ⟨List.rel_append heard (allHeard_refl (job :: rest)), .nil⟩
    · rw [Act.ensures_bind]
      refine (poll_ensures service rounds done.length job w).mono ?_
      rintro ⟨job', checks, _ | _⟩ w₁ ⟨polled, first, count⟩
      · simp only [Act.ensures_bind, Act.ensures_pure]
        refine (settle_ensures service rounds (done ++ [job']) (batch ++ checks) w₁).mono fun done' _ settled => ?_
        exact ⟨allHeard_settled polled settled rest, first.refused _⟩
      · refine (ih (done ++ [job']) (batch ++ checks) w₁).mono ?_
        rintro out _ ⟨heard, later⟩
        rw [List.length_append, count rfl] at later
        exact ⟨allHeard_trans _ _ _ (allHeard_polled polled done rest) heard, later.append first⟩

end Job

end AsyncReports
