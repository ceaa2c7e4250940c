import AsyncReports.Proofs.Job.Submission
import AsyncReports.Proofs.Requests

set_option autoImplicit false

/-!
# Sweeps over the members of a group

A group of report jobs is started or restarted in one sweep. It goes through the members in order, makes those ready
that are due, and submits them. A start takes all members as they are, a restart takes those that have failed and
clears them first. The first refusal ends the sweep. A service that accepts all submissions lets it come to its end.
-/

namespace AsyncReports

variable {σ : Type} {service : Service σ}

/-- From this state on, all submissions are accepted. -/
def Service.Accepts (service : Service σ) (s : σ) : Prop :=
  ∀ s', service.Leads s s' → ∀ edge params, ∃ run, (service.submit edge params s').1 = .ok run

namespace ReportJob

variable {due : ReportJob → Bool} {ready : ReportJob → ReportJob} {leaf leaf' : ReportJob} {rest : List ReportJob}
  {w w₁ w' : World σ} {out : Outcome (List ReportJob)}

def request (leaf : ReportJob) : Call := .submit leaf.edge leaf.params

/-- What a sweep makes of a report job that it comes past. -/
def Swept (due : ReportJob → Bool) (ready : ReportJob → ReportJob) (a b : ReportJob) : Prop :=
  (due a = false ∧ b = a) ∨ (due a ∧ ∃ run now, b = (ready a).launched run now)

/-- What a sweep comes to. If it was stopped, it has come past the members `before` and left `leaf` ready, for which the
service had an error in the state `s`. -/
inductive Sweep (service : Service σ) (due : ReportJob → Bool) (ready : ReportJob → ReportJob)
    (leaves : List ReportJob) (w : World σ) : Outcome (List ReportJob) → World σ → Prop
  | whole {leaves' : List ReportJob} {w' : World σ} (each : List.Forall₂ (Swept due ready) leaves leaves')
    (calls : w'.calls = w.calls ++ (leaves.filter due).map fun leaf => (ready leaf).request) :
    Sweep service due ready leaves w (leaves', .ok ()) w'
  | stopped {before before' rest : List ReportJob} {leaf : ReportJob} {cause : ServiceError} {s : σ} {w' : World σ}
    (order : leaves = before ++ leaf :: rest) (each : List.Forall₂ (Swept due ready) before before')
    (wanted : due leaf) (leads : service.Leads w.remote s)
    (refusal : (service.submit (ready leaf).edge (ready leaf).params s).1 = .error cause)
    (calls : w'.calls = w.calls ++ (before.filter due ++ [leaf]).map fun leaf => (ready leaf).request) :
    Sweep service due ready leaves w (before' ++ ready leaf :: rest, .error (.service cause)) w'

abbrev StartSweep (service : Service σ) : List ReportJob → World σ → Outcome (List ReportJob) → World σ → Prop :=
  Sweep service (fun _ => true) id

abbrev RestartSweep (service : Service σ) : List ReportJob → World σ → Outcome (List ReportJob) → World σ → Prop :=
  Sweep service failed cleared

namespace Sweep

theorem nothing : Sweep service due ready [] w ([], .ok ()) w := .whole .nil (by simp)

/-- A report job that is not due is left alone. -/
theorem spare (fine : due leaf = false) (later : Sweep service due ready rest w out w') :
    Sweep service due ready (leaf :: rest) w (leaf :: out.1, out.2) w' := by
  have kept : Swept due ready leaf leaf := .inl ⟨fine, rfl⟩
  cases later with
  | whole each calls => exact .whole (.cons kept each) (by rw [calls, List.filter_cons_of_neg (by simp [fine])])
  | stopped order each wanted leads refusal calls =>
    refine .stopped (congrArg (leaf :: ·) order) (.cons kept each) wanted leads refusal ?_
    rw [calls, List.filter_cons_of_neg (by simp [fine])]

theorem grant (wanted : due leaf) (first : Submits service (ready leaf) w (leaf', .ok ()) w₁)
    (later : Sweep service due ready rest w₁ out w') :
    Sweep service due ready (leaf :: rest) w (leaf' :: out.1, out.2) w' := by
  cases first with
  | granted run log answer =>
    have launched : Swept due ready leaf ((ready leaf).launched run w.clock) := .inr ⟨wanted, run, w.clock, rfl⟩
    cases later with
    | whole each calls =>
      refine .whole (.cons launched each) ?_
      rw [calls, List.filter_cons_of_pos wanted]
      exact List.append_assoc w.calls [(ready leaf).request] _
    | stopped order each due' leads refusal calls =>
      have first : service.Leads w.remote ((ready leaf).sent service w).remote :=
        .single ⟨_, .submit (ready leaf).edge (ready leaf).params w.remote⟩
      refine .stopped (congrArg (leaf :: ·) order) (.cons launched each) due' (first.trans leads) refusal ?_
      rw [calls, List.filter_cons_of_pos wanted]
      exact List.append_assoc w.calls [(ready leaf).request] _

theorem refuse {cause : JobError} (wanted : due leaf)
    (first : Submits service (ready leaf) w (leaf', .error cause) w') :
    Sweep service due ready (leaf :: rest) w (leaf' :: rest, .error cause) w' := by
  cases first with
  | refused cause answer =>
    have none : List.Forall₂ (Swept due ready) [] [] := .nil
    exact .stopped rfl none wanted .refl answer rfl

/-- What is logged afterwards is left open. -/
theorem logged (h : Sweep service due ready rest w out w') (log : List LogEntry) :
    Sweep service due ready rest w out { w' with log } := by
  cases h with
  | whole each calls => exact .whole each calls
  | stopped order each wanted leads refusal calls => exact .stopped order each wanted leads refusal calls

/-- What holds of the members that a sweep has come past, of one that is left ready, and of those that stay as they are,
holds of all. -/
theorem related {r : ReportJob → ReportJob → Prop} (h : Sweep service due ready rest w out w')
    (swept : ∀ a b, Swept due ready a b → r a b) (left : ∀ a, due a → r a (ready a)) (same : ∀ a, r a a) :
    List.Forall₂ r rest out.1 := by
  cases h with
  | whole each => exact each.imp swept
  | stopped order each wanted =>
    rw [order]
    exact List.rel_append (each.imp swept) (.cons (left _ wanted) (List.forall₂_same.2 fun a _ => same a))

theorem keeps (h : Sweep service due ready rest w out w') (mem : leaf ∈ rest) (fine : due leaf = false) :
    leaf ∈ out.1 := by
  have kept : List.Forall₂ (fun a b => due a = false → b = a) rest out.1 := by
    refine h.related ?_ (fun a wanted fine => ?_) fun _ _ => rfl
    · rintro a _ (⟨-, rfl⟩ | ⟨wanted, -⟩) fine
      · rfl
      · rw [fine] at wanted
        cases wanted
    · rw [fine] at wanted
      cases wanted
  obtain ⟨leaf', mem', same⟩ := forall₂_partner kept leaf mem
  rwa [same fine] at mem'

/-- Only the service is to blame for the end of a sweep. -/
theorem blames {cause : JobError} (h : Sweep service due ready rest w out w') (error : out.2 = .error cause) :
    ∃ answer, cause = .service answer := by
  cases h with
  | whole => cases error
  | stopped =>
    cases error
    exact ⟨_, rfl⟩

theorem accepted (h : Sweep service due ready rest w out w') (accepts : service.Accepts w.remote) : out.2 = .ok () := by
  cases h with
  | whole => rfl
  | stopped order each wanted leads refusal calls =>
    obtain ⟨run, answer⟩ := accepts _ leads _ _
    rw [refusal] at answer
    cases answer

end Sweep

/-- No report job that a restart has come past is still failed. -/
theorem unfailed_of_swept {leaves leaves' : List ReportJob}
    (each : List.Forall₂ (Swept failed cleared) leaves leaves') : ∀ leaf' ∈ leaves', leaf'.failed = false := by
  induction each with
  | nil => simp
  | cons swept _ ih =>
    refine List.forall_mem_cons.2 ⟨?_, ih⟩
    rcases swept with ⟨fine, rfl⟩ | ⟨-, run, now, rfl⟩
    · exact fine
    · rfl

end ReportJob

namespace Job

open ReportJob

/-- A start submits members that were never started, one after another. -/
theorem startAll_sweep (service : Service σ) (leaves : List ReportJob) : ∀ w : World σ,
    (∀ leaf ∈ leaves, leaf.Startable) → Act.Ensures (startAll service (leaves.map .report)) w fun out w' =>
      ∃ leaves', out.1 = leaves'.map .report ∧ StartSweep service leaves w (leaves', out.2) w' := by
  induction leaves with
  | nil =>
    intro w _
    simp only [List.map_nil, startAll, Act.ensures_pure]
    exact ⟨[], rfl, .nothing⟩
  | cons leaf rest ih =>
    intro w fit
    rw [List.forall_mem_cons] at fit
    simp only [List.map_cons, startAll, start, Act.ensures_bind, Act.ensures_pure]
    refine (start_submits service fit.1 w).mono ?_
    rintro ⟨leaf', cause | _⟩ w₁ first
    · exact Act.ensures_pure.2 ⟨leaf' :: rest, rfl, .refuse rfl first⟩
    · simp only [Act.ensures_bind, Act.ensures_pure]
      refine (ih w₁ fit.2).mono ?_
      rintro ⟨_, result⟩ w₂ ⟨rest', rfl, later⟩
      exact ⟨leaf' :: rest', rfl, .grant rfl first later⟩

/-- The attempt that a restart has counted up to is that of the group before, or that of a member. If the restart got
through, no member is beyond it. -/
structure Counts (attempt : Nat) (leaves : List ReportJob) (attempt' : Nat) (result : Except JobError Unit) : Prop where
  known : attempt ≤ attempt'
  taken : attempt' = attempt ∨ ∃ leaf ∈ leaves, attempt' = leaf.attempt
  greatest : result = .ok () → ∀ leaf ∈ leaves, leaf.attempt ≤ attempt'

theorem Counts.cons {attempt attempt' : Nat} {leaf : ReportJob} {rest : List ReportJob} {result : Except JobError Unit}
    (later : Counts (max attempt leaf.attempt) rest attempt' result) :
    Counts attempt (leaf :: rest) attempt' result := by
  refine ⟨Nat.le_trans (Nat.le_max_left _ _) later.known, ?taken, fun done => ?greatest⟩
  case taken =>
    rcases later.taken with same | ⟨other, mem, same⟩
    · rw [same]
      rcases Nat.le_total attempt leaf.attempt with le | le
      · exact .inr ⟨leaf, List.mem_cons_self, Nat.max_eq_right le⟩
      · exact .inl (Nat.max_eq_left le)
    · exact .inr ⟨other, List.mem_cons_of_mem _ mem, same⟩
  case greatest =>
    exact List.forall_mem_cons.2 ⟨Nat.le_trans (Nat.le_max_right _ _) later.known, later.greatest done⟩

/-- A restart clears and submits the members that have failed, one after another, and counts the attempts of those that
it comes past. -/
theorem restartFailed_sweep (service : Service σ) (leaves : List ReportJob) : ∀ (attempt : Nat) (w : World σ),
    (∀ leaf ∈ leaves, leaf.progress.Sound) →
      Act.Ensures (restartFailed service attempt (leaves.map .report)) w fun out w' =>
        ∃ leaves', out.1 = leaves'.map .report ∧ RestartSweep service leaves w (leaves', out.2.2) w' ∧
          Counts attempt leaves' out.2.1 out.2.2 := by
  induction leaves with
  | nil =>
    intro attempt w _
    simp only [List.map_nil, restartFailed, Act.ensures_pure]
    exact ⟨[], rfl, .nothing, Nat.le_refl _, .inl rfl, by simp⟩
  | cons leaf rest ih =>
    intro attempt w sound
    rw [List.forall_mem_cons] at sound
    rw [List.map_cons, restartFailed_cons, Act.ensures_bind]
    -- what follows a member is the same whether it was spared or submitted
    have onward : ∀ (leaf' : ReportJob) (w₁ : World σ), (∀ {out w'}, RestartSweep service rest w₁ out w' →
        RestartSweep service (leaf :: rest) w (leaf' :: out.1, out.2) w') →
        Act.Ensures (restartFailed service (max attempt leaf'.attempt) (rest.map .report)) w₁ fun out w' =>
          ∃ leaves', Job.report leaf' :: out.1 = leaves'.map .report ∧
            RestartSweep service (leaf :: rest) w (leaves', out.2.2) w' ∧ Counts attempt leaves' out.2.1 out.2.2 := by
      intro leaf' w₁ extend
      refine (ih (max attempt leaf'.attempt) w₁ sound.2).mono ?_
      rintro ⟨_, attempt', result⟩ w' ⟨rest', rfl, later, counts⟩
      exact ⟨leaf' :: rest', rfl, extend later, counts.cons⟩
    cases broken : leaf.failed with
    | false =>
      have fine : (Job.report leaf).failed = false := broken
      simp only [fine, Bool.false_eq_true, if_false, Act.ensures_bind, Act.ensures_pure]
      exact onward leaf w fun later => later.spare broken
    | true =>
      have due : (Job.report leaf).failed = true := broken
      simp only [due, if_true, restart, Act.ensures_bind, Act.ensures_pure]
      refine (restart_submits service (restartable_of_failed sound.1 broken) w).mono ?_
      rintro ⟨leaf', cause | _⟩ w₁ first
      · exact Act.ensures_pure.2 ⟨leaf' :: rest, rfl, .refuse broken first, Nat.le_refl _, .inl rfl, by simp⟩
      · simp only [Act.ensures_bind, Act.ensures_pure]
        exact onward leaf' w₁ fun later => later.grant broken first

theorem start_sweep (service : Service σ) (g : Group) {leaves : List ReportJob} (fit : ∀ leaf ∈ leaves, leaf.Startable)
    (w : World σ) : Act.Ensures (start service (.group g (leaves.map .report))) w fun out w' =>
      ∃ leaves', out.1 = .group g (leaves'.map .report) ∧ StartSweep service leaves w (leaves', out.2) w' := by
  simp only [start, Act.ensures_bind, Act.ensures_pure]
  refine (startAll_sweep service leaves w fit).mono ?_
  rintro ⟨_, result⟩ w' ⟨leaves', rfl, sweep⟩
  exact ⟨leaves', rfl, sweep⟩

theorem group_failed_iff (g : Group) (leaves : List ReportJob) :
    (Job.group g (leaves.map .report)).failed ↔ ∃ leaf ∈ leaves, leaf.failed := by
  rw [failed_eq_any, Job.leaves, leaves_of_reports, List.any_eq_true]

theorem restart_of_fine (service : Service σ) (g : Group) {leaves : List ReportJob}
    (fine : ¬ ∃ leaf ∈ leaves, leaf.failed) : restart service (.group g (leaves.map .report)) =
      pure (.group g (leaves.map .report),
        .error (.misuse (Job.group g (leaves.map .report)).label .restartUnfailed)) := by
  rw [← group_failed_iff g, Bool.not_eq_true] at fine
  exact restart_of_unfailed service g fine

theorem restart_sweep (service : Service σ) (g : Group) {leaves : List ReportJob}
    (sound : ∀ leaf ∈ leaves, leaf.progress.Sound) (broken : ∃ leaf ∈ leaves, leaf.failed) (w : World σ) :
    Act.Ensures (restart service (.group g (leaves.map .report))) w fun out w' => ∃ leaves' attempt,
      out.1 = .group { g with attempt } (leaves'.map .report) ∧ RestartSweep service leaves w (leaves', out.2) w' ∧
        Counts g.attempt leaves' attempt out.2 := by
  rw [← group_failed_iff g, failed] at broken
  rw [restart, if_pos broken, Act.ensures_bind]
  refine (restartFailed_sweep service leaves g.attempt w sound).mono ?_
  rintro ⟨_, attempt, cause | _⟩ w' ⟨leaves', rfl, sweep, counts⟩
  · exact Act.ensures_pure.2 ⟨leaves', attempt, rfl, sweep, counts⟩
  · simp only [Act.ensures_bind, Act.ensures_log, Act.ensures_pure]
    exact ⟨leaves', attempt, rfl, sweep.logged _, counts⟩

end Job

end AsyncReports
