import AsyncReports.Proofs.Job.Restarting

set_option autoImplicit false

/-!
# Trying again after a refusal

A start or a restart of a group ends at the first submission that is refused, and leaves the members before it
submitted. What another call can do then depends on them. A member that has been started lets no start come past it,
so that the group is started by another call only if its first member was the one in trouble. A restart left that
member cleared: it is not failed any more, so that no restart ever comes back to it.
-/

namespace AsyncReports

variable {σ : Type} {service : Service σ}

namespace ReportJob

def Launched (a b : ReportJob) : Prop := ∃ run now, b = a.launched run now

theorem launched_of_swept {leaves leaves' : List ReportJob}
    (each : List.Forall₂ (Swept (fun _ => true) id) leaves leaves') : List.Forall₂ Launched leaves leaves' := by
  refine each.imp ?_
  rintro _ _ (⟨fine, -⟩ | ⟨-, launched⟩)
  · cases fine
  · exact launched

theorem Launched.unstartable {a b : ReportJob} (h : Launched a b) : ¬ b.Startable := by
  obtain ⟨run, now, rfl⟩ := h
  rintro ⟨none, -⟩
  cases none

end ReportJob

namespace Script

theorem statusAnswers_submits (runs : List String) (s : Script) : (statusAnswers runs s).2.submits = s.submits := by
  induction runs generalizing s with
  | nil => rfl
  | cons run rest ih => exact ih (statusAnswer run s).2

theorem submits_of_request {c : Call} {s s' : Script} (none : s.submits = []) (made : Script.service.Request c s s') :
    s'.submits = [] := by
  cases made with
  | submit edge params => simp [Script.service, submitAnswer, none]
  | statuses runs =>
    simp only [Script.service]
    split
    · rw [statusAnswers_submits]
      exact none
    · rw [statusAnswers_submits]
      exact none
  | query | status | rows | throttle => exact none

/-- Once the documents of the runs have all been used, every submission is accepted. -/
theorem accepts {s : Script} (none : s.submits = []) : Script.service.Accepts s := by
  intro s' leads edge params
  have none' : s'.submits = [] := by
    induction leads with
    | refl => exact none
    | tail _ last ih =>
      obtain ⟨c, made⟩ := last
      exact submits_of_request ih made
  refine ⟨{ id := "run-" ++ toString (s'.submitted + 1), status := .started }, ?_⟩
  simp only [Script.service, submitAnswer, none']

end Script

namespace Job

open ReportJob

theorem start_stuck (service : Service σ) (g : Group) {leaf : ReportJob} (rest : List ReportJob)
    (begun : ¬ leaf.Startable) (w : World σ) :
    start service (.group g ((leaf :: rest).map .report)) w =
      some ((.group g ((leaf :: rest).map .report), .error (.misuse leaf.label .startTwice)), w) := by
  simp only [List.map_cons, start, startAll, bind_assoc, Act.bind_eq_some]
  exact ⟨_, _, start_refused begun w, _, _, rfl, _, _, rfl, rfl⟩

/-- With a service that accepts all submissions, a start of members that were never started gets through. -/
theorem start_accepted {service : Service σ} {g : Group} {leaves : List ReportJob}
    (fit : ∀ leaf ∈ leaves, leaf.Startable) {w : World σ} (accepts : service.Accepts w.remote) : ∃ leaves' w',
      start service (.group g (leaves.map .report)) w = some ((.group g (leaves'.map .report), .ok ()), w') ∧
        List.Forall₂ Launched leaves leaves' ∧ w'.calls = w.calls ++ leaves.map request := by
  obtain ⟨⟨job, result⟩, w', run⟩ := start_total service (.group g (leaves.map .report)) w
  obtain ⟨leaves', rfl, sweep⟩ := start_sweep service g fit w _ _ run
  obtain rfl : result = .ok () := sweep.accepted accepts
  cases sweep with
  | whole each calls =>
    rw [List.filter_true] at calls
    exact ⟨leaves', w', run, launched_of_swept each, calls⟩

theorem restart_accepted {service : Service σ} {g : Group} {leaves : List ReportJob}
    (sound : ∀ leaf ∈ leaves, leaf.progress.Sound) (broken : ∃ leaf ∈ leaves, leaf.failed) {w : World σ}
    (accepts : service.Accepts w.remote) : ∃ g' leaves' w',
      restart service (.group g (leaves.map .report)) w = some ((.group g' (leaves'.map .report), .ok ()), w') ∧
        List.Forall₂ (Swept ReportJob.failed cleared) leaves leaves' := by
  obtain ⟨⟨job, result⟩, w', run⟩ := restart_total service (.group g (leaves.map .report)) w
  obtain ⟨leaves', attempt, rfl, sweep, -⟩ := restart_sweep service g sound broken w _ _ run
  obtain rfl : result = .ok () := sweep.accepted accepts
  cases sweep with
  | whole each calls => exact ⟨_, leaves', w', run, each⟩

/-- A restart leaves members alone that have not failed, however it ends. -/
theorem restart_spares (service : Service σ) (g : Group) {leaves : List ReportJob}
    (sound : ∀ leaf ∈ leaves, leaf.progress.Sound) {leaf : ReportJob} (mem : leaf ∈ leaves) (fine : leaf.failed = false)
    (w : World σ) : Act.Ensures (restart service (.group g (leaves.map .report))) w fun out _ =>
      leaf ∈ out.1.leaves := by
  by_cases broken : ∃ leaf ∈ leaves, leaf.failed
  · refine (restart_sweep service g sound broken w).mono ?_
    rintro ⟨_, result⟩ w' ⟨leaves', attempt, rfl, sweep, -⟩
    rw [Job.leaves, leaves_of_reports]
    exact sweep.keeps mem fine
  · rw [restart_of_fine service g broken]
    refine Act.ensures_pure.2 ?_
    rwa [Job.leaves, leaves_of_reports]

/-- A start of members that were never started was refused the submission of `leaf`. Those before it have been started,
by one submission each. -/
structure HalfStarted (g : Group) (leaves before before' : List ReportJob) (leaf : ReportJob) (rest : List ReportJob)
    (w : World σ) (job : Job) (w' : World σ) : Prop where
  order : leaves = before ++ leaf :: rest
  left : job = .group g ((before' ++ leaf :: rest).map .report)
  launched : List.Forall₂ Launched before before'
  calls : w'.calls = w.calls ++ (before ++ [leaf]).map request

/-- What another start makes of such a group. -/
structure StartedAgain (g : Group) (leaves before : List ReportJob) (job : Job) : Prop where
  stuck : before ≠ [] → ∀ {τ : Type} (again : Service τ) (v : World τ), ∃ label,
    start again job v = some ((job, .error (.misuse label .startTwice)), v)
  through : before = [] → ∀ {τ : Type} (again : Service τ) (v : World τ), again.Accepts v.remote → ∃ leaves' v',
    start again job v = some ((.group g (leaves'.map .report), .ok ()), v') ∧
      List.Forall₂ Launched leaves leaves' ∧ v'.calls = v.calls ++ leaves.map request

/-- A restart was refused the submission of `leaf`, which it has cleared. -/
structure HalfRestarted (g : Group) (leaves before before' : List ReportJob) (leaf : ReportJob) (rest : List ReportJob)
    (job : Job) : Prop where
  order : leaves = before ++ leaf :: rest
  failed : leaf.failed
  left : ∃ attempt, job = .group { g with attempt } ((before' ++ leaf.cleared :: rest).map .report)
  swept : List.Forall₂ (Swept ReportJob.failed cleared) before before'

/-- What another restart makes of such a group. -/
structure RestartedAgain (leaf : ReportJob) (rest : List ReportJob) (job : Job) : Prop where
  stuck : (∀ later ∈ rest, later.failed = false) → ∀ {τ : Type} (again : Service τ) (v : World τ),
    restart again job v = some ((job, .error (.misuse job.label .restartUnfailed)), v)
  through : (∃ later ∈ rest, later.failed) → ∀ {τ : Type} (again : Service τ) (v : World τ), again.Accepts v.remote →
    ∃ job' v', restart again job v = some ((job', .ok ()), v') ∧
      List.Forall₂ (Swept ReportJob.failed cleared) job.leaves job'.leaves
  /-- No restart gives the member in trouble a run, whoever answers it. -/
  lost : ∀ {τ : Type} (again : Service τ) (v : World τ), Act.Ensures (restart again job) v fun out _ =>
    leaf.cleared ∈ out.1.leaves

theorem halfStarted_of_refused {g : Group} {leaves : List ReportJob} (fit : ∀ leaf ∈ leaves, leaf.Startable)
    {w w' : World σ} {job : Job} {cause : ServiceError}
    (run : start service (.group g (leaves.map .report)) w = some ((job, .error (.service cause)), w')) :
    ∃ before before' leaf rest, HalfStarted g leaves before before' leaf rest w job w' := by
  obtain ⟨leaves', same, sweep⟩ := start_sweep service g fit w _ _ run
  cases sweep with
  | @stopped before before' rest leaf _ _ _ order each wanted leads refusal calls =>
    rw [List.filter_true] at calls
    exact ⟨before, before', leaf, rest, order, same, launched_of_swept each, calls⟩

theorem HalfStarted.again {g : Group} {leaves before before' rest : List ReportJob} {leaf : ReportJob}
    {w w' : World σ} {job : Job} (h : HalfStarted g leaves before before' leaf rest w job w')
    (fit : ∀ leaf ∈ leaves, leaf.Startable) : StartedAgain g leaves before job := by
  obtain ⟨rfl, rfl, launched, -⟩ := h
  cases launched with
  | nil => exact ⟨fun some_ => absurd rfl some_, fun _ _ again v accepts => start_accepted fit accepts⟩
  | @cons first first' _ _ head =>
    refine ⟨fun _ _ again v => ⟨first'.label, ?_⟩, nofun⟩
    exact start_stuck again g _ head.unstartable v

theorem halfRestarted_of_refused {g : Group} {leaves : List ReportJob} (sound : ∀ leaf ∈ leaves, leaf.progress.Sound)
    {w w' : World σ} {job : Job} {cause : ServiceError}
    (run : restart service (.group g (leaves.map .report)) w = some ((job, .error (.service cause)), w')) :
    ∃ before before' leaf rest, HalfRestarted g leaves before before' leaf rest job := by
  by_cases broken : ∃ leaf ∈ leaves, leaf.failed
  · obtain ⟨leaves', attempt, same, sweep, -⟩ := restart_sweep service g sound broken w _ _ run
    cases sweep with
    | @stopped before before' rest leaf _ _ _ order each wanted leads refusal calls =>
      exact ⟨before, before', leaf, rest, order, wanted, ⟨attempt, same⟩, each⟩
  · rw [restart_of_fine service g broken] at run
    cases (Act.pure_eq_some.1 run).1

section

variable {g : Group} {leaves before before' rest : List ReportJob} {leaf : ReportJob} {job : Job}

/-- Of the members that such a restart leaves, those have failed that it did not come to. -/
theorem HalfRestarted.failed_iff (h : HalfRestarted g leaves before before' leaf rest job) :
    job.failed ↔ ∃ later ∈ rest, later.failed := by
  obtain ⟨-, -, ⟨attempt, rfl⟩, swept⟩ := h
  rw [group_failed_iff]
  constructor
  · rintro ⟨member, mem, failed⟩
    rcases List.mem_append.1 mem with mem | mem
    · rw [unfailed_of_swept swept member mem] at failed
      cases failed
    · rcases List.mem_cons.1 mem with rfl | mem
      · cases failed
      · exact ⟨member, mem, failed⟩
  · rintro ⟨later, mem, failed⟩
    exact ⟨later, by simp [mem], failed⟩

theorem HalfRestarted.sound (h : HalfRestarted g leaves before before' leaf rest job)
    (sound : ∀ leaf ∈ leaves, leaf.progress.Sound) :
    ∀ member ∈ before' ++ leaf.cleared :: rest, member.progress.Sound := by
  rw [h.order, List.forall_mem_append, List.forall_mem_cons] at sound
  have onward : List.Forall₂ Onward before before' := h.swept.imp fun _ _ => Swept.onward
  have front : ∀ member ∈ before', member.progress.Sound :=
    forall₂_carry (fun _ _ onward sound => onward.sound sound) onward sound.1
  exact List.forall_mem_append.2 ⟨front, List.forall_mem_cons.2 ⟨leaf.sound_cleared, sound.2.2⟩⟩

theorem HalfRestarted.again (h : HalfRestarted g leaves before before' leaf rest job)
    (sound : ∀ leaf ∈ leaves, leaf.progress.Sound) : RestartedAgain leaf rest job := by
  have failing := h.failed_iff
  have sound' := h.sound sound
  obtain ⟨-, -, ⟨attempt, rfl⟩, -⟩ := h
  refine ⟨fun none _ again v => ?stuck, fun some_ _ again v accepts => ?through, fun again v => ?lost⟩
  case stuck =>
    have unfailed : (Job.group { g with attempt } ((before' ++ leaf.cleared :: rest).map .report)).failed = false := by
      rw [← Bool.not_eq_true, failing]
      simpa using none
    rw [restart_of_unfailed again _ unfailed]
    rfl
  case through =>
    obtain ⟨g', leaves', v', run, each⟩ := restart_accepted sound' ((group_failed_iff _ _).1 (failing.2 some_)) accepts
    refine ⟨_, v', run, ?_⟩
    rw [Job.leaves, Job.leaves, leaves_of_reports, leaves_of_reports]
    exact each
  case lost =>
    exact restart_spares again _ sound' (by simp) rfl v

end

/-- A group whose start or restart was refused a submission cannot be relied on to be started by another call. Another
start gets through if the first member was the one in trouble, and else it is refused for the first member, whatever the
service answers. Another restart gets through if a member behind the one in trouble has failed, and else it is refused;
in either case the member in trouble is not started. -/
theorem retried_after_refusal (service : Service σ) (g : Group) (leaves : List ReportJob) (w w' : World σ) (job : Job)
    (cause : ServiceError) :
    ((∀ leaf ∈ leaves, leaf.Startable) →
      start service (.group g (leaves.map .report)) w = some ((job, .error (.service cause)), w') →
        ∃ before before' leaf rest, HalfStarted g leaves before before' leaf rest w job w' ∧
          StartedAgain g leaves before job) ∧
    ((∀ leaf ∈ leaves, leaf.progress.Sound) →
      restart service (.group g (leaves.map .report)) w = some ((job, .error (.service cause)), w') →
        ∃ before before' leaf rest, HalfRestarted g leaves before before' leaf rest job ∧
          RestartedAgain leaf rest job) := by
  constructor
  · intro fit run
    obtain ⟨before, before', leaf, rest, half⟩ := halfStarted_of_refused fit run
    exact ⟨before, before', leaf, rest, half, half.again fit⟩
  · intro sound run
    obtain ⟨before, before', leaf, rest, half⟩ := halfRestarted_of_refused sound run
    exact ⟨before, before', leaf, rest, half, half.again sound⟩

/-- The second submission is refused, and all later ones are accepted. -/
def secondRefused : World Script := { remote := { submits := [.ok none, .error (.request 503 "busy")] } }

/-- All runs fail, and the fourth submission is the only one that is refused. -/
def fourthRefused : World Script :=
  { remote :=
      { defaultStatus := .ok (.named "Job Failed")
        submits := [.ok none, .ok none, .ok none, .error (.request 503 "busy")] } }

def refused : Except JobError Unit → Bool
  | .error (.service _) => true
  | _ => false

theorem exists_of_refused {result : Except JobError Unit} (h : refused result) :
    ∃ cause, result = .error (.service cause) := by
  unfold refused at h
  split at h
  · exact ⟨_, rfl⟩
  · cases h

theorem secondRefused_run : ∃ job cause w₁,
    start Script.service newPair secondRefused = some ((job, .error (.service cause)), w₁) ∧
    w₁.remote.submits = [] ∧ w₁.calls.length = 2 := by
  have run : (start Script.service newPair secondRefused).map (fun out =>
      (refused out.1.2, out.2.remote.submits.isEmpty, out.2.calls.length)) = some (true, true, 2) := by
    decide +kernel
  rw [Option.map_eq_some_iff] at run
  obtain ⟨⟨⟨job, result⟩, w₁⟩, starts, seen⟩ := run
  simp only [Prod.mk.injEq, List.isEmpty_iff] at seen
  obtain ⟨cause, rfl⟩ := exists_of_refused seen.1
  exact ⟨job, cause, w₁, starts, seen.2⟩

theorem fourthRefused_run : ∃ (g : Group) (leaves : List ReportJob) (w : World Script) (job : Job)
    (cause : ServiceError) (w₁ : World Script), InUse (.group g (leaves.map .report)) ∧
    leaves.map ReportJob.failed = [true, true] ∧
    restart Script.service (.group g (leaves.map .report)) w = some ((job, .error (.service cause)), w₁) ∧
    w₁.remote.submits = [] ∧ job.failed = false := by
  have run : ((start Script.service newPair fourthRefused).bind fun out₁ =>
      (update Script.service 3 out₁.1.1 out₁.2).bind fun out₂ =>
        (restart Script.service out₂.1.1 out₂.2).map fun out₃ =>
          (out₂.1.1.leaves.map ReportJob.failed, refused out₃.1.2, out₃.2.remote.submits.isEmpty,
            out₃.1.1.failed)) = some ([true, true], true, true, false) := by
    decide +kernel
  rw [Option.bind_eq_some_iff] at run
  obtain ⟨⟨started, w₁⟩, starts, run⟩ := run
  rw [Option.bind_eq_some_iff] at run
  obtain ⟨⟨polled, w₂⟩, polls, run⟩ := run
  rw [Option.map_eq_some_iff] at run
  obtain ⟨⟨⟨job, result⟩, w₃⟩, restarts, seen⟩ := run
  simp only [Prod.mk.injEq, List.isEmpty_iff] at seen
  obtain ⟨cause, rfl⟩ := exists_of_refused seen.2.1
  have used : InUse polled.1 := (newPair_inUse.start starts).update polls
  obtain ⟨g, leaves, same, -⟩ := used.paced
  simp only [same, Job.leaves, leaves_of_reports] at used restarts seen
  exact ⟨g, leaves, w₂, job, cause, w₃, used, seen.1, restarts, seen.2.2⟩

theorem newMembers_startable : ∀ leaf ∈ newMembers, leaf.Startable := by
  have fresh : ReportJob.sample.Startable := .of_fresh rfl
  simpa [newMembers] using fresh

theorem retried_after_refusal_newPair :
    (∃ job cause w₁, start Script.service newPair secondRefused = some ((job, .error (.service cause)), w₁) ∧
      ∃ before before' leaf rest,
        HalfStarted pairGroup newMembers before before' leaf rest secondRefused job w₁ ∧ before ≠ [] ∧
          StartedAgain pairGroup newMembers before job) ∧
    ∃ (g : Group) (leaves : List ReportJob) (w : World Script) (job : Job) (cause : ServiceError) (w₁ : World Script),
      (∀ leaf ∈ leaves, leaf.progress.Sound) ∧ leaves.map ReportJob.failed = [true, true] ∧
        restart Script.service (.group g (leaves.map .report)) w = some ((job, .error (.service cause)), w₁) ∧
          ∃ before before' leaf rest, HalfRestarted g leaves before before' leaf rest job ∧
            RestartedAgain leaf rest job := by
  constructor
  · obtain ⟨job, cause, w₁, run, -, calls⟩ := secondRefused_run
    obtain ⟨before, before', leaf, rest, half, again⟩ :=
      (retried_after_refusal Script.service pairGroup newMembers secondRefused w₁ job cause).1 newMembers_startable run
    refine ⟨job, cause, w₁, run, before, before', leaf, rest, half, ?_, again⟩
    rintro rfl
    simp [half.calls, secondRefused] at calls
  · obtain ⟨g, leaves, w, job, cause, w₁, used, failed, run, -⟩ := fourthRefused_run
    have sound := used.paced_leaves.sound
    exact ⟨g, leaves, w, job, cause, w₁, sound, failed, run,
      (retried_after_refusal Script.service g leaves w w₁ job cause).2 sound run⟩

/-- The refusals may well be over when the group is started or restarted again. -/
theorem refused_pair_not_started :
    (∃ job cause w₁ label, start Script.service newPair secondRefused = some ((job, .error (.service cause)), w₁) ∧
      Script.service.Accepts w₁.remote ∧
      start Script.service job w₁ = some ((job, .error (.misuse label .startTwice)), w₁) ∧
      ∃ leaf ∈ job.leaves, leaf.progress.run = none) ∧
    ∃ (job : Job) (w : World Script) (job' : Job) (cause : ServiceError) (w₁ : World Script), InUse job ∧
      restart Script.service job w = some ((job', .error (.service cause)), w₁) ∧ Script.service.Accepts w₁.remote ∧
      restart Script.service job' w₁ = some ((job', .error (.misuse job'.label .restartUnfailed)), w₁) ∧
      ∃ leaf ∈ job'.leaves, leaf.progress.run = none := by
  constructor
  · obtain ⟨job, cause, w₁, run, open_, calls⟩ := secondRefused_run
    obtain ⟨before, before', leaf, rest, half⟩ := halfStarted_of_refused newMembers_startable run
    have some_ : before ≠ [] := by
      rintro rfl
      simp [half.calls, secondRefused] at calls
    obtain ⟨label, again⟩ := (half.again newMembers_startable).stuck some_ Script.service w₁
    have idle : leaf.progress.run = none := (newMembers_startable leaf (by simp [half.order])).1
    refine ⟨job, cause, w₁, label, run, Script.accepts open_, again, leaf, ?_, idle⟩
    rw [half.left, Job.leaves, leaves_of_reports]
    simp
  · obtain ⟨g, leaves, w, job, cause, w₁, used, -, run, open_, fine⟩ := fourthRefused_run
    have sound := used.paced_leaves.sound
    obtain ⟨before, before', leaf, rest, half⟩ := halfRestarted_of_refused sound run
    obtain ⟨attempt, rfl⟩ := half.left
    refine ⟨_, w, _, cause, w₁, used, run, Script.accepts open_, ?_, leaf.cleared, ?_, rfl⟩
    · rw [restart_of_unfailed Script.service _ fine]
      rfl
    · rw [Job.leaves, leaves_of_reports]
      simp

end Job

end AsyncReports
