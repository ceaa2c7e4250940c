import AsyncReports.Script
import AsyncReports.Proofs.Manager.Calls

set_option autoImplicit false

/-!
# How a manager treats its jobs

What is known of each report job in the queue is kept by everything that is done to it, also by what fails halfway.
Therefore errors are the service's or come from spent attempts, with one exception: a restart clears a job before
it submits it again, and a job that was left cleared is polled later as if it were running. That poll is refused.
-/

namespace AsyncReports.Manager

open ReportJob Job

variable {σ : Type} {p : ReportJob → Prop}

/-- A property that a report job has once it runs, and keeps whatever a manager does to it. -/
structure LeafInvariant (p : ReportJob → Prop) : Prop where
  sound : ∀ a, p a → a.progress.Sound
  heard : ∀ a b, Heard a b → p a → p b
  launched : ∀ a b, Launch a b → a.progress = {} → p b
  restarted : ∀ a b, Restart a b → p a → p b

/-- The property is kept even by restarts that fail, or no request has failed. -/
def Survives (p : ReportJob → Prop) {α : Type} (result : Except JobError α) : Prop :=
  (∀ a b, HalfRestart a b → p a → p b) ∨ ∀ answer, result ≠ .error (.service answer)

theorem Survives.cast {α β : Type} {cause : JobError} (h : Survives p (.error cause : Except JobError α)) :
    Survives p (.error cause : Except JobError β) :=
  h.imp_right fun served answer same => served answer (by cases same; rfl)

theorem Survives.of_ok {α : Type} {a : α} : Survives p (.ok a : Except JobError α) := .inr (by simp)

/-- The service failed, or a job has used its attempts. -/
def Blameless (cause : JobError) : Prop :=
  (∃ answer, cause = .service answer) ∨ ∃ job attempts, cause = .attemptsExhausted job attempts

/-! ## Recovering and sorting -/

theorem RecoverEnd.blameless {settings : ManagerSettings} {job : Job} {recovery : Recovery} {cause : JobError}
    (h : RecoverEnd settings job (recovery, .error cause)) (failed : job.failed)
    (sound : job.All (·.progress.Sound)) : Blameless cause := by
  cases h with
  | exhausted => exact .inr ⟨_, _, rfl⟩
  | unrestarted _ _ blame => exact .inl (blame.service (restartable_of_sound failed sound))
  | unsplit => exact .inl ⟨_, rfl⟩

theorem RecoverEnd.keeps (inv : LeafInvariant p) {settings : ManagerSettings} {job : Job} {recovery : Recovery}
    {result : Except JobError Unit} (h : RecoverEnd settings job (recovery, result)) (failed : job.failed)
    (survives : Survives p result) (all : job.All p) : recovery.job.All p := by
  cases h with
  | exhausted | unsplit => exact all
  | restarted _ again => exact again.carry inv.restarted all
  | unrestarted _ half blame =>
    rcases survives with keep | served
    · exact half.carry keep all
    -- A restart can stop halfway only at a submission, since it is never refused.
    · obtain ⟨answer, rfl⟩ := blame.service (restartable_of_sound failed fun leaf mem => inv.sound leaf (all leaf mem))
      exact absurd rfl (served answer)
  | split _ _ _ launched => exact launched.carry inv.launched (parts_fresh _ _)

theorem Kept.keeps (inv : LeafInvariant p) {settings : ManagerSettings} (job : Job) (recovery : Recovery)
    (h : Kept settings job recovery) (all : job.All p) : recovery.job.All p := by
  cases h with
  | running => exact all
  | recovered failed done => exact done.keeps inv failed Survives.of_ok all

theorem StayAs.keeps (inv : LeafInvariant p) {settings : ManagerSettings} {jobs : List Job}
    {recoveries : List Recovery} (h : StayAs settings jobs recoveries) (all : ∀ job ∈ jobs, job.All p) :
    ∀ job ∈ recoveries.map Recovery.job, job.All p := by
  rw [List.forall_mem_map]
  exact forall₂_carry (Kept.keeps inv) h fun job mem => all job (List.mem_of_mem_filter mem)

theorem SortEnd.keeps (inv : LeafInvariant p) {settings : ManagerSettings} {jobs : List Job} {s : Sorting}
    {result : Except JobError Unit} (h : SortEnd settings {} jobs s result) (survives : Survives p result)
    (all : ∀ job ∈ jobs, job.All p) : ∀ job ∈ s.kept, job.All p := by
  cases h with
  | sorted stay kept =>
    rw [kept]
    exact stay.keeps inv all
  | @stuck before after job recoveries recovery cause order stay failed trouble kept =>
    rw [order, List.forall_mem_append, List.forall_mem_cons] at all
    obtain ⟨first, this, rest⟩ := all
    rw [kept]
    simp only [List.nil_append, List.forall_mem_append, List.forall_mem_cons]
    refine ⟨stay.keeps inv first, trouble.keeps inv failed survives this, ?_, rest⟩
    exact fun job mem => first job (List.mem_of_mem_filter mem)

theorem SortEnd.blameless {settings : ManagerSettings} {s s' : Sorting} {jobs : List Job} {cause : JobError}
    (h : SortEnd settings s jobs s' (.error cause)) (sound : ∀ job ∈ jobs, job.All (·.progress.Sound)) :
    Blameless cause := by
  cases h with
  | stuck order _ failed trouble =>
    refine trouble.blameless failed (sound _ ?_)
    rw [order]
    exact List.mem_append_right _ List.mem_cons_self

/-! ## Passes -/

/-- The property holds of all report jobs in the queue, and none in the source has ever been started. -/
structure Holds (p : ReportJob → Prop) (m : Manager) : Prop where
  queue : ∀ job ∈ m.queue, job.All p
  source : ∀ job ∈ m.source, job.All (·.progress = {})

/-- A poll of the queue comes to a report job that has no run. -/
def Blocked (m : Manager) : Prop := ∃ leaf ∈ m.polled, leaf.progress.run = none

theorem all_heard (inv : LeafInvariant p) {jobs jobs' : List Job} (heard : AllHeard jobs jobs')
    (all : ∀ job ∈ jobs, job.All p) : ∀ job ∈ jobs', job.All p :=
  forall₂_carry (fun _ _ heard => heard.carry inv.heard) heard all

theorem PassEnd.keeps (inv : LeafInvariant p) {m : Manager} {out : Manager × Except JobError (List Job)}
    (h : PassEnd m out) (survives : Survives p out.2) (holds : Holds p m) : Holds p out.1 := by
  cases h with
  | refused heard | unread heard => exact ⟨all_heard inv heard holds.queue, holds.source⟩
  | stuck heard _ sorts => exact ⟨sorts.keeps inv survives.cast (all_heard inv heard holds.queue), holds.source⟩
  | sorted heard _ sorts => exact ⟨sorts.keeps inv Survives.of_ok (all_heard inv heard holds.queue), holds.source⟩

theorem mem_queue_of_polled {m : Manager} {leaf : ReportJob} (mem : leaf ∈ m.polled) :
    leaf ∈ allLeaves m.queue := by
  rw [polled, allLeaves_eq_flatMap, List.mem_flatMap] at mem
  rw [allLeaves_eq_flatMap, List.mem_flatMap]
  obtain ⟨job, visited, here⟩ := mem
  exact ⟨job, (visited_initial _ _ _).subset visited, here⟩

theorem unblocked_of_pollable (inv : LeafInvariant p) {m : Manager} (holds : Holds p m)
    (fine : Pollable m.polled) : ¬ m.Blocked := by
  rintro ⟨leaf, mem, idle⟩
  have sound := inv.sound leaf (forall_allLeaves.2 holds.queue leaf (mem_queue_of_polled mem))
  have ended := fine leaf mem idle
  rw [ReportJob.completed, sound.unfinished idle] at ended
  cases ended

/-- A pass that is blocked is refused, and every other pass ends without blame. -/
theorem PassEnd.outcome (inv : LeafInvariant p) {m : Manager} {out : Manager × Except JobError (List Job)}
    (h : PassEnd m out) (holds : Holds p m) :
    (m.Blocked ∧ ∃ label, out.2 = .error (.misuse label .updateUnstarted)) ∨
      (¬ m.Blocked ∧ ∀ cause, out.2 = .error cause → Blameless cause) := by
  cases h with
  | refused _ blocked => exact .inl ⟨blocked, _, rfl⟩
  | unread _ fine =>
    refine .inr ⟨unblocked_of_pollable inv holds fine, ?_⟩
    rintro _ ⟨⟩
    exact .inl ⟨_, rfl⟩
  | stuck heard fine sorts =>
    refine .inr ⟨unblocked_of_pollable inv holds fine, ?_⟩
    rintro _ ⟨⟩
    exact sorts.blameless fun job mem leaf here => inv.sound leaf (all_heard inv heard holds.queue job mem leaf here)
  | sorted _ fine => exact .inr ⟨unblocked_of_pollable inv holds fine, by simp⟩

theorem Idles.keeps (inv : LeafInvariant p) {service : Service σ} {rounds : Nat} {a b : Manager × World σ}
    (h : Idles service rounds a b) (holds : Holds p a.1) : Holds p b.1 := by
  induction h with
  | refl => exact holds
  | tail _ idle ih =>
    obtain ⟨w, pass, -⟩ := idle
    exact (pass_ensures service rounds _ _ _ _ pass).keeps inv .of_ok ih

/-! ## Filling -/

theorem all_launched (inv : LeafInvariant p) {jobs jobs' : List Job}
    (launched : List.Forall₂ (Becomes Launch) jobs jobs') (fresh : ∀ job ∈ jobs, job.All (·.progress = {})) :
    ∀ job ∈ jobs', job.All p :=
  forall₂_carry (fun _ _ launched => launched.carry inv.launched) launched fresh

theorem StartEnd.keeps (inv : LeafInvariant p) {m : Manager} {out : Outcome Manager} (h : StartEnd m m.source out)
    (holds : Holds p m) : Holds p out.1 ∧ ∀ cause, out.2 = .error cause → Blameless cause := by
  have fresh := holds.source
  cases h with
  | stopped order launched =>
    rw [order, List.forall_mem_append] at fresh
    refine ⟨⟨?_, fresh.2⟩, by simp⟩
    exact List.forall_mem_append.2 ⟨holds.queue, all_launched inv launched fresh.1⟩
  | @refused taken started left job job' cause order launched _ _ blame =>
    rw [order, List.forall_mem_append, List.forall_mem_cons] at fresh
    obtain ⟨before, this, after⟩ := fresh
    refine ⟨⟨List.forall_mem_append.2 ⟨holds.queue, all_launched inv launched before⟩, after⟩, ?_⟩
    rintro _ ⟨⟩
    exact .inl (blame.service (startable_of_fresh this))

theorem FillEnd.keeps (inv : LeafInvariant p) {m : Manager} {fails : Prop} {out : Outcome Manager}
    (h : FillEnd m fails out) (holds : Holds p m) :
    Holds p out.1 ∧ ∀ cause, out.2 = .error cause → Blameless cause := by
  cases h with
  | unread =>
    refine ⟨⟨holds.queue, holds.source⟩, ?_⟩
    rintro _ ⟨⟩
    exact .inl ⟨_, rfl⟩
  | @tried load _ _ starts =>
    have loaded : Holds p { m with throttle := load } := ⟨holds.queue, holds.source⟩
    exact starts.keeps inv loaded

/-! ## Calls -/

theorem Opened.keeps (inv : LeafInvariant p) {service : Service σ} {rounds : Nat} {m m₁ : Manager} {w w₁ : World σ}
    (h : Opened service rounds m w m₁ w₁) (holds : Holds p m) : Holds p m₁ := by
  cases h with
  | busy => exact holds
  | filled _ opening => exact ((fill_ensures service rounds m w _ _ opening).keeps inv holds).1

theorem awaitCompleted_keeps (inv : LeafInvariant p) {service : Service σ} {rounds passes : Nat} {m : Manager}
    {w w' : World σ} {out : Manager × Except JobError (List Job)}
    (run : awaitCompleted service rounds passes m w = some (out, w')) (survives : Survives p out.2)
    (holds : Holds p m) : Holds p out.1 := by
  obtain ⟨m₁, w₁, idles, last, -⟩ := awaitCompleted_ensures service rounds passes m w _ _ run
  exact (pass_ensures service rounds m₁ w₁ _ _ last).keeps inv survives (idles.keeps inv holds)

theorem NextRun.keeps (inv : LeafInvariant p) {service : Service σ} {rounds : Nat} {m : Manager} {w w' : World σ}
    {out : Manager × Except JobError (Option (List Job))} (h : NextRun service rounds m w out w')
    (survives : Survives p out.2) (holds : Holds p m) : Holds p out.1 := by
  cases h with
  | unopened _ opening | ended _ opening => exact ((fill_ensures service rounds m w _ _ opening).keeps inv holds).1
  | interrupted opened _ waiting => exact awaitCompleted_keeps inv waiting survives.cast (opened.keeps inv holds)
  | unclosed opened _ waiting closing =>
    have waited := awaitCompleted_keeps inv waiting .of_ok (opened.keeps inv holds)
    have filled := ((fill_ensures service rounds _ _ _ _ closing).keeps inv waited).1
    exact ⟨filled.queue, filled.source⟩
  | returned opened _ waiting closing =>
    have waited := awaitCompleted_keeps inv waiting .of_ok (opened.keeps inv holds)
    exact ((fill_ensures service rounds _ _ _ _ closing).keeps inv waited).1

/-- The call comes to a pass that begins with this manager and this world. -/
def Reaches (service : Service σ) (rounds : Nat) (m : Manager) (w : World σ) (m' : Manager) (w' : World σ) : Prop :=
  ∃ m₁ w₁, Opened service rounds m w m₁ w₁ ∧ m₁.queue ≠ [] ∧ Idles service rounds (m₁, w₁) (m', w')

theorem NextRun.blameless_or_blocked (inv : LeafInvariant p) {service : Service σ} {rounds : Nat} {m m' : Manager}
    {w w' : World σ} {cause : JobError} (h : NextRun service rounds m w (m', .error cause) w') (holds : Holds p m) :
    Blameless cause ∨ ∃ m₁ w₁, Reaches service rounds m w m₁ w₁ ∧ m₁.Blocked := by
  cases h with
  | unopened _ opening => exact .inl (((fill_ensures service rounds m w _ _ opening).keeps inv holds).2 cause rfl)
  | @interrupted m₁ _ w₁ _ _ opened running waiting =>
    obtain ⟨m₂, w₂, idles, last, -⟩ := awaitCompleted_ensures service rounds rounds m₁ w₁ _ _ waiting
    have known : Holds p m₂ := idles.keeps inv (opened.keeps inv holds)
    rcases (pass_ensures service rounds m₂ w₂ _ _ last).outcome inv known with ⟨blocked, -⟩ | ⟨-, blameless⟩
    · exact .inr ⟨m₂, w₂, ⟨m₁, w₁, opened, running, idles⟩, blocked⟩
    · exact .inl (blameless cause rfl)
  | unclosed opened _ waiting closing =>
    have waited := awaitCompleted_keeps inv waiting .of_ok (opened.keeps inv holds)
    exact .inl (((fill_ensures service rounds _ _ _ _ closing).keeps inv waited).2 cause rfl)

theorem NextRun.misuse_of_blocked (inv : LeafInvariant p) {service : Service σ} {rounds : Nat} {m m₁ : Manager}
    {w w₁ w' : World σ} {out : Manager × Except JobError (Option (List Job))}
    (h : NextRun service rounds m w out w') (holds : Holds p m) (reach : Reaches service rounds m w m₁ w₁)
    (blocked : m₁.Blocked) : ∃ label, out.2 = .error (.misuse label .updateUnstarted) := by
  obtain ⟨m₀, w₀, opened, running, idles⟩ := reach
  have known : Holds p m₁ := idles.keeps inv (opened.keeps inv holds)
  have refused : ∀ {out w'}, m₁.pass service rounds w₁ = some (out, w') →
      ∃ label, out.2 = .error (.misuse label .updateUnstarted) := fun pass =>
    ((pass_ensures service rounds m₁ w₁ _ _ pass).outcome inv known).elim And.right fun fine => absurd blocked fine.1
  -- A blocked pass is refused, so it is not one after which the call goes on.
  have last : ∀ m' w', m₁.pass service rounds w₁ ≠ some ((m', .ok []), w') := by
    intro m' w' pass
    simpa using refused pass
  cases h with
  | unopened empty opening =>
    cases opened with
    | busy busy => exact absurd empty busy
    | filled _ opening' => simp [opening] at opening'
  | ended empty opening still =>
    obtain ⟨rfl, rfl⟩ := Opened.unique (.filled empty opening) opened
    exact absurd still running
  | interrupted opened' _ waiting =>
    obtain ⟨rfl, rfl⟩ := opened'.unique opened
    obtain ⟨label, same⟩ := refused (awaitCompleted_ends idles last waiting)
    cases same
    exact ⟨label, rfl⟩
  | unclosed opened' _ waiting | returned opened' _ waiting =>
    obtain ⟨rfl, rfl⟩ := opened'.unique opened
    simpa using refused (awaitCompleted_ends idles last waiting)

/-! ## Histories -/

theorem sound_invariant : LeafInvariant (·.progress.Sound) where
  sound _ sound := sound
  heard _ _ heard sound := heard.sound sound
  launched a _ launch fresh := by
    obtain ⟨fit, run, now, rfl⟩ := launch
    refine fit.sound_launched ?_ run now
    rw [fresh]
    exact .initial
  restarted a _ restart sound := by
    rcases restart with ⟨-, rfl⟩ | ⟨-, run, now, rfl⟩
    · exact sound
    · exact Startable.sound_launched ⟨rfl, rfl⟩ a.sound_cleared run now

theorem sound_survives {α : Type} {result : Except JobError α} : Survives (·.progress.Sound) result := by
  refine .inl ?_
  rintro a _ (rfl | relaunch | ⟨-, rfl⟩) sound
  · exact sound
  · exact sound_invariant.restarted a _ (.inr relaunch) sound
  · exact a.sound_cleared

theorem run_invariant : LeafInvariant fun a => a.progress.Sound ∧ a.progress.run.isSome where
  sound _ known := known.1
  heard _ _ heard known := ⟨heard.sound known.1, heard.run_isSome known.2⟩
  launched a b launch fresh := by
    refine ⟨sound_invariant.launched a b launch fresh, ?_⟩
    obtain ⟨-, run, now, rfl⟩ := launch
    rfl
  restarted a b restart known := by
    refine ⟨sound_invariant.restarted a b restart known.1, ?_⟩
    rcases restart with ⟨-, rfl⟩ | ⟨-, run, now, rfl⟩
    · exact known.2
    · rfl

theorem holds_of_fresh {settings : ManagerSettings} {source : List Job}
    (fresh : ∀ job ∈ source, job.All (·.progress = {})) : Holds p { settings, source } :=
  ⟨by simp, fresh⟩

theorem History.sound {service : Service σ} {first m : Manager} {calls : List (NextCall σ)}
    (h : History service first calls m) (holds : Holds (·.progress.Sound) first) : Holds (·.progress.Sound) m := by
  refine h.keeps (fun m rounds w before => ?_) holds
  exact (next_ensures service rounds m w).mono fun out w' run => run.keeps sound_invariant sound_survives before

theorem History.unblocked {service : Service σ} {first m : Manager} {calls : List (NextCall σ)}
    (h : History service first calls m) (served : ∀ call ∈ calls, ∀ answer, call.result ≠ .error (.service answer))
    (holds : Holds (fun a => a.progress.Sound ∧ a.progress.run.isSome) first) :
    Holds (fun a => a.progress.Sound ∧ a.progress.run.isSome) m := by
  induction h with
  | start => exact holds
  | call before run ih =>
    rw [List.forall_mem_append, List.forall_mem_singleton] at served
    exact (next_ensures service _ _ _ _ _ run).keeps run_invariant (.inr served.2) (ih served.1)

/-- A call of a manager whose source was never started ends with another error than the service's and that of spent
attempts exactly when it comes to a pass that is blocked. The error is a refused poll then, and an earlier call ended
with an error of the service. -/
theorem misuse_iff_blocked {service : Service σ} {settings : ManagerSettings} {source : List Job}
    {calls : List (NextCall σ)} {m m' : Manager} {rounds : Nat} {w w' : World σ} {cause : JobError}
    (fresh : ∀ job ∈ source, job.All (·.progress = {})) (h : History service { settings, source } calls m)
    (run : m.next service rounds w = some ((m', .error cause), w')) :
    (¬ Blameless cause ↔ ∃ m₁ w₁, Reaches service rounds m w m₁ w₁ ∧ m₁.Blocked) ∧
      (¬ Blameless cause → (∃ label, cause = .misuse label .updateUnstarted) ∧
        ∃ call ∈ calls, ∃ answer, call.result = .error (.service answer)) := by
  have holds := h.sound (holds_of_fresh fresh)
  have call := next_ensures service rounds m w _ _ run
  have reached : ¬ Blameless cause → ∃ m₁ w₁, Reaches service rounds m w m₁ w₁ ∧ m₁.Blocked :=
    (call.blameless_or_blocked sound_invariant holds).resolve_left
  have refused : ∀ {m₁ w₁}, Reaches service rounds m w m₁ w₁ → m₁.Blocked →
      ∃ label, cause = .misuse label .updateUnstarted := by
    intro m₁ w₁ reach blocked
    obtain ⟨label, same⟩ := call.misuse_of_blocked sound_invariant holds reach blocked
    exact ⟨label, Except.error.inj same⟩
  refine ⟨⟨reached, ?_⟩, fun blame => ?_⟩
  · rintro ⟨m₁, w₁, reach, blocked⟩
    obtain ⟨label, rfl⟩ := refused reach blocked
    rintro (⟨_, other⟩ | ⟨_, _, other⟩) <;> cases other
  · obtain ⟨m₁, w₁, reach, blocked⟩ := reached blame
    refine ⟨refused reach blocked, ?_⟩
    by_contra served
    simp only [not_exists, not_and] at served
    obtain ⟨m₀, w₀, opened, -, idles⟩ := reach
    obtain ⟨leaf, mem, idle⟩ := blocked
    have known := idles.keeps run_invariant (opened.keeps run_invariant (h.unblocked served (holds_of_fresh fresh)))
    have run := (forall_allLeaves.2 known.queue leaf (mem_queue_of_polled mem)).2
    rw [idle] at run
    cases run

/-- The first run fails, and the report is refused when it is submitted again. -/
def relapseWorld : World Script :=
  { remote :=
      { status := [("run-1", [.ok (.named "Job Failed")])], submits := [.ok none, .error (.request 503 "busy")] } }

theorem sampleJob_fresh : ∀ job ∈ [sampleJob], job.All (·.progress = {}) := by
  simp [sampleJob, All, leaves, ReportJob.sample, ReportJob.new]

theorem relapse_run : ∃ m₁ w₁ result m₂ w₂ cause,
    next Script.service 3 { source := [sampleJob] } relapseWorld = some ((m₁, result), w₁) ∧
    next Script.service 3 m₁ w₁ = some ((m₂, .error cause), w₂) ∧ cause.isMisuse := by
  have run : ((next Script.service 3 { source := [sampleJob] } relapseWorld).bind fun out =>
      (next Script.service 3 out.1.1 out.2).map fun out =>
        match out.1.2 with
        | .error cause => cause.isMisuse
        | .ok _ => false) = some true := by
    decide +kernel
  rw [Option.bind_eq_some_iff] at run
  obtain ⟨⟨⟨m₁, result⟩, w₁⟩, first, later⟩ := run
  rw [Option.map_eq_some_iff] at later
  obtain ⟨⟨⟨m₂, cause | _⟩, w₂⟩, second, misuse⟩ := later
  · exact ⟨m₁, w₁, result, m₂, w₂, cause, first, second, misuse⟩
  · cases misuse

theorem misuse_iff_blocked_relapse : (∀ job ∈ [sampleJob], job.All (·.progress = {})) ∧ ∃ calls m w m' w' cause,
    History Script.service { source := [sampleJob] } calls m ∧
    m.next Script.service 3 w = some ((m', .error cause), w') ∧
    (¬ Blameless cause ↔ ∃ m₁ w₁, Reaches Script.service 3 m w m₁ w₁ ∧ m₁.Blocked) ∧
      (¬ Blameless cause → (∃ label, cause = .misuse label .updateUnstarted) ∧
        ∃ call ∈ calls, ∃ answer, call.result = .error (.service answer)) := by
  obtain ⟨m₁, w₁, result, m₂, w₂, cause, first, second, -⟩ := relapse_run
  have history : History Script.service { source := [sampleJob] } _ m₁ := .call .start first
  exact ⟨sampleJob_fresh, _, m₁, w₁, m₂, w₂, cause, history, second,
    misuse_iff_blocked sampleJob_fresh history second⟩

theorem relapse_ends_in_misuse : (∀ job ∈ [sampleJob], job.All (·.progress = {})) ∧ ∃ calls m w m' w' cause,
    History Script.service { source := [sampleJob] } calls m ∧
    m.next Script.service 3 w = some ((m', .error cause), w') ∧ cause.isMisuse := by
  obtain ⟨m₁, w₁, result, m₂, w₂, cause, first, second, misuse⟩ := relapse_run
  exact ⟨sampleJob_fresh, _, m₁, w₁, m₂, w₂, cause, .call .start first, second, misuse⟩

end AsyncReports.Manager
