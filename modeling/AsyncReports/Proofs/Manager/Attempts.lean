import AsyncReports.Proofs.Job.Attempts
import AsyncReports.Proofs.Manager.Admission

set_option autoImplicit false

/-!
# The ceiling of attempts

A report job is restarted once. When it fails for the second time it is replaced by a group, if the ceiling leaves room
for a third attempt, and the group is restarted until one of its members has come to the ceiling. All jobs in the queue
stay `Capped` in every step, also where a restart or a split is stopped halfway. An error that tells of spent attempts
comes from a recovery that requests nothing.
-/

namespace AsyncReports.Manager

open ReportJob Job

variable {σ : Type} {service : Service σ} {ceiling : Nat}

/-! ## Recovering -/

/-- A report job that was never started. -/
def New (leaf : ReportJob) : Prop := leaf.progress = {} ∧ leaf.attempt = 1

theorem New.launched {leaf leaf' : ReportJob} (h : New leaf) (launch : Launch leaf leaf') :
    leaf'.progress.Sound ∧ leaf'.attempt = 1 :=
  ⟨sound_invariant.launched leaf leaf' launch h.1, launch.attempt_eq.trans h.2⟩

theorem parts_new (leaf : ReportJob) (rows : List Row) : (leaf.parts rows).All New := by
  intro part mem
  refine ⟨parts_fresh leaf rows part mem, ?_⟩
  rw [leaves_parts, List.mem_map] at mem
  obtain ⟨key, -, rfl⟩ := mem
  rfl

theorem capped_parts {leaf : ReportJob} {rows : List Row} {parts : Job} (room : 3 ≤ ceiling)
    (launched : Becomes Launch (leaf.parts rows) parts) (same : parts.attempt = 1) : parts.Capped ceiling := by
  have all : parts.All fun part => part.progress.Sound ∧ part.attempt = 1 :=
    launched.carry (fun _ _ launch new => New.launched new launch) (parts_new leaf rows)
  rw [ReportJob.parts, Split.group] at launched
  obtain ⟨g, members, rfl, made, -⟩ := launched.of_group
  have same : g.attempt = 1 := same
  have flat : Flat ((Split.keys rows leaf.settings.splitter.level).map fun key => .report (Split.part leaf key)) := by
    intro member mem
    obtain ⟨key, -, rfl⟩ := List.mem_map.1 mem
    exact ⟨_, rfl⟩
  rw [Capped, same]
  refine ⟨room, by omega, flat.of_made made, fun part mem => ?_⟩
  obtain ⟨sound, first⟩ := all part mem
  exact ⟨sound, by omega, .inl (Nat.le_of_eq first)⟩

theorem capped_of_new {leaf : ReportJob} {job : Job} (room : 1 ≤ ceiling) (new : New leaf)
    (launched : Becomes Launch (.report leaf) job) : job.Capped ceiling := by
  obtain ⟨leaf', rfl, launch⟩ := launched.of_report
  obtain ⟨sound, first⟩ := new.launched launch
  exact ⟨sound, by omega⟩

theorem restartJob_capped {job : Job} (h : job.Capped ceiling) (failed : job.failed)
    (room : job.attempt < ceiling) (kind : ∀ leaf, job = .report leaf → leaf.attempt ≠ Limits.splitOnAttempt)
    (w : World σ) : Act.Ensures (restartJob service job) w fun out _ => out.1.job.Capped ceiling := by
  have restarted : Act.Ensures (job.restart service) w fun out _ => out.1.Capped ceiling := by
    cases job with
    | group g members => exact restart_capped h room w
    | report leaf =>
      have first : leaf.attempt < 2 := by
        have le := h.2
        have other := kind leaf rfl
        rw [Limits.splitOnAttempt] at other
        omega
      exact restart_capped_report h failed first room w
  rw [restartJob, Act.ensures_bind]
  refine restarted.mono ?_
  rintro ⟨job', cause | _⟩ w₁ capped
  · exact Act.ensures_pure.2 capped
  · simp only [Act.ensures_bind, Act.ensures_log, Act.ensures_pure]
    exact capped

theorem recover_capped {settings : ManagerSettings} {job : Job} (h : job.Capped settings.maxAttempts)
    (failed : job.failed) (w : World σ) :
    Act.Ensures (recover service settings job) w fun out _ => out.1.job.Capped settings.maxAttempts := by
  rw [recover]
  split
  · exact Act.ensures_pure.2 h
  · rename_i unspent
    have room : job.attempt < settings.maxAttempts := Nat.lt_of_not_le unspent
    split
    · rename_i second
      simp only [Act.ensures_bind, Act.ensures_log]
      cases job with
      | group g members =>
        -- A group at its second attempt does not split, so it is restarted after all.
        simp only [Job.split, Act.ensures_pure, Act.ensures_bind, Act.ensures_log]
        exact restartJob_capped h failed room (by simp) _
      | report leaf =>
        have second : leaf.attempt = 2 := second
        have three : 3 ≤ settings.maxAttempts := by
          have room : leaf.attempt < settings.maxAttempts := room
          omega
        refine (splitReport_ensures service leaf _).mono ?_
        rintro _ w₁ (⟨rows, rfl⟩ | ⟨cause, rfl⟩)
        · have started := (start_ensures service (leaf.parts rows) w₁).and (start_attempt (leaf.parts rows) w₁)
          refine Act.ensures_bind.2 (started.mono ?_)
          rintro ⟨parts, cause | _⟩ w₂ ⟨launched, same⟩
          · exact Act.ensures_pure.2 h
          · simp only [Act.ensures_bind, Act.ensures_log, Act.ensures_pure]
            exact capped_parts three launched same
        · exact Act.ensures_pure.2 h
    · rename_i other
      simp only [Act.ensures_bind, Act.ensures_log]
      refine restartJob_capped h failed room ?_ _
      rintro leaf rfl
      exact other

/-- What a recovery did to a failed job. -/
structure Recovered (ceiling : Nat) (job : Job) (recovery : Recovery) (result : Except JobError Unit) : Prop where
  replaced : ∀ old, recovery.replaced = some old → old = job ∧ ∃ leaf rows, job = .report leaf ∧ leaf.attempt = 2 ∧
    3 ≤ ceiling ∧ recovery.job.asMade = leaf.asMade.parts rows
  kept : recovery.replaced = none → recovery.job.asMade = job.asMade
  group : ∀ g members, job = .group g members → recovery.replaced = none ∧ Becomes HalfRestart job recovery.job ∧
    (result = .ok () → Becomes Restart job recovery.job)
  spent : ∀ label attempts, result = .error (.attemptsExhausted label attempts) →
    ceiling ≤ attempts ∧ attempts = job.attempt ∧ label = job.label ∧ recovery = ⟨job, none⟩

theorem RecoverEnd.recovered {settings : ManagerSettings} {job : Job} {recovery : Recovery}
    {result : Except JobError Unit} (h : RecoverEnd settings job (recovery, result)) :
    Recovered settings.maxAttempts job recovery result := by
  cases h with
  | exhausted spent =>
    refine ⟨by simp, fun _ => rfl, fun _ _ _ => ⟨rfl, becomes_same_halfRestart, by simp⟩, ?_⟩
    rintro _ _ ⟨⟩
    exact ⟨spent, rfl, rfl, rfl⟩
  | restarted _ again =>
    have half : Becomes HalfRestart job _ := again.mono fun _ _ => Restart.half
    exact ⟨by simp, fun _ => again.made, fun _ _ _ => ⟨rfl, half, fun _ => again⟩, by simp⟩
  | unrestarted _ half blame =>
    refine ⟨by simp, fun _ => half.made, fun _ _ _ => ⟨rfl, half, by simp⟩, ?_⟩
    rintro label attempts ⟨⟩
    rcases blame with ⟨answer, other⟩ | ⟨-, label', other⟩ <;> cases other
  | @split leaf rows parts room second whole launched =>
    subst whole
    have second : leaf.attempt = 2 := second
    have room : leaf.attempt < settings.maxAttempts := room
    refine ⟨?_, by simp, by simp, by simp⟩
    rintro _ ⟨⟩
    exact ⟨rfl, leaf, rows, rfl, second, by omega, launched.made.trans (asMade_parts leaf rows)⟩
  | unsplit =>
    exact ⟨by simp, fun _ => rfl, fun _ _ _ => ⟨rfl, becomes_same_halfRestart, by simp⟩, by simp⟩

/-- A recovery that gives up makes no request, and not even a log entry. -/
theorem recover_spent {settings : ManagerSettings} {job : Job} {recovery : Recovery} {label : String}
    {attempts : Nat} {w w' : World σ}
    (run : recover service settings job w = some ((recovery, .error (.attemptsExhausted label attempts)), w')) :
    w' = w := by
  have given := (recover_ensures service settings job w _ _ run).recovered.spent label attempts rfl
  have spent : settings.maxAttempts ≤ job.attempt := given.2.1 ▸ given.1
  rw [recover, if_pos spent] at run
  exact (Act.pure_eq_some.1 run).2.symm

def Submission : Call → Prop
  | .submit _ _ => True
  | _ => False

/-- A group is not probed. -/
theorem recover_group_only (settings : ManagerSettings) (g : Group) (members : List Job) :
    Act.Only service Submission (recover service settings (.group g members)) := by
  have restarted : Act.Only service Submission (restartJob service (.group g members)) :=
    restartJob_only fun _ _ => trivial
  rw [recover]
  split
  · exact .pure _
  split
  · refine .bind (.log _) fun _ => ?_
    rw [Job.split, pure_bind]
    exact .bind (.log _) fun _ => restarted
  · exact .bind (.log _) fun _ => restarted

/-! ## Steps -/

def NewReport (job : Job) : Prop := ∃ leaf, job = .report leaf ∧ New leaf

/-- No report job in the queue is beyond its second attempt, and no group or member of one beyond the ceiling. -/
theorem capped_invariant (service : Service σ) {settings : ManagerSettings} (room : 1 ≤ settings.maxAttempts) :
    JobInvariant service settings NewReport (Capped settings.maxAttempts) where
  heard _ _ heard same capped := capped.heard heard same
  launched _ _ launched new := by
    obtain ⟨leaf, rfl, new⟩ := new
    exact capped_of_new room new launched
  recovered job _ _ w _ failed run capped := recover_capped capped failed w _ _ run

/-- A report job is at its first or second attempt, and a group is one of report jobs, all of them and itself at an
attempt up to a ceiling of at least three. -/
def WithinCeiling (ceiling : Nat) : Job → Prop
  | .report leaf => leaf.attempt ≤ min 2 ceiling
  | .group g members => 3 ≤ ceiling ∧ g.attempt ≤ ceiling ∧
    ∀ member ∈ members, ∃ leaf, member = .report leaf ∧ leaf.attempt ≤ ceiling

theorem withinCeiling_of_capped {job : Job} (h : job.Capped ceiling) : WithinCeiling ceiling job := by
  cases job with
  | report leaf => exact h.2
  | group g members =>
    obtain ⟨three, le, flat, all⟩ := h
    refine ⟨three, le, fun member mem => ?_⟩
    obtain ⟨leaf, rfl⟩ := flat member mem
    have here : leaf ∈ allLeaves members := by
      rw [allLeaves_eq_flatMap, List.mem_flatMap]
      exact ⟨_, mem, List.mem_singleton_self leaf⟩
    exact ⟨leaf, rfl, (all leaf here).within⟩

/-- The jobs before and after a step are within the ceiling, and a recovery does what it may. -/
structure Step.Ceiled (ceiling : Nat) (step : Step σ) : Prop where
  before : ∀ job ∈ step.before.1.queue, WithinCeiling ceiling job
  after : ∀ job ∈ step.after.1.queue, WithinCeiling ceiling job
  recovers : ∀ job recovery result, step.deed = .recover job recovery result →
    job.failed ∧ Recovered ceiling job recovery result
  probes : ∀ g members recovery result, step.deed = .recover (.group g members) recovery result →
    ∃ made, step.after.2.calls = step.before.2.calls ++ made ∧ ∀ c ∈ made, Submission c
  spent : ∀ job recovery label attempts,
    step.deed = .recover job recovery (.error (.attemptsExhausted label attempts)) → step.after.2 = step.before.2

theorem ceiled_of_capped {settings : ManagerSettings} {step : Step σ}
    (does : Does service step.before step.deed step.after)
    (before : Keeps settings NewReport (Capped settings.maxAttempts) step.before.1)
    (after : Keeps settings NewReport (Capped settings.maxAttempts) step.after.1) :
    step.Ceiled settings.maxAttempts := by
  obtain ⟨a, deed, b⟩ := step
  dsimp only at does before after
  refine ⟨fun job mem => withinCeiling_of_capped (before.queue job mem),
    fun job mem => withinCeiling_of_capped (after.queue job mem), ?_, ?_, ?_⟩
  · rintro job recovery result ⟨⟩
    cases does with
    | @recover m _ _ _ _ _ w _ failed _ _ recovered =>
      have ours : m.settings = settings := before.ours
      rw [ours] at recovered
      exact ⟨failed, (recover_ensures service settings job w _ _ recovered).recovered⟩
  · rintro g members recovery result ⟨⟩
    cases does with
    | recover _ _ _ recovered => exact (recover_group_only _ g members _ _ _ recovered).calls
  · rintro job recovery label attempts ⟨⟩
    cases does with
    | recover _ _ _ recovered => exact recover_spent recovered

theorem Does.spent {a b : Manager × World σ} {deed : Deed} {label : String} {attempts : Nat}
    (does : Does service a deed b) (error : deed.error? = some (.attemptsExhausted label attempts)) :
    ∃ job recovery, deed = .recover job recovery (.error (.attemptsExhausted label attempts)) := by
  cases does with
  | @poll _ _ _ _ _ result polled =>
    obtain ⟨_, run, -⟩ := pollPass_eq_some.1 polled
    cases result with
    | ok => cases error
    | error cause =>
      obtain ⟨-, _, rfl⟩ := (pollQueue_ensures service _ _ _ [] [] _ _ _ run).2
      cases error
  | refuse _ refused =>
    rcases (start_ensures service _ _ _ _ refused).2 with ⟨answer, rfl⟩ | ⟨-, _, rfl⟩ <;> cases error
  | @recover _ job _ _ recovery result =>
    cases result with
    | ok => cases error
    | error cause =>
      cases error
      exact ⟨job, recovery, rfl⟩
  | _ => cases error

/-- In every call of a manager over report jobs that were never started, the jobs stay within the ceiling of attempts,
step by step. A report job is only replaced at its second attempt, and by a group; a group is only restarted. An error
that tells of spent attempts comes from a recovery of a failed job at the ceiling, in which nothing was requested. -/
theorem attempts_within_ceiling {settings : ManagerSettings} {source : List Job} {calls : List (NextCall σ)}
    {m m' : Manager} {rounds : Nat} {w w' : World σ} {result : Except JobError (Option (List Job))}
    (room : 1 ≤ settings.maxAttempts) (new : ∀ job ∈ source, NewReport job)
    (h : History service { settings, source } calls m) (run : m.next service rounds w = some ((m', result), w')) :
    ∃ steps, Course service (m, w) steps (m', w') ∧
      (∀ job ∈ m.queue ++ m'.queue ++ handed result, WithinCeiling settings.maxAttempts job) ∧
      (∀ step ∈ steps, step.Ceiled settings.maxAttempts) ∧
      ∀ label attempts, result = .error (.attemptsExhausted label attempts) → ∃ step ∈ steps, ∃ job,
        step.deed = .recover job ⟨job, none⟩ (.error (.attemptsExhausted label attempts)) ∧ job.failed ∧
        attempts = job.attempt ∧ settings.maxAttempts ≤ attempts ∧ step.after.2 = step.before.2 := by
  have inv := capped_invariant service room
  have start := inv.history h (keeps_new new)
  obtain ⟨steps, conducted, accounts⟩ := next_course rounds m w _ _ run
  obtain ⟨finish, all⟩ := conducted.course.keeps inv.step start
  have ceiled : ∀ step ∈ steps, step.Ceiled settings.maxAttempts := fun step mem =>
    ceiled_of_capped (all step mem).1 (all step mem).2.1 (all step mem).2.2
  refine ⟨steps, conducted.course, ?_, ceiled, ?_⟩
  · simp only [List.forall_mem_append]
    refine ⟨⟨fun job mem => withinCeiling_of_capped (start.queue job mem),
      fun job mem => withinCeiling_of_capped (finish.queue job mem)⟩, ?_⟩
    rcases result with cause | _ | jobs
    · simp [handed]
    · simp [handed]
    · intro job mem
      have mem : job ∈ jobs := mem
      obtain ⟨step, here, hand⟩ := accounts.handed _ rfl (List.ne_nil_of_mem mem)
      have does := (all step here).1
      rw [hand] at does
      exact (ceiled step here).before job (does.of_hand job mem)
  · rintro label attempts rfl
    obtain ⟨step, here, error⟩ := accounts.error _ rfl
    obtain ⟨job, recovery, deed⟩ := (all step here).1.spent error
    obtain ⟨failed, recovered⟩ := (ceiled step here).recovers _ _ _ deed
    obtain ⟨spent, count, -, rfl⟩ := recovered.spent label attempts rfl
    exact ⟨step, here, job, deed, failed, count, spent, (ceiled step here).spent _ _ _ _ deed⟩

theorem sampleJob_new : ∀ job ∈ [sampleJob], NewReport job := by
  intro job mem
  rw [List.mem_singleton] at mem
  exact ⟨_, mem, rfl, rfl⟩

/-- The one job fails once, so that it is handed out at its second attempt. -/
theorem attempts_within_ceiling_second : 1 ≤ ({} : ManagerSettings).maxAttempts ∧
    (∀ job ∈ [sampleJob], NewReport job) ∧ ∃ m' w' jobs,
    next Script.service 3 { source := [sampleJob] } secondWorld = some ((m', .ok (some jobs)), w') ∧
    jobs.map Job.attempt = [2] ∧ ∃ steps,
      Course Script.service ({ source := [sampleJob] }, secondWorld) steps (m', w') ∧
      (∀ job ∈ [] ++ m'.queue ++ jobs, WithinCeiling ({} : ManagerSettings).maxAttempts job) ∧
      ∀ step ∈ steps, step.Ceiled ({} : ManagerSettings).maxAttempts := by
  obtain ⟨m', w', jobs, run, attempts⟩ := second_run
  have room : 1 ≤ ({} : ManagerSettings).maxAttempts := by decide
  obtain ⟨steps, course, within, ceiled, -⟩ := attempts_within_ceiling room sampleJob_new .start run
  exact ⟨room, sampleJob_new, m', w', jobs, run, attempts, steps, course, within, ceiled⟩

end AsyncReports.Manager
