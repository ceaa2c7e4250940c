import Mathlib.Algebra.Order.Monoid.Prod
import Mathlib.Data.Prod.Lex
import AsyncReports.Proofs.Job.Engaging
import AsyncReports.Proofs.Manager.Attempts

set_option autoImplicit false

/-!
# Progress with an obliging service

A manager is `Working` while its jobs are within the ceiling of attempts, those in its queue are engaged, and the
service is obliging about what its jobs leave to do. Every step keeps it so, and the only error left is that of spent
attempts.

A pass that finds nothing to hand out still gets somewhere. If it recovered a failed job, the `credit` of the queue has
gone down: a report job that is restarted has one attempt less before it, one that is split has none, and a group has
one attempt less for each member that is restarted. Otherwise the queue is as it was, and a run in it was put off.
-/

namespace AsyncReports

def JobError.Exhausted (cause : JobError) : Prop := ∃ label attempts, cause = .attemptsExhausted label attempts

namespace Manager

open ReportJob Job Service

variable {σ : Type} {service : Service σ} {others : σ → σ → Prop} {settings : ManagerSettings} {limit : Float}
  {ceiling : Nat}

/-! ## Every step -/

theorem NewReport.fresh {job : Job} (h : NewReport job) : job.All (·.progress = {}) := by
  obtain ⟨leaf, rfl, new⟩ := h
  intro leaf' mem
  rw [List.mem_singleton.1 mem]
  exact new.1

/-- What recovering a job brings about, if only spent attempts can be in the way. -/
structure Regains (service : Service σ) (others : σ → σ → Prop) (s s' : σ) (job : Job) (out : Outcome Recovery) :
    Prop where
  deals : service.Deals others (Job.dealings true s [job]) (Job.dealings true s' [out.1.job])
  engaged : out.1.job.All Engaged
  error : ∀ cause, out.2 = .error cause → cause.Exhausted

theorem restartJob_regains {job : Job} {w : World σ}
    (obliging : service.Obliging others limit (Job.dealings true w.remote [job])) (failed : job.failed)
    (engaged : job.All Engaged) :
    Act.Ensures (restartJob service job) w fun out w' => Regains service others w.remote w'.remote job out := by
  rw [restartJob, Act.ensures_bind]
  refine (restart_granted true job obliging failed engaged).mono ?_
  rintro ⟨job', result⟩ w₁ done
  have fine : result = .ok () := done.fine
  subst fine
  simp only [Act.ensures_bind, Act.ensures_log, Act.ensures_pure]
  exact ⟨done.deals, done.engaged job' (List.mem_singleton_self job'), by simp⟩

theorem recover_regains {job : Job} {w : World σ}
    (obliging : service.Obliging others limit (Job.dealings true w.remote [job])) (failed : job.failed)
    (engaged : job.All Engaged) :
    Act.Ensures (recover service settings job) w fun out w' => Regains service others w.remote w'.remote job out := by
  have restarted : ∀ log, Act.Ensures (restartJob service job) { w with log } fun out w' =>
      Regains service others w.remote w'.remote job out :=
    fun log => restartJob_regains (w := { w with log }) obliging failed engaged
  rw [recover]
  split
  · refine Act.ensures_pure.2 ⟨.refl _, engaged, ?_⟩
    rintro _ ⟨⟩
    exact ⟨_, _, rfl⟩
  split
  · simp only [Act.ensures_bind, Act.ensures_log]
    cases job with
    | group g members =>
      simp only [Job.split, Act.ensures_pure, Act.ensures_bind, Act.ensures_log]
      exact restarted _
    | report leaf =>
      have known : Engaged leaf := engaged leaf (List.mem_singleton_self leaf)
      refine (split_deals (w := { w with log := w.log ++ [splittingEntry (.report leaf)] }) obliging known.sound
        failed).mono ?_
      rintro _ w₁ ⟨rows, rfl, parted⟩
      refine Act.ensures_bind.2 ((start_granted true _ (obliging.deals parted) (parts_fresh leaf rows)).mono ?_)
      rintro ⟨parts, result⟩ w₂ done
      have fine : result = .ok () := done.fine
      subst fine
      simp only [Act.ensures_bind, Act.ensures_log, Act.ensures_pure]
      exact ⟨parted.trans done.deals, done.engaged parts (List.mem_singleton_self parts), by simp⟩
  · simp only [Act.ensures_bind, Act.ensures_log]
    exact restarted _

/-- The dealings that a manager is in, with what is left to do about its queue and its source. -/
def dealings (m : Manager) (s : σ) : Dealings σ := Job.dealings true s (m.queue ++ m.source)

structure Working (service : Service σ) (others : σ → σ → Prop) (settings : ManagerSettings) (m : Manager) (s : σ) :
    Prop where
  obliging : service.Obliging others settings.throttleLimit (m.dealings s)
  keeps : Keeps settings NewReport (Capped settings.maxAttempts) m
  engaged : AllEngaged m.queue

theorem obliging_amid {s : σ} (before : List Job) {job : Job} {after : List Job}
    (h : service.Obliging others limit (Job.dealings true s (before ++ job :: after))) :
    service.Obliging others limit (Job.dealings true s [job]) := by
  rw [dealings_amid] at h
  exact h.of_beside

theorem deals_amid {s s' : σ} {job job' : Job}
    (h : service.Deals others (Job.dealings true s [job]) (Job.dealings true s' [job'])) (before after : List Job) :
    service.Deals others (Job.dealings true s (before ++ job :: after))
      (Job.dealings true s' (before ++ job' :: after)) := by
  rw [dealings_amid s, dealings_amid s']
  exact h.beside _

theorem readThrottle_remote (m : Manager) (w : World σ) :
    Act.Ensures (m.readThrottle service) w fun _ w' => w'.remote = (service.throttle w.remote).2 := by
  rw [readThrottle, Service.throttleNow, Act.ensures_bind, Act.ensures_call]
  cases (service.throttle w.remote).1 <;> exact Act.ensures_pure.2 rfl

theorem awaitThrottle_waits (rounds : Nat) (tasks : Multiset Task) : ∀ (m : Manager) (w : World σ),
    Act.Ensures (awaitThrottle service rounds m) w fun _ w' =>
      service.Waits ⟨w.remote, tasks⟩ ⟨w'.remote, tasks⟩ := by
  induction rounds with
  | zero =>
    intro m w
    rw [awaitThrottle]
    split
    · exact Act.ensures_unfinished
    · exact Act.ensures_pure.2 (.refl _)
  | succ rounds ih =>
    intro m w
    rw [awaitThrottle]
    split
    · simp only [Act.ensures_bind, Act.ensures_log, Act.ensures_sleep]
      refine (readThrottle_remote m _).mono ?_
      rintro ⟨m₁, cause | _⟩ w₁ read
      all_goals
        have first : service.Waits ⟨w.remote, tasks⟩ ⟨w₁.remote, tasks⟩ := read ▸ (Wait.read w.remote tasks).waits
      · exact Act.ensures_pure.2 first
      · exact (ih m₁ w₁).mono fun _ _ later => first.trans later
    · exact Act.ensures_pure.2 (.refl _)

/-- The poll of a working manager. -/
theorem pollPass_polls {m : Manager} {w : World σ} (obliging : service.Obliging others limit (m.dealings w.remote))
    (engaged : AllEngaged m.queue) :
    Act.Concludes (fun rounds => m.pollPass service rounds) w fun out w' => out.2 = .ok () ∧
      ∃ queue front left, out.1 = { m with queue } ∧ queue = front ++ left ∧
        Polled service true (Job.dealings true w.remote m.queue) w'.remote front left [] ∧
        (m.queue ≠ [] → 0 < m.settings.maxChecks → front ≠ []) := by
  rw [dealings, dealings_append] at obliging
  simp only [pollPass]
  refine .bind (pollQueue_polls obliging.of_beside m.settings.maxChecks m.queue (.start engaged)) ?_
  rintro ⟨queue, result⟩ w₁ ⟨fine, front, left, parts, polled, some_⟩
  exact .pure ⟨fine, queue, front, left, rfl, parts, polled, fun busy positive => some_ (.inr ⟨busy, positive⟩)⟩

theorem Does.working (room : 1 ≤ settings.maxAttempts) {a b : Manager × World σ} {deed : Deed}
    (does : Does service a deed b) (h : Working service others settings a.1 a.2.remote) :
    Working service others settings b.1 b.2.remote ∧ ∀ cause, deed.error? = some cause → cause.Exhausted := by
  have keeps := (capped_invariant service room).step a deed b does h.keeps
  obtain ⟨obliging, ⟨ours, -, source⟩, engaged⟩ := h
  cases does with
  | @read m w w' load asked =>
    simp only [Service.throttleNow, Act.call, Option.some.injEq, Prod.mk.injEq] at asked
    obtain ⟨-, rfl⟩ := asked
    refine ⟨⟨obliging.deals ?_, keeps, engaged⟩, by simp [Deed.error?]⟩
    exact (Wait.read w.remote (m.dealings w.remote).tasks).waits.deals
  | @unread m w w' cause asked =>
    -- An obliging service can always be read.
    obtain ⟨load, read⟩ := (obliging.cools _ (.refl _)).read
    have read : (service.throttle w.remote).1 = .ok load := read
    simp only [Service.throttleNow, Act.call, read, Option.some.injEq, Prod.mk.injEq] at asked
    cases asked.1
  | @pause m queue w same =>
    refine ⟨⟨?_, keeps, fun job mem => engaged job (same.mem_iff.1 mem)⟩, by simp [Deed.error?]⟩
    rw [dealings, dealings_perm _ (same.append_right m.source)]
    exact obliging
  | @poll m _ w _ rounds _ polled =>
    obtain ⟨fine, queue, front, left, rfl, rfl, found, -⟩ := (pollPass_polls obliging engaged).ensures _ _ _ polled
    have fine : _ = Except.ok () := fine
    subst fine
    refine ⟨⟨obliging.deals ?_, keeps, found.engaged⟩, by simp [Deed.error?]⟩
    rw [dealings, dealings, dealings_append, dealings_append]
    exact (found.waits.beside _).deals
  | @enlist m job job' rest w w' front started =>
    rw [dealings, front] at obliging
    rw [front, List.forall_mem_cons] at source
    have done := start_granted true job (obliging_amid m.queue obliging) source.1.fresh _ _ started
    refine ⟨⟨obliging.deals ?_, keeps, List.forall_mem_append.2 ⟨engaged, done.engaged⟩⟩, by simp [Deed.error?]⟩
    rw [dealings, List.append_assoc, List.singleton_append]
    exact deals_amid done.deals m.queue rest
  | @refuse m job job' _ cause w w' front refused =>
    rw [dealings, front] at obliging
    rw [front, List.forall_mem_cons] at source
    have done := start_granted true job (obliging_amid m.queue obliging) source.1.fresh _ _ refused
    cases done.fine
  | @recover m job others queue' recovery result w w' failed before after recovered =>
    have mem : job ∈ m.queue := before.mem_iff.2 List.mem_cons_self
    rw [dealings, dealings_perm _ (before.append_right m.source)] at obliging
    have done := recover_regains (obliging_amid [] obliging) failed (engaged job mem) _ _ recovered
    refine ⟨⟨?_, keeps, fun job' mem' => ?_⟩, fun cause blame => done.error cause ?_⟩
    · rw [dealings, dealings_perm _ (after.append_right m.source)]
      exact obliging.deals (deals_amid done.deals [] _)
    · rcases List.mem_cons.1 (after.mem_iff.1 mem') with rfl | other
      · exact done.engaged
      · exact engaged job' (before.mem_iff.2 (List.mem_cons_of_mem _ other))
    · cases result with
      | ok => cases blame
      | error =>
        cases blame
        rfl
  | @hand m done queue w parts =>
    refine ⟨⟨?_, keeps, fun job mem => ?_⟩, by simp [Deed.error?]⟩
    · rw [dealings, dealings_perm _ ((parts.trans List.perm_append_comm).append_right m.source), List.append_assoc,
        dealings_perm _ (List.perm_append_comm.append_left queue), ← List.append_assoc, dealings_append] at obliging
      exact obliging.of_beside
    · exact engaged job (parts.mem_iff.2 (List.mem_append_right _ mem))
  | abandon => exact ⟨⟨obliging, keeps, engaged⟩, by simp [Deed.error?]⟩

theorem Working.course (room : 1 ≤ settings.maxAttempts) {a b : Manager × World σ} {steps : List (Step σ)}
    (h : Working service others settings a.1 a.2.remote) (course : Course service a steps b) :
    Working service others settings b.1 b.2.remote ∧
      ∀ step ∈ steps, ∀ cause, step.deed.error? = some cause → cause.Exhausted := by
  obtain ⟨finish, all⟩ := course.keeps (p := fun a => Working service others settings a.1 a.2.remote)
    (fun _ _ _ does working => (does.working room working).1) h
  exact ⟨finish, fun step mem => ((all step mem).1.working room (all step mem).2.1).2⟩

/-! ## Credit -/

/-- How many attempts the report jobs have before them. -/
def spare (ceiling : Nat) (leaves : List ReportJob) : Nat := (leaves.map (ceiling - ·.attempt)).sum

/-- A split brings new attempts, as many as there are keys, so that what is left before it counts more. -/
def credit (ceiling : Nat) : Job → Nat ×ₗ Nat
  | .report leaf => toLex (Limits.splitOnAttempt + 1 - leaf.attempt, 0)
  | .group _ members => toLex (0, spare ceiling (allLeaves members))

def credits (ceiling : Nat) (jobs : List Job) : Nat ×ₗ Nat := (jobs.map (credit ceiling)).sum

theorem credits_cons (job : Job) (jobs : List Job) :
    credits ceiling (job :: jobs) = credit ceiling job + credits ceiling jobs := by
  rw [credits, List.map_cons, List.sum_cons, credits]

theorem spare_heard {leaves leaves' : List ReportJob} (heard : List.Forall₂ Heard leaves leaves') :
    spare ceiling leaves' = spare ceiling leaves := by
  induction heard with
  | nil => rfl
  | cons head _ ih =>
    simp only [spare, List.map_cons, List.sum_cons, head.attempt_eq] at ih ⊢
    rw [ih]

theorem credit_heard {job job' : Job} (heard : Becomes Heard job job') :
    credit ceiling job' = credit ceiling job := by
  cases job with
  | report leaf =>
    obtain ⟨leaf', rfl, changed⟩ := heard.of_report
    rw [credit, credit, changed.attempt_eq]
  | group g members =>
    obtain ⟨g', members', rfl, -, changed⟩ := heard.of_group
    rw [credit, credit, spare_heard changed]

theorem credits_heard {jobs jobs' : List Job} (heard : List.Forall₂ (Becomes Heard) jobs jobs') :
    credits ceiling jobs' = credits ceiling jobs := by
  induction heard with
  | nil => rfl
  | cons head _ ih => rw [credits_cons, credits_cons, credit_heard head, ih]

/-- Restarting uses attempts up, unless nothing has failed. -/
theorem spare_restarted {leaves leaves' : List ReportJob} (restarted : List.Forall₂ Restart leaves leaves')
    (below : ∀ leaf ∈ leaves, leaf.failed → leaf.attempt < ceiling) :
    spare ceiling leaves' ≤ spare ceiling leaves ∧
      ((∃ leaf ∈ leaves, leaf.failed) → spare ceiling leaves' < spare ceiling leaves) := by
  induction restarted with
  | nil => simp
  | @cons a b as bs head _ ih =>
    rw [List.forall_mem_cons] at below
    obtain ⟨first, others⟩ := below
    obtain ⟨le, less⟩ := ih others
    simp only [spare, List.map_cons, List.sum_cons] at le less ⊢
    rcases head with ⟨fine, rfl⟩ | ⟨fit, run, now, rfl⟩
    · refine ⟨by omega, ?_⟩
      rintro ⟨leaf, mem, broken⟩
      rcases List.mem_cons.1 mem with rfl | mem
      · rw [fine] at broken
        cases broken
      · have less := less ⟨leaf, mem, broken⟩
        omega
    · have room : a.attempt < ceiling := first fit.2.1
      have next : (a.cleared.launched run now).attempt = a.attempt + 1 := rfl
      rw [next]
      exact ⟨by omega, fun _ => by omega⟩

theorem RecoverEnd.credit_lt {job : Job} {recovery : Recovery} (h : RecoverEnd settings job (recovery, .ok ()))
    (capped : job.Capped settings.maxAttempts) (failed : job.failed) :
    credit settings.maxAttempts recovery.job < credit settings.maxAttempts job := by
  cases h with
  | @restarted job' room again =>
    cases job with
    | report leaf =>
      obtain ⟨leaf', rfl, next⟩ := again.of_report
      have failed : leaf.failed := failed
      rcases next with ⟨fine, -⟩ | ⟨-, run, now, rfl⟩
      · rw [fine] at failed
        cases failed
      · have next : (leaf.cleared.launched run now).attempt = leaf.attempt + 1 := rfl
        have le := capped.2
        refine Prod.Lex.toLex_lt_toLex.2 (.inl ?_)
        rw [next, Limits.splitOnAttempt]
        omega
    | group g members =>
      obtain ⟨g', members', rfl, -, next⟩ := again.of_group
      obtain ⟨-, -, -, seen⟩ := capped
      have room : g.attempt < settings.maxAttempts := room
      have some_ : ∃ leaf ∈ allLeaves members, leaf.failed := by
        rw [failed_eq_any, List.any_eq_true] at failed
        exact failed
      have below : ∀ leaf ∈ allLeaves members, leaf.failed → leaf.attempt < settings.maxAttempts :=
        fun leaf mem failed => Nat.lt_of_le_of_lt ((seen leaf mem).of_failed failed) room
      exact Prod.Lex.toLex_lt_toLex.2 (.inr ⟨rfl, (spare_restarted next below).2 some_⟩)
  | @split leaf rows parts _ _ whole launched =>
    subst whole
    rw [ReportJob.parts, Split.group] at launched
    obtain ⟨g, members, rfl, -⟩ := launched.of_group
    have le := capped.2
    -- However many the parts are, a group counts for less than the job it comes from.
    refine Prod.Lex.toLex_lt_toLex.2 (.inl ?_)
    simp only [Limits.splitOnAttempt]
    omega

/-- Sorting lowers the credit of the jobs that stay, or all of them are running and stay as they are. -/
theorem kept_credits {jobs : List Job} {recoveries : List Recovery}
    (kept : List.Forall₂ (Kept settings) jobs recoveries) (capped : ∀ job ∈ jobs, job.Capped settings.maxAttempts) :
    (recoveries.map Recovery.job = jobs ∧ ∀ job ∈ jobs, job.failed = false ∧ job.completed = false) ∨
      credits settings.maxAttempts (recoveries.map Recovery.job) < credits settings.maxAttempts jobs := by
  induction kept with
  | nil => exact .inl (by simp)
  | @cons job recovery jobs recoveries head _ ih =>
    rw [List.forall_mem_cons] at capped
    rw [List.map_cons, credits_cons, credits_cons]
    cases head with
    | running fine open_ =>
      refine (ih capped.2).imp (fun same => ?_) fun less => add_lt_add_right less _
      exact ⟨congrArg (job :: ·) same.1, List.forall_mem_cons.2 ⟨⟨fine, open_⟩, same.2⟩⟩
    | recovered failed done =>
      have first := done.credit_lt capped.1 failed
      rcases ih capped.2 with ⟨same, -⟩ | less
      · rw [same]
        exact .inr (add_lt_add_left first _)
      · exact .inr (add_lt_add first less)

/-! ## Passes -/

/-- What a pass has achieved that found nothing to hand out. -/
inductive Gain (service : Service σ) (ceiling : Nat) (before after : Manager) (s s' : σ) : Prop
  | recovered (less : credits ceiling after.queue < credits ceiling before.queue)
  | delayed (same : credits ceiling after.queue = credits ceiling before.queue)
    (off : service.Delays (before.dealings s) (after.dealings s'))

theorem SortEnd.stays_of_none {queue : List Job} {s : Sorting} (h : SortEnd settings {} queue s (.ok ()))
    (none : s.completed = []) : ∃ recoveries, List.Forall₂ (Kept settings) queue recoveries ∧
      s.kept = recoveries.map Recovery.job := by
  cases h with
  | @sorted recoveries stay kept done =>
    have nobody : delivered queue = [] := by simpa [none] using done.symm
    have all : queue.filter (!deliverable ·) = queue := by
      rw [List.filter_eq_self]
      rw [delivered, List.filter_eq_nil_iff] at nobody
      exact fun job mem => by simpa using nobody job mem
    rw [StayAs, all] at stay
    exact ⟨recoveries, stay, by simpa using kept⟩

/-- Nothing is asked of the service when no job has failed. -/
theorem sort_quiet (settings : ManagerSettings) {jobs : List Job} (fine : ∀ job ∈ jobs, job.failed = false) :
    ∀ (s : Sorting) (w : World σ), Act.Ensures (sort service settings s jobs) w fun _ w' => w'.remote = w.remote := by
  induction jobs with
  | nil => exact fun s w => Act.ensures_pure.2 rfl
  | cons job rest ih =>
    rw [List.forall_mem_cons] at fine
    intro s w
    rw [sort, fine.1, if_neg Bool.false_ne_true]
    split
    · exact ih fine.2 _ w
    · exact ih fine.2 _ w

/-- A pass of a working manager that finds nothing has recovered a job, or has put off a run that it waits for. -/
theorem pass_gains {m : Manager} {w : World σ} (working : Working service others settings m w.remote)
    (positive : 0 < settings.maxChecks) (busy : m.queue ≠ []) (rounds : Nat) :
    Act.Ensures (m.pass service rounds) w fun out w' => out.2 = .ok [] → out.1.queue ≠ [] ∧
      Gain service settings.maxAttempts m out.1 w.remote w'.remote := by
  obtain ⟨obliging, ⟨ours, capped, -⟩, engaged⟩ := working
  rw [pass, Act.ensures_bind]
  rintro ⟨m₁, result⟩ w₁ polled
  obtain ⟨queue, run, rfl⟩ := pollPass_eq_some.1 polled
  have heard := pollQueue_heard _ _ _ _ _ _ run
  obtain ⟨fine, _, front, left, same, parts, found, some_⟩ := (pollPass_polls obliging engaged).ensures _ _ _ polled
  dsimp only at fine heard
  subst fine
  cases same
  have even : credits settings.maxAttempts queue = credits settings.maxAttempts m.queue :=
    credits_heard (heard.imp fun _ _ heard => heard.1)
  have capped' : ∀ job ∈ queue, job.Capped settings.maxAttempts :=
    forall₂_carry (fun _ _ heard capped => Capped.heard capped heard.1 heard.2) heard capped
  obtain ⟨first, rest, cons⟩ := List.exists_cons_of_ne_nil (some_ busy (by rw [ours]; exact positive))
  have here : first ∈ queue := by rw [parts, cons]; exact List.mem_append_left _ List.mem_cons_self
  refine Act.ensures_bind.2 fun out w₂ waiting => ?_
  have waits := awaitThrottle_waits rounds (allTasks true (queue ++ m.source)) _ w₁ _ _ waiting
  cases awaitThrottle_ensures service rounds _ w₁ _ _ waiting with
  | unread => exact Act.ensures_pure.2 (by simp)
  | @low load within =>
    refine Act.ensures_bind.2 ?_
    rintro ⟨s, cause | _⟩ w₃ sorting
    · exact Act.ensures_pure.2 (by simp)
    simp only [Act.ensures_bind, Act.ensures_log, Act.ensures_pure]
    intro none
    have none : s.completed = [] := by simpa using none
    have sorted : SortEnd m.settings {} queue s (.ok ()) := sort_ensures service m.settings queue {} w₂ _ _ sorting
    rw [ours] at sorted
    obtain ⟨recoveries, stay, kept⟩ := sorted.stays_of_none none
    have some_ : s.kept ≠ [] := by
      intro empty
      have count := stay.length_eq
      rw [kept, List.map_eq_nil_iff] at empty
      rw [empty, List.length_nil, List.length_eq_zero_iff] at count
      rw [count] at here
      cases here
    refine ⟨some_, ?_⟩
    rcases kept_credits stay capped' with ⟨still, open_⟩ | less
    · -- The queue is as it was polled, and its first job has not completed.
      have quiet : w₃.remote = w₂.remote := sort_quiet m.settings (fun job mem => (open_ job mem).1) {} w₂ _ _ sorting
      have same : s.kept = queue := kept.trans still
      refine .delayed (by rw [same]; exact even) ?_
      have off : service.Delays (Job.dealings true w.remote m.queue) (Job.dealings true w₁.remote queue) := by
        rw [parts]
        refine found.told.resolve_right fun told => ?_
        have ended := (told 0 first (by rw [cons]; rfl)).resolve_right List.not_mem_nil
        rw [(open_ first here).2] at ended
        cases ended
      have onward := off.beside (allTasks true m.source)
      rw [← dealings_append, ← dealings_append] at onward
      rw [dealings, dealings, same, quiet]
      exact onward.widen (.refl _) waits
    · refine .recovered ?_
      rw [kept, ← even]
      exact less

end Manager

end AsyncReports
