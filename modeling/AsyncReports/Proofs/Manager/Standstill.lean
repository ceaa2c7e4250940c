import AsyncReports.Proofs.Manager.Handover
import AsyncReports.Proofs.Manager.Termination

set_option autoImplicit false

/-!
# Standstill

A job that has used its attempts is not let go. It stays in the queue, and every later pass stops at it, if it does
not stop at something before. What has completed is put back each time, so that no call hands anything out any more.
-/

namespace AsyncReports

variable {σ : Type} {service : Service σ}

namespace ReportJob

theorem Heard.eq_of_completed {a b : ReportJob} (h : Heard a b) (ended : a.completed) : b = a := by
  refine h.keeps (p := (· = a)) ?_ rfl
  rintro _ _ ⟨now, run, rfl⟩ rfl
  rw [Progress.observe_of_finished ended]

theorem Heard.failed {a b : ReportJob} (h : Heard a b) (failed : a.failed) : b.failed := by
  refine h.keeps (p := fun job => job.failed) ?_ failed
  rintro a _ ⟨now, run, rfl⟩ failed
  change a.progress.failed at failed
  change (a.progress.observe now run).failed
  rcases Progress.observe_cases now run a.progress with ⟨-, same⟩ | ⟨-, -, stored⟩ | ⟨-, next, -, moved⟩
  · rwa [same]
  · rwa [stored]
  · rw [moved, Bool.or_eq_true]
    exact .inl failed

end ReportJob

/-- From this state on, every check is answered in the end, and a load that is too high comes down. -/
structure Service.Responsive (service : Service σ) (limit : Float) (s : σ) : Prop where
  answers : service.Answers s
  cools : ∀ s', service.Leads s s' → service.Cools limit s'

namespace Manager

open ReportJob Job

/-- The job is still there, at the same attempt. It may have been polled, and nothing else was done to it. -/
structure Remains (job job' : Job) : Prop where
  heard : Becomes Heard job job'
  attempt : job'.attempt = job.attempt

theorem Remains.refl (job : Job) : Remains job job := ⟨becomes_heard_refl job, rfl⟩

theorem Remains.trans {a b c : Job} (h : Remains a b) (h' : Remains b c) : Remains a c :=
  ⟨becomes_heard_trans a b c h.heard h'.heard, h'.attempt.trans h.attempt⟩

/-- Polling does not touch the leaves of a job that has completed. -/
theorem Remains.leaves_eq {job job' : Job} (h : Remains job job') (completed : job.completed) :
    job'.leaves = job.leaves := by
  have same : ∀ {as bs : List ReportJob}, List.Forall₂ Heard as bs → (∀ leaf ∈ as, leaf.completed) → bs = as := by
    intro as bs heard ended
    induction heard with
    | nil => rfl
    | cons head _ ih =>
      rw [List.forall_mem_cons] at ended
      rw [head.eq_of_completed ended.1, ih ended.2]
  rw [completed_eq_all, List.all_eq_true] at completed
  exact same h.heard.leaves completed

theorem Remains.deliverable {job job' : Job} (h : Remains job job') (done : deliverable job) : deliverable job' := by
  have leaves := h.leaves_eq (deliverable_iff.1 done).2
  rw [deliverable_iff, failed_eq_any, completed_eq_all, leaves, ← failed_eq_any, ← completed_eq_all]
  exact deliverable_iff.1 done

/-- A failed job that has used its attempts. -/
structure Spent (settings : ManagerSettings) (job : Job) : Prop where
  failed : job.failed
  used : settings.maxAttempts ≤ job.attempt

theorem Remains.spent {settings : ManagerSettings} {job job' : Job} (h : Remains job job')
    (spent : Spent settings job) : Spent settings job' := by
  obtain ⟨failed, used⟩ := spent
  refine ⟨?_, h.attempt.symm ▸ used⟩
  rw [failed_eq_any, List.any_eq_true] at failed ⊢
  obtain ⟨leaf, mem, failed⟩ := failed
  obtain ⟨leaf', mem', heard⟩ := forall₂_partner h.heard.leaves leaf mem
  exact ⟨leaf', mem', heard.failed failed⟩

/-- A job that is given up or that could be handed out: a recovery has nothing to do with it. -/
def Settled (settings : ManagerSettings) (job : Job) : Prop := Spent settings job ∨ Manager.deliverable job

theorem Remains.settled {settings : ManagerSettings} {job job' : Job} (h : Remains job job')
    (settled : Settled settings job) : Settled settings job' :=
  settled.imp h.spent h.deliverable

/-- No job has come and none has gone, and those that are settled remain. -/
structure Standstill (m m' : Manager) : Prop where
  settings : m'.settings = m.settings
  source : m'.source = m.source
  accounted : Accounted m.queue m'.queue
  settled : ∀ job ∈ m.queue, Settled m.settings job → ∃ job' ∈ m'.queue, Remains job job'

/-- A job that is spent is in the queue. -/
def Clogged (m : Manager) : Prop := ∃ job ∈ m.queue, Spent m.settings job

namespace Standstill

theorem refl (m : Manager) : Standstill m m where
  settings := rfl
  source := rfl
  accounted := .of_perm (.refl m.queue)
  settled job mem _ := ⟨job, mem, .refl job⟩

theorem trans {a b c : Manager} (h : Standstill a b) (h' : Standstill b c) : Standstill a c where
  settings := h'.settings.trans h.settings
  source := h'.source.trans h.source
  accounted := h.accounted.trans h'.accounted
  settled job mem settled := by
    obtain ⟨job₁, mem₁, first⟩ := h.settled job mem settled
    have settled₁ : Settled b.settings job₁ := h.settings ▸ first.settled settled
    obtain ⟨job₂, mem₂, later⟩ := h'.settled job₁ mem₁ settled₁
    exact ⟨job₂, mem₂, first.trans later⟩

theorem clogged {m m' : Manager} (h : Standstill m m') (clogged : m.Clogged) : m'.Clogged := by
  obtain ⟨job, mem, spent⟩ := clogged
  obtain ⟨job', mem', remains⟩ := h.settled job mem (.inl spent)
  exact ⟨job', mem', h.settings ▸ remains.spent spent⟩

end Standstill

theorem Clogged.busy {m : Manager} (h : m.Clogged) : m.queue ≠ [] := by
  obtain ⟨job, mem, -⟩ := h
  exact List.ne_nil_of_mem mem

/-! ## Sorting a queue with a spent job -/

theorem Kept.not_spent {settings : ManagerSettings} {job : Job} {recovery : Recovery}
    (h : Kept settings job recovery) : ¬ Spent settings job := by
  rintro ⟨failed, used⟩
  cases h with
  | running fine =>
    rw [fine] at failed
    cases failed
  | recovered _ done =>
    cases done with
    | restarted room | split room => exact Nat.not_lt_of_le used room

theorem StayAs.not_spent {settings : ManagerSettings} {jobs : List Job} {recoveries : List Recovery}
    (h : StayAs settings jobs recoveries) : ∀ job ∈ jobs, ¬ Spent settings job := by
  intro job mem spent
  have stays : job ∈ jobs.filter (!deliverable ·) := by
    simp [List.mem_filter, mem, deliverable_of_failed spent.failed]
  obtain ⟨recovery, -, kept⟩ := forall₂_partner h job stays
  exact kept.not_spent spent

/-- Sorting stops at a job that is spent, if not before, and all jobs that are settled go back to the queue. -/
theorem SortEnd.settled {settings : ManagerSettings} {jobs : List Job} {s : Sorting} {result : Except JobError Unit}
    (h : SortEnd settings {} jobs s result) (spent : ∃ job ∈ jobs, Spent settings job) :
    (∃ cause, result = .error cause) ∧ Accounted jobs s.kept ∧ ∀ job ∈ jobs, Settled settings job → job ∈ s.kept := by
  have account := h.accounted
  cases h with
  | sorted stay =>
    obtain ⟨job, mem, spent⟩ := spent
    exact absurd spent (stay.not_spent job mem)
  | @stuck before after failing recoveries recovery cause order stay failed trouble kept completed =>
    rw [completed] at account
    refine ⟨⟨cause, rfl⟩, account, fun job mem settled => ?_⟩
    rw [order, List.mem_append, List.mem_cons] at mem
    rw [kept]
    simp only [List.nil_append, List.mem_append, List.mem_cons]
    rcases mem with first | rfl | last
    · have done : deliverable job := settled.resolve_left (stay.not_spent job first)
      exact .inr (.inr (.inl (List.mem_filter.2 ⟨first, done⟩)))
    · have spent : Spent settings job := settled.resolve_right (by simp [deliverable_of_failed failed])
      cases trouble with
      | exhausted => exact .inr (.inl rfl)
      | unrestarted room | unsplit room => exact absurd room (Nat.not_lt_of_le spent.used)
    · exact .inr (.inr (.inr last))

/-! ## Calls -/

theorem standstill_of_heard {m : Manager} {queue : List Job}
    (heard : List.Forall₂ (fun job job' => Becomes Heard job job' ∧ job'.attempt = job.attempt) m.queue queue) :
    Standstill m { m with queue } where
  settings := rfl
  source := rfl
  accounted := .of_forall₂ (heard.imp fun _ _ h => h.1.heir)
  settled job mem _ := by
    obtain ⟨job', mem', heard, same⟩ := forall₂_partner heard job mem
    exact ⟨job', mem', heard, same⟩

theorem pass_standstill (rounds : Nat) {m : Manager} (clogged : m.Clogged) (w : World σ) :
    Act.Ensures (m.pass service rounds) w fun out _ => Standstill m out.1 ∧ ∃ cause, out.2 = .error cause := by
  rw [pass, Act.ensures_bind]
  rintro ⟨m₁, result⟩ w₁ polled
  obtain ⟨queue, run, rfl⟩ := pollPass_eq_some.1 polled
  have still : Standstill m { m with queue } := standstill_of_heard (pollQueue_heard _ _ _ _ _ _ run)
  cases result with
  | error cause => exact Act.ensures_pure.2 ⟨still, cause, rfl⟩
  | ok =>
    refine Act.ensures_bind.2 ((awaitThrottle_ensures service rounds _ w₁).mono ?_)
    rintro _ w₂ (_ | _)
    · refine Act.ensures_bind.2 ((sort_ensures service m.settings queue {} w₂).mono ?_)
      rintro ⟨s, result⟩ w₃ sorts
      obtain ⟨⟨cause, rfl⟩, account, kept⟩ := sorts.settled (still.clogged clogged)
      refine Act.ensures_pure.2 ⟨still.trans ⟨rfl, rfl, account, fun job mem settled => ?_⟩, cause, rfl⟩
      exact ⟨job, kept job mem settled, .refl job⟩
    · exact Act.ensures_pure.2 ⟨⟨still.settings, still.source, still.accounted, still.settled⟩, _, rfl⟩

theorem awaitCompleted_standstill (rounds passes : Nat) {m : Manager} (clogged : m.Clogged) (w : World σ) :
    Act.Ensures (awaitCompleted service rounds passes m) w fun out _ =>
      Standstill m out.1 ∧ ∃ cause, out.2 = .error cause := by
  cases passes with
  | zero => exact Act.ensures_unfinished
  | succ passes =>
    rw [awaitCompleted, Act.ensures_bind]
    refine (pass_standstill rounds clogged w).mono ?_
    rintro ⟨m₁, result⟩ w₁ ⟨still, cause, rfl⟩
    exact Act.ensures_pure.2 ⟨still, cause, rfl⟩

theorem next_standstill (rounds : Nat) {m : Manager} (clogged : m.Clogged) (w : World σ) :
    Act.Ensures (m.next service rounds) w fun out _ => Standstill m out.1 ∧ ∃ cause, out.2 = .error cause := by
  rw [next_of_busy service rounds clogged.busy, nextRunning, Act.ensures_bind]
  refine (awaitCompleted_standstill rounds rounds clogged w).mono ?_
  rintro ⟨m₁, result⟩ w₁ ⟨still, cause, rfl⟩
  exact Act.ensures_pure.2 ⟨still, cause, rfl⟩

/-- With a responsive service such a call does end. -/
theorem next_ends_clogged {m : Manager} (clogged : m.Clogged) {w : World σ}
    (responsive : service.Responsive m.settings.throttleLimit w.remote) :
    Act.Ends (fun rounds => m.next service rounds) w := by
  have permits : ∀ job ∈ m.queue, job.Permits AnyCall := fun job _ => permits_of_any (fun _ => trivial) job
  have passes : Act.Ends (fun rounds => m.pass service rounds) w :=
    pass_ends (pollPass_ends m responsive.answers) fun rounds m₁ result w₁ polled =>
      responsive.cools _ ((pollPass_only rounds m permits fun _ _ => trivial).leads polled)
  simp only [next_of_busy service _ clogged.busy, nextRunning]
  have waiting : Act.Ends (fun rounds => awaitCompleted service rounds rounds m) w := by
    -- The first pass ends in an error, so that one round is enough for the loop itself.
    refine .succ ?_
    simp only [awaitCompleted]
    refine .bind (passes.shift 1) ?_
    rintro ⟨m₁, cause | done⟩ w₁ rounds passed
    · exact (Act.Total.pure _).ends w₁
    · obtain ⟨-, cause, failed⟩ := pass_standstill (rounds + 1) clogged w _ _ passed
      cases failed
  refine waiting.bind ?_
  rintro ⟨m₁, cause | done⟩ w₁ rounds waited
  · exact (Act.Total.pure _).ends w₁
  · obtain ⟨-, cause, failed⟩ := awaitCompleted_standstill rounds rounds clogged w _ _ waited
    cases failed

theorem History.standstill {m m' : Manager} {calls : List (NextCall σ)} (h : History service m calls m')
    (clogged : m.Clogged) : Standstill m m' ∧ ∀ call ∈ calls, ∃ cause, call.result = .error cause := by
  induction h with
  | start => exact ⟨.refl m, by simp⟩
  | call _ run ih =>
    obtain ⟨still, failed⟩ := ih
    obtain ⟨still', last⟩ := next_standstill _ (still.clogged clogged) _ _ _ run
    exact ⟨still.trans still', List.forall_mem_append.2 ⟨failed, List.forall_mem_singleton.2 last⟩⟩

/-! ## The call that comes to a spent job first -/

theorem FillEnd.not_exhausted {m : Manager} {fails : Prop} {out : Outcome Manager} {cause : JobError}
    (h : FillEnd m fails out) (error : out.2 = .error cause) : ¬ cause.Exhausted := by
  rintro ⟨label, attempts, rfl⟩
  cases h with
  | unread => cases error
  | tried _ starts =>
    cases starts with
    | stopped => cases error
    | refused _ _ _ _ blame =>
      cases error
      rcases blame with ⟨answer, other⟩ | ⟨-, label', other⟩ <;> cases other

theorem PassEnd.exhausted {m : Manager} {out : Manager × Except JobError (List Job)} {label : String} {attempts : Nat}
    (h : PassEnd m out) (error : out.2 = .error (.attemptsExhausted label attempts)) :
    ∃ job ∈ out.1.queue, Spent out.1.settings job ∧ job.label = label ∧ job.attempt = attempts := by
  cases h with
  | refused | unread | sorted => cases error
  | stuck _ _ sorts =>
    cases error
    cases sorts with
    | @stuck _ _ job _ _ _ _ _ failed trouble kept =>
      obtain ⟨used, rfl, rfl, rfl⟩ := trouble.recovered.spent label attempts rfl
      refine ⟨job, ?_, ⟨failed, used⟩, rfl, rfl⟩
      simp [kept]

theorem next_exhausted {m m' : Manager} {rounds : Nat} {w w' : World σ} {label : String} {attempts : Nat}
    (run : m.next service rounds w = some ((m', .error (.attemptsExhausted label attempts)), w')) :
    ∃ job ∈ m'.queue, Spent m'.settings job ∧ job.label = label ∧ job.attempt = attempts := by
  cases next_ensures service rounds m w _ _ run with
  | unopened _ filling | unclosed _ _ _ filling =>
    exact absurd ⟨label, attempts, rfl⟩ ((fill_ensures service rounds _ _ _ _ filling).not_exhausted rfl)
  | interrupted _ _ waiting =>
    obtain ⟨m₁, w₁, -, last, -⟩ := awaitCompleted_ensures service rounds rounds _ _ _ _ waiting
    exact (pass_ensures service rounds m₁ w₁ _ _ last).exhausted rfl

/-- After a call that tells of spent attempts, the job that it tells of stays in the queue for good. All later calls end
in errors again, and with a responsive service they do end. Nothing is handed out any more: the jobs that have completed
stay in the queue, as they are. -/
theorem standstill_of_exhausted {m m' m'' : Manager} {calls : List (NextCall σ)} {rounds : Nat} {w w' : World σ}
    {label : String} {attempts : Nat}
    (run : m.next service rounds w = some ((m', .error (.attemptsExhausted label attempts)), w'))
    (later : History service m' calls m'') :
    (∃ job ∈ m'.queue, Spent m'.settings job ∧ job.label = label ∧ job.attempt = attempts ∧
      ∃ job'' ∈ m''.queue, Remains job job'' ∧ Spent m''.settings job'') ∧
    Standstill m' m'' ∧ (∀ call ∈ calls, ∃ cause, call.result = .error cause) ∧
    (∀ job ∈ m'.queue, deliverable job →
      ∃ job'' ∈ m''.queue, job''.asMade = job.asMade ∧ job''.leaves = job.leaves ∧ deliverable job'') ∧
    ∀ v : World σ, service.Responsive m''.settings.throttleLimit v.remote → ∃ m₃ cause v' enough,
      ∀ rounds, enough ≤ rounds → m''.next service rounds v = some ((m₃, .error cause), v') := by
  obtain ⟨job, mem, spent, same, count⟩ := next_exhausted run
  have clogged : m'.Clogged := ⟨job, mem, spent⟩
  obtain ⟨still, failed⟩ := later.standstill clogged
  refine ⟨?_, still, failed, fun done mem deliverable => ?_, fun v responsive => ?_⟩
  · obtain ⟨job'', mem'', remains⟩ := still.settled job mem (.inl spent)
    exact ⟨job, mem, spent, same, count, job'', mem'', remains, still.settings ▸ remains.spent spent⟩
  · obtain ⟨job'', mem'', remains⟩ := still.settled done mem (.inr deliverable)
    have leaves := remains.leaves_eq (deliverable_iff.1 deliverable).2
    exact ⟨job'', mem'', remains.heard.made, leaves, remains.deliverable deliverable⟩
  · obtain ⟨⟨m₃, cause | jobs⟩, v', enough, ends⟩ := next_ends_clogged (still.clogged clogged) responsive
    · exact ⟨m₃, cause, v', enough, ends⟩
    · obtain ⟨-, cause, error⟩ := next_standstill enough (still.clogged clogged) v _ _ (ends enough (Nat.le_refl _))
      cases error

/-- One attempt is all that a job has. -/
def impatient : Manager := { settings := { maxAttempts := 1 }, source := [sampleJob, sampleJob] }

def exhausts : Except JobError (Option (List Job)) → Bool
  | .error (.attemptsExhausted _ _) => true
  | _ => false

theorem exists_of_exhausts {result : Except JobError (Option (List Job))} (h : exhausts result) :
    ∃ label attempts, result = .error (.attemptsExhausted label attempts) := by
  unfold exhausts at h
  split at h
  · exact ⟨_, _, rfl⟩
  · cases h

/-- Of the two jobs the first one fails and the second one completes. -/
theorem impatient_run : ∃ m₁ w₁ label attempts m₂ w₂ label' attempts',
    next Script.service 3 impatient secondWorld = some ((m₁, .error (.attemptsExhausted label attempts)), w₁) ∧
    (∃ job ∈ m₁.queue, deliverable job) ∧
    next Script.service 3 m₁ w₁ = some ((m₂, .error (.attemptsExhausted label' attempts')), w₂) := by
  have run : ((next Script.service 3 impatient secondWorld).bind fun out =>
      (next Script.service 3 out.1.1 out.2).map fun out' =>
        exhausts out.1.2 && out.1.1.queue.any deliverable && exhausts out'.1.2) = some true := by
    decide +kernel
  rw [Option.bind_eq_some_iff] at run
  obtain ⟨⟨⟨m₁, result⟩, w₁⟩, first, later⟩ := run
  rw [Option.map_eq_some_iff] at later
  obtain ⟨⟨⟨m₂, result'⟩, w₂⟩, second, seen⟩ := later
  simp only [Bool.and_eq_true] at seen
  obtain ⟨⟨exhausted, done⟩, exhausted'⟩ := seen
  obtain ⟨label, attempts, rfl⟩ := exists_of_exhausts exhausted
  obtain ⟨label', attempts', rfl⟩ := exists_of_exhausts exhausted'
  exact ⟨m₁, w₁, label, attempts, m₂, w₂, label', attempts', first, List.any_eq_true.1 done, second⟩

theorem standstill_of_exhausted_impatient : ∃ m₁ w₁ label attempts calls m₂,
    next Script.service 3 impatient secondWorld = some ((m₁, .error (.attemptsExhausted label attempts)), w₁) ∧
    History Script.service m₁ calls m₂ ∧ calls.length = 1 ∧
    (∃ job ∈ m₁.queue, Spent m₁.settings job ∧ job.label = label ∧ job.attempt = attempts ∧
      ∃ job'' ∈ m₂.queue, Remains job job'' ∧ Spent m₂.settings job'') ∧
    Standstill m₁ m₂ ∧ (∀ call ∈ calls, ∃ cause, call.result = .error cause) ∧
    (∀ job ∈ m₁.queue, deliverable job →
      ∃ job'' ∈ m₂.queue, job''.asMade = job.asMade ∧ job''.leaves = job.leaves ∧ deliverable job'') ∧
    ∀ v : World Script, Script.service.Responsive m₂.settings.throttleLimit v.remote → ∃ m₃ cause v' enough,
      ∀ rounds, enough ≤ rounds → m₂.next Script.service rounds v = some ((m₃, .error cause), v') := by
  obtain ⟨m₁, w₁, label, attempts, m₂, w₂, label', attempts', first, -, second⟩ := impatient_run
  have later : History Script.service m₁ _ m₂ := .call .start second
  exact ⟨m₁, w₁, label, attempts, _, m₂, first, later, rfl, standstill_of_exhausted first later⟩

theorem exhausted_holds_back_completed : (∀ job ∈ impatient.source, job.All (·.progress = {})) ∧
    ∃ m₁ w₁ label attempts m₂ w₂ label' attempts',
      next Script.service 3 impatient secondWorld = some ((m₁, .error (.attemptsExhausted label attempts)), w₁) ∧
      (∃ job ∈ m₁.queue, job.completed ∧ job.failed = false) ∧
      next Script.service 3 m₁ w₁ = some ((m₂, .error (.attemptsExhausted label' attempts')), w₂) := by
  obtain ⟨m₁, w₁, label, attempts, m₂, w₂, label', attempts', first, ⟨job, mem, done⟩, second⟩ := impatient_run
  have fresh : ∀ job ∈ impatient.source, job.All (·.progress = {}) := by
    simpa [impatient] using sampleJob_fresh
  obtain ⟨fine, completed⟩ := deliverable_iff.1 done
  exact ⟨fresh, m₁, w₁, label, attempts, m₂, w₂, label', attempts', first, ⟨job, mem, completed, fine⟩, second⟩

end Manager

end AsyncReports
