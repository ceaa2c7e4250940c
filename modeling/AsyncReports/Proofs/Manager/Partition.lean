import AsyncReports.Proofs.Manager.Course
import AsyncReports.Proofs.Manager.Passes
import AsyncReports.Script

set_option autoImplicit false

/-!
# How a pass parts the queue

A pass that ends well hands out those of the polled jobs that have completed, and keeps the others in their places,
restarted or split where they had failed. A pass that does not end well keeps every job. If it came to recover one and
could not, those that had completed stand behind this one, and the rest of the queue behind them.
-/

namespace AsyncReports.Manager

open ReportJob Job

variable {σ : Type} {service : Service σ} {rounds : Nat} {settings : ManagerSettings}

/-- The operations that a recovery consists of. -/
inductive Recovers (service : Service σ) (settings : ManagerSettings) (job : Job) (w : World σ) :
    Outcome Recovery → World σ → Prop
  | exhausted (spent : settings.maxAttempts ≤ job.attempt) :
    Recovers service settings job w (⟨job, none⟩, .error (.attemptsExhausted job.label job.attempt)) w
  | restart {job' : Job} {result : Except JobError Unit} {w₁ : World σ} (log log' : List LogEntry)
    (room : job.attempt < settings.maxAttempts)
    (run : job.restart service { w with log } = some ((job', result), w₁)) :
    Recovers service settings job w (⟨job', none⟩, result) { w₁ with log := log' }
  | split {parts parts' : Job} {w₁ w₂ : World σ} (log log' : List LogEntry) (room : job.attempt < settings.maxAttempts)
    (probed : job.split service { w with log } = some (.ok parts, w₁))
    (started : parts.start service w₁ = some ((parts', .ok ()), w₂)) :
    Recovers service settings job w (⟨parts', some job⟩, .ok ()) { w₂ with log := log' }
  | unstarted {parts parts' : Job} {cause : JobError} {w₁ w₂ : World σ} (log : List LogEntry)
    (room : job.attempt < settings.maxAttempts) (probed : job.split service { w with log } = some (.ok parts, w₁))
    (refused : parts.start service w₁ = some ((parts', .error cause), w₂)) :
    Recovers service settings job w (⟨job, none⟩, .error cause) w₂
  | unprobed {cause : JobError} {w₁ : World σ} (log : List LogEntry) (room : job.attempt < settings.maxAttempts)
    (probed : job.split service { w with log } = some (.error cause, w₁)) :
    Recovers service settings job w (⟨job, none⟩, .error cause) w₁

theorem restartJob_recovers {job : Job} (room : job.attempt < settings.maxAttempts) (w : World σ)
    (log : List LogEntry) :
    Act.Ensures (restartJob service job) { w with log } fun out w' => Recovers service settings job w out w' := by
  rw [restartJob, Act.ensures_bind]
  rintro ⟨job', cause | _⟩ w₁ run
  · exact Act.ensures_pure.2 (.restart log w₁.log room run)
  · rw [Act.ensures_bind, Act.ensures_log]
    exact Act.ensures_pure.2 (.restart log _ room run)

theorem recover_recovers (job : Job) (w : World σ) :
    Act.Ensures (recover service settings job) w fun out w' => Recovers service settings job w out w' := by
  rw [recover]
  split
  · rename_i spent
    exact Act.ensures_pure.2 (.exhausted spent)
  · rename_i unspent
    have room : job.attempt < settings.maxAttempts := Nat.lt_of_not_le unspent
    split
    · rw [Act.ensures_bind, Act.ensures_log, Act.ensures_bind]
      intro out w₁ probed
      split
      · rename_i parts
        rw [Act.ensures_bind]
        rintro ⟨parts', cause | _⟩ w₂ started
        · exact Act.ensures_pure.2 (.unstarted _ room probed started)
        · rw [Act.ensures_bind, Act.ensures_log]
          exact Act.ensures_pure.2 (.split _ _ room probed started)
      · -- Only a group cannot be split, and that is found out without a request.
        rename_i label
        rw [Act.ensures_bind, Act.ensures_log]
        cases job with
        | group g members =>
          cases probed
          exact restartJob_recovers room w _
        | report leaf =>
          rcases splitReport_ensures service leaf _ _ _ probed with ⟨_, ⟨⟩⟩ | ⟨_, ⟨⟩⟩
      · exact Act.ensures_pure.2 (.unprobed _ room probed)
    · rw [Act.ensures_bind, Act.ensures_log]
      exact restartJob_recovers room w _

/-- The sorting of jobs in order, as far as all recoveries succeed: what became of those that stay, and those that have
completed. -/
inductive Sorts (service : Service σ) (settings : ManagerSettings) :
    World σ → List Job → List Recovery → List Job → World σ → Prop
  | nothing (w : World σ) : Sorts service settings w [] [] [] w
  | running {w w' : World σ} {job : Job} {jobs done : List Job} {recoveries : List Recovery}
    (fine : job.failed = false) (open_ : job.completed = false)
    (rest : Sorts service settings w jobs recoveries done w') :
    Sorts service settings w (job :: jobs) (⟨job, none⟩ :: recoveries) done w'
  | completed {w w' : World σ} {job : Job} {jobs done : List Job} {recoveries : List Recovery}
    (fine : job.failed = false) (ended : job.completed) (rest : Sorts service settings w jobs recoveries done w') :
    Sorts service settings w (job :: jobs) recoveries (job :: done) w'
  | recovered {w w₁ w' : World σ} {job : Job} {recovery : Recovery} {jobs done : List Job} {recoveries : List Recovery}
    (failed : job.failed) (recovers : Recovers service settings job w (recovery, .ok ()) w₁)
    (became : RecoverEnd settings job (recovery, .ok ())) (rest : Sorts service settings w₁ jobs recoveries done w') :
    Sorts service settings w (job :: jobs) (recovery :: recoveries) done w'

theorem Sorts.stay {w w' : World σ} {jobs done : List Job} {recoveries : List Recovery}
    (h : Sorts service settings w jobs recoveries done w') : StayAs settings jobs recoveries := by
  induction h with
  | nothing => exact .nil
  | running fine open_ _ ih => exact ih.cons (.running fine open_)
  | completed fine ended _ ih => exact ih.skip (deliverable_iff.2 ⟨fine, ended⟩)
  | recovered failed _ became _ ih => exact ih.cons (.recovered failed became)

theorem Sorts.done_eq {w w' : World σ} {jobs done : List Job} {recoveries : List Recovery}
    (h : Sorts service settings w jobs recoveries done w') : done = delivered jobs := by
  induction h with
  | nothing => rfl
  | running _ open_ _ ih => rw [ih, delivered, delivered, List.filter_cons_of_neg (by simp [deliverable, open_])]
  | completed fine ended _ ih =>
    rw [ih, delivered, delivered, List.filter_cons_of_pos (deliverable_iff.2 ⟨fine, ended⟩)]
  | recovered failed _ _ _ ih =>
    rw [ih, delivered, delivered, List.filter_cons_of_neg (by simp [deliverable_of_failed failed])]

/-- How the sorting of a queue comes out. On an error, `before` are the jobs that had been sorted. -/
inductive Sorted (service : Service σ) (settings : ManagerSettings) (s : Sorting) (w : World σ) :
    List Job → Sorting × Except JobError Unit → World σ → Prop
  | all {jobs : List Job} {s' : Sorting} {recoveries : List Recovery} {w' : World σ}
    (sorts : Sorts service settings w jobs recoveries (delivered jobs) w')
    (kept : s'.kept = s.kept ++ recoveries.map Recovery.job)
    (completed : s'.completed = s.completed ++ delivered jobs) :
    Sorted service settings s w jobs (s', .ok ()) w'
  | stuck {before after : List Job} {job : Job} {s' : Sorting} {recoveries : List Recovery} {recovery : Recovery}
    {cause : JobError} {w₁ w' : World σ} (sorts : Sorts service settings w before recoveries (delivered before) w₁)
    (failed : job.failed) (recovers : Recovers service settings job w₁ (recovery, .error cause) w')
    (became : RecoverEnd settings job (recovery, .error cause))
    (kept : s'.kept = s.kept ++ recoveries.map Recovery.job ++ recovery.job ::
      (s.completed ++ delivered before ++ after)) :
    Sorted service settings s w (before ++ job :: after) (s', .error cause) w'

/-- One job more at the front is sorted first. -/
theorem Sorted.cons {s s₁ : Sorting} {w w₁ w' : World σ} {job : Job} {rest : List Job}
    {out : Sorting × Except JobError Unit} (new : List Recovery) (gone : List Job)
    (first : ∀ jobs recoveries done w', Sorts service settings w₁ jobs recoveries done w' →
      Sorts service settings w (job :: jobs) (new ++ recoveries) (gone ++ done) w')
    (kept : s₁.kept = s.kept ++ new.map Recovery.job) (completed : s₁.completed = s.completed ++ gone)
    (h : Sorted service settings s₁ w₁ rest out w') : Sorted service settings s w (job :: rest) out w' := by
  cases h with
  | all sorts kept' completed' =>
    have sorts' := first _ _ _ _ sorts
    have same := sorts'.done_eq
    rw [same] at sorts'
    refine .all sorts' ?_ ?_
    · rw [kept', kept, List.map_append, List.append_assoc]
    · rw [completed', completed, ← same, List.append_assoc]
  | stuck sorts failed recovers became kept' =>
    have sorts' := first _ _ _ _ sorts
    have same := sorts'.done_eq
    rw [same] at sorts'
    refine .stuck sorts' failed recovers became ?_
    rw [kept', kept, completed, ← same, List.map_append]
    simp only [List.append_assoc]

theorem sort_sorted (jobs : List Job) : ∀ (s : Sorting) (w : World σ),
    Act.Ensures (sort service settings s jobs) w fun out w' => Sorted service settings s w jobs out w' := by
  induction jobs with
  | nil => exact fun s w => Act.ensures_pure.2 (.all (.nothing w) (List.append_nil _).symm (List.append_nil _).symm)
  | cons job rest ih =>
    intro s w
    rw [sort]
    split
    · rename_i failed
      rw [Act.ensures_bind]
      refine ((recover_recovers job w).and (recover_ensures service settings job w)).mono ?_
      rintro ⟨recovery, cause | _⟩ w₁ ⟨recovers, became⟩
      · have first : Sorts service settings w [] [] (delivered []) w := .nothing w
        exact Act.ensures_pure.2 (.stuck first failed recovers became (by simp [delivered]))
      · refine (ih _ w₁).mono fun out w' later => later.cons [recovery] [] ?_ rfl ?_
        · exact fun _ _ _ _ rest => .recovered failed recovers became rest
        · exact (List.append_nil _).symm
    · rename_i fine
      have fine := eq_false_of_ne_true fine
      split
      · rename_i ended
        refine (ih _ w).mono fun out w' later => later.cons [] [job] ?_ ?_ rfl
        · exact fun _ _ _ _ rest => .completed fine ended rest
        · exact (List.append_nil _).symm
      · rename_i open_
        refine (ih _ w).mono fun out w' later => later.cons [⟨job, none⟩] [] ?_ rfl ?_
        · exact fun _ _ _ _ rest => .running fine (eq_false_of_ne_true open_) rest
        · exact (List.append_nil _).symm

/-! ## The whole pass -/

/-- What a pass does, and how it leaves the queue. The queue of `m₁` is the one that has been polled. -/
inductive Partition (service : Service σ) (rounds : Nat) (m : Manager) (w : World σ) :
    Manager × Except JobError (List Job) → World σ → Prop
  | refused {m₁ : Manager} {cause : JobError} {w₁ : World σ}
    (polls : m.pollPass service rounds w = some ((m₁, .error cause), w₁)) (heard : AllHeard m.queue m₁.queue) :
    Partition service rounds m w (m₁, .error cause) w₁
  | unread {m₁ m₂ : Manager} {cause : JobError} {w₁ w₂ : World σ}
    (polls : m.pollPass service rounds w = some ((m₁, .ok ()), w₁)) (heard : AllHeard m.queue m₁.queue)
    (waits : awaitThrottle service rounds m₁ w₁ = some ((m₂, .error cause), w₂)) (same : m₂.queue = m₁.queue) :
    Partition service rounds m w (m₂, .error cause) w₂
  | stuck {m₁ m₂ : Manager} {before after retired : List Job} {job : Job} {recoveries : List Recovery}
    {recovery : Recovery} {cause : JobError} {w₁ w₂ w₃ w' : World σ}
    (polls : m.pollPass service rounds w = some ((m₁, .ok ()), w₁)) (heard : AllHeard m.queue m₁.queue)
    (waits : awaitThrottle service rounds m₁ w₁ = some ((m₂, .ok ()), w₂)) (order : m₁.queue = before ++ job :: after)
    (sorts : Sorts service m.settings w₂ before recoveries (delivered before) w₃)
    (stay : StayAs m.settings before recoveries) (failed : job.failed)
    (recovers : Recovers service m.settings job w₃ (recovery, .error cause) w')
    (became : RecoverEnd m.settings job (recovery, .error cause)) :
    Partition service rounds m w
      ({ m₂ with queue := recoveries.map Recovery.job ++ recovery.job :: (delivered before ++ after), retired },
        .error cause) w'
  | sorted {m₁ m₂ : Manager} {retired : List Job} {recoveries : List Recovery} {w₁ w₂ w₃ : World σ}
    (polls : m.pollPass service rounds w = some ((m₁, .ok ()), w₁)) (heard : AllHeard m.queue m₁.queue)
    (waits : awaitThrottle service rounds m₁ w₁ = some ((m₂, .ok ()), w₂))
    (sorts : Sorts service m.settings w₂ m₁.queue recoveries (delivered m₁.queue) w₃)
    (stay : StayAs m.settings m₁.queue recoveries) (log : List LogEntry) :
    Partition service rounds m w
      ({ m₂ with queue := recoveries.map Recovery.job, retired }, .ok (delivered m₁.queue)) { w₃ with log }

theorem pass_partition (m : Manager) (w : World σ) :
    Act.Ensures (m.pass service rounds) w fun out w' => Partition service rounds m w out w' := by
  rw [pass, Act.ensures_bind]
  rintro ⟨m₁, result⟩ w₁ polls
  obtain ⟨queue, polled, rfl⟩ := pollPass_eq_some.1 polls
  obtain ⟨heard, -⟩ := pollQueue_ensures service rounds _ _ _ _ _ _ _ polled
  have heard : AllHeard m.queue queue := heard
  cases result with
  | error cause => exact Act.ensures_pure.2 (.refused polls heard)
  | ok =>
    rw [Act.ensures_bind]
    rintro out w₂ waits
    cases awaitThrottle_ensures service rounds _ _ _ _ waits with
    | unread => exact Act.ensures_pure.2 (.unread polls heard waits rfl)
    | low =>
      rw [Act.ensures_bind]
      refine (sort_sorted queue {} w₂).mono ?_
      rintro _ w₃ (⟨sorts, kept, completed⟩ | ⟨sorts, failed, recovers, became, kept⟩)
      · rw [List.nil_append] at kept completed
        rw [Act.ensures_bind, Act.ensures_log, kept, completed]
        exact Act.ensures_pure.2 (.sorted polls heard waits sorts sorts.stay _)
      · rw [List.nil_append, List.nil_append] at kept
        dsimp only
        rw [kept]
        exact Act.ensures_pure.2 (.stuck polls heard waits rfl sorts sorts.stay failed recovers became)

/-- No job is lost and none is there twice: what leaves the queue is handed out, and nothing leaves it on an error. -/
theorem Partition.accounted {m m' : Manager} {w w' : World σ} {result : Except JobError (List Job)}
    (h : Partition service rounds m w (m', result) w') :
    match result with
    | .ok done => Accounted m.queue (done ++ m'.queue)
    | .error _ => Accounted m.queue m'.queue := by
  have polled : ∀ {queue : List Job}, AllHeard m.queue queue → Accounted m.queue queue :=
    fun heard => .of_forall₂ (heard.imp fun _ _ => Becomes.heir)
  cases h with
  | refused _ heard => exact polled heard
  | unread _ heard _ same =>
    rw [same]
    exact polled heard
  | sorted _ heard _ _ stay => exact (polled heard).trans stay.accounted
  | @stuck m₁ m₂ before after retired job recoveries recovery _ _ _ _ _ _ heard _ order _ stay failed _ became =>
    have sorting : SortEnd m.settings {} m₁.queue { kept := recoveries.map Recovery.job ++ recovery.job ::
        (delivered before ++ after) } (.error _) :=
      .stuck order stay failed became rfl rfl
    exact (polled heard).trans sorting.accounted

/-- A pass parts the queue: what has completed is handed out, and what has failed is restarted or split in its place. A
pass that ends in an error keeps as many jobs as there were. -/
theorem pass_parts_queue {m m' : Manager} {w w' : World σ} {result : Except JobError (List Job)}
    (run : m.pass service rounds w = some ((m', result), w')) :
    Partition service rounds m w (m', result) w' ∧
      (∀ done, result = .ok done → Accounted m.queue (done ++ m'.queue)) ∧
      ∀ cause, result = .error cause → Accounted m.queue m'.queue ∧ m'.queue.length = m.queue.length := by
  have parts := pass_partition m w _ _ run
  have accounted := parts.accounted
  refine ⟨parts, ?_, ?_⟩
  · rintro done rfl
    exact accounted
  · rintro cause rfl
    exact ⟨accounted, accounted.length_eq.symm⟩

/-- The first job completes, the second one fails, and the third one still runs. -/
def threefold : Manager where
  source := []
  queue := ["run-1", "run-2", "run-3"].map fun run => .report (ReportJob.sample.launched { id := run } 0)

def threefoldWorld : World Script :=
  { remote := { status := [("run-1", [.ok (.named "Job Completed")]), ("run-2", [.ok (.named "Job Failed")])] } }

theorem pass_parts_queue_threefold : ∃ m' result w',
    threefold.pass Script.service 3 threefoldWorld = some ((m', result), w') ∧
    Partition Script.service 3 threefold threefoldWorld (m', result) w' ∧
      (∀ done, result = .ok done → Accounted threefold.queue (done ++ m'.queue)) ∧
      ∀ cause, result = .error cause → Accounted threefold.queue m'.queue ∧
        m'.queue.length = threefold.queue.length := by
  have run : (threefold.pass Script.service 3 threefoldWorld).isSome := by decide +kernel
  obtain ⟨⟨⟨m', result⟩, w'⟩, run⟩ := Option.isSome_iff_exists.1 run
  exact ⟨m', result, w', run, pass_parts_queue run⟩

end AsyncReports.Manager
