import AsyncReports.Proofs.Batch
import AsyncReports.Proofs.Manager.Recovery
import Mathlib.Logic.Relation

set_option autoImplicit false

/-!
# The requests of an action

The remote side changes by requests only, and every request is written down. `Asks service p w w'` says that the way
from one world to another consists of requests of the kind `p`, with any logging and waiting in between. An action
that makes no other requests is `Only service p`, which is settled part by part: a start submits, a split probes, and
a poll sends round trips that are no longer than the batches it fills.
-/

namespace AsyncReports

variable {σ τ α β : Type} {service : Service σ} {p q : Call → Prop}

/-- A request leads the remote side from one state to the next. -/
inductive Service.Request (service : Service σ) : Call → σ → σ → Prop
  | submit (edge : Edge) (params : Params) (s : σ) :
    Request service (.submit edge params) s (service.submit edge params s).2
  | query (edge : Edge) (params : Params) (s : σ) :
    Request service (.query edge params) s (service.query edge params s).2
  | status (run : String) (s : σ) : Request service (.status run) s (service.status run s).2
  | statuses (runs : List String) (s : σ) : Request service (.statuses runs) s (service.statuses runs s).2
  | rows (run : Run) (pageSize : Nat) (s : σ) :
    Request service (.rows run.id pageSize) s (service.rows run pageSize s).2
  | throttle (s : σ) : Request service .throttle s (service.throttle s).2

/-- Requests of any kind lead from one state to the other. -/
def Service.Leads (service : Service σ) : σ → σ → Prop :=
  Relation.ReflTransGen fun s s' => ∃ c, service.Request c s s'

inductive Asks (service : Service σ) (p : Call → Prop) (w : World σ) : World σ → Prop
  | nothing : Asks service p w w
  | quiet {w₁ : World σ} (before : Asks service p w w₁) (log : List LogEntry) (clock : Nat) :
    Asks service p w { w₁ with log, clock }
  | request {w₁ : World σ} {c : Call} {s : σ} (before : Asks service p w w₁) (kind : p c)
    (made : service.Request c w₁.remote s) :
    Asks service p w { w₁ with remote := s, calls := w₁.calls ++ [c] }

namespace Asks

theorem trans {w₁ w₂ w₃ : World σ} (h : Asks service p w₁ w₂) (h' : Asks service p w₂ w₃) :
    Asks service p w₁ w₃ := by
  induction h' with
  | nothing => exact h
  | quiet _ log clock ih => exact ih.quiet log clock
  | request _ kind made ih => exact ih.request kind made

theorem mono {w w' : World σ} (h : Asks service p w w') (weaker : ∀ c, p c → q c) : Asks service q w w' := by
  induction h with
  | nothing => exact .nothing
  | quiet _ log clock ih => exact ih.quiet log clock
  | request _ kind made ih => exact ih.request (weaker _ kind) made

theorem calls {w w' : World σ} (h : Asks service p w w') :
    ∃ made, w'.calls = w.calls ++ made ∧ ∀ c ∈ made, p c := by
  induction h with
  | nothing => exact ⟨[], by simp⟩
  | quiet _ _ _ ih => exact ih
  | @request w₁ c s _ kind _ ih =>
    obtain ⟨made, calls, all⟩ := ih
    refine ⟨made ++ [c], by simp [calls], ?_⟩
    rw [List.forall_mem_append, List.forall_mem_singleton]
    exact ⟨all, kind⟩

theorem keeps_calls {w w' : World σ} (h : Asks service p w w') {c : Call} (made : c ∈ w.calls) : c ∈ w'.calls := by
  obtain ⟨later, calls, -⟩ := h.calls
  rw [calls]
  exact List.mem_append_left later made

theorem leads {w w' : World σ} (h : Asks service p w w') : service.Leads w.remote w'.remote := by
  induction h with
  | nothing => exact .refl
  | quiet _ _ _ ih => exact ih
  | request _ _ made ih => exact ih.tail ⟨_, made⟩

end Asks

def Act.Only (service : Service σ) (p : Call → Prop) (act : Act σ α) : Prop :=
  ∀ w, Act.Ensures act w fun _ w' => Asks service p w w'

namespace Act.Only

theorem pure (a : α) : Only service p (pure a : Act σ α) := fun _ => ensures_pure.2 .nothing

theorem unfinished : Only service p (unfinished : Act σ α) := fun _ => ensures_unfinished

theorem now : Only service p (now : Act σ Nat) := fun _ => ensures_now.2 .nothing

theorem log (entries : List LogEntry) : Only service p (Act.log entries : Act σ Unit) :=
  fun w => ensures_log.2 (Asks.nothing.quiet (w.log ++ entries) w.clock)

theorem sleep (seconds : Nat) : Only service p (Act.sleep seconds : Act σ Unit) :=
  fun w => ensures_sleep.2 (Asks.nothing.quiet w.log _)

theorem bind {act : Act σ α} {f : α → Act σ β} (first : Only service p act) (later : ∀ a, Only service p (f a)) :
    Only service p (act >>= f) := by
  intro w
  rw [ensures_bind]
  refine (first w).mono fun a w₁ h => ?_
  exact (later a w₁).mono fun _ _ h' => h.trans h'

/-- What follows an action only has to be looked at for the values that the action can have. -/
theorem bind_of {act : Act σ α} {f : α → Act σ β} {post : α → Prop} (first : Only service p act)
    (ends : ∀ w, Act.Ensures act w fun a _ => post a) (later : ∀ a, post a → Only service p (f a)) :
    Only service p (act >>= f) := by
  intro w
  rw [ensures_bind]
  refine ((first w).and (ends w)).mono ?_
  rintro a w₁ ⟨asked, h⟩
  exact (later a h w₁).mono fun _ _ asked' => asked.trans asked'

theorem mono {act : Act σ α} (h : Only service p act) (weaker : ∀ c, p c → q c) : Only service q act :=
  fun w => (h w).mono fun _ _ asked => asked.mono weaker

theorem leads {act : Act σ α} (h : Only service p act) {w w' : World σ} {a : α} (run : act w = some (a, w')) :
    service.Leads w.remote w'.remote :=
  (h w a w' run).leads

theorem submitted (edge : Edge) (params : Params) (kind : p (.submit edge params)) :
    Only service p (service.submitted edge params) :=
  fun w => ensures_call.2 (Asks.nothing.request kind (.submit edge params w.remote))

theorem queried (edge : Edge) (params : Params) (kind : p (.query edge params)) :
    Only service p (service.queried edge params) :=
  fun w => ensures_call.2 (Asks.nothing.request kind (.query edge params w.remote))

theorem statusOf (run : String) (kind : p (.status run)) : Only service p (service.statusOf run) :=
  fun w => ensures_call.2 (Asks.nothing.request kind (.status run w.remote))

theorem statusesOf (runs : List String) (kind : p (.statuses runs)) : Only service p (service.statusesOf runs) :=
  fun w => ensures_call.2 (Asks.nothing.request kind (.statuses runs w.remote))

theorem throttleNow (kind : p .throttle) : Only service p service.throttleNow :=
  fun w => ensures_call.2 (Asks.nothing.request kind (.throttle w.remote))

end Act.Only

open Act

/-! ## Report jobs and batches -/

namespace ReportJob

theorem start_only {job : ReportJob} (submits : p (.submit job.edge job.params)) :
    Only service p (job.start service) := by
  unfold start
  split
  · refine .bind (.submitted _ _ submits) fun answer => ?_
    cases answer with
    | error cause => exact .pure _
    | ok run => exact .bind .now fun _ => .bind (.log _) fun _ => .pure _
  · exact .pure _

theorem restart_only {job : ReportJob} (submits : p (.submit job.edge job.params)) :
    Only service p (job.restart service) := by
  unfold restart
  cases fit : job.reset? with
  | none => exact .pure _
  | some fresh =>
    have same : fresh.edge = job.edge ∧ fresh.params = job.params := by
      simp only [reset?, Option.ite_none_right_eq_some, Option.map_eq_some_iff] at fit
      obtain ⟨-, status, -, rfl⟩ := fit
      exact ⟨rfl, rfl⟩
    refine .bind (start_only (by rwa [same.1, same.2])) ?_
    rintro ⟨started, _ | _⟩
    · exact .pure _
    · exact .bind (.log _) fun _ => .pure _

theorem split_only {job : ReportJob}
    (probes : p (.query job.edge (Split.probe job.params job.interval job.settings.splitter))) :
    Only service p (job.split service) := by
  refine .bind (.queried _ _ probes) fun answer => ?_
  cases answer with
  | error cause => exact .pure _
  | ok rows => exact .bind (.log _) fun _ => .pure _

theorem observe_only (label : String) (run : Run) (job : ReportJob) : Only service p (job.observe label run) :=
  .bind .now fun _ => .bind (.log _) fun _ => .pure _

theorem receive_only (label : String) (answer : Answer Json) (job : ReportJob) :
    Only service p (job.receive label answer) := by
  cases answer with
  | error cause => exact .bind (.log _) fun _ => .pure _
  | ok document =>
    unfold receive
    dsimp only
    cases Run.decode document with
    | error cause => exact .bind (.log _) fun _ => .pure _
    | ok run => exact observe_only label run job

theorem update_only (reads : ∀ run, p (.status run)) (job : ReportJob) : Only service p (job.update service) := by
  unfold update
  cases job.pending with
  | unstarted => exact .pure _
  | finished run => exact .bind (.log _) fun _ => .pure _
  | running run =>
    apply Act.Only.bind (.statusOf _ (reads _))
    intro answer
    cases answer with
    | error cause => exact .pure _
    | ok latest => exact .bind (observe_only _ _ _) fun _ => .pure _

theorem check_only (owner : String → τ) (job : ReportJob) : Only service p (job.check owner : Act σ _) := by
  unfold check
  cases job.pending with
  | unstarted => exact .pure _
  | finished run => exact .bind (.log _) fun _ => .pure _
  | running run => exact .pure _

end ReportJob

namespace Batch

variable {receive : β → τ → Answer Json → Act σ β}

theorem deliver_only (passive : ∀ b owner answer, Only service p (receive b owner answer)) (b : β)
    (answered : List (Check τ × Answer Json)) : Only service p (deliver receive b answered) := by
  induction answered generalizing b with
  | nil => exact .pure b
  | cons head rest ih => exact .bind (passive _ _ _) fun b' => ih b'

theorem execute_only (passive : ∀ b owner answer, Only service p (receive b owner answer)) (b : β)
    (batch : Batch τ) (kind : p (.statuses (runs batch))) : Only service p (execute service receive b batch) := by
  cases batch with
  | nil => exact .pure _
  | cons check rest =>
    exact .bind (.statusesOf _ kind) fun answers => .bind (deliver_only passive b _) fun _ =>
      .bind (.log _) fun _ => .pure _

/-- A drain sends a batch and then parts of it. -/
theorem drain_only (passive : ∀ b owner answer, Only service p (receive b owner answer)) (rounds : Nat) (b : β)
    (batch : Batch τ) (kind : ∀ ids, ids.length ≤ batch.length → p (.statuses ids)) :
    Only service p (drain service receive rounds b batch) := by
  induction rounds generalizing b batch with
  | zero =>
    cases batch with
    | nil => exact .pure b
    | cons check rest => exact .unfinished
  | succ rounds ih =>
    cases batch with
    | nil => exact .pure b
    | cons check rest =>
      have first : p (.statuses (runs (check :: rest))) := kind _ (by simp [runs])
      intro w
      rw [drain, ensures_bind]
      have sent := execute_only passive b (check :: rest) first w
      have shorter : Ensures (execute service receive b (check :: rest)) w fun out _ =>
          True ∧ out.2.Sublist (check :: rest) :=
        execute_keeps service (p := fun _ => True) (fun _ _ _ _ _ _ _ _ _ _ => trivial) trivial w
      intro out w₁ run
      have fewer := (shorter out w₁ run).2.length_le
      refine (ih out.1 out.2 (fun ids le => kind ids (Nat.le_trans le fewer)) w₁).mono fun _ _ later => ?_
      exact (sent out w₁ run).trans later

end Batch

/-! ## Jobs -/

namespace Job

mutual
theorem start_only : ∀ job : Job, (∀ leaf ∈ job.leaves, p (.submit leaf.edge leaf.params)) →
    Only service p (start service job)
  | .report job, submits => .bind (ReportJob.start_only (submits job List.mem_cons_self)) fun _ => .pure _
  | .group _ members, submits => .bind (startAll_only members submits) fun _ => .pure _

theorem startAll_only : ∀ jobs : List Job, (∀ leaf ∈ allLeaves jobs, p (.submit leaf.edge leaf.params)) →
    Only service p (startAll service jobs)
  | [], _ => .pure _
  | job :: rest, submits => by
    rw [allLeaves, List.forall_mem_append] at submits
    refine .bind (start_only job submits.1) ?_
    rintro ⟨job', _ | _⟩
    · exact .pure _
    · exact .bind (startAll_only rest submits.2) fun _ => .pure _
end

mutual
theorem restart_only : ∀ job : Job, (∀ leaf ∈ job.leaves, p (.submit leaf.edge leaf.params)) →
    Only service p (restart service job)
  | .report job, submits => .bind (ReportJob.restart_only (submits job List.mem_cons_self)) fun _ => .pure _
  | .group g members, submits => by
    simp only [restart]
    split
    · refine .bind (restartFailed_only g.attempt members submits) ?_
      rintro ⟨members', attempt, _ | _⟩
      · exact .pure _
      · exact .bind (.log _) fun _ => .pure _
    · exact .pure _

theorem restartFailed_only (attempt : Nat) : ∀ jobs : List Job,
    (∀ leaf ∈ allLeaves jobs, p (.submit leaf.edge leaf.params)) → Only service p (restartFailed service attempt jobs)
  | [], _ => .pure _
  | job :: rest, submits => by
    rw [allLeaves, List.forall_mem_append] at submits
    have later : ∀ out : Outcome Job, Only service p (match out.2 with
        | .error cause => pure (out.1 :: rest, attempt, .error cause)
        | .ok () => do
          let (rest, attempt, result) ← restartFailed service (max attempt out.1.attempt) rest
          pure (out.1 :: rest, attempt, result)) := by
      rintro ⟨job', _ | _⟩
      · exact .pure _
      · exact .bind (restartFailed_only (max attempt job'.attempt) rest submits.2) fun _ => .pure _
    rw [restartFailed]
    split
    · exact .bind (restart_only job submits.1) later
    · exact .bind (.pure _) later
end

theorem split_only {job : Job}
    (probes : ∀ leaf ∈ job.leaves,
      p (.query leaf.edge (Split.probe leaf.params leaf.interval leaf.settings.splitter))) :
    Only service p (job.split service) := by
  cases job with
  | report job => exact ReportJob.split_only (probes job List.mem_cons_self)
  | group g members => exact .pure _

theorem receiveAt_only (jobs : List Job) (slot : Slot) (answer : Answer Json) :
    Only service p (receiveAt jobs slot answer) := by
  induction jobs generalizing slot with
  | nil => exact .pure _
  | cons job rest ih =>
    obtain ⟨_ | position, label⟩ := slot
    · cases job with
      | report job => exact .bind (ReportJob.receive_only label answer job) fun _ => .pure _
      | group g members => exact .pure _
    · rw [receiveAt]
      exact .bind (ih ⟨position, label⟩) fun _ => .pure _

theorem settle_only (rounds : Nat) (jobs : List Job) (batch : Batch Slot)
    (kind : ∀ ids, ids.length ≤ batch.length → p (.statuses ids)) : Only service p (settle service rounds jobs batch) :=
  Batch.drain_only receiveAt_only rounds jobs batch kind

mutual
/-- Every group within the job may send round trips of the size that its settings give. -/
def Permits (p : Call → Prop) : Job → Prop
  | .report _ => True
  | .group g members => (∀ ids, ids.length ≤ max g.settings.batch.maxCalls 1 → p (.statuses ids)) ∧ AllPermit p members

def AllPermit (p : Call → Prop) : List Job → Prop
  | [] => True
  | job :: rest => Permits p job ∧ AllPermit p rest
end

mutual
theorem permits_of_any (kind : ∀ ids, p (.statuses ids)) : ∀ job : Job, Permits p job
  | .report _ => trivial
  | .group _ members => ⟨fun ids _ => kind ids, allPermit_of_any kind members⟩

theorem allPermit_of_any (kind : ∀ ids, p (.statuses ids)) : ∀ jobs : List Job, AllPermit p jobs
  | [] => trivial
  | job :: rest => ⟨permits_of_any kind job, allPermit_of_any kind rest⟩
end

theorem poll_checks_length (rounds position : Nat) (job : Job) (w : World σ) :
    Ensures (poll service rounds position job) w fun out _ => out.2.1.length ≤ 1 := by
  cases job with
  | report job =>
    simp only [poll, ReportJob.check, ensures_bind, ensures_pure]
    cases job.pending <;> simp
  | group g members =>
    simp only [poll, ensures_bind, ensures_pure]
    exact fun _ _ _ => Nat.zero_le 1

mutual
theorem poll_only (rounds : Nat) : ∀ (position : Nat) (job : Job), job.Permits p →
    Only service p (poll service rounds position job)
  | _, .report job, _ => .bind (ReportJob.check_only _ job) fun _ => .pure _
  | _, .group g members, permits =>
    .bind (pollMembers_only rounds (max g.settings.batch.maxCalls 1) permits.1 [] [] 0 members permits.2 (Nat.le_refl 0)
      (Nat.le_max_right _ _)) fun _ => .pure _

/-- A chunk holds as many checks as it has taken members, and is sent once it is full. -/
theorem pollMembers_only (rounds size : Nat) (kind : ∀ ids, ids.length ≤ size → p (.statuses ids)) :
    ∀ (done : List Job) (batch : Batch Slot) (taken : Nat) (members : List Job), AllPermit p members →
      batch.length ≤ taken → taken < size → Only service p (pollMembers service rounds size done batch taken members)
  | done, batch, taken, [], _, held, room => by
    have fits : batch.length ≤ size := by omega
    exact .bind (settle_only rounds done batch fun ids le => kind ids (Nat.le_trans le fits)) fun _ => .pure _
  | done, batch, taken, job :: rest, permits, held, room => by
    rw [pollMembers]
    split
    · exact pollMembers_only rounds size kind (done ++ [job]) batch taken rest permits.2 held room
    · intro w
      rw [ensures_bind]
      intro out w₁ run
      have asked := poll_only rounds done.length job permits.1 w out w₁ run
      have one := poll_checks_length rounds done.length job w out w₁ run
      obtain ⟨job', checks, result⟩ := out
      have held' : (batch ++ checks).length ≤ taken + 1 := by
        rw [List.length_append]
        exact Nat.add_le_add held one
      have settles : Only service p (settle service rounds (done ++ [job']) (batch ++ checks)) :=
        settle_only rounds _ _ fun ids le => kind ids (by omega)
      have later : Only service p (match result with
          | .error cause => do
            let done ← settle service rounds (done ++ [job']) (batch ++ checks)
            pure (done ++ rest, .error cause)
          | .ok () =>
            if taken + 1 = size then do
              let done ← settle service rounds (done ++ [job']) (batch ++ checks)
              pollMembers service rounds size done [] 0 rest
            else pollMembers service rounds size (done ++ [job']) (batch ++ checks) (taken + 1) rest) := by
        cases result with
        | error cause => exact .bind settles fun _ => .pure _
        | ok =>
          dsimp only
          split
          · refine .bind settles fun done' => ?_
            exact pollMembers_only rounds size kind done' [] 0 rest permits.2 (Nat.le_refl 0) (by omega)
          · exact pollMembers_only rounds size kind _ _ (taken + 1) rest permits.2 held' (by omega)
      exact (later w₁).mono fun _ _ h => asked.trans h
end

/-- The shared batch holds no more checks than its limit, and no more than there are jobs. -/
theorem pollQueue_only (rounds limit : Nat) (jobs : List Job) :
    ∀ (done : List Job) (batch : Batch Slot), (∀ job ∈ jobs, job.Permits p) → batch.length ≤ limit →
      batch.length ≤ done.length →
      (∀ ids, ids.length ≤ min limit (done.length + jobs.length) → p (.statuses ids)) →
      Only service p (pollQueue service rounds limit done batch jobs) := by
  induction jobs with
  | nil =>
    intro done batch _ within few kind
    have fits : ∀ ids, ids.length ≤ batch.length → p (.statuses ids) := fun ids le => kind ids (by simp; omega)
    exact .bind (settle_only rounds done batch fits) fun _ => .pure _
  | cons job rest ih =>
    intro done batch permits within few kind
    rw [List.forall_mem_cons] at permits
    rw [List.length_cons] at kind
    rw [pollQueue]
    split
    · have fits : ∀ ids, ids.length ≤ batch.length → p (.statuses ids) := fun ids le => kind ids (by omega)
      exact .bind (.log _) fun _ => .bind (settle_only rounds done batch fits) fun _ => .pure _
    · intro w
      rw [ensures_bind]
      intro out w₁ run
      have asked := poll_only rounds done.length job permits.1 w out w₁ run
      have one := poll_checks_length rounds done.length job w out w₁ run
      obtain ⟨job', checks, result⟩ := out
      have count : (batch ++ checks).length = batch.length + checks.length := List.length_append
      have one : checks.length ≤ 1 := one
      have later : Only service p (match result with
          | .error cause => do
            let done ← settle service rounds (done ++ [job']) (batch ++ checks)
            pure (done ++ rest, .error cause)
          | .ok () => pollQueue service rounds limit (done ++ [job']) (batch ++ checks) rest) := by
        cases result with
        | error cause =>
          refine .bind (settle_only rounds _ _ fun ids le => kind ids (by omega)) fun _ => .pure _
        | ok =>
          have more : (done ++ [job']).length = done.length + 1 := List.length_append
          refine ih (done ++ [job']) (batch ++ checks) permits.2 (by omega) (by omega) fun ids le => kind ids ?_
          omega
      exact (later w₁).mono fun _ _ h => asked.trans h

end Job

/-! ## Parts of a manager's call -/

namespace Manager

theorem readThrottle_only (reads : p .throttle) (m : Manager) : Only service p (m.readThrottle service) := by
  refine .bind (.throttleNow reads) fun answer => ?_
  cases answer <;> exact .pure _

theorem awaitThrottle_only (reads : p .throttle) (rounds : Nat) :
    ∀ m : Manager, Only service p (awaitThrottle service rounds m) := by
  induction rounds with
  | zero =>
    intro m
    rw [awaitThrottle]
    split
    · exact .unfinished
    · exact .pure _
  | succ rounds ih =>
    intro m
    rw [awaitThrottle]
    split
    · refine .bind (.log _) fun _ => .bind (.sleep _) fun _ => .bind (readThrottle_only reads m) ?_
      rintro ⟨m', _ | _⟩
      · exact .pure _
      · exact ih m'
    · exact .pure _

theorem pollPass_only (rounds : Nat) (m : Manager) (permits : ∀ job ∈ m.queue, job.Permits p)
    (kind : ∀ ids, ids.length ≤ min m.settings.maxChecks m.queue.length → p (.statuses ids)) :
    Only service p (m.pollPass service rounds) := by
  have polled : Only service p (Job.pollQueue service rounds m.settings.maxChecks [] [] m.queue) :=
    Job.pollQueue_only rounds m.settings.maxChecks m.queue [] [] permits (Nat.zero_le _) (Nat.le_refl 0)
      (by simpa using kind)
  exact .bind polled fun _ => .pure _

theorem restartJob_only {job : Job} (submits : ∀ leaf ∈ job.leaves, p (.submit leaf.edge leaf.params)) :
    Only service p (restartJob service job) := by
  refine .bind (Job.restart_only job submits) ?_
  rintro ⟨job', _ | _⟩
  · exact .pure _
  · exact .bind (.log _) fun _ => .pure _

/-- A recovery submits the job's own reports, or probes for parts and submits those. -/
theorem recover_only (settings : ManagerSettings) {job : Job}
    (submits : ∀ leaf ∈ job.leaves, p (.submit leaf.edge leaf.params))
    (probes : ∀ leaf ∈ job.leaves, p (.query leaf.edge (Split.probe leaf.params leaf.interval leaf.settings.splitter)))
    (parts : ∀ leaf ∈ job.leaves, ∀ rows, ∀ part ∈ (leaf.parts rows).leaves, p (.submit part.edge part.params)) :
    Only service p (recover service settings job) := by
  rw [recover]
  split
  · exact .pure _
  split
  · refine .bind (.log _) fun _ => .bind_of (Job.split_only probes) (split_ensures service job) ?_
    rintro _ (⟨leaf, rows, rfl, rfl⟩ | ⟨cause, rfl⟩ | ⟨label, rfl⟩)
    · refine .bind (Job.start_only _ (parts leaf List.mem_cons_self rows)) ?_
      rintro ⟨parts, _ | _⟩
      · exact .pure _
      · exact .bind (.log _) fun _ => .pure _
    · exact .pure _
    · exact .bind (.log _) fun _ => restartJob_only submits
  · exact .bind (.log _) fun _ => restartJob_only submits

end Manager

end AsyncReports
