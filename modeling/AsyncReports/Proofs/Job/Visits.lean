import AsyncReports.Proofs.Job.Addressing
import AsyncReports.Proofs.Waiting

set_option autoImplicit false

/-!
# Visiting and settling

A pass visits jobs of the queue one after another, and then drains the batch that they share. While it visits, report
jobs queue their checks, and groups poll their members through batches of their own. While it drains, each check is
sent until there is a document for it, and the job that asked takes the document in. No other job changes then.
-/

namespace AsyncReports.Job

open ReportJob

variable {σ : Type} {service : Service σ} {rounds : Nat}

/-- The visits that lead from one world to another: the jobs as they were and as they are left, and how it ended. Only
the last job that is visited may be refused. -/
inductive Visits (service : Service σ) (rounds : Nat) :
    World σ → List Job → List Job → Except JobError Unit → World σ → Prop
  | nothing (w : World σ) : Visits service rounds w [] [] (.ok ()) w
  | finished {w w' : World σ} {leaf : ReportJob} {run : Run} {jobs jobs' : List Job} {result : Except JobError Unit}
    (ended : leaf.pending = .finished run)
    (rest : Visits service rounds { w with log := w.log ++ [finishedEntry run] } jobs jobs' result w') :
    Visits service rounds w (.report leaf :: jobs) (.report leaf :: jobs') result w'
  | running {w w' : World σ} {leaf : ReportJob} {run : Run} {jobs jobs' : List Job} {result : Except JobError Unit}
    (going : leaf.pending = .running run) (rest : Visits service rounds w jobs jobs' result w') :
    Visits service rounds w (.report leaf :: jobs) (.report leaf :: jobs') result w'
  | polled {w w₁ w' : World σ} {g : Group} {members members' jobs jobs' : List Job} {result : Except JobError Unit}
    (own : pollMembers service rounds (max g.settings.batch.maxCalls 1) [] [] 0 members w =
      some ((members', .ok ()), w₁))
    (rest : Visits service rounds w₁ jobs jobs' result w') :
    Visits service rounds w (.group g members :: jobs) (.group g members' :: jobs') result w'
  | unstarted {w : World σ} {leaf : ReportJob} (none : leaf.pending = .unstarted) :
    Visits service rounds w [.report leaf] [.report leaf] (.error (.misuse leaf.label .updateUnstarted)) w
  | refused {w w' : World σ} {g : Group} {members members' : List Job} {cause : JobError}
    (own : pollMembers service rounds (max g.settings.batch.maxCalls 1) [] [] 0 members w =
      some ((members', .error cause), w')) :
    Visits service rounds w [.group g members] [.group g members'] (.error cause) w'

/-- The checks of jobs that stand in a row from a position on. -/
def checksFrom (position : Nat) : List Job → Batch Slot
  | [] => []
  | job :: rest => (job.asks.map fun run => ⟨run, ⟨position, job.label⟩⟩).toList ++ checksFrom (position + 1) rest

theorem runs_checksFrom (position : Nat) (jobs : List Job) :
    Batch.runs (checksFrom position jobs) = jobs.filterMap asks := by
  induction jobs generalizing position with
  | nil => rfl
  | cons job rest ih =>
    have later : (checksFrom (position + 1) rest).map (·.run) = rest.filterMap asks := ih (position + 1)
    cases asked : job.asks <;> simp [checksFrom, Batch.runs, asked, later]

theorem length_checksFrom (position : Nat) (jobs : List Job) :
    (checksFrom position jobs).length = (jobs.filterMap asks).length := by
  rw [← runs_checksFrom position, Batch.runs, List.length_map]

theorem checksFrom_cons (position : Nat) (job : Job) (rest : List Job) :
    checksFrom position (job :: rest) = checksFrom position [job] ++ checksFrom (position + 1) rest := by
  simp [checksFrom]

theorem checksFrom_silent {job : Job} (silent : job.asks = none) (position : Nat) : checksFrom position [job] = [] := by
  simp [checksFrom, silent]

theorem checksFrom_asking {job : Job} {run : String} (asking : job.asks = some run) (position : Nat) :
    checksFrom position [job] = [⟨run, ⟨position, job.label⟩⟩] := by
  simp [checksFrom, asking]

/-- A poll is a visit: of one job, or of the first of several. -/
theorem poll_visits (position : Nat) (job : Job) (w : World σ) :
    Act.Ensures (poll service rounds position job) w fun out w' =>
      out.2.1 = checksFrom position [out.1] ∧ out.1.asks = job.asks ∧
      match out.2.2 with
      | .error cause => Visits service rounds w [job] [out.1] (.error cause) w'
      | .ok () => ∀ jobs jobs' result w'', Visits service rounds w' jobs jobs' result w'' →
          Visits service rounds w (job :: jobs) (out.1 :: jobs') result w'' := by
  cases job with
  | report leaf =>
    rw [poll, Act.ensures_bind, ReportJob.check]
    cases state : leaf.pending with
    | unstarted =>
      have silent : (Job.report leaf).asks = none := by rw [asks, state]
      rw [Act.ensures_pure, Act.ensures_pure, checksFrom_silent silent]
      exact ⟨rfl, rfl, .unstarted state⟩
    | finished run =>
      have silent : (Job.report leaf).asks = none := by rw [asks, state]
      rw [Act.ensures_bind, Act.ensures_log, Act.ensures_pure, Act.ensures_pure, checksFrom_silent silent]
      exact ⟨rfl, rfl, fun _ _ _ _ rest => .finished state rest⟩
    | running run =>
      have asking : (Job.report leaf).asks = some run.id := by rw [asks, state]
      rw [Act.ensures_pure, Act.ensures_pure, checksFrom_asking asking]
      exact ⟨rfl, rfl, fun _ _ _ _ rest => .running state rest⟩
  | group g members =>
    rw [poll, Act.ensures_bind]
    rintro ⟨members', cause | _⟩ w' own
    · exact Act.ensures_pure.2 ⟨rfl, rfl, .refused own⟩
    · exact Act.ensures_pure.2 ⟨rfl, rfl, fun _ _ _ _ rest => .polled own rest⟩

theorem Visits.map_asks {w w' : World σ} {jobs jobs' : List Job} {result : Except JobError Unit}
    (h : Visits service rounds w jobs jobs' result w') : jobs'.map asks = jobs.map asks := by
  induction h with
  | nothing | unstarted | refused => rfl
  | finished _ _ ih | running _ _ ih | polled _ _ ih => simp [ih, asks]

theorem Visits.filterMap_asks {w w' : World σ} {jobs jobs' : List Job} {result : Except JobError Unit}
    (h : Visits service rounds w jobs jobs' result w') : jobs'.filterMap asks = jobs.filterMap asks := by
  have same := congrArg (List.filterMap id) h.map_asks
  rwa [List.filterMap_map, List.filterMap_map] at same

/-- Fewer checks than the limit are queued before each of the jobs, with those that were queued at first. -/
def Within (limit queued : Nat) (seen : List Job) : Prop :=
  ∀ before job after, seen = before ++ job :: after → queued + (before.filterMap asks).length < limit

theorem Within.nil {limit queued : Nat} : Within limit queued [] := by simp [Within]

theorem length_asks_cons (job : Job) (rest : List Job) :
    ((job :: rest).filterMap asks).length = ([job].filterMap asks).length + (rest.filterMap asks).length := by
  rw [← List.singleton_append, List.filterMap_append, List.length_append]

theorem Within.cons {limit queued : Nat} {job : Job} {seen : List Job} (room : queued < limit)
    (later : Within limit (queued + ([job].filterMap asks).length) seen) : Within limit queued (job :: seen) := by
  intro before next after order
  cases before with
  | nil => simpa using room
  | cons first before =>
    rw [List.cons_append, List.cons.injEq] at order
    obtain ⟨rfl, rfl⟩ := order
    have within := later before next after rfl
    rw [length_asks_cons]
    omega

/-- The way of a pass along a queue: some jobs are visited, the batch is drained, and the jobs beyond are left alone. -/
inductive Sweep (service : Service σ) (rounds limit : Nat) (done : List Job) (batch : Batch Slot) (w : World σ) :
    List Job → Outcome (List Job) → World σ → Prop
  | mk {seen beyond seen' settled : List Job} {result : Except JobError Unit} {w₁ w' : World σ} {log : List LogEntry}
    (visits : Visits service rounds w seen seen' result w₁)
    (drained : settle service rounds (done ++ seen') (batch ++ checksFrom done.length seen') { w₁ with log } =
      some (settled, w'))
    (within : Within limit batch.length seen)
    (longest : result = .ok () → beyond = [] ∨ limit ≤ batch.length + (seen.filterMap asks).length) :
    Sweep service rounds limit done batch w (seen ++ beyond) (settled ++ beyond, result) w'

theorem pollQueue_sweep (limit : Nat) (jobs : List Job) :
    ∀ (done : List Job) (batch : Batch Slot) (w : World σ),
      Act.Ensures (pollQueue service rounds limit done batch jobs) w fun out w' =>
        Sweep service rounds limit done batch w jobs out w' := by
  induction jobs with
  | nil =>
    intro done batch w
    rw [pollQueue, Act.ensures_bind]
    intro settled w' run
    have drained : settle service rounds (done ++ []) (batch ++ checksFrom done.length []) w = some (settled, w') := by
      simpa [checksFrom] using run
    have sweep : Sweep service rounds limit done batch w ([] ++ []) (settled ++ [], .ok ()) w' :=
      .mk (.nothing w) drained .nil fun _ => .inl rfl
    rw [List.append_nil settled] at sweep
    exact Act.ensures_pure.2 sweep
  | cons job rest ih =>
    intro done batch w
    rw [pollQueue]
    split
    · rename_i full
      rw [Act.ensures_bind, Act.ensures_log, Act.ensures_bind]
      intro settled w' run
      have drained : settle service rounds (done ++ []) (batch ++ checksFrom done.length [])
          { w with log := w.log ++ [queueLimitEntry] } = some (settled, w') := by
        simpa [checksFrom] using run
      exact Act.ensures_pure.2 (.mk (.nothing w) drained .nil fun _ => .inr (by simpa using full))
    · rename_i room
      rw [Act.ensures_bind]
      refine (poll_visits done.length job w).mono ?_
      rintro ⟨job', checks, cause | _⟩ w₁ ⟨queued, same, visit⟩
      · obtain rfl : checks = checksFrom done.length [job'] := queued
        rw [Act.ensures_bind]
        intro settled w' run
        have within : Within limit batch.length [job] := .cons (by omega) .nil
        exact Act.ensures_pure.2 (.mk visit run within fun fine => by cases fine)
      · obtain rfl : checks = checksFrom done.length [job'] := queued
        refine (ih (done ++ [job']) (batch ++ checksFrom done.length [job']) w₁).mono ?_
        rintro _ _ ⟨visits, drained, within, longest⟩
        have count : (batch ++ checksFrom done.length [job']).length =
            batch.length + ([job].filterMap asks).length := by
          have same : job'.asks = job.asks := same
          rw [List.length_append, length_checksFrom, List.filterMap_cons, List.filterMap_cons, same]
        rw [count] at within longest
        rw [List.length_append, List.append_assoc, List.append_assoc, List.length_singleton,
          ← checksFrom_cons] at drained
        refine .mk (visit _ _ _ _ visits) drained (.cons (by omega) within) fun fine => ?_
        refine (longest fine).imp_right fun full => ?_
        rw [length_asks_cons]
        omega

/-! ## Draining the shared batch -/

theorem mem_checksFrom {position : Nat} {jobs : List Job} {check : Check Slot} :
    check ∈ checksFrom position jobs ↔ ∃ i job run, jobs[i]? = some job ∧ job.asks = some run ∧
      check = ⟨run, ⟨position + i, job.label⟩⟩ := by
  induction jobs generalizing position with
  | nil => simp [checksFrom]
  | cons job rest ih =>
    simp only [checksFrom, List.mem_append, Option.mem_toList, Option.map_eq_some_iff, ih]
    constructor
    · rintro (⟨run, asking, rfl⟩ | ⟨i, other, run, place, asking, rfl⟩)
      · exact ⟨0, job, run, rfl, asking, rfl⟩
      · exact ⟨i + 1, other, run, place, asking, by rw [Nat.add_assoc, Nat.add_comm 1]⟩
    · rintro ⟨_ | i, other, run, place, asking, rfl⟩
      · cases place
        exact .inl ⟨run, asking, rfl⟩
      · exact .inr ⟨i, other, run, place, asking, by rw [Nat.add_assoc, Nat.add_comm 1]⟩

theorem positions_nodup (position : Nat) (jobs : List Job) : (positions (checksFrom position jobs)).Nodup := by
  induction jobs generalizing position with
  | nil => exact List.nodup_nil
  | cons job rest ih =>
    have later : ∀ check ∈ checksFrom (position + 1) rest, check.owner.position ≠ position := by
      intro check mem
      obtain ⟨i, other, run, -, -, rfl⟩ := mem_checksFrom.1 mem
      dsimp only
      omega
    cases asked : job.asks with
    | none => simpa [positions, checksFrom, asked] using ih (position + 1)
    | some run => simpa [positions, checksFrom, asked] using ⟨later, ih (position + 1)⟩

theorem addressed_checksFrom (jobs : List Job) : Addressed jobs (checksFrom 0 jobs) where
  distinct := positions_nodup 0 jobs
  there check mem := by
    obtain ⟨i, job, run, place, asking, rfl⟩ := mem_checksFrom.1 mem
    obtain ⟨leaf, rfl⟩ := report_of_asks asking
    exact ⟨leaf, by simpa using place⟩

/-- The document is the service's about the run, in one of the round trips. -/
def Tells (service : Service σ) (s : σ) (trips : List (List String)) (run : String) (document : Json) : Prop :=
  ∃ (t : σ) (ids : List String) (k : Nat), service.Leads s t ∧ ids ∈ trips ∧ ids[k]? = some run ∧
    (service.statuses ids t).1[k]? = some (.ok document)

theorem Tells.later {s t : σ} {trips : List (List String)} {run : String} {document : Json}
    (leads : service.Leads s t) (ids : List String) (h : Tells service t trips run document) :
    Tells service s (ids :: trips) run document := by
  obtain ⟨u, ids', k, leads', sent, place, answer⟩ := h
  exact ⟨u, ids', k, leads.trans leads', List.mem_cons_of_mem ids sent, place, answer⟩

/-- The round trips of a batch: the first asks about all of its runs, and the others about some of them again. -/
inductive Trips (ids : List String) : List (List String) → Prop
  | none (empty : ids = []) : Trips ids []
  | sent {again : List (List String)} (some_ : ids ≠ []) (fewer : ∀ trip ∈ again, trip.Sublist ids) :
    Trips ids (ids :: again)

theorem Trips.sublist {ids : List String} {trips : List (List String)} (h : Trips ids trips) :
    ∀ trip ∈ trips, trip.Sublist ids := by
  cases h with
  | none => simp
  | sent _ fewer => exact List.forall_mem_cons.2 ⟨List.Sublist.refl ids, fewer⟩

theorem Trips.mem {ids : List String} {trips : List (List String)} {id : String} (h : Trips ids trips)
    (mem : id ∈ ids) : ids ∈ trips := by
  cases h with
  | none empty => exact absurd empty (List.ne_nil_of_mem mem)
  | sent => exact List.mem_cons_self

/-- Draining a batch brings each check a document, and the job that it belongs to takes that in. -/
theorem settle_reaches (rounds : Nat) :
    ∀ (jobs : List Job) (batch : Batch Slot) (w : World σ), Addressed jobs batch →
      Act.Ensures (settle service rounds jobs batch) w fun jobs' w' =>
        ∃ trips, w'.calls = w.calls ++ trips.map .statuses ∧ Trips (Batch.runs batch) trips ∧
          (∀ i, i ∉ positions batch → jobs'[i]? = jobs[i]?) ∧
          ∀ check ∈ batch, ∀ leaf, jobs[check.owner.position]? = some (.report leaf) →
            ∃ now document, Tells service w.remote trips check.run document ∧
              jobs'[check.owner.position]? = some (.report (leaf.heard now (.ok document))) := by
  induction rounds with
  | zero =>
    intro jobs batch w _
    cases batch with
    | nil => exact Act.ensures_pure.2 ⟨[], by simp, .none rfl, fun _ _ => rfl, by simp⟩
    | cons check rest => exact Act.ensures_unfinished
  | succ rounds ih =>
    intro jobs batch w addressed
    by_cases some_ : batch = []
    · subst some_
      exact Act.ensures_pure.2 ⟨[], by simp, .none rfl, fun _ _ => rfl, by simp⟩
    rw [settle, Batch.drain_succ some_]
    simp only [Batch.execute_eq some_, Service.statusesOf, Act.ensures_bind, Act.ensures_call, Act.ensures_log,
      Act.ensures_pure]
    set answered := Batch.pair batch (service.statuses (Batch.runs batch) w.remote).1 with paired
    have checks : answered.map Prod.fst = batch := Batch.pair_checks _ _
    rw [← checks] at addressed
    refine (deliver_reaches answered jobs _ addressed).mono ?_
    rintro jobs₁ _ ⟨⟨log, rfl⟩, untouched, reached⟩
    have again : (Batch.retries answered).Sublist batch := Batch.retries_sublist _ _
    have waits : ∀ check ∈ Batch.retries answered,
        jobs₁[check.owner.position]? = jobs[check.owner.position]? := by
      intro check mem
      obtain ⟨leaf, here⟩ := addressed.there check ((Batch.retries_sublist_checks answered).subset mem)
      obtain ⟨cause, mem⟩ := error_of_retries mem
      obtain ⟨now, there⟩ := reached check _ mem leaf here
      rw [here, there, heard_error]
    refine (ih jobs₁ (Batch.retries answered) _ (addressed.retried waits)).mono ?_
    rintro jobs' w' ⟨trips, calls, sent, untouched', reached'⟩
    have request : service.Leads w.remote (service.statuses (Batch.runs batch) w.remote).2 :=
      (Service.Request.statuses _ _).leads
    refine ⟨Batch.runs batch :: trips, ?_, .sent ?_ fun trip mem => ?_, fun i outside => ?_, fun check mem => ?_⟩
    · simp [calls]
    · simpa [Batch.runs] using some_
    · exact (sent.sublist trip mem).trans (again.map _)
    · rw [untouched' i fun mem => outside ((again.map _).subset mem), untouched i (by rwa [checks])]
    · intro leaf here
      rcases mem_retries_or_ok _ mem with retry | ⟨document, told⟩
      · obtain ⟨now, document, tells, there⟩ := reached' check retry leaf ((waits check retry).trans here)
        exact ⟨now, document, tells.later request _, there⟩
      · obtain ⟨k, place, answer⟩ := document_of_pair told
        obtain ⟨now, there⟩ := reached check _ told leaf here
        refine ⟨now, document, ⟨w.remote, _, k, .refl _, List.mem_cons_self, place, answer⟩, ?_⟩
        rw [untouched' _ (addressed.not_retried told), there]

/-- What becomes of a visited job while the shared batch is drained. -/
inductive Served (service : Service σ) (s : σ) (trips : List (List String)) : Job → Job → Prop
  | silent {job : Job} (silent : job.asks = none) : Served service s trips job job
  | answered {leaf : ReportJob} {run : String} {document : Json} (asking : (Job.report leaf).asks = some run)
    (now : Nat) (told : Tells service s trips run document) :
    Served service s trips (.report leaf) (.report (leaf.heard now (.ok document)))

theorem settle_serves (rounds : Nat) (jobs : List Job) (w : World σ) :
    Act.Ensures (settle service rounds jobs (checksFrom 0 jobs)) w fun jobs' w' =>
      ∃ trips, w'.calls = w.calls ++ trips.map .statuses ∧ Trips (jobs.filterMap asks) trips ∧
        List.Forall₂ (Served service w.remote trips) jobs jobs' := by
  have heard := settle_ensures service rounds jobs (checksFrom 0 jobs) w
  refine (heard.and (settle_reaches rounds jobs _ w (addressed_checksFrom jobs))).mono ?_
  rintro jobs' w' ⟨heard, trips, calls, sent, untouched, reached⟩
  rw [runs_checksFrom] at sent
  refine ⟨trips, calls, sent, List.forall₂_iff_get.2 ⟨heard.length_eq, fun i inside inside' => ?_⟩⟩
  have here : jobs[i]? = some (jobs.get ⟨i, inside⟩) := List.getElem?_eq_getElem inside
  have there : jobs'[i]? = some (jobs'.get ⟨i, inside'⟩) := List.getElem?_eq_getElem inside'
  generalize jobs.get ⟨i, inside⟩ = job at here
  generalize jobs'.get ⟨i, inside'⟩ = job' at there
  cases asking : job.asks with
  | none =>
    have outside : i ∉ positions (checksFrom 0 jobs) := by
      intro mem
      obtain ⟨check, queued, same⟩ := List.mem_map.1 mem
      obtain ⟨j, other, run, place, asks, rfl⟩ := mem_checksFrom.1 queued
      obtain rfl : j = i := by simpa using same
      rw [here] at place
      cases place
      rw [asking] at asks
      cases asks
    rw [untouched i outside, here] at there
    cases there
    exact .silent asking
  | some run =>
    obtain ⟨leaf, rfl⟩ := report_of_asks asking
    have mem : ⟨run, ⟨0 + i, (Job.report leaf).label⟩⟩ ∈ checksFrom 0 jobs :=
      mem_checksFrom.2 ⟨i, _, run, here, asking, rfl⟩
    obtain ⟨now, document, told, taken⟩ := reached _ mem leaf (by simpa using here)
    simp only [Nat.zero_add] at taken
    rw [there] at taken
    cases taken
    exact .answered asking now told

/-! ## The whole poll -/

/-- A poll of a queue: `seen` are visited and left as `polled`, and draining their batch leaves them as `settled`. -/
structure Coverage (service : Service σ) (rounds limit : Nat) (jobs : List Job) (w : World σ)
    (out : Outcome (List Job)) (w' : World σ) (seen beyond polled settled : List Job) (w₁ : World σ)
    (trips : List (List String)) : Prop where
  order : jobs = seen ++ beyond
  within : Within limit 0 seen
  longest : out.2 = .ok () → beyond = [] ∨ limit ≤ (seen.filterMap asks).length
  visits : Visits service rounds w seen polled out.2 w₁
  calls : w'.calls = w₁.calls ++ trips.map .statuses
  sent : Trips (seen.filterMap asks) trips
  served : List.Forall₂ (Served service w₁.remote trips) polled settled
  left : out.1 = settled ++ beyond

theorem pollQueue_covers (limit : Nat) (jobs : List Job) (w : World σ) :
    Act.Ensures (pollQueue service rounds limit [] [] jobs) w fun out w' =>
      ∃ seen beyond polled settled w₁ trips,
        Coverage service rounds limit jobs w out w' seen beyond polled settled w₁ trips := by
  refine (pollQueue_sweep limit jobs [] [] w).mono ?_
  rintro _ w' ⟨visits, drained, within, longest⟩
  rw [List.nil_append, List.nil_append] at drained
  obtain ⟨trips, calls, sent, served⟩ := settle_serves rounds _ _ _ _ drained
  rw [visits.filterMap_asks] at sent
  refine ⟨_, _, _, _, _, trips, rfl, within, fun fine => ?_, visits, calls, sent, served, rfl⟩
  simpa using longest fine

theorem Within.length_le {limit : Nat} {seen : List Job} (within : Within limit 0 seen) :
    (seen.filterMap asks).length ≤ limit := by
  induction seen using List.reverseRecOn with
  | nil => exact Nat.zero_le limit
  | append_singleton before job =>
    have room := within before job [] rfl
    have one : ([job].filterMap asks).length ≤ 1 := List.length_filterMap_le asks [job]
    rw [List.filterMap_append, List.length_append]
    omega

/-- Where the visits were refused, all before the last job were not. -/
theorem Visits.refused_last {w w' : World σ} {jobs jobs' : List Job} {cause : JobError}
    (h : Visits service rounds w jobs jobs' (.error cause) w') :
    ∃ before before' job job' w₀, jobs = before ++ [job] ∧ jobs' = before' ++ [job'] ∧
      Visits service rounds w before before' (.ok ()) w₀ ∧ Visits service rounds w₀ [job] [job'] (.error cause) w' := by
  generalize same : Except.error cause = result at h
  induction h with
  | nothing => cases same
  | finished ended _ ih =>
    obtain ⟨before, before', job, job', w₀, rfl, rfl, fine, refused⟩ := ih same
    exact ⟨_ :: before, _ :: before', job, job', w₀, rfl, rfl, .finished ended fine, refused⟩
  | running going _ ih =>
    obtain ⟨before, before', job, job', w₀, rfl, rfl, fine, refused⟩ := ih same
    exact ⟨_ :: before, _ :: before', job, job', w₀, rfl, rfl, .running going fine, refused⟩
  | polled own _ ih =>
    obtain ⟨before, before', job, job', w₀, rfl, rfl, fine, refused⟩ := ih same
    exact ⟨_ :: before, _ :: before', job, job', w₀, rfl, rfl, .polled own fine, refused⟩
  | unstarted none =>
    cases same
    exact ⟨[], [], _, _, _, rfl, rfl, .nothing _, .unstarted none⟩
  | refused own =>
    cases same
    exact ⟨[], [], _, _, _, rfl, rfl, .nothing _, .refused own⟩

end AsyncReports.Job
