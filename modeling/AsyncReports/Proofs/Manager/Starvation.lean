import AsyncReports.Proofs.Job.Visits
import AsyncReports.Proofs.Manager.Course
import AsyncReports.Proofs.Tallying

set_option autoImplicit false

/-!
# The tail of the queue

Every pass begins at the front of the queue. As long as no job leaves it, all passes therefore ask about the same runs:
those of the first jobs, as many as may be checked in one pass. The jobs behind them are not checked at all, however
many passes there are.
-/

namespace AsyncReports

variable {σ : Type} {service : Service σ}

/-- From this state on, every check is answered with a document about the run, and no document says that it ended. -/
def Service.Postpones (service : Service σ) (s : σ) : Prop :=
  ∀ s', service.Leads s s' → ∀ (ids : List String) (k : Nat) id, ids[k]? = some id → ∃ document run,
    (service.statuses ids s').1[k]? = some (.ok document) ∧ Run.decode document = .ok run ∧ run.id = id ∧
      run.status.isTerminal = false

theorem Service.Postpones.leads {s s' : σ} (h : service.Postpones s) (leads : service.Leads s s') :
    service.Postpones s' :=
  fun t later => h t (leads.trans later)

/-- No call is left for a second round trip. -/
theorem Service.Postpones.answers {s : σ} (h : service.Postpones s) : service.Answers s := by
  intro s' leads batch i
  refine ⟨0, (Batch.failures_eq_iff s' i 0).2 fun k => ?_⟩
  refine iff_of_false (fun mem => ?_) (Nat.not_lt_zero k)
  obtain ⟨carried, unanswered⟩ := Batch.Trip.mem_left.1 (Batch.left_antitone _ _ (Nat.zero_le k) mem)
  have place : (Batch.allCalls batch)[(Batch.allCalls batch).idxOf i]? = some i := List.getElem?_idxOf carried
  obtain ⟨document, run, answer, -⟩ := h s' leads (Batch.asked batch (Batch.allCalls batch))
    ((Batch.allCalls batch).idxOf i) batch[i].run (by simp [Batch.asked, place])
  have heard : (Batch.trip service batch (Batch.allCalls batch) s' 0).reply batch i = .ok document := by
    simp [Batch.trip, Batch.send, Batch.Trip.reply, answer]
  rw [heard] at unanswered
  cases unanswered

/-- A run that is seen before its end keeps the job waiting. -/
theorem Progress.observe_going {p : Progress} {run : Run} (open_ : p.finishedAt = none)
    (going : run.status.isTerminal = false) (now : Nat) :
    (p.observe now run).run = some run ∧ (p.observe now run).finishedAt = none ∧
      (p.observe now run).failed = p.failed := by
  rcases observe_cases now run p with ⟨ended, -⟩ | ⟨-, -, stored⟩ | ⟨-, next, step, moved⟩
  · rw [open_] at ended
    cases ended
  · rw [stored]
    exact ⟨rfl, open_, rfl⟩
  · have lasting : next.isTerminal = false := by
      obtain ⟨active, rfl | rfl, -⟩ := Status.step?_observed step
      · exact (Status.not_terminal_of_active active).1
      · exact going
    have unfailed : next.isFailure = false := by
      by_contra failure
      have ended := (Status.isTerminal_iff next).2 (.inr (by simpa using failure))
      rw [lasting] at ended
      cases ended
    rw [moved, lasting, unfailed]
    exact ⟨rfl, rfl, Bool.or_false _⟩

namespace Job

open ReportJob

/-- A report job that was started, and whose run is not known to have ended. -/
def Awaits (id : String) (job : Job) : Prop :=
  ∃ leaf run, job = .report leaf ∧ leaf.progress.run = some run ∧ run.id = id ∧
    leaf.progress.finishedAt = none ∧ leaf.failed = false

theorem Awaits.asks {id : String} {job : Job} (h : Awaits id job) : job.asks = some id := by
  obtain ⟨leaf, run, rfl, known, rfl, open_, -⟩ := h
  rw [Job.asks, pending, known, open_]

theorem asks_of_awaiting {ids : List String} {jobs : List Job} (h : List.Forall₂ Awaits ids jobs) :
    jobs.filterMap asks = ids := by
  induction h with
  | nil => rfl
  | cons head _ ih => rw [List.filterMap_cons, head.asks, ih]

/-- To visit a job that awaits its run takes no request and changes nothing. -/
theorem visits_awaiting {rounds : Nat} {ids : List String} {jobs jobs' : List Job} {result : Except JobError Unit}
    {w w' : World σ} (h : List.Forall₂ Awaits ids jobs) (visits : Visits service rounds w jobs jobs' result w') :
    result = .ok () ∧ jobs = jobs' ∧ w = w' := by
  induction h generalizing jobs' w with
  | nil =>
    cases visits
    exact ⟨rfl, rfl, rfl⟩
  | cons head _ ih =>
    obtain ⟨leaf, run, rfl, known, -, open_, -⟩ := head
    have state : leaf.pending = .running run := by rw [pending, known, open_]
    cases visits with
    | finished ended =>
      rw [state] at ended
      cases ended
    | running _ rest =>
      obtain ⟨fine, rfl, rfl⟩ := ih rest
      exact ⟨fine, rfl, rfl⟩
    | unstarted none =>
      rw [state] at none
      cases none

theorem Awaits.served {id : String} {job job' : Job} {s : σ} {trips : List (List String)} (h : Awaits id job)
    (postpones : service.Postpones s) (served : Served service s trips job job') : Awaits id job' := by
  cases served with
  | silent silent =>
    rw [h.asks] at silent
    cases silent
  | @answered leaf asked document asking now told =>
    rw [h.asks] at asking
    cases asking
    obtain ⟨_, _, ⟨⟩, -, -, open_, fine⟩ := h
    obtain ⟨t, ids, k, leads, -, place, answer⟩ := told
    obtain ⟨document', run, answer', decoded, same, going⟩ := postpones t leads ids k id place
    rw [answer] at answer'
    cases answer'
    obtain ⟨known, open_, unfailed⟩ := Progress.observe_going open_ going now
    have heard : leaf.heard now (.ok document) = { leaf with progress := leaf.progress.observe now run } := by
      rw [ReportJob.heard, reading_ok.2 decoded]
    refine ⟨_, run, rfl, ?_, same, ?_, ?_⟩
    · rw [heard]
      exact known
    · rw [heard]
      exact open_
    · rw [heard]
      exact unfailed.trans fine

theorem awaiting_served {ids : List String} {jobs jobs' : List Job} {s : σ} {trips : List (List String)}
    (awaiting : List.Forall₂ Awaits ids jobs) (postpones : service.Postpones s)
    (served : List.Forall₂ (Served service s trips) jobs jobs') : List.Forall₂ Awaits ids jobs' := by
  induction awaiting generalizing jobs' with
  | nil =>
    cases served
    exact .nil
  | cons head _ ih =>
    cases served with
    | cons first later => exact .cons (head.served postpones first) (ih later)

theorem pollQueue_awaiting {ids : List String} {jobs : List Job} (awaiting : List.Forall₂ Awaits ids jobs)
    (rounds limit : Nat) {w : World σ} (postpones : service.Postpones w.remote) :
    Act.Ensures (pollQueue service rounds limit [] [] jobs) w fun out w' =>
      out.2 = .ok () ∧ List.Forall₂ Awaits ids out.1 ∧
        ∃ trips, w'.calls = w.calls ++ trips.map .statuses ∧ Trips (ids.take limit) trips := by
  refine (pollQueue_covers limit jobs w).mono ?_
  rintro ⟨queue, result⟩ w' ⟨seen, beyond, polled, settled, w₁, trips, covers⟩
  obtain rfl := covers.order
  have first : List.Forall₂ Awaits (ids.take seen.length) seen := List.forall₂_take_append ids seen beyond awaiting
  have later : List.Forall₂ Awaits (ids.drop seen.length) beyond := List.forall₂_drop_append ids seen beyond awaiting
  obtain ⟨fine, rfl, rfl⟩ := visits_awaiting first covers.visits
  have asked : seen.filterMap asks = ids.take seen.length := asks_of_awaiting first
  have size : ids.length = seen.length + beyond.length := awaiting.length_eq.trans List.length_append
  -- All jobs ask, so the part that is visited has as many jobs as may be checked, unless it is the whole queue.
  have front : ids.take seen.length = ids.take limit := by
    have few := covers.within.length_le
    rw [asked, List.length_take, size] at few
    rcases covers.longest fine with none | full
    · rw [none, List.length_nil] at size
      rw [List.take_of_length_le (by omega), List.take_of_length_le (by omega)]
    · rw [asked, List.length_take, size] at full
      congr 1
      omega
  have kept : List.Forall₂ Awaits (ids.take seen.length) settled := awaiting_served first postpones covers.served
  refine ⟨fine, ?_, trips, covers.calls, ?_⟩
  · have left : queue = settled ++ beyond := covers.left
    rw [left, ← List.take_append_drop seen.length ids]
    exact List.rel_append kept later
  · have sent := covers.sent
    rwa [asked, front] at sent

end Job

namespace Manager

open Job

/-- Passes one after another, with logging and waiting in between. -/
inductive Passes (service : Service σ) (a : Manager × World σ) : Nat → Manager × World σ → Prop
  | none : Passes service a 0 a
  | pass {p rounds : Nat} {m m' : Manager} {w w' : World σ} {result : Except JobError (List Job)}
    (before : Passes service a p (m, w)) (log : List LogEntry) (clock : Nat)
    (run : m.pass service rounds { w with log, clock } = some ((m', result), w')) :
    Passes service a (p + 1) (m', w')

/-- Between the two worlds, a round trip asked about the run. -/
def Checked (w w' : World σ) (id : String) : Prop :=
  ∃ made trip, w'.calls = w.calls ++ made ∧ .statuses trip ∈ made ∧ id ∈ trip

theorem sort_awaiting {ids : List String} {jobs : List Job} (awaiting : List.Forall₂ Awaits ids jobs)
    (settings : ManagerSettings) (s : Sorting) :
    sort service settings s jobs = pure ({ s with kept := s.kept ++ jobs }, .ok ()) := by
  induction awaiting generalizing s with
  | nil => simp [sort]
  | cons head _ ih =>
    obtain ⟨leaf, run, rfl, -, -, open_, fine⟩ := head
    have open_ : (Job.report leaf).completed = false := by simp [completed, ReportJob.completed, open_]
    have fine : (Job.report leaf).failed = false := fine
    rw [sort, if_neg (by simp [fine]), if_neg (by simp [open_]), ih]
    simp

/-- What a stretch of passes leaves as it is, and what it asks about. -/
structure Stalls (service : Service σ) (ids : List String) (a b : Manager × World σ) : Prop where
  ours : b.1.settings = a.1.settings
  awaiting : List.Forall₂ Awaits ids b.1.queue
  postpones : service.Postpones b.2.remote
  calls : ∃ made, b.2.calls = a.2.calls ++ made ∧
    ∀ trip, .statuses trip ∈ made → trip.Sublist (ids.take a.1.settings.maxChecks)

theorem pass_stalls {ids : List String} {m : Manager} (awaiting : List.Forall₂ Awaits ids m.queue) (rounds : Nat)
    {w : World σ} (postpones : service.Postpones w.remote) :
    Act.Ensures (m.pass service rounds) w fun out w' => Stalls service ids (m, w) (out.1, w') ∧
      ∀ id ∈ ids.take m.settings.maxChecks, Checked w w' id := by
  have polls : Act.Only service AnyCall (pollQueue service rounds m.settings.maxChecks [] [] m.queue) :=
    pollQueue_only rounds _ _ [] [] (fun job _ => permits_of_any (fun _ => trivial) job) (Nat.zero_le _) (Nat.le_refl 0)
      fun _ _ => trivial
  simp only [pass, pollPass, Act.ensures_bind, Act.ensures_pure]
  refine ((pollQueue_awaiting awaiting rounds m.settings.maxChecks postpones).and (polls w)).mono ?_
  rintro ⟨queue, _⟩ w₁ ⟨⟨rfl, awaiting', trips, calls, sent⟩, asked⟩
  have reads : Act.Only service (· = .throttle) (awaitThrottle service rounds { m with queue }) :=
    awaitThrottle_only (p := (· = .throttle)) rfl rounds _
  refine Act.ensures_bind.2 (((awaitThrottle_ensures service rounds _ w₁).and (reads w₁)).mono ?_)
  rintro out w₂ ⟨ended, read⟩
  obtain ⟨more, calls', loads⟩ := read.calls
  have made : w₂.calls = w.calls ++ (trips.map .statuses ++ more) := by rw [calls', calls, List.append_assoc]
  -- However the pass goes on, it makes no other request and leaves the queue as the poll did.
  have stalls : ∀ (m' : Manager) (w' : World σ), m'.settings = m.settings → m'.queue = queue →
      w'.remote = w₂.remote → w'.calls = w₂.calls → Stalls service ids (m, w) (m', w') ∧
        ∀ id ∈ ids.take m.settings.maxChecks, Checked w w' id := by
    intro m' w' ours same remote requests
    refine ⟨⟨ours, ?_, ?_, _, requests.trans made, fun trip mem => ?_⟩, fun id mem => ?_⟩
    · rw [same]
      exact awaiting'
    · rw [remote]
      exact postpones.leads (asked.leads.trans read.leads)
    · rcases List.mem_append.1 mem with mem | mem
      · obtain ⟨trip', mem, ⟨⟩⟩ := List.mem_map.1 mem
        exact sent.sublist trip mem
      · cases loads _ mem
    · exact ⟨_, _, requests.trans made, List.mem_append_left _ (List.mem_map_of_mem (sent.mem mem)), mem⟩
  cases ended with
  | unread => exact Act.ensures_pure.2 (stalls _ _ rfl rfl rfl rfl)
  | low =>
    simp only [sort_awaiting awaiting', pure_bind, Act.ensures_bind, Act.ensures_log, Act.ensures_pure]
    exact stalls _ _ rfl (List.nil_append queue) rfl rfl

/-- As many passes as one likes come to an end, if there is no load to wait for. -/
theorem exists_pass {ids : List String} {m : Manager} (awaiting : List.Forall₂ Awaits ids m.queue)
    (low : ¬ m.settings.throttleLimit < m.throttle) {w : World σ} (postpones : service.Postpones w.remote) :
    ∃ rounds m' result w', m.pass service rounds w = some ((m', result), w') ∧
      m'.settings = m.settings ∧ m'.throttle = m.throttle := by
  obtain ⟨⟨queue, result⟩, w₁, enough, ends⟩ := pollQueue_ends m.settings.maxChecks m.queue [] [] postpones.answers
  have polled : pollQueue service enough m.settings.maxChecks [] [] m.queue w = some ((queue, result), w₁) :=
    ends enough (Nat.le_refl _)
  obtain ⟨fine, awaiting', -⟩ := pollQueue_awaiting awaiting enough _ postpones _ _ polled
  obtain rfl : result = .ok () := fine
  have sorted : sort service m.settings {} queue = pure ({ kept := queue }, .ok ()) :=
    sort_awaiting awaiting' m.settings {}
  refine ⟨enough, { m with queue, retired := m.retired ++ [] }, .ok [],
    { w₁ with log := w₁.log ++ [passEntry 0 0 queue.length] }, ?_, rfl, rfl⟩
  rw [pass, Act.bind_eq_some]
  refine ⟨_, _, pollPass_eq_some.2 ⟨queue, polled, rfl⟩, ?_⟩
  have unhindered : awaitThrottle service enough { m with queue } = pure ({ m with queue }, .ok ()) :=
    awaitThrottle_low (m := { m with queue }) low enough
  dsimp only
  rw [unhindered, pure_bind]
  dsimp only
  rw [sorted, pure_bind]
  rfl

theorem Passes.stalls {ids : List String} {m : Manager} {w : World σ} {p : Nat} {b : Manager × World σ}
    (passes : Passes service (m, w) p b) (awaiting : List.Forall₂ Awaits ids m.queue)
    (postpones : service.Postpones w.remote) :
    Stalls service ids (m, w) b ∧ (0 < p → ∀ id ∈ ids.take m.settings.maxChecks, Checked w b.2 id) := by
  induction passes with
  | none => exact ⟨⟨rfl, awaiting, postpones, [], by simp, by simp⟩, by simp⟩
  | @pass p rounds m₁ m₂ w₁ w₂ result _ log clock run ih =>
    obtain ⟨⟨ours, awaiting₁, postpones₁, made, calls, front⟩, -⟩ := ih
    obtain ⟨⟨ours', awaiting₂, postpones₂, more, calls', front'⟩, checked⟩ :=
      pass_stalls awaiting₁ rounds (w := { w₁ with log, clock }) postpones₁ _ _ run
    have same : m₁.settings = m.settings := ours
    dsimp only at calls calls' front front'
    rw [same] at front' checked
    have all : w₂.calls = w.calls ++ (made ++ more) := by rw [calls', calls, List.append_assoc]
    refine ⟨⟨ours'.trans ours, awaiting₂, postpones₂, made ++ more, all, fun trip mem => ?_⟩, fun _ id mem => ?_⟩
    · exact (List.mem_append.1 mem).elim (front trip) (front' trip)
    · obtain ⟨later, trip, calls'', sent, asked⟩ := checked id mem
      refine ⟨made ++ later, trip, ?_, List.mem_append_right made sent, asked⟩
      rw [calls'', calls, List.append_assoc]

theorem exists_passes {ids : List String} {m : Manager} (awaiting : List.Forall₂ Awaits ids m.queue)
    (low : ¬ m.settings.throttleLimit < m.throttle) {w : World σ} (postpones : service.Postpones w.remote) (p : Nat) :
    ∃ m' w', Passes service (m, w) p (m', w') ∧ m'.settings = m.settings ∧ m'.throttle = m.throttle := by
  induction p with
  | zero => exact ⟨m, w, .none, rfl, rfl⟩
  | succ p ih =>
    obtain ⟨m₁, w₁, passes, ours, load⟩ := ih
    obtain ⟨⟨-, awaiting₁, postpones₁, -⟩, -⟩ := passes.stalls awaiting postpones
    obtain ⟨rounds, m₂, result, w₂, run, ours', load'⟩ := exists_pass awaiting₁ (by rwa [ours, load]) postpones₁
    exact ⟨m₂, w₂, passes.pass w₁.log w₁.clock run, ours'.trans ours, load'.trans load⟩

/-- What was asked about, it was asked about within the stretch. -/
theorem Stalls.checked {ids : List String} {a b : Manager × World σ} {id : String} (h : Stalls service ids a b)
    (checked : Checked a.2 b.2 id) : id ∈ ids.take a.1.settings.maxChecks := by
  obtain ⟨made, calls, front⟩ := h.calls
  obtain ⟨made', trip, calls', sent, asked⟩ := checked
  obtain rfl := List.append_cancel_left (calls'.symm.trans calls)
  exact (front trip sent).subset asked

/-- Over passes that could check the whole queue, if each took the next jobs of it, a run is checked exactly if it is
one of the first, as many as one pass may check. So none is left out exactly if one pass may check them all. -/
theorem tail_checked_iff {ids : List String} {m : Manager} {w : World σ} (awaiting : List.Forall₂ Awaits ids m.queue)
    (distinct : ids.Nodup) (postpones : service.Postpones w.remote) :
    (¬ m.settings.throttleLimit < m.throttle → ∀ p, ∃ m' w', Passes service (m, w) p (m', w')) ∧
    ∀ p m' w', Passes service (m, w) p (m', w') → ids.length ≤ p * m.settings.maxChecks →
      (∀ i id, ids[i]? = some id → (Checked w w' id ↔ i < m.settings.maxChecks)) ∧
      ((∀ id ∈ ids, Checked w w' id) ↔ ids.length ≤ m.settings.maxChecks) := by
  refine ⟨fun low p => ?_, fun p m' w' passes enough => ?_⟩
  · obtain ⟨m', w', passes, -⟩ := exists_passes awaiting low postpones p
    exact ⟨m', w', passes⟩
  obtain ⟨stalls, checked⟩ := passes.stalls awaiting postpones
  have each : ∀ i id, ids[i]? = some id → (Checked w w' id ↔ i < m.settings.maxChecks) := by
    intro i id place
    have inside : i < ids.length := (List.getElem?_eq_some_iff.1 place).1
    constructor
    · intro asked
      obtain ⟨j, place'⟩ := List.mem_iff_getElem?.1 (stalls.checked asked)
      rw [List.getElem?_take] at place'
      split at place'
      · rename_i within
        rwa [(List.getElem?_inj inside distinct).1 (place.trans place'.symm)]
      · cases place'
    · intro within
      have positive : 0 < p := by
        by_contra none
        obtain rfl : p = 0 := by omega
        omega
      refine checked positive id (List.mem_of_getElem? (i := i) ?_)
      rwa [List.getElem?_take_of_lt within]
  refine ⟨each, fun all => ?_, fun small id mem => ?_⟩
  · by_contra large
    have place := List.getElem?_eq_getElem (l := ids) (i := m.settings.maxChecks) (by omega)
    exact Nat.lt_irrefl _ ((each _ _ place).1 (all _ (List.getElem_mem _)))
  · obtain ⟨i, place⟩ := List.mem_iff_getElem?.1 mem
    have inside : i < ids.length := (List.getElem?_eq_some_iff.1 place).1
    exact (each i id place).2 (by omega)

/-- Two jobs are running, and one of them may be checked in a pass. -/
def crowded : Manager where
  settings := { maxChecks := 1 }
  source := []
  queue := ["run-1", "run-2"].map fun run => .report (ReportJob.sample.launched { id := run } 0)

/-- All runs go on for ever. -/
def unending : Service Tally := tallying (fun _ => 0) fun _ => some .running

def outset : World Tally := { remote := {} }

theorem unending_postpones (t : Tally) : unending.Postpones t := by
  intro t' _ ids k id place
  obtain ⟨percent, decoded⟩ := decode_statusDocument id .running
  exact ⟨_, _, by simp [unending, tallying, place], decoded, rfl, rfl⟩

theorem crowded_awaiting : List.Forall₂ Awaits ["run-1", "run-2"] crowded.queue :=
  .cons ⟨_, _, rfl, rfl, rfl, rfl, rfl⟩ (.cons ⟨_, _, rfl, rfl, rfl, rfl, rfl⟩ .nil)

theorem tail_checked_iff_crowded : List.Forall₂ Awaits ["run-1", "run-2"] crowded.queue ∧
    ["run-1", "run-2"].Nodup ∧ unending.Postpones outset.remote ∧
    (¬ crowded.settings.throttleLimit < crowded.throttle →
      ∀ p, ∃ m' w', Passes unending (crowded, outset) p (m', w')) ∧
    ∀ p m' w', Passes unending (crowded, outset) p (m', w') → 2 ≤ p * 1 →
      (∀ i id, ["run-1", "run-2"][i]? = some id → (Checked outset w' id ↔ i < 1)) ∧
      ((∀ id ∈ ["run-1", "run-2"], Checked outset w' id) ↔ 2 ≤ 1) := by
  have distinct : ["run-1", "run-2"].Nodup := by decide
  have postpones := unending_postpones outset.remote
  exact ⟨crowded_awaiting, distinct, postpones,
    tail_checked_iff (w := outset) crowded_awaiting distinct postpones⟩

/-- Two passes may check two jobs, but both check the first one. -/
theorem tail_unchecked : List.Forall₂ Awaits ["run-1", "run-2"] crowded.queue ∧ ["run-1", "run-2"].Nodup ∧
    unending.Postpones outset.remote ∧
    ∃ m' w', Passes unending (crowded, outset) 2 (m', w') ∧ 2 ≤ 2 * crowded.settings.maxChecks ∧
      ¬ Checked outset w' "run-2" := by
  have postpones := unending_postpones outset.remote
  have low : ¬ crowded.settings.throttleLimit < crowded.throttle := by decide +kernel
  obtain ⟨m', w', passes, -⟩ := exists_passes crowded_awaiting low (w := outset) postpones 2
  refine ⟨crowded_awaiting, by decide, postpones, m', w', passes, by decide, fun asked => ?_⟩
  have front := (passes.stalls crowded_awaiting postpones).1.checked asked
  simp [crowded] at front

end Manager

end AsyncReports
