import AsyncReports.Proofs.Job.Visits

set_option autoImplicit false

/-!
# A group polled in chunks

The unfinished members of a group are polled in pieces of one size, and the checks of a piece are drained before the
next piece is looked at. As long as the members have runs, polling them is draining the pieces of all their checks one
after another. It ends if every check of every piece fails finitely often, and then each of these members has heard
one document. A member without a run ends the poll once the checks before it are drained.
-/

namespace AsyncReports

variable {α : Type}

/-- Cuts a list into pieces of one size, where the first piece holds some elements already. -/
def cut (size : Nat) (piece : List α) : List α → List (List α)
  | [] => if piece.isEmpty then [] else [piece]
  | a :: rest =>
    if piece.length + 1 = size then (piece ++ [a]) :: cut size [] rest else cut size (piece ++ [a]) rest

/-- The pieces of a list: none is empty, and only the last one may be shorter than the others. -/
structure Pieces (size : Nat) (whole : List α) (pieces : List (List α)) : Prop where
  flatten : pieces.flatten = whole
  some_ : ∀ piece ∈ pieces, piece ≠ []
  within : ∀ piece ∈ pieces, piece.length ≤ size
  full : ∀ piece ∈ pieces.dropLast, piece.length = size

theorem Pieces.nil (size : Nat) : Pieces size ([] : List α) [] := ⟨rfl, by simp, by simp, by simp⟩

theorem Pieces.cons {size : Nat} {piece whole : List α} {pieces : List (List α)} (h : Pieces size whole pieces)
    (some_ : piece ≠ []) (full : piece.length = size) : Pieces size (piece ++ whole) (piece :: pieces) where
  flatten := by rw [List.flatten_cons, h.flatten]
  some_ := List.forall_mem_cons.2 ⟨some_, h.some_⟩
  within := List.forall_mem_cons.2 ⟨Nat.le_of_eq full, h.within⟩
  full := by
    cases pieces with
    | nil => simp
    | cons next rest => exact List.forall_mem_cons.2 ⟨full, h.full⟩

theorem cut_pieces {size : Nat} (positive : 0 < size) (rest : List α) :
    ∀ piece : List α, piece.length < size → Pieces size (piece ++ rest) (cut size piece rest) := by
  induction rest with
  | nil =>
    intro piece room
    rw [List.append_nil, cut]
    split
    · rename_i empty
      rw [List.isEmpty_iff.1 empty]
      exact .nil size
    · rename_i some_
      exact ⟨by simp, by simpa using some_, by simpa using Nat.le_of_lt room, by simp⟩
  | cons a rest ih =>
    intro piece room
    have longer : (piece ++ [a]).length = piece.length + 1 := by simp
    rw [List.append_cons, cut]
    split
    · rename_i full
      exact (ih [] positive).cons (by simp) (longer.trans full)
    · exact ih (piece ++ [a]) (by omega)

example : cut 2 [] ["a", "b", "c", "d", "e"] = [["a", "b"], ["c", "d"], ["e"]] := rfl

/-- The job after it has taken in some answers, each at its own time. -/
inductive ReportJob.Hears (leaf : ReportJob) : List (Answer Json) → ReportJob → Prop
  | nothing : Hears leaf [] leaf
  | answer {answers : List (Answer Json)} {leaf' : ReportJob} (before : Hears leaf answers leaf') (now : Nat)
    (answer : Answer Json) : Hears leaf (answers ++ [answer]) (leaf'.heard now answer)

namespace ReportJob

variable {leaf leaf' : ReportJob}

theorem Hears.last {answers : List (Answer Json)} {answer : Answer Json} (h : Hears leaf (answers ++ [answer]) leaf') :
    ∃ before now, Hears leaf answers before ∧ leaf' = before.heard now answer := by
  generalize same : answers ++ [answer] = all at h
  cases h with
  | nothing => simp at same
  | answer before now last =>
    obtain ⟨rfl, rfl⟩ := List.append_singleton_inj.1 same
    exact ⟨_, now, before, rfl⟩

/-- Errors tell a job nothing. -/
theorem Hears.errors {failed : List ServiceError} (h : Hears leaf (failed.map .error) leaf') : leaf' = leaf := by
  generalize same : failed.map Except.error = answers at h
  induction h generalizing failed with
  | nothing => rfl
  | answer _ now answer ih =>
    obtain ⟨earlier, last, rfl, errors, error⟩ := List.map_eq_append_iff.1 same
    obtain ⟨cause, rfl, rfl⟩ := List.map_eq_singleton_iff.1 error
    rw [heard_error, ih errors]

end ReportJob

namespace Job

open ReportJob Batch

variable {σ : Type} {service : Service σ}

/-! ## One chunk -/

/-- Jobs while the answers to some checks are taken in, and noted: a job that a check is for has heard what is noted
for the check, and other jobs are as they were. -/
structure Follows (jobs : List Job) (chunk : Batch Slot)
    (now : List Job × List (Fin chunk.length × Answer Json)) : Prop where
  hears : ∀ (i : Fin chunk.length) (leaf : ReportJob), jobs[chunk[i].owner.position]? = some (.report leaf) →
    ∃ leaf', now.1[chunk[i].owner.position]? = some (.report leaf') ∧ leaf.Hears (heardBy now.2 i) leaf'
  others : ∀ position, position ∉ positions chunk → now.1[position]? = jobs[position]?
  length : now.1.length = jobs.length

theorem Follows.nothing (jobs : List Job) (chunk : Batch Slot) : Follows jobs chunk (jobs, []) :=
  ⟨fun _ leaf here => ⟨leaf, here, .nothing⟩, fun _ _ => rfl, rfl⟩

theorem Addressed.position_inj {jobs : List Job} {chunk : Batch Slot} (h : Addressed jobs chunk)
    {i j : Fin chunk.length} (same : chunk[i].owner.position = chunk[j].owner.position) : i = j := by
  have inj := List.nodup_iff_injective_get.1 h.distinct
  have lift : ∀ k : Fin chunk.length, k.val < (positions chunk).length := fun k => by simp [positions]
  have apart := @inj ⟨i, lift i⟩ ⟨j, lift j⟩ (by simpa [positions] using same)
  exact Fin.ext (Fin.mk.inj apart)

theorem heardBy_more {ι : Type} [DecidableEq ι] (notes : List (ι × Answer Json)) (i j : ι) (answer : Answer Json) :
    heardBy (notes ++ [(j, answer)]) i = if j = i then heardBy notes i ++ [answer] else heardBy notes i := by
  rw [heardBy_append]
  split <;> rename_i which <;> simp [heardBy, which]

theorem Follows.receive {jobs : List Job} {chunk : Batch Slot} {b : List Job × List (Fin chunk.length × Answer Json)}
    (h : Follows jobs chunk b) (addressed : Addressed jobs chunk) (j : Fin chunk.length) (answer : Answer Json)
    (w : World σ) :
    Act.Ensures (noting receiveAt b (j, chunk[j].owner) answer) w fun b' _ => Follows jobs chunk b' := by
  obtain ⟨leaf, here⟩ := addressed.there chunk[j] (List.getElem_mem _)
  obtain ⟨leaf₁, there, heard⟩ := h.hears j leaf here
  have inside : chunk[j].owner.position < b.1.length := (List.getElem?_eq_some_iff.1 there).1
  simp only [noting, Act.ensures_bind, Act.ensures_pure]
  refine (receiveAt_eq_set chunk[j].owner answer there w).mono ?_
  rintro _ _ rfl
  refine ⟨fun i other place => ?_, fun position outside => ?_, ?_⟩
  · rw [heardBy_more]
    split
    · rename_i same
      subst same
      rw [here] at place
      cases place
      exact ⟨_, List.getElem?_set_self inside, heard.answer w.clock answer⟩
    · rename_i differs
      obtain ⟨other', there', heard'⟩ := h.hears i other place
      refine ⟨other', ?_, heard'⟩
      rw [List.getElem?_set_ne fun same => differs (addressed.position_inj same)]
      exact there'
  · have apart : chunk[j].owner.position ≠ position := by
      rintro rfl
      exact outside (List.mem_map_of_mem (List.getElem_mem _))
    rw [List.getElem?_set_ne apart]
    exact h.others position outside
  · rw [List.length_set]
    exact h.length

/-- A chunk of checks has been drained, where each check failed as often as `f` says: the first round trip carried all
of it, and the others what was still unanswered. Each job that a check was for has heard the one document that the
check came to, and no other job has changed. -/
structure ChunkDrained (service : Service σ) (chunk : Batch Slot) (f : Fin chunk.length → Nat) (jobs : List Job)
    (w : World σ) (jobs' : List Job) (w' : World σ) : Prop where
  fails : ∀ i, failures service chunk w.remote i = f i
  requests : w'.calls = w.calls ++ (List.range (roundTrips chunk f)).map
    fun k => .statuses (asked chunk (waiting chunk f k))
  remote : w'.remote = after service chunk (allCalls chunk) w.remote (roundTrips chunk f)
  answered : ∀ (i : Fin chunk.length) (leaf : ReportJob), jobs[chunk[i].owner.position]? = some (.report leaf) →
    ∃ (failed : List ServiceError) (document : Json) (now : Nat),
      (List.range (f i + 1)).map (fun k => (trip service chunk (allCalls chunk) w.remote k).reply chunk i) =
          failed.map .error ++ [.ok document] ∧
        jobs'[chunk[i].owner.position]? = some (.report (leaf.heard now (.ok document)))
  others : ∀ position, position ∉ positions chunk → jobs'[position]? = jobs[position]?
  length : jobs'.length = jobs.length

theorem settle_chunk {jobs : List Job} {chunk : Batch Slot} (addressed : Addressed jobs chunk) (rounds : Nat)
    (w : World σ) : Act.Ensures (settle service rounds jobs chunk) w fun jobs' w' =>
      ∃ f, ChunkDrained service chunk f jobs w jobs' w' := by
  intro jobs' w' run
  obtain ⟨notes, noted⟩ := drain_noted.1 run
  obtain ⟨f, fails, drained⟩ := drained_of_drain passive_receiveAt noted
  have step : ∀ check ∈ placed chunk, ∀ answer b (w : World σ), Follows jobs chunk b →
      Act.Ensures (noting receiveAt b check.owner answer) w fun b' _ => Follows jobs chunk b' := by
    intro check mem answer b w follows
    obtain ⟨j, -, rfl⟩ := List.mem_map.1 mem
    exact follows.receive addressed j answer w
  have follows : Follows jobs chunk (jobs', notes) :=
    drain_keeps service rounds step (.nothing jobs chunk) w _ _ noted
  have failing : Fails service chunk (allCalls chunk) w.remote f :=
    fun i _ => (failures_eq_iff w.remote i (f i)).1 (fails i)
  have requests := drained.requests
  have remote := drained.remote
  rw [← roundTrips_eq] at requests remote
  refine ⟨f, fails, requests, remote, fun i leaf here => ?_, follows.others, follows.length⟩
  have every : i ∈ allCalls chunk := List.mem_finRange i
  obtain ⟨failed, document, replies, -, -⟩ := failing.replies every
  obtain ⟨leaf', there, heard⟩ := follows.hears i leaf here
  have noted : heardBy notes i = failed.map .error ++ [.ok document] := by
    rw [drained.hears i, if_pos every, replies]
  rw [noted] at heard
  obtain ⟨before, now, errors, rfl⟩ := heard.last
  rw [errors.errors] at there
  exact ⟨failed, document, now, replies, there⟩

/-! ## One chunk after another -/

/-- From this state on, all chunks can be drained, one after another. -/
inductive Drainable (service : Service σ) : List (Batch Slot) → σ → Prop
  | nothing (s : σ) : Drainable service [] s
  | chunk {chunk : Batch Slot} {chunks : List (Batch Slot)} {s : σ} (f : Fin chunk.length → Nat)
    (fails : ∀ i, failures service chunk s i = f i)
    (later : Drainable service chunks (after service chunk (allCalls chunk) s (roundTrips chunk f))) :
    Drainable service (chunk :: chunks) s

/-- Chunks have been drained, and each only when the one before it was. -/
inductive ChunksDrained (service : Service σ) : List (Batch Slot) → List Job → World σ → List Job → World σ → Prop
  | nothing (jobs : List Job) (w : World σ) : ChunksDrained service [] jobs w jobs w
  | chunk {chunk : Batch Slot} {chunks : List (Batch Slot)} {f : Fin chunk.length → Nat} {jobs jobs₁ jobs' : List Job}
    {w w₁ w' : World σ} (first : ChunkDrained service chunk f jobs w jobs₁ w₁)
    (later : ChunksDrained service chunks jobs₁ w₁ jobs' w') : ChunksDrained service (chunk :: chunks) jobs w jobs' w'

theorem Addressed.apart {jobs : List Job} {first later : Batch Slot} (h : Addressed jobs (first ++ later)) :
    (positions later).Nodup ∧ (positions first).Disjoint (positions later) := by
  have distinct := h.distinct
  rw [positions, List.map_append, List.nodup_append'] at distinct
  exact distinct.2

theorem ChunkDrained.addressed {chunk later : Batch Slot} {f : Fin chunk.length → Nat} {jobs jobs' : List Job}
    {w w' : World σ} (h : ChunkDrained service chunk f jobs w jobs' w') (addressed : Addressed jobs (chunk ++ later)) :
    Addressed jobs' later := by
  obtain ⟨distinct, apart⟩ := addressed.apart
  refine ⟨distinct, fun check mem => ?_⟩
  rw [h.others _ fun here => apart here (List.mem_map_of_mem mem)]
  exact addressed.there check (List.mem_append_right chunk mem)

theorem Addressed.left {jobs : List Job} {first later : Batch Slot} (h : Addressed jobs (first ++ later)) :
    Addressed jobs first where
  distinct := ((List.sublist_append_left first later).map _).nodup h.distinct
  there check mem := h.there check (List.mem_append_left later mem)

theorem settle_chunks (rounds : Nat) (chunks : List (Batch Slot)) : ∀ (jobs : List Job) (w : World σ),
    Addressed jobs chunks.flatten → Act.Ensures (chunks.foldlM (settle service rounds) jobs) w fun jobs' w' =>
      ChunksDrained service chunks jobs w jobs' w' := by
  induction chunks with
  | nil => exact fun jobs w _ => Act.ensures_pure.2 (.nothing jobs w)
  | cons chunk chunks ih =>
    intro jobs w addressed
    rw [List.flatten_cons] at addressed
    rw [List.foldlM_cons, Act.ensures_bind]
    refine (settle_chunk addressed.left rounds w).mono ?_
    rintro jobs₁ w₁ ⟨f, drained⟩
    exact (ih jobs₁ w₁ (drained.addressed addressed)).mono fun _ _ later => .chunk drained later

theorem ChunksDrained.drainable {chunks : List (Batch Slot)} {jobs jobs' : List Job} {w w' : World σ}
    (h : ChunksDrained service chunks jobs w jobs' w') : Drainable service chunks w.remote := by
  induction h with
  | nothing => exact .nothing _
  | chunk first _ ih =>
    refine .chunk _ first.fails ?_
    rw [← first.remote]
    exact ih

theorem chunks_end (chunks : List (Batch Slot)) : ∀ (jobs : List Job) (w : World σ), Addressed jobs chunks.flatten →
    Drainable service chunks w.remote → Act.Ends (fun rounds => chunks.foldlM (settle service rounds) jobs) w := by
  induction chunks with
  | nil => exact fun jobs w _ _ => (Act.Total.pure jobs).ends w
  | cons chunk chunks ih =>
    intro jobs w addressed drainable
    rw [List.flatten_cons] at addressed
    simp only [List.foldlM_cons]
    cases drainable with
    | chunk f fails later =>
      have first := drain_ends passive_receiveAt jobs chunk w fun i => ⟨f i, fails i⟩
      refine .bind first fun jobs₁ w₁ rounds run => ?_
      obtain ⟨f₁, drained⟩ := settle_chunk addressed.left rounds w _ _ run
      obtain rfl : f₁ = f := funext fun i => by exact_mod_cast (drained.fails i).symm.trans (fails i)
      refine ih jobs₁ w₁ (drained.addressed addressed) ?_
      rw [drained.remote]
      exact later

/-! ## The members of a group -/

theorem receiveAt_append (later : List Job) (answer : Answer Json) :
    ∀ (jobs : List Job) (slot : Slot), slot.position < jobs.length →
      receiveAt (jobs ++ later) slot answer = ((· ++ later) <$> receiveAt jobs slot answer : Act σ (List Job))
  | [], slot, within => absurd within (Nat.not_lt_zero _)
  | .report leaf :: rest, ⟨0, label⟩, _ => by simp [receiveAt]
  | .group g members :: rest, ⟨0, label⟩, _ => by simp [receiveAt]
  | job :: rest, ⟨position + 1, label⟩, within => by
    have behind := receiveAt_append later answer rest ⟨position, label⟩ (Nat.lt_of_succ_lt_succ within)
    simp [receiveAt, behind]

/-- Jobs that no check is for may as well stand behind the others. -/
theorem settle_append (rounds : Nat) {jobs : List Job} {batch : Batch Slot}
    (within : ∀ check ∈ batch, check.owner.position < jobs.length) (later : List Job) (w : World σ) :
    settle service rounds (jobs ++ later) batch w = ((· ++ later) <$> settle service rounds jobs batch) w := by
  have maps : Maps (receiveAt (σ := σ)) receiveAt (· ++ later) id (fun now => now.length = jobs.length) batch := by
    refine ⟨fun check _ answer now w same => ?_, fun check mem answer now same => ?_⟩
    · exact (receiveAt_ensures now check.owner answer w).mono fun now' _ heard => heard.length_eq.symm.trans same
    · exact receiveAt_append later answer now check.owner (by rw [same]; exact within check mem)
  have drained := drain_map service rounds maps rfl w
  rwa [relabel_id] at drained

theorem poll_running {leaf : ReportJob} {run : Run} (going : leaf.pending = .running run) (rounds position : Nat) :
    poll service rounds position (.report leaf) = pure (.report leaf, [⟨run.id, ⟨position, leaf.label⟩⟩], .ok ()) := by
  simp [poll, ReportJob.check, going]

theorem poll_unstarted {leaf : ReportJob} (none : leaf.pending = .unstarted) (rounds position : Nat) :
    poll service rounds position (.report leaf) =
      pure (.report leaf, [], .error (.misuse leaf.label .updateUnstarted)) := by
  simp [poll, ReportJob.check, none]

theorem asks_of_completed {leaf : ReportJob} (ended : leaf.completed) : (Job.report leaf).asks = none := by
  obtain ⟨time, finished⟩ := Option.isSome_iff_exists.1 ended
  rw [asks, pending, finished]
  cases leaf.progress.run <;> rfl

theorem pending_running {leaf : ReportJob} (started : leaf.progress.run = none → leaf.completed)
    (open_ : leaf.completed = false) : ∃ run, leaf.pending = .running run := by
  cases known : leaf.progress.run with
  | none =>
    rw [started known] at open_
    cases open_
  | some run =>
    have unfinished : leaf.progress.finishedAt = none := by simpa [ReportJob.completed] using open_
    exact ⟨run, by rw [pending, known, unfinished]⟩

/-- How a poll ends that comes as far as to the first of some leaves. -/
def refusal : List ReportJob → Except JobError Unit
  | [] => .ok ()
  | leaf :: _ => .error (.misuse leaf.label .updateUnstarted)

/-- Polling members up to the first one without a run is draining the chunks of their checks one after another. -/
theorem pollMembers_eq (service : Service σ) (rounds size : Nat) {rest : List ReportJob}
    (stuck : ∀ leaf ∈ rest.head?, leaf.completed = false ∧ leaf.progress.run = none) (front : List ReportJob) :
    ∀ (done : List Job) (batch : Batch Slot) (w : World σ), Pollable front →
      (∀ check ∈ batch, check.owner.position < done.length) →
      pollMembers service rounds size done batch batch.length ((front ++ rest).map .report) w =
        ((fun jobs => (jobs ++ rest.map .report, refusal rest)) <$>
          (cut size batch (checksFrom done.length (front.map .report))).foldlM (settle service rounds)
            (done ++ front.map .report)) w := by
  induction front with
  | nil =>
    intro done batch w _ within
    have last : (cut size batch []).foldlM (settle service rounds) done = settle service rounds done batch := by
      rw [cut]
      split
      · rename_i empty
        rw [List.isEmpty_iff.1 empty, settle, drain_nil]
        rfl
      · simp
    simp only [List.nil_append, List.map_nil, checksFrom, List.append_nil, last]
    cases rest with
    | nil => simp [pollMembers, refusal]
    | cons leaf rest =>
      obtain ⟨going, none⟩ := stuck leaf rfl
      have unstarted : leaf.pending = .unstarted := by rw [pending, none]
      have going : (Job.report leaf).completed = false := by rw [completed, going]
      rw [List.map_cons, pollMembers, going, if_neg Bool.false_ne_true, poll_unstarted unstarted, pure_bind]
      simp only [List.append_nil]
      rw [Act.bind_congr_left (settle_append rounds within [.report leaf] w)]
      simp [refusal]
  | cons leaf front ih =>
    intro done batch w pollable within
    obtain ⟨first, others⟩ : (leaf.progress.run = none → leaf.completed) ∧ Pollable front :=
      List.forall_mem_cons.1 pollable
    have next : (done ++ [Job.report leaf]).length = done.length + 1 := by simp
    rw [List.cons_append, List.map_cons, List.map_cons, checksFrom_cons, List.append_cons done, pollMembers]
    cases ended : leaf.completed with
    | true =>
      have whole : (Job.report leaf).completed := by rw [completed, ended]
      have within' : ∀ check ∈ batch, check.owner.position < (done ++ [Job.report leaf]).length := by
        intro check mem
        have before := within check mem
        omega
      rw [if_pos whole, checksFrom_silent (asks_of_completed ended), List.nil_append, ← next]
      exact ih (done ++ [.report leaf]) batch w others within'
    | false =>
      have open_ : (Job.report leaf).completed = false := by rw [completed, ended]
      obtain ⟨run, going⟩ := pending_running first ended
      have asking : (Job.report leaf).asks = some run.id := by rw [asks, going]
      rw [open_, if_neg Bool.false_ne_true, poll_running going, pure_bind, checksFrom_asking asking,
        List.singleton_append, cut]
      dsimp only
      set check : Check Slot := ⟨run.id, ⟨done.length, (Job.report leaf).label⟩⟩
      have within' : ∀ c ∈ batch ++ [check], c.owner.position < (done ++ [Job.report leaf]).length := by
        rw [List.forall_mem_append, List.forall_mem_singleton, next]
        exact ⟨fun c mem => Nat.lt_succ_of_lt (within c mem), Nat.lt_succ_self _⟩
      split
      · -- The chunk is full: what follows starts with an empty one, and with as many jobs as before.
        rw [List.foldlM_cons, map_bind, Act.bind_congr_left (settle_append rounds within' (front.map .report) w),
          bind_map_left]
        refine Act.bind_congr (settle_ensures service rounds _ _ w) fun done' w₁ heard => ?_
        have same : done'.length = done.length + 1 := by rw [← heard.length_eq, next]
        have later := ih done' [] w₁ others (by simp)
        rw [same] at later
        exact later
      · have later := ih (done ++ [.report leaf]) (batch ++ [check]) w others within'
        rw [next, List.length_append, List.length_singleton] at later
        exact later

/-- What polling makes of a report job: nothing if its run has ended, and else one document is taken in. -/
def PolledOnce (leaf leaf' : ReportJob) : Prop :=
  (leaf.completed ∧ leaf' = leaf) ∨
    (leaf.completed = false ∧ ∃ now document, leaf' = leaf.heard now (.ok document))

theorem ChunksDrained.reached {chunks : List (Batch Slot)} {jobs jobs' : List Job} {w w' : World σ}
    (h : ChunksDrained service chunks jobs w jobs' w') (addressed : Addressed jobs chunks.flatten) :
    jobs'.length = jobs.length ∧
      (∀ position, position ∉ positions chunks.flatten → jobs'[position]? = jobs[position]?) ∧
      ∀ check ∈ chunks.flatten, ∀ leaf, jobs[check.owner.position]? = some (.report leaf) →
        ∃ now document, jobs'[check.owner.position]? = some (.report (leaf.heard now (.ok document))) := by
  induction h with
  | nothing => exact ⟨rfl, fun _ _ => rfl, by simp⟩
  | @chunk chunk chunks f jobs jobs₁ jobs' w w₁ w' first _ ih =>
    rw [List.flatten_cons] at addressed
    obtain ⟨same, others, reached⟩ := ih (first.addressed addressed)
    obtain ⟨-, apart⟩ := addressed.apart
    refine ⟨same.trans first.length, fun position outside => ?_, fun check mem leaf here => ?_⟩
    · rw [List.flatten_cons, positions, List.map_append, List.mem_append, not_or] at outside
      rw [others position outside.2, first.others position outside.1]
    · rw [List.flatten_cons, List.mem_append] at mem
      rcases mem with mem | mem
      · obtain ⟨i, inside, rfl⟩ := List.mem_iff_getElem.1 mem
        obtain ⟨-, document, now, -, there⟩ := first.answered ⟨i, inside⟩ leaf here
        refine ⟨now, document, ?_⟩
        rw [others _ fun later => apart (List.mem_map_of_mem mem) later]
        exact there
      · refine reached check mem leaf ?_
        rw [first.others _ fun earlier => apart earlier (List.mem_map_of_mem mem)]
        exact here

/-- Once the chunks of all members with a run are drained, each of them has been polled once. -/
theorem ChunksDrained.polled {chunks : List (Batch Slot)} {front : List ReportJob} {jobs' : List Job} {w w' : World σ}
    (h : ChunksDrained service chunks (front.map .report) w jobs' w') (pollable : Pollable front)
    (whole : chunks.flatten = checksFrom 0 (front.map .report)) :
    ∃ front', jobs' = front'.map .report ∧ List.Forall₂ PolledOnce front front' := by
  have addressed : Addressed (front.map .report) chunks.flatten := by
    rw [whole]
    exact addressed_checksFrom _
  obtain ⟨same, others, reached⟩ := h.reached addressed
  rw [whole] at others reached
  refine exists_leaves (by simpa using same) fun i leaf place => ?_
  have here : (front.map Job.report)[i]? = some (.report leaf) := by rw [List.getElem?_map, place]; rfl
  cases ended : leaf.completed with
  | true =>
    refine ⟨leaf, ?_, .inl ⟨ended, rfl⟩⟩
    rw [others i, here]
    intro mem
    obtain ⟨check, queued, at_⟩ := List.mem_map.1 mem
    obtain ⟨j, other, run, there, asking, rfl⟩ := mem_checksFrom.1 queued
    obtain rfl : j = i := by simpa using at_
    rw [here] at there
    cases there
    rw [asks_of_completed ended] at asking
    cases asking
  | false =>
    obtain ⟨run, going⟩ := pending_running (pollable leaf (List.mem_of_getElem? place)) ended
    have asking : (Job.report leaf).asks = some run.id := by rw [asks, going]
    have queued : ⟨run.id, ⟨0 + i, (Job.report leaf).label⟩⟩ ∈ checksFrom 0 (front.map Job.report) :=
      mem_checksFrom.2 ⟨i, _, run.id, here, asking, rfl⟩
    obtain ⟨now, document, there⟩ := reached _ queued leaf (by simpa using here)
    exact ⟨_, by simpa using there, .inr ⟨ended, now, document, rfl⟩⟩

theorem filterMap_asks_of_pollable (front : List ReportJob) :
    (front.map Job.report).filterMap asks =
      (front.filter fun leaf => !leaf.completed).filterMap fun leaf => leaf.progress.run.map (·.id) := by
  induction front with
  | nil => rfl
  | cons leaf front ih =>
    have one : (Job.report leaf).asks = if leaf.completed then none else leaf.progress.run.map (·.id) := by
      rw [asks, pending, ReportJob.completed]
      cases leaf.progress.run <;> cases leaf.progress.finishedAt <;> rfl
    rw [List.map_cons, List.filterMap_cons, ih, one]
    cases ended : leaf.completed <;> simp [ended, List.filterMap_cons]

/-- A group of report jobs before it is polled: `front` goes as far as to the first unfinished member without a run, and
`chunks` are the checks of its unfinished members. -/
structure Chunking (g : Group) (leaves front rest : List ReportJob) (chunks : List (Batch Slot)) : Prop where
  order : leaves = front ++ rest
  pollable : Pollable front
  stuck : ∀ leaf ∈ rest.head?, leaf.completed = false ∧ leaf.progress.run = none
  pieces : Pieces (max g.settings.batch.maxCalls 1) (checksFrom 0 (front.map .report)) chunks
  asks : runs chunks.flatten =
    (front.filter fun leaf => !leaf.completed).filterMap fun leaf => leaf.progress.run.map (·.id)

theorem exists_front (leaves : List ReportJob) : ∃ front rest, leaves = front ++ rest ∧ Pollable front ∧
    ∀ leaf ∈ rest.head?, leaf.completed = false ∧ leaf.progress.run = none := by
  induction leaves with
  | nil => exact ⟨[], [], rfl, by simp [Pollable], by simp⟩
  | cons leaf leaves ih =>
    by_cases fit : leaf.progress.run = none → leaf.completed
    · obtain ⟨front, rest, rfl, pollable, stuck⟩ := ih
      exact ⟨leaf :: front, rest, rfl, List.forall_mem_cons.2 ⟨fit, pollable⟩, stuck⟩
    · rw [Classical.not_imp] at fit
      refine ⟨[], leaf :: leaves, rfl, by simp [Pollable], fun other same => ?_⟩
      cases same
      exact ⟨by simpa using fit.2, fit.1⟩

theorem chunking_cut (g : Group) {front rest : List ReportJob} (pollable : Pollable front)
    (stuck : ∀ leaf ∈ rest.head?, leaf.completed = false ∧ leaf.progress.run = none) :
    Chunking g (front ++ rest) front rest
      (cut (max g.settings.batch.maxCalls 1) [] (checksFrom 0 (front.map .report))) := by
  have positive : 0 < max g.settings.batch.maxCalls 1 := by omega
  have pieces := cut_pieces positive (checksFrom 0 (front.map .report)) [] positive
  refine ⟨rfl, pollable, stuck, pieces, ?_⟩
  rw [pieces.flatten, List.nil_append, runs_checksFrom, filterMap_asks_of_pollable]

theorem poll_group (rounds position : Nat) (g : Group) (members : List Job) :
    poll service rounds position (.group g members) =
      (fun out => (out.1, [], out.2)) <$> update service rounds (.group g members) := by
  simp [poll, update]

/-- Polling a group of report jobs is draining its chunks one after another. -/
theorem update_eq (service : Service σ) (rounds : Nat) (g : Group) {front rest : List ReportJob}
    (pollable : Pollable front)
    (stuck : ∀ leaf ∈ rest.head?, leaf.completed = false ∧ leaf.progress.run = none) (w : World σ) :
    update service rounds (.group g ((front ++ rest).map .report)) w =
      ((fun jobs => (.group g (jobs ++ rest.map .report), refusal rest)) <$>
        (cut (max g.settings.batch.maxCalls 1) [] (checksFrom 0 (front.map .report))).foldlM (settle service rounds)
          (front.map .report)) w := by
  have polled := pollMembers_eq service rounds (max g.settings.batch.maxCalls 1) stuck front [] [] w
    pollable (by simp)
  rw [List.nil_append, List.length_nil] at polled
  have whole : update service rounds (.group g ((front ++ rest).map .report)) =
      (fun out => (.group g out.1, out.2)) <$> pollMembers service rounds (max g.settings.batch.maxCalls 1) [] [] 0
        ((front ++ rest).map .report) := by
    simp [update, poll]
  rw [whole, map_eq_pure_bind, Act.bind_congr_left polled, ← map_eq_pure_bind, Functor.map_map]
  rfl

/-- A group of report jobs is polled in chunks. Its checks are those of the unfinished members, as far as to the first
one without a run; they are cut into pieces of the group's limit, and drained piece by piece. The poll ends exactly if
all the pieces can be drained, and then each member that has a run was polled once. If there is one without, the poll
ends with the misuse, and nothing behind is touched; if all have runs, nothing is left behind. A batch that the group is
polled through gets no check of it. -/
theorem update_drains_chunks (service : Service σ) (g : Group) (leaves : List ReportJob) (w : World σ) :
    ∃ front rest chunks, Chunking g leaves front rest chunks ∧ (Pollable leaves → rest = []) ∧
      (Act.Ends (fun rounds => update service rounds (.group g (leaves.map .report))) w ↔
        Drainable service chunks w.remote) ∧
      ∀ rounds, Act.Ensures (update service rounds (.group g (leaves.map .report))) w fun out w' =>
        ∃ front', out = (.group g ((front' ++ rest).map .report), refusal rest) ∧
          ChunksDrained service chunks (front.map .report) w (front'.map .report) w' ∧
          List.Forall₂ PolledOnce front front' ∧
          ∀ position,
            poll service rounds position (.group g (leaves.map .report)) w = some ((out.1, [], out.2), w') := by
  obtain ⟨front, rest, rfl, pollable, stuck⟩ := exists_front leaves
  have chunking := chunking_cut g pollable stuck
  have whole := chunking.pieces.flatten
  have equation := fun rounds => update_eq service rounds g pollable stuck w
  set chunks := cut (max g.settings.batch.maxCalls 1) [] (checksFrom 0 (front.map .report))
  have addressed : Addressed (front.map .report) chunks.flatten := by
    rw [whole]
    exact addressed_checksFrom _
  have drains : ∀ {rounds out w'}, update service rounds (.group g ((front ++ rest).map .report)) w = some (out, w') →
      ∃ jobs', out = (.group g (jobs' ++ rest.map .report), refusal rest) ∧
        ChunksDrained service chunks (front.map .report) w jobs' w' := by
    intro rounds out w' run
    rw [equation, map_eq_pure_bind, Act.bind_eq_some] at run
    obtain ⟨jobs', w₁, drained, kept⟩ := run
    obtain ⟨rfl, rfl⟩ := Act.pure_eq_some.1 kept
    exact ⟨jobs', rfl, settle_chunks rounds chunks _ w addressed _ _ drained⟩
  refine ⟨front, rest, chunks, chunking, fun started => ?_, ⟨?_, fun drainable => ?_⟩, fun rounds out w' run => ?_⟩
  · cases rest with
    | nil => rfl
    | cons leaf rest =>
      obtain ⟨going, none⟩ := stuck leaf rfl
      rw [started leaf (by simp) none] at going
      cases going
  · rintro ⟨out, w', enough, ends⟩
    obtain ⟨_, -, drained⟩ := drains (ends enough le_rfl)
    exact drained.drainable
  · obtain ⟨jobs', w', enough, ends⟩ := chunks_end chunks _ w addressed drainable
    refine ⟨(.group g (jobs' ++ rest.map .report), refusal rest), w', enough, fun rounds le => ?_⟩
    refine (equation rounds).trans ?_
    rw [map_eq_pure_bind, Act.bind_eq_some]
    exact ⟨jobs', w', ends rounds le, rfl⟩
  · obtain ⟨jobs', rfl, drained⟩ := drains run
    obtain ⟨front', rfl, polled⟩ := drained.polled pollable whole
    refine ⟨front', by rw [List.map_append], drained, polled, fun position => ?_⟩
    rw [poll_group, map_eq_pure_bind, Act.bind_eq_some]
    exact ⟨_, w', run, rfl⟩

end Job

end AsyncReports
