import AsyncReports.Proofs.Job.Polling
import AsyncReports.Proofs.Job.Tasks

set_option autoImplicit false

/-!
# What polling finds out

A poll of engaged jobs only waits for their runs: it checks what their tasks call for, and leaves them engaged. With an
obliging service it comes to an end and is not refused. Once the batch is drained, each of its jobs has heard that its
run has ended, or some run has been put off.
-/

namespace AsyncReports.Job

open ReportJob Service

variable {σ : Type} {service : Service σ} {others : σ → σ → Prop} {limit : Float} {whole : Bool}

abbrev AllEngaged (jobs : List Job) : Prop := ∀ job ∈ jobs, job.All Engaged

/-- The dealings with a service that some jobs are in. -/
def dealings (whole : Bool) (s : σ) (jobs : List Job) : Dealings σ := ⟨s, allTasks whole jobs⟩

theorem dealings_append (s : σ) (jobs jobs' : List Job) :
    dealings whole s (jobs ++ jobs') = (dealings whole s jobs).beside (allTasks whole jobs') := by
  rw [dealings, allTasks_append, dealings, Dealings.beside]

/-- The dealings of one job, beside the tasks of those that stand around it. -/
theorem dealings_amid (s : σ) (before : List Job) (job : Job) (after : List Job) :
    dealings whole s (before ++ job :: after) =
      (dealings whole s [job]).beside (allTasks whole before + allTasks whole after) := by
  simp [dealings, Dealings.beside, add_left_comm]

theorem dealings_group (s : σ) (g : Group) (members : List Job) :
    dealings whole s [.group g members] = dealings false s members := by
  simp [dealings, tasks_group]

/-! ## Round trips -/

theorem about_of_obliging {x : Dealings σ} (obliging : service.Obliging others limit x) {batch : Batch Slot}
    (fewer : (Batch.runs batch : Multiset String) ≤ x.runs) {check : Check Slot} {answer : Answer Json}
    (mem : (check, answer) ∈ Batch.pair batch (service.statuses (Batch.runs batch) x.remote).1) :
    About check.run answer := by
  intro run told
  cases answer with
  | error => cases told
  | ok document =>
    obtain ⟨k, place, answer⟩ := document_of_pair mem
    exact obliging.documents x (.refl x) _ fewer k check.run document run place answer (reading_ok.1 told)

def EndedAt (jobs : List Job) (check : Check Slot) : Prop :=
  ∃ job, jobs[check.owner.position]? = some job ∧ job.completed

/-- What comes of sending a batch until only some checks are left: the jobs at its other positions have heard that
their runs have ended, unless some run was put off. -/
structure Answered (service : Service σ) (whole : Bool) (s s' : σ) (jobs jobs' : List Job) (batch left : Batch Slot) :
    Prop where
  waits : service.Waits (dealings whole s jobs) (dealings whole s' jobs')
  engaged : AllEngaged jobs'
  elsewhere : ∀ i, i ∉ positions batch → jobs'[i]? = jobs[i]?
  fewer : ∀ check ∈ left, check ∈ batch
  awaited : Awaited jobs' left
  told : service.Delays (dealings whole s jobs) (dealings whole s' jobs') ∨
    ∀ check ∈ batch, check ∈ left ∨ EndedAt jobs' check

theorem Answered.nothing {s : σ} {jobs : List Job} (engaged : AllEngaged jobs) :
    Answered service whole s s jobs jobs [] [] :=
  ⟨.refl _, engaged, fun _ _ => rfl, by simp, ⟨.nil, by simp⟩, .inr (by simp)⟩

theorem Awaited.not_ended {jobs : List Job} {batch : Batch Slot} (h : Awaited jobs batch) {check : Check Slot}
    (ended : EndedAt jobs check) : check.owner.position ∉ positions batch := by
  intro mem
  obtain ⟨other, mem, same⟩ := List.mem_map.1 mem
  obtain ⟨leaf, here, asking, -⟩ := h.task true mem
  obtain ⟨run, -, open_, -⟩ := going_of_asks asking
  obtain ⟨job, there, ended⟩ := ended
  rw [← same, here] at there
  cases there
  rw [completed, open_] at ended
  cases ended

theorem Answered.trans {s s₁ s₂ : σ} {jobs jobs₁ jobs₂ : List Job} {batch retry left : Batch Slot}
    (h : Answered service whole s s₁ jobs jobs₁ batch retry)
    (h' : Answered service whole s₁ s₂ jobs₁ jobs₂ retry left) :
    Answered service whole s s₂ jobs jobs₂ batch left := by
  refine ⟨h.waits.trans h'.waits, h'.engaged, fun i outside => ?_, fun check mem => h.fewer check (h'.fewer check mem),
    h'.awaited, ?_⟩
  · have outside' : i ∉ positions retry := by
      intro mem
      obtain ⟨check, kept, rfl⟩ := List.mem_map.1 mem
      exact outside (List.mem_map.2 ⟨check, h.fewer check kept, rfl⟩)
    rw [h'.elsewhere i outside', h.elsewhere i outside]
  · rcases h.told with off | told
    · exact .inl (off.widen (.refl _) h'.waits)
    rcases h'.told with off | told'
    · exact .inl (off.widen h.waits (.refl _))
    refine .inr fun check mem => ?_
    rcases told check mem with again | ended
    · exact told' check again
    -- A job that has heard of its end is not asked about again.
    · have still := h'.elsewhere _ (h.awaited.not_ended ended)
      exact .inr (ended.imp fun job there => ⟨still.trans there.1, there.2⟩)

/-- A round trip tells about each of its checks, or leaves the check for another one. -/
theorem execute_answers {jobs : List Job} {batch : Batch Slot} {w : World σ}
    (obliging : service.Obliging others limit (dealings whole w.remote jobs)) (engaged : AllEngaged jobs)
    (awaited : Awaited jobs batch) :
    Act.Ensures (Batch.execute service receiveAt jobs batch) w fun out w' =>
      Answered service whole w.remote w'.remote jobs out.1 batch out.2 := by
  by_cases some_ : batch = []
  · subst some_
    exact Act.ensures_pure.2 (.nothing engaged)
  simp only [Batch.execute_eq some_, Service.statusesOf, Act.ensures_bind, Act.ensures_call, Act.ensures_log,
    Act.ensures_pure]
  set answered := Batch.pair batch (service.statuses (Batch.runs batch) w.remote).1 with paired
  have checks : answered.map Prod.fst = batch := Batch.pair_checks _ _
  have addressed : Addressed jobs (answered.map Prod.fst) := by rw [checks]; exact awaited.addressed
  refine (deliver_reaches answered jobs _ addressed).mono ?_
  rintro jobs' _ ⟨⟨log, rfl⟩, untouched, reached⟩
  have asked : ∀ {check answer}, (check, answer) ∈ answered → check ∈ batch :=
    fun mem => checks ▸ List.mem_map_of_mem (f := Prod.fst) mem
  -- What a job hears about the run that it waits for.
  have each : ∀ check answer, (check, answer) ∈ answered → ∃ leaf now, Engaged leaf ∧
      jobs[check.owner.position]? = some (.report leaf) ∧
      jobs'[check.owner.position]? = some (.report (leaf.heard now answer)) ∧
      leaf.tasks whole = {⟨leaf.asMade, whole, some check.run⟩} ∧
      (leaf.heard now answer).tasks whole = Task.left ⟨leaf.asMade, whole, some check.run⟩ answer := by
    intro check answer mem
    obtain ⟨leaf, here, asking, known⟩ := awaited.task whole (asked mem)
    obtain ⟨now, here'⟩ := reached check answer mem leaf here
    have first : Engaged leaf := engaged _ (List.mem_of_getElem? here) leaf (List.mem_singleton_self leaf)
    have about := about_of_obliging obliging awaited.runs_le mem
    exact ⟨leaf, now, first, here, here', known, tasks_heard first asking about now⟩
  have hear : Task.Hear answered (allTasks whole jobs) (allTasks whole jobs') := by
    refine hear_of_each addressed.distinct untouched fun check answer mem => ?_
    obtain ⟨leaf, now, -, here, here', known, left⟩ := each check answer mem
    exact ⟨_, _, _, here, here', known, rfl, left⟩
  refine ⟨(Wait.check w.remote batch hear).waits, fun job' mem => ?_, ?_, ?_, ?_, ?_⟩
  · obtain ⟨i, here'⟩ := List.getElem?_of_mem mem
    by_cases inside : i ∈ positions (answered.map Prod.fst)
    · obtain ⟨check, some_, rfl⟩ := List.mem_map.1 inside
      obtain ⟨⟨_, answer⟩, told, rfl⟩ := List.mem_map.1 some_
      obtain ⟨leaf, now, first, -, there, -⟩ := each _ _ told
      rw [here', Option.some.injEq] at there
      subst there
      intro leaf' single
      rw [List.mem_singleton.1 single]
      exact first.heard now answer
    · rw [untouched i inside] at here'
      exact engaged _ (List.mem_of_getElem? here')
  · rw [← checks]
    exact untouched
  · exact fun check mem => (Batch.retries_sublist _ _).subset mem
  · refine ⟨((Batch.retries_sublist _ _).map _).nodup awaited.distinct, fun check mem => ?_⟩
    obtain ⟨cause, failed⟩ := error_of_retries mem
    obtain ⟨job, here, asking⟩ := awaited.asking check (asked failed)
    obtain ⟨leaf, now, -, there, here', -⟩ := each check _ failed
    rw [there] at here
    cases here
    exact ⟨_, here', asking⟩
  · by_cases off : service.Delays (dealings whole w.remote jobs)
        (dealings whole (service.statuses (Batch.runs batch) w.remote).2 jobs')
    · exact .inl off
    refine .inr fun check mem => (mem_retries_or_ok _ mem).imp_right ?_
    rintro ⟨document, told⟩
    obtain ⟨leaf, now, first, -, here', -⟩ := each check _ told
    by_cases vague : Service.Vague document
    · obtain ⟨k, place, answer⟩ := document_of_pair told
      exact absurd ⟨check.run, w.remote, batch, _, _, k, document, .refl _, hear, place, answer, vague, .refl _⟩ off
    · simp only [Service.Vague, not_forall] at vague
      obtain ⟨run, decoded, terminal⟩ := vague
      exact ⟨_, here', completed_heard first decoded (by simpa using terminal) now⟩

theorem settle_ensures_answers (rounds : Nat) : ∀ {jobs : List Job} {batch : Batch Slot} {w : World σ},
    service.Obliging others limit (dealings whole w.remote jobs) → AllEngaged jobs → Awaited jobs batch →
    Act.Ensures (settle service rounds jobs batch) w fun jobs' w' =>
      Answered service whole w.remote w'.remote jobs jobs' batch [] := by
  induction rounds with
  | zero =>
    intro jobs batch w _ engaged _
    cases batch with
    | nil => exact Act.ensures_pure.2 (.nothing engaged)
    | cons check rest => exact Act.ensures_unfinished
  | succ rounds ih =>
    intro jobs batch w obliging engaged awaited
    by_cases some_ : batch = []
    · subst some_
      exact Act.ensures_pure.2 (.nothing engaged)
    rw [settle, Batch.drain_succ some_, Act.ensures_bind]
    refine (execute_answers obliging engaged awaited).mono ?_
    rintro ⟨jobs₁, retry⟩ w₁ first
    refine (ih (obliging.deals first.waits.deals) first.engaged first.awaited).mono ?_
    exact fun jobs₂ w₂ later => first.trans later

theorem settle_answers {jobs : List Job} {batch : Batch Slot} {w : World σ}
    (obliging : service.Obliging others limit (dealings whole w.remote jobs)) (engaged : AllEngaged jobs)
    (awaited : Awaited jobs batch) :
    Act.Concludes (fun rounds => settle service rounds jobs batch) w fun jobs' w' =>
      Answered service whole w.remote w'.remote jobs jobs' batch [] where
  ends := Batch.drain_ends Batch.passive_receiveAt jobs batch w (obliging.answers _ (.refl _) batch awaited.runs_le)
  ensures rounds := settle_ensures_answers rounds obliging engaged awaited

/-! ## Polling -/

/-- Jobs that have been polled since the dealings `x₀`, with the batch that holds their checks, and the jobs `rest` that
have not: unless some run was put off, a job that has not completed has a check in the batch. -/
structure Polled (service : Service σ) (whole : Bool) (x₀ : Dealings σ) (s : σ) (done rest : List Job)
    (batch : Batch Slot) : Prop where
  waits : service.Waits x₀ (dealings whole s (done ++ rest))
  engaged : AllEngaged (done ++ rest)
  awaited : Awaited done batch
  told : service.Delays x₀ (dealings whole s (done ++ rest)) ∨
    ∀ position job, done[position]? = some job → job.completed ∨ position ∈ positions batch

/-- How the poll of an engaged job comes out that goes to this position. -/
structure Queues (service : Service σ) (whole : Bool) (s s' : σ) (position : Nat) (job : Job)
    (out : Job × Batch Slot × Except JobError Unit) : Prop where
  fine : out.2.2 = .ok ()
  waits : service.Waits (dealings whole s [job]) (dealings whole s' [out.1])
  engaged : out.1.All Engaged
  told : (out.2.1 = [] ∧ (service.Delays (dealings whole s [job]) (dealings whole s' [out.1]) ∨ out.1.completed)) ∨
    ∃ check, out.2.1 = [check] ∧ check.owner.position = position ∧ out.1.asks = some check.run

theorem Polled.start {s : σ} {jobs : List Job} (engaged : AllEngaged jobs) :
    Polled service whole (dealings whole s jobs) s [] jobs [] :=
  ⟨.refl _, engaged, ⟨.nil, by simp⟩, .inr (by simp)⟩

theorem Polled.obliging {x₀ : Dealings σ} {s : σ} {done rest : List Job} {batch : Batch Slot}
    (h : Polled service whole x₀ s done rest batch) (obliging : service.Obliging others limit x₀) :
    service.Obliging others limit (dealings whole s (done ++ rest)) := obliging.deals h.waits.deals

theorem Polled.push {x₀ : Dealings σ} {s s' : σ} {done rest : List Job} {batch checks : Batch Slot} {job job' : Job}
    {result : Except JobError Unit} (h : Polled service whole x₀ s done (job :: rest) batch)
    (queues : Queues service whole s s' done.length job (job', checks, result)) :
    Polled service whole x₀ s' (done ++ [job']) rest (batch ++ checks) := by
  have order : done ++ [job'] ++ rest = done ++ job' :: rest := by simp
  have waits : service.Waits (dealings whole s (done ++ job :: rest)) (dealings whole s' (done ++ job' :: rest)) := by
    rw [dealings_amid s, dealings_amid s']
    exact queues.waits.beside _
  have old : ∀ {position : Nat} {job₀ : Job}, done[position]? = some job₀ → (done ++ [job'])[position]? = some job₀ :=
    fun here => (List.getElem?_append_left (List.getElem?_eq_some_iff.1 here).1).trans here
  have inside : ∀ position ∈ positions batch, position < done.length := by
    intro position mem
    obtain ⟨check, queued, rfl⟩ := List.mem_map.1 mem
    obtain ⟨job₀, here, -⟩ := h.awaited.asking check queued
    exact (List.getElem?_eq_some_iff.1 here).1
  refine ⟨by rw [order]; exact h.waits.trans waits, ?_, ?_, ?_⟩
  · have engaged := h.engaged
    rw [AllEngaged, List.forall_mem_append, List.forall_mem_cons] at engaged
    rw [order, AllEngaged, List.forall_mem_append, List.forall_mem_cons]
    exact ⟨engaged.1, queues.engaged, engaged.2.2⟩
  · have before : ∀ check ∈ batch, ∃ job₀, (done ++ [job'])[check.owner.position]? = some job₀ ∧
        job₀.asks = some check.run := by
      intro check mem
      obtain ⟨job₀, here, asking⟩ := h.awaited.asking check mem
      exact ⟨job₀, old here, asking⟩
    rcases queues.told with ⟨none, -⟩ | ⟨check, single, place, asking⟩
    · have none : checks = [] := none
      rw [none, List.append_nil]
      exact ⟨h.awaited.distinct, before⟩
    · have single : checks = [check] := single
      rw [single]
      refine ⟨?_, List.forall_mem_append.2 ⟨before, List.forall_mem_singleton.2 ⟨job', ?_, asking⟩⟩⟩
      · rw [positions, List.map_append, List.nodup_append]
        refine ⟨h.awaited.distinct, List.nodup_singleton _, fun position mem other last => ?_⟩
        have early := inside position mem
        rw [List.map_singleton, List.mem_singleton, place] at last
        omega
      · rw [place]
        simp
  · rw [order]
    rcases h.told with off | told
    · exact .inl (off.widen (.refl _) waits)
    have last : service.Delays x₀ (dealings whole s' (done ++ job' :: rest)) ∨
        job'.completed ∨ done.length ∈ positions (batch ++ checks) := by
      rcases queues.told with ⟨-, off | ended⟩ | ⟨check, single, place, -⟩
      · refine .inl (Delays.widen h.waits ?_ (.refl _))
        rw [dealings_amid s, dealings_amid s']
        exact off.beside _
      · exact .inr (.inl ended)
      · have single : checks = [check] := single
        subst single
        exact .inr (.inr (List.mem_map.2 ⟨check, List.mem_append_right batch (List.mem_singleton_self check), place⟩))
    refine last.imp_right fun last position job₀ here => ?_
    by_cases earlier : position < done.length
    · rw [List.getElem?_append_left earlier] at here
      refine (told position job₀ here).imp_right fun mem => ?_
      rw [positions, List.map_append]
      exact List.mem_append_left _ mem
    · obtain ⟨rfl, rfl⟩ : position = done.length ∧ job' = job₀ := by
        rw [List.getElem?_append_right (by omega), List.getElem?_singleton] at here
        split at here
        · exact ⟨by omega, by simpa using here⟩
        · cases here
      exact last

theorem Polled.push_completed {x₀ : Dealings σ} {s : σ} {done rest : List Job} {batch : Batch Slot} {job : Job}
    (h : Polled service whole x₀ s done (job :: rest) batch) (ended : job.completed) :
    Polled service whole x₀ s (done ++ [job]) rest batch := by
  have engaged := h.engaged job (List.mem_append_right _ List.mem_cons_self)
  have queues : Queues service whole s s done.length job (job, [], .ok ()) :=
    ⟨rfl, .refl _, engaged, .inl ⟨rfl, .inr ended⟩⟩
  have pushed := h.push queues
  rwa [List.append_nil] at pushed

/-- Once its batch is drained, all jobs that were polled have completed, unless some run was put off. -/
theorem Polled.settled {x₀ : Dealings σ} {s s' : σ} {done done' rest : List Job} {batch : Batch Slot}
    (h : Polled service whole x₀ s done rest batch) (answered : Answered service whole s s' done done' batch []) :
    Polled service whole x₀ s' done' rest [] := by
  have waits : service.Waits (dealings whole s (done ++ rest)) (dealings whole s' (done' ++ rest)) := by
    rw [dealings_append, dealings_append]
    exact answered.waits.beside _
  have engaged := List.forall_mem_append.1 h.engaged
  refine ⟨h.waits.trans waits, List.forall_mem_append.2 ⟨answered.engaged, engaged.2⟩, answered.awaited, ?_⟩
  rcases h.told with off | told
  · exact .inl (off.widen (.refl _) waits)
  rcases answered.told with off | told'
  · refine .inl (Delays.widen h.waits ?_ (.refl _))
    rw [dealings_append, dealings_append]
    exact off.beside _
  refine .inr fun position job here => .inl ?_
  by_cases asked : position ∈ positions batch
  · obtain ⟨check, mem, rfl⟩ := List.mem_map.1 asked
    obtain ⟨job', here', ended⟩ := (told' check mem).resolve_left List.not_mem_nil
    rw [here] at here'
    cases here'
    exact ended
  · rw [answered.elsewhere position asked] at here
    exact (told position job here).resolve_right asked

theorem Polled.settle {x₀ : Dealings σ} {done rest : List Job} {batch : Batch Slot} {w : World σ}
    (obliging : service.Obliging others limit x₀) (h : Polled service whole x₀ w.remote done rest batch) :
    Act.Concludes (fun rounds => Job.settle service rounds done batch) w fun done' w' =>
      Polled service whole x₀ w'.remote done' rest [] ∧ done'.length = done.length := by
  have near := h.obliging obliging
  rw [dealings_append] at near
  have concludes := settle_answers near.of_beside (List.forall_mem_append.1 h.engaged).1 h.awaited
  refine ⟨concludes.ends, fun rounds => ?_⟩
  refine ((concludes.ensures rounds).and (settle_ensures service rounds done batch w)).mono ?_
  exact fun done' w' out => ⟨h.settled out.1, out.2.length_eq.symm⟩

theorem allCompleted_of_told {jobs : List Job} (told : ∀ position job, jobs[position]? = some job →
    job.completed ∨ position ∈ positions []) : allCompleted jobs := by
  rw [allCompleted_eq_all, List.all_eq_true, forall_allLeaves]
  intro job mem
  obtain ⟨position, here⟩ := List.getElem?_of_mem mem
  have ended : job.completed := (told position job here).resolve_right List.not_mem_nil
  rw [completed_eq_all, List.all_eq_true] at ended
  exact ended

theorem poll_report_queues (position : Nat) {leaf : ReportJob} (engaged : Engaged leaf) (rounds : Nat) (w : World σ) :
    Act.Ensures (poll service rounds position (.report leaf)) w fun out w' =>
      Queues service whole w.remote w'.remote position (.report leaf) out := by
  have all : (Job.report leaf).All Engaged := fun leaf' mem => List.mem_singleton.1 mem ▸ engaged
  rw [poll, ReportJob.check]
  cases state : leaf.pending with
  | unstarted =>
    rw [pending] at state
    cases known : leaf.progress.run with
    | none => exact absurd known engaged.run_ne_none
    | some run => cases finished : leaf.progress.finishedAt <;> simp [known, finished] at state
  | finished run =>
    simp only [Act.ensures_bind, Act.ensures_log, Act.ensures_pure]
    refine ⟨rfl, .refl _, all, .inl ⟨rfl, .inr ?_⟩⟩
    change leaf.completed
    rw [pending] at state
    cases known : leaf.progress.run <;> cases finished : leaf.progress.finishedAt <;> simp_all [ReportJob.completed]
  | running run =>
    simp only [Act.ensures_bind, Act.ensures_pure]
    exact ⟨rfl, .refl _, all, .inr ⟨_, rfl, rfl, by rw [asks, state]⟩⟩

mutual
theorem poll_queues : ∀ (whole : Bool) (position : Nat) (job : Job) {w : World σ},
    service.Obliging others limit (dealings whole w.remote [job]) → job.All Engaged →
    Act.Concludes (fun rounds => poll service rounds position job) w fun out w' =>
      Queues service whole w.remote w'.remote position job out
  | _, position, .report leaf, w, _, engaged => by
    refine ⟨?_, fun rounds => poll_report_queues position (engaged leaf (List.mem_singleton_self leaf)) rounds w⟩
    simp only [poll]
    exact (Act.Total.bind (ReportJob.check_total _ leaf) fun _ => .pure _).ends w
  | _, position, .group g members, w, obliging, engaged => by
    rw [dealings_group] at obliging
    simp only [poll]
    refine .bind (pollMembers_polls obliging (max g.settings.batch.maxCalls 1) 0 members
      (.start (forall_allLeaves.1 engaged))) ?_
    rintro ⟨members', _⟩ w' ⟨rfl, polled⟩
    have waits := polled.waits
    have told := polled.told
    have engaged' : (Job.group g members').All Engaged := forall_allLeaves.2 (by simpa using polled.engaged)
    rw [List.append_nil] at waits told
    refine .pure ⟨rfl, ?_, engaged', .inl ⟨rfl, ?_⟩⟩
    · rw [dealings_group, dealings_group]
      exact waits
    · rw [dealings_group, dealings_group]
      exact told.imp_right allCompleted_of_told

theorem pollMembers_polls {x₀ : Dealings σ} (obliging : service.Obliging others limit x₀) (size : Nat) :
    ∀ (taken : Nat) (members : List Job) {done : List Job} {batch : Batch Slot} {w : World σ},
    Polled service false x₀ w.remote done members batch →
    Act.Concludes (fun rounds => pollMembers service rounds size done batch taken members) w fun out w' =>
      out.2 = .ok () ∧ Polled service false x₀ w'.remote out.1 [] []
  | _, [], done, batch, w, polled => by
    simp only [pollMembers]
    exact .bind (polled.settle obliging) fun done' w' settled => .pure ⟨rfl, settled.1⟩
  | taken, job :: rest, done, batch, w, polled => by
    simp only [pollMembers]
    split
    · rename_i ended
      exact pollMembers_polls obliging size taken rest (polled.push_completed ended)
    · have near := polled.obliging obliging
      rw [dealings_amid] at near
      have engaged : job.All Engaged := polled.engaged job (List.mem_append_right _ List.mem_cons_self)
      refine .bind (poll_queues false done.length job near.of_beside engaged) ?_
      rintro ⟨job', checks, result⟩ w₁ queues
      have fine : result = .ok () := queues.fine
      subst fine
      have pushed := polled.push queues
      dsimp only
      split
      · refine .bind (pushed.settle obliging) fun done' w₂ settled => ?_
        exact pollMembers_polls obliging size 0 rest settled.1
      · exact pollMembers_polls obliging size (taken + 1) rest pushed
end

/-- A poll of a queue comes to an end, and tells of the jobs at its front. -/
theorem pollQueue_polls {x₀ : Dealings σ} (obliging : service.Obliging others limit x₀) (size : Nat) (jobs : List Job) :
    ∀ {done : List Job} {batch : Batch Slot} {w : World σ}, Polled service whole x₀ w.remote done jobs batch →
      Act.Concludes (fun rounds => pollQueue service rounds size done batch jobs) w fun out w' =>
        out.2 = .ok () ∧ ∃ front left, out.1 = front ++ left ∧ Polled service whole x₀ w'.remote front left [] ∧
          (done ≠ [] ∨ (jobs ≠ [] ∧ batch.length < size) → front ≠ []) := by
  have kept : ∀ {done done' : List Job}, done'.length = done.length → done ≠ [] → done' ≠ [] := by
    intro done done' same some_ none
    rw [none] at same
    exact some_ (List.length_eq_zero_iff.1 same.symm)
  induction jobs with
  | nil =>
    intro done batch w polled
    simp only [pollQueue]
    refine .bind (polled.settle obliging) fun done' w' settled => .pure ⟨rfl, done', [], ?_, settled.1, ?_⟩
    · exact (List.append_nil done').symm
    · rintro (some_ | ⟨none, -⟩)
      · exact kept settled.2 some_
      · exact absurd rfl none
  | cons job rest ih =>
    intro done batch w polled
    simp only [pollQueue]
    split
    · rename_i full
      have logged : Act.Concludes (fun _ => Act.log [queueLimitEntry]) w fun _ w' => w'.remote = w.remote :=
        .of_total (.log _) (Act.ensures_log.2 rfl)
      refine logged.bind fun _ w₁ quiet => ?_
      rw [← quiet] at polled
      refine .bind (polled.settle obliging) fun done' w' settled => ?_
      refine .pure ⟨rfl, done', job :: rest, rfl, settled.1, ?_⟩
      rintro (some_ | ⟨-, room⟩)
      · exact kept settled.2 some_
      · omega
    · have near := polled.obliging obliging
      rw [dealings_amid] at near
      have engaged : job.All Engaged := polled.engaged job (List.mem_append_right _ List.mem_cons_self)
      refine .bind (poll_queues whole done.length job near.of_beside engaged) ?_
      rintro ⟨job', checks, result⟩ w₁ queues
      have fine : result = .ok () := queues.fine
      subst fine
      refine (ih (polled.push queues)).mono ?_
      rintro out w' ⟨fine, front, left, parts, polled', some_⟩
      exact ⟨fine, front, left, parts, polled', fun _ => some_ (.inl (by simp))⟩

end AsyncReports.Job
