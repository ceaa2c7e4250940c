import AsyncReports.Script
import AsyncReports.Proofs.Manager.Calls

set_option autoImplicit false

/-!
# Who has which job

Jobs leave the source in its order. A job that has left it is in the queue, was handed out, or was let go, and is
in one of these places only. Polling and recovering let nothing go, even where they fail. A job is let go when its
own start fails, and completed jobs are when the queue cannot be filled after them; as long as neither happens, the
jobs drawn so far correspond one to one to those handed out and those in the queue.
-/

namespace AsyncReports.Manager

open Job

variable {σ : Type}

/-- The jobs of the queue, and those drawn from the source since, have become the jobs that are gone and those
that are in the queue now. -/
def Moved (gone : List Job) (m m' : Manager) : Prop :=
  ∃ drawn, m.source = drawn ++ m'.source ∧ Accounted (m.queue ++ drawn) (gone ++ m'.queue)

theorem Moved.refl (m : Manager) : Moved [] m m := by
  refine ⟨[], rfl, .of_perm ?_⟩
  rw [List.append_nil, List.nil_append]

theorem Moved.trans {gone gone' : List Job} {a b c : Manager} (h : Moved gone a b) (h' : Moved gone' b c) :
    Moved (gone ++ gone') a c := by
  obtain ⟨drawn, source, first⟩ := h
  obtain ⟨drawn', source', later⟩ := h'
  refine ⟨drawn ++ drawn', by rw [source, source', List.append_assoc], ?_⟩
  have start : Accounted (a.queue ++ drawn ++ drawn') (gone ++ b.queue ++ drawn') :=
    first.append (.of_perm (.refl drawn'))
  have finish : Accounted (gone ++ (b.queue ++ drawn')) (gone ++ (gone' ++ c.queue)) :=
    (Accounted.of_perm (.refl gone)).append later
  simp only [List.append_assoc] at start finish ⊢
  exact start.trans finish

theorem Moved.perm {gone gone' : List Job} {m m' : Manager} (h : Moved gone m m') (same : gone.Perm gone') :
    Moved gone' m m' := by
  obtain ⟨drawn, source, account⟩ := h
  exact ⟨drawn, source, account.trans (.of_perm (same.append_right m'.queue))⟩

theorem Moved.of_queue {gone : List Job} {m m' : Manager} (source : m'.source = m.source)
    (account : Accounted m.queue (gone ++ m'.queue)) : Moved gone m m' := by
  refine ⟨[], source.symm, ?_⟩
  rw [List.append_nil]
  exact account

/-! ## The parts of a call -/

theorem StartEnd.moved {m : Manager} {out : Outcome Manager} (h : StartEnd m m.source out) :
    ∃ gone, Moved gone m out.1 ∧ (gone = [] ↔ ¬ ∃ cause, out.2 = .error cause) := by
  cases h with
  | @stopped taken started left order launched =>
    refine ⟨[], ⟨taken, order, ?_⟩, by simp⟩
    have new : Accounted taken started := .of_forall₂ (launched.imp fun _ _ => Becomes.heir)
    exact (Accounted.of_perm (.refl m.queue)).append new
  | @refused taken started left job job' cause order launched _ half =>
    refine ⟨[job'], ⟨taken ++ [job], by rw [order]; simp, ?_⟩, by simp⟩
    have new : Accounted taken started := .of_forall₂ (launched.imp fun _ _ => Becomes.heir)
    have last : Accounted [job] [job'] := .of_forall₂ (.cons half.heir .nil)
    refine ((Accounted.of_perm (.refl m.queue)).append (new.append last)).trans (.of_perm ?_)
    rw [← List.append_assoc]
    exact List.perm_append_comm

theorem FillEnd.moved {m : Manager} {fails : Prop} {out : Outcome Manager} (h : FillEnd m fails out) :
    ∃ gone, Moved gone m out.1 ∧ (gone = [] ↔ ¬ fails) := by
  cases h with
  | unread unfailed => exact ⟨[], .of_queue rfl (.of_perm (.refl m.queue)), by simp [unfailed]⟩
  | tried within starts whether =>
    obtain ⟨gone, moved, error⟩ := starts.moved
    exact ⟨gone, moved, error.trans (not_congr whether.symm)⟩

theorem FillEnd.error_of_fails {m : Manager} {fails : Prop} {out : Outcome Manager} (h : FillEnd m fails out)
    (failed : fails) : ∃ cause, out.2 = .error cause := by
  cases h with
  | unread unfailed => exact absurd failed unfailed
  | tried within starts whether => exact whether.1 failed

def found : Except JobError (List Job) → List Job
  | .ok done => done
  | .error _ => []

theorem PassEnd.moved {m : Manager} {out : Manager × Except JobError (List Job)} (h : PassEnd m out) :
    Moved (found out.2) m out.1 := by
  have same : ∀ {queue : List Job}, AllHeard m.queue queue → Accounted m.queue queue :=
    fun heard => .of_forall₂ (heard.imp fun _ _ => Becomes.heir)
  cases h with
  | refused heard => exact .of_queue rfl (same heard)
  | unread heard => exact .of_queue rfl (same heard)
  | stuck heard _ sorts =>
    have account := sorts.accounted
    rw [sorts.completed_of_error] at account
    exact .of_queue rfl ((same heard).trans account)
  | sorted heard _ sorts => exact .of_queue rfl ((same heard).trans sorts.accounted)

theorem Idles.moved {service : Service σ} {rounds : Nat} {a b : Manager × World σ} (h : Idles service rounds a b) :
    Moved [] a.1 b.1 := by
  induction h with
  | refl => exact .refl a.1
  | tail _ idle ih =>
    obtain ⟨w, pass, -⟩ := idle
    exact ih.trans (pass_ensures service rounds _ _ _ _ pass).moved

theorem awaitCompleted_moved (service : Service σ) (rounds passes : Nat) (m : Manager) (w : World σ) :
    Act.Ensures (awaitCompleted service rounds passes m) w fun out _ => Moved (found out.2) m out.1 := by
  refine (awaitCompleted_ensures service rounds passes m w).mono ?_
  rintro out w' ⟨m₁, w₁, idles, last, -⟩
  exact idles.moved.trans (pass_ensures service rounds m₁ w₁ _ _ last).moved

theorem fill_moved {service : Service σ} {rounds : Nat} {m m' : Manager} {w w' : World σ}
    (run : m.fill service rounds w = some ((m', .ok ()), w')) :
    Moved [] m m' ∧ ¬ StartFails service rounds m w := by
  have fill := fill_ensures service rounds m w _ _ run
  have fine : ¬ StartFails service rounds m w := fun failed => by simpa using fill.error_of_fails failed
  obtain ⟨gone, moved, whether⟩ := fill.moved
  obtain rfl : gone = [] := whether.2 fine
  exact ⟨moved, fine⟩

theorem Opened.moved {service : Service σ} {rounds : Nat} {m m₁ : Manager} {w w₁ : World σ}
    (h : Opened service rounds m w m₁ w₁) :
    Moved [] m m₁ ∧ ¬ (m.queue = [] ∧ StartFails service rounds m w) := by
  cases h with
  | busy running => exact ⟨.refl m, fun h => running h.1⟩
  | filled empty opening => exact ⟨(fill_moved opening).1, fun h => (fill_moved opening).2 h.2⟩

/-! ## Calls and histories -/

/-- The call lets jobs go: a start fails as an empty queue is filled at the beginning, or the queue cannot be filled
after jobs were found. -/
def LetsGo (service : Service σ) (rounds : Nat) (m : Manager) (w : World σ) : Prop :=
  (m.queue = [] ∧ StartFails service rounds m w) ∨
  ∃ m₁ w₁ m₂ w₂ done m₃ w₃ cause,
    Opened service rounds m w m₁ w₁ ∧ m₁.queue ≠ [] ∧
    awaitCompleted service rounds rounds m₁ w₁ = some ((m₂, .ok done), w₂) ∧
    m₂.fill service rounds w₂ = some ((m₃, .error cause), w₃)

theorem letsGo_of_opened {service : Service σ} {rounds : Nat} {m m₁ : Manager} {w w₁ : World σ}
    (opened : Opened service rounds m w m₁ w₁) (running : m₁.queue ≠ []) :
    LetsGo service rounds m w ↔ ∃ m₂ w₂ done m₃ w₃ cause,
      awaitCompleted service rounds rounds m₁ w₁ = some ((m₂, .ok done), w₂) ∧
      m₂.fill service rounds w₂ = some ((m₃, .error cause), w₃) := by
  constructor
  · rintro (early | ⟨m', w', m₂, w₂, done, m₃, w₃, cause, opened', -, waiting, closing⟩)
    · exact absurd early opened.moved.2
    · obtain ⟨rfl, rfl⟩ := opened.unique opened'
      exact ⟨m₂, w₂, done, m₃, w₃, cause, waiting, closing⟩
  · rintro ⟨m₂, w₂, done, m₃, w₃, cause, waiting, closing⟩
    exact .inr ⟨m₁, w₁, m₂, w₂, done, m₃, w₃, cause, opened, running, waiting, closing⟩

theorem letsGo_of_empty {service : Service σ} {rounds : Nat} {m : Manager} {w : World σ} (empty : m.queue = [])
    (unfilled : ∀ m₁ w₁, m.fill service rounds w = some ((m₁, .ok ()), w₁) → m₁.queue = []) :
    LetsGo service rounds m w ↔ StartFails service rounds m w := by
  constructor
  · rintro (early | ⟨m₁, w₁, _, _, _, _, _, _, opened, running, -⟩)
    · exact early.2
    · cases opened with
      | busy => exact absurd empty running
      | filled _ opening => exact absurd (unfilled m₁ w₁ opening) running
  · exact fun failed => .inl ⟨empty, failed⟩

theorem NextRun.error_of_letsGo {service : Service σ} {rounds : Nat} {m : Manager} {w w' : World σ}
    {out : Manager × Except JobError (Option (List Job))} (h : NextRun service rounds m w out w')
    (gone : LetsGo service rounds m w) : ∃ cause, out.2 = .error cause := by
  cases h with
  | unopened | interrupted | unclosed => exact ⟨_, rfl⟩
  | ended empty opening still =>
    have failed : StartFails service rounds m w := by
      refine (letsGo_of_empty empty ?_).1 gone
      intro m₁ w₁ opening'
      rw [opening] at opening'
      cases opening'
      exact still
    exact absurd failed (fill_moved opening).2
  | returned opened running waiting closing =>
    obtain ⟨m₂, w₂, done, m₃, w₃, cause, waiting', closing'⟩ := (letsGo_of_opened opened running).1 gone
    rw [waiting] at waiting'
    cases waiting'
    simp [closing] at closing'

/-- A call moves jobs to those that it hands out and to those that it lets go. -/
theorem NextRun.moved {service : Service σ} {rounds : Nat} {m : Manager} {w w' : World σ}
    {out : Manager × Except JobError (Option (List Job))} (h : NextRun service rounds m w out w') :
    ∃ lost, Moved (handed out.2 ++ lost) m out.1 ∧ (lost = [] ↔ ¬ LetsGo service rounds m w) := by
  cases h with
  | unopened empty opening =>
    obtain ⟨gone, moved, whether⟩ := (fill_ensures service rounds m w _ _ opening).moved
    refine ⟨gone, moved, whether.trans (not_congr (letsGo_of_empty empty ?_).symm)⟩
    intro m₁ w₁ opening'
    simp [opening] at opening'
  | ended empty opening still =>
    refine ⟨[], (fill_moved opening).1, iff_of_true rfl fun gone => ?_⟩
    simpa using NextRun.error_of_letsGo (.ended empty opening still) gone
  | interrupted opened running waiting =>
    refine ⟨[], opened.moved.1.trans (awaitCompleted_moved service rounds rounds _ _ _ _ waiting), ?_⟩
    rw [letsGo_of_opened opened running]
    simp [waiting]
  | @unclosed m₁ m₂ m' w₁ w₂ _ done cause opened running waiting closing =>
    obtain ⟨gone, moved, -⟩ := (fill_ensures service rounds m₂ w₂ _ _ closing).moved
    obtain ⟨_, _, -, -, some⟩ := awaitCompleted_ensures service rounds rounds m₁ w₁ _ _ waiting
    have nonempty : done ≠ [] := fun none => some (congrArg Except.ok none)
    have all := opened.moved.1.trans
      ((awaitCompleted_moved service rounds rounds m₁ w₁ _ _ waiting).trans moved)
    refine ⟨done ++ gone, all, iff_of_false (by simp [nonempty]) ?_⟩
    rw [letsGo_of_opened opened running, not_not]
    exact ⟨m₂, w₂, done, m', w', cause, waiting, closing⟩
  | @returned m₁ m₂ m' w₁ w₂ _ done opened running waiting closing =>
    have all := opened.moved.1.trans
      ((awaitCompleted_moved service rounds rounds m₁ w₁ _ _ waiting).trans (fill_moved closing).1)
    refine ⟨[], all, iff_of_true rfl fun gone => ?_⟩
    simpa using NextRun.error_of_letsGo (.returned opened running waiting closing) gone

theorem History.moved {service : Service σ} {first m : Manager} {calls : List (NextCall σ)}
    (h : History service first calls m) :
    ∃ lost, Moved (handedOut calls ++ lost) first m ∧
      (lost = [] ↔ ∀ call ∈ calls, ¬ LetsGo service call.rounds call.manager call.world) := by
  induction h with
  | start => exact ⟨[], .refl first, by simp⟩
  | @call calls m m' w w' rounds result before run ih =>
    obtain ⟨lost, moved, whether⟩ := ih
    obtain ⟨lost', moved', whether'⟩ := (next_ensures service rounds m w _ _ run).moved
    -- Composing the moves puts the jobs lost earlier between those handed out earlier and now.
    refine ⟨lost ++ lost', (moved.trans moved').perm ?_, ?_⟩
    · simp only [handedOut, List.flatMap_append, List.flatMap_singleton, List.append_assoc]
      exact (List.perm_append_comm_assoc _ _ _).append_left _
    · rw [List.append_eq_nil_iff, whether, whether', List.forall_mem_append, List.forall_mem_singleton]

/-- The jobs drawn from a source, which are a prefix of it, correspond one to one to those handed out and those in
the queue, exactly if no call let jobs go. -/
theorem nothing_lost_iff {service : Service σ} {settings : ManagerSettings} {source : List Job}
    {calls : List (NextCall σ)} {m : Manager} (h : History service { settings, source } calls m) :
    ∃ drawn, source = drawn ++ m.source ∧
      (Accounted drawn (handedOut calls ++ m.queue) ↔
        ∀ call ∈ calls, ¬ LetsGo service call.rounds call.manager call.world) := by
  obtain ⟨lost, ⟨drawn, order, account⟩, whether⟩ := h.moved
  refine ⟨drawn, order, ?_⟩
  rw [← whether]
  constructor
  -- Both accounts start from the same jobs, so there is no room for one that was lost.
  · intro all
    have count := account.length_eq
    have count' := all.length_eq
    simp only [List.length_append, List.length_nil] at count count'
    exact List.length_eq_zero_iff.1 (by omega)
  · rintro rfl
    simpa using account

/-- The first report is refused. -/
def busyWorld : World Script := { remote := { submits := [.error (.request 503 "busy")] } }

theorem busy_run : ∃ m' w' cause, next Script.service 3 { source := [sampleJob] } busyWorld =
    some ((m', .error (.service cause)), w') ∧ m'.source = [] ∧ m'.queue = [] :=
  ⟨_, _, _, rfl, rfl, rfl⟩

theorem nothing_lost_iff_busy : ∃ calls m, History Script.service { source := [sampleJob] } calls m ∧
    calls ≠ [] ∧ ∃ drawn, [sampleJob] = drawn ++ m.source ∧
      (Accounted drawn (handedOut calls ++ m.queue) ↔
        ∀ call ∈ calls, ¬ LetsGo Script.service call.rounds call.manager call.world) := by
  obtain ⟨m', w', cause, run, -⟩ := busy_run
  have history : History Script.service { source := [sampleJob] } _ m' := .call .start run
  exact ⟨_, m', history, by simp, nothing_lost_iff history⟩

theorem busy_start_loses_job : ∃ calls m, History Script.service { source := [sampleJob] } calls m ∧
    ¬ ∃ drawn, [sampleJob] = drawn ++ m.source ∧ Accounted drawn (handedOut calls ++ m.queue) := by
  obtain ⟨m', w', cause, run, source, queue⟩ := busy_run
  refine ⟨_, m', .call .start run, ?_⟩
  rintro ⟨drawn, order, account⟩
  have count := account.length_eq
  rw [source, List.append_nil] at order
  simp [← order, queue, handedOut, handed] at count

theorem History.error_of_letsGo {service : Service σ} {first m : Manager} {calls : List (NextCall σ)}
    (h : History service first calls m) :
    ∀ call ∈ calls, LetsGo service call.rounds call.manager call.world → ∃ cause, call.result = .error cause := by
  induction h with
  | start => simp
  | call before run ih =>
    rw [List.forall_mem_append, List.forall_mem_singleton]
    exact ⟨ih, fun gone => (next_ensures service _ _ _ _ _ run).error_of_letsGo gone⟩

/-- As long as all calls return well, every job drawn from the source is handed out once or is in the queue, as itself
or as the group that it was split into, over the same interval. Jobs that can be told apart by their intervals stay
so. -/
theorem handed_out_once {service : Service σ} {settings : ManagerSettings} {source : List Job}
    {calls : List (NextCall σ)} {m : Manager} (h : History service { settings, source } calls m)
    (fine : ∀ call ∈ calls, ∃ out, call.result = .ok out) :
    ∃ drawn, source = drawn ++ m.source ∧ Accounted drawn (handedOut calls ++ m.queue) ∧
      (drawn.map Job.interval).Perm ((handedOut calls ++ m.queue).map Job.interval) ∧
      ((source.map Job.interval).Nodup → ((handedOut calls ++ m.queue).map Job.interval).Nodup) := by
  obtain ⟨lost, ⟨drawn, order, account⟩, whether⟩ := h.moved
  have kept : lost = [] := by
    refine whether.2 fun call mem gone => ?_
    obtain ⟨out, returned⟩ := fine call mem
    obtain ⟨cause, failed⟩ := h.error_of_letsGo call mem gone
    simp [returned] at failed
  subst kept
  rw [List.nil_append, List.append_nil] at account
  refine ⟨drawn, order, account, account.intervals, fun distinct => account.intervals.nodup ?_⟩
  have order : source = drawn ++ m.source := order
  rw [order, List.map_append] at distinct
  exact distinct.of_append_left

/-- So many calls, one after another. -/
def nextCalls (service : Service σ) (rounds : Nat) (m : Manager) (w : World σ) :
    Nat → Option (List (NextCall σ) × Manager × World σ)
  | 0 => some ([], m, w)
  | n + 1 => (nextCalls service rounds m w n).bind fun (calls, m, w) =>
      (m.next service rounds w).map fun ((m', result), w') => (calls ++ [⟨m, w, rounds, result⟩], m', w')

theorem history_of_nextCalls {service : Service σ} {rounds n : Nat} {first m : Manager} {w w' : World σ}
    {calls : List (NextCall σ)} (run : nextCalls service rounds first w n = some (calls, m, w')) :
    History service first calls m := by
  induction n generalizing calls m w' with
  | zero =>
    cases run
    exact .start
  | succ n ih =>
    obtain ⟨⟨before, m₁, w₁⟩, earlier, later⟩ := Option.bind_eq_some_iff.1 run
    obtain ⟨⟨⟨m₂, result⟩, w₂⟩, last, same⟩ := Option.map_eq_some_iff.1 later
    cases same
    exact .call (ih earlier) last

/-- Reports on three days in a row. -/
def threeDays : List Job :=
  [sampleJob, .report { ReportJob.sample with interval := .day ⟨18629, by decide⟩ },
    .report { ReportJob.sample with interval := .day ⟨18630, by decide⟩ }]

/-- Two jobs may run at a time. -/
def narrow : Manager := { settings := { maxQueue := 2 }, source := threeDays }

/-- The report on the first day fails twice and is split by two campaigns. All other runs complete. -/
def splitWorld : World Script :=
  { remote :=
      { defaultStatus := .ok (.named "Job Completed")
        status := [("run-1", [.ok (.named "Job Failed")]), ("run-3", [.ok (.named "Job Failed")])]
        probes := [.ok (.array [.object [("campaign_id", .text "7")], .object [("campaign_id", .text "8")]])] } }

/-- The days of the jobs that are handed out, and how many leaves each of them has. -/
def days (result : Except JobError (Option (List Job))) : List (Int × Nat) :=
  (handed result).map fun job => (job.interval.start.day, job.leaves.length)

/-- The second day is handed out first, then the third one, which had no room before, and last the parts of the first
one. -/
theorem narrow_run : ∃ calls m w', nextCalls Script.service 4 narrow splitWorld 3 = some (calls, m, w') ∧
    (∀ call ∈ calls, ∃ out, call.result = .ok out) ∧
    calls.map (days ·.result) = [[(18629, 1)], [(18630, 1)], [(18628, 2)]] := by
  have run : (nextCalls Script.service 4 narrow splitWorld 3).map (fun out =>
      out.1.all (·.result.isOk) && out.1.map (days ·.result) = [[(18629, 1)], [(18630, 1)], [(18628, 2)]]) =
        some true := by
    decide +kernel
  rw [Option.map_eq_some_iff] at run
  obtain ⟨⟨calls, m, w'⟩, run, seen⟩ := run
  simp only [Bool.and_eq_true, List.all_eq_true, decide_eq_true_eq] at seen
  refine ⟨calls, m, w', run, fun call mem => ?_, seen.2⟩
  have fine := seen.1 call mem
  cases result : call.result with
  | ok out => exact ⟨out, rfl⟩
  | error cause => simp [result, Except.isOk, Except.toBool] at fine

theorem handed_out_once_narrow : ∃ calls m, History Script.service narrow calls m ∧
    (∀ call ∈ calls, ∃ out, call.result = .ok out) ∧
    calls.map (days ·.result) = [[(18629, 1)], [(18630, 1)], [(18628, 2)]] ∧
    ∃ drawn, threeDays = drawn ++ m.source ∧ Accounted drawn (handedOut calls ++ m.queue) ∧
      (drawn.map Job.interval).Perm ((handedOut calls ++ m.queue).map Job.interval) ∧
      ((threeDays.map Job.interval).Nodup → ((handedOut calls ++ m.queue).map Job.interval).Nodup) := by
  obtain ⟨calls, m, w', run, fine, handed⟩ := narrow_run
  have history := history_of_nextCalls run
  exact ⟨calls, m, history, fine, handed, handed_out_once history fine⟩

end AsyncReports.Manager
