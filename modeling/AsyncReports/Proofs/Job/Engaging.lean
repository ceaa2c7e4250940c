import AsyncReports.Proofs.Job.Progress
import AsyncReports.Proofs.Job.Submission

set_option autoImplicit false

/-!
# Submitting to an obliging service

Reports are submitted where a task calls for it: when a job is started, when what has failed of it is restarted, and
when the parts that a report was split into are started. An obliging service grants all of this, and the jobs are
engaged then.
-/

namespace AsyncReports

variable {σ : Type} {service : Service σ} {others : σ → σ → Prop} {limit : Float} {whole : Bool}

open ReportJob Service

namespace ReportJob

theorem Submits.deals {leaf : ReportJob} {w w' : World σ} {out : Outcome ReportJob} (h : Submits service leaf w out w')
    (obliging : service.Obliging others limit ⟨w.remote, leaf.tasks whole⟩) (fit : leaf.Startable)
    (sound : leaf.progress.Sound) :
    service.Deals others ⟨w.remote, leaf.tasks whole⟩ ⟨w'.remote, out.1.tasks whole⟩ ∧ out.2 = .ok () ∧
      Engaged out.1 := by
  have idle : leaf.tasks whole = {⟨leaf.asMade, whole, none⟩} := tasks_idle fit.1
  rw [idle] at obliging ⊢
  cases h with
  | granted run log answer =>
    have open_ : (leaf.launched run w.clock).completed = false := sound.unfinished fit.1
    have going : (leaf.launched run w.clock).tasks whole = {⟨leaf.asMade, whole, some run.id⟩} :=
      tasks_running rfl open_
    refine ⟨?_, rfl, fit.sound_launched sound run w.clock, fun _ => ⟨rfl, rfl⟩⟩
    rw [going]
    exact (Exchange.submit ⟨leaf.asMade, whole, none⟩ rfl 0 answer).deals
  | refused cause answer =>
    obtain ⟨run, granted⟩ := obliging.submits _ (.refl _) _ (Multiset.mem_singleton_self _) rfl
    have granted : (service.submit leaf.edge leaf.params w.remote).1 = .ok run := granted
    rw [answer] at granted
    cases granted

theorem start_deals {leaf : ReportJob} {w : World σ}
    (obliging : service.Obliging others limit ⟨w.remote, leaf.tasks whole⟩) (fresh : leaf.progress = {}) :
    Act.Ensures (leaf.start service) w fun out w' =>
      service.Deals others ⟨w.remote, leaf.tasks whole⟩ ⟨w'.remote, out.1.tasks whole⟩ ∧ out.2 = .ok () ∧
        Engaged out.1 := by
  have sound : leaf.progress.Sound := by rw [fresh]; exact .initial
  refine (start_submits service (.of_fresh fresh) w).mono ?_
  exact fun out w' submits => submits.deals obliging (.of_fresh fresh) sound

theorem restart_deals {leaf : ReportJob} {w : World σ}
    (obliging : service.Obliging others limit ⟨w.remote, leaf.tasks whole⟩) (sound : leaf.progress.Sound)
    (failed : leaf.failed) :
    Act.Ensures (leaf.restart service) w fun out w' =>
      service.Deals others ⟨w.remote, leaf.tasks whole⟩ ⟨w'.remote, out.1.tasks whole⟩ ∧ out.2 = .ok () ∧
        Engaged out.1 := by
  -- A failed job leaves the same to do as the job that is cleared.
  have same : leaf.tasks whole = leaf.cleared.tasks whole := tasks_failed sound failed
  rw [same] at obliging ⊢
  refine (restart_submits service (restartable_of_failed sound failed) w).mono ?_
  exact fun out w' submits => submits.deals obliging ⟨rfl, rfl⟩ leaf.sound_cleared

end ReportJob

namespace Job

theorem dealings_cons (s : σ) (job : Job) (rest : List Job) :
    dealings whole s (job :: rest) = (dealings whole s [job]).beside (allTasks whole rest) :=
  dealings_append s [job] rest

theorem dealings_tail (s : σ) (job : Job) (rest : List Job) :
    dealings whole s (job :: rest) = (dealings whole s rest).beside (job.tasks whole) := by
  rw [dealings, allTasks_cons, add_comm, dealings, Dealings.beside]

theorem dealings_perm (s : σ) {jobs jobs' : List Job} (h : jobs.Perm jobs') :
    dealings whole s jobs = dealings whole s jobs' := by
  rw [dealings, allTasks_perm h, dealings]

theorem dealings_report (s : σ) (leaf : ReportJob) : dealings whole s [.report leaf] = ⟨s, leaf.tasks whole⟩ := by
  simp [dealings, tasks]

/-- Jobs that were asked for, with an obliging service: they have made the requests, and they are engaged. -/
structure Granted (service : Service σ) (others : σ → σ → Prop) (whole : Bool) (s s' : σ) (jobs jobs' : List Job)
    (result : Except JobError Unit) : Prop where
  deals : service.Deals others (dealings whole s jobs) (dealings whole s' jobs')
  fine : result = .ok ()
  engaged : AllEngaged jobs'

theorem Granted.cons {s s₁ s₂ : σ} {job job' : Job} {rest rest' : List Job} {result result' : Except JobError Unit}
    (h : Granted service others whole s s₁ [job] [job'] result)
    (h' : Granted service others whole s₁ s₂ rest rest' result') :
    Granted service others whole s s₂ (job :: rest) (job' :: rest') result' := by
  refine ⟨?_, h'.fine, List.forall_mem_cons.2 ⟨h.engaged job' (List.mem_singleton_self job'), h'.engaged⟩⟩
  have first := h.deals.beside (allTasks whole rest)
  rw [← dealings_cons, ← dealings_cons] at first
  have later := h'.deals.beside (job'.tasks whole)
  rw [← dealings_tail, ← dealings_tail] at later
  exact first.trans later

/-- What an obliging service grants for the first job, it goes on to grant for the others. -/
theorem Granted.rest {s s₁ : σ} {job job' : Job} {rest : List Job} {result : Except JobError Unit}
    (h : Granted service others whole s s₁ [job] [job'] result)
    (obliging : service.Obliging others limit (dealings whole s (job :: rest))) :
    service.Obliging others limit (dealings whole s₁ rest) := by
  have first := h.deals.beside (allTasks whole rest)
  rw [← dealings_cons, ← dealings_cons] at first
  have later := obliging.deals first
  rw [dealings_tail] at later
  exact later.of_beside

theorem Granted.report {s s' : σ} {leaf leaf' : ReportJob} {result : Except JobError Unit}
    (deals : service.Deals others ⟨s, leaf.tasks whole⟩ ⟨s', leaf'.tasks whole⟩) (fine : result = .ok ())
    (engaged : Engaged leaf') : Granted service others whole s s' [.report leaf] [.report leaf'] result := by
  refine ⟨by rw [dealings_report, dealings_report]; exact deals, fine, List.forall_mem_singleton.2 ?_⟩
  exact fun leaf mem => List.mem_singleton.1 mem ▸ engaged

theorem Granted.group {s s' : σ} {g g' : Group} {members members' : List Job} {result : Except JobError Unit}
    (h : Granted service others false s s' members members' result) :
    Granted service others whole s s' [.group g members] [.group g' members'] result := by
  refine ⟨?_, h.fine, List.forall_mem_singleton.2 (forall_allLeaves.2 h.engaged)⟩
  rw [dealings_group, dealings_group]
  exact h.deals

mutual
theorem start_granted : ∀ (whole : Bool) (job : Job) {w : World σ},
    service.Obliging others limit (dealings whole w.remote [job]) → job.All (·.progress = {}) →
    Act.Ensures (start service job) w fun out w' =>
      Granted service others whole w.remote w'.remote [job] [out.1] out.2
  | whole, .report leaf, w, obliging, fresh => by
    rw [dealings_report] at obliging
    simp only [start, Act.ensures_bind, Act.ensures_pure]
    refine (ReportJob.start_deals obliging (fresh leaf (List.mem_singleton_self leaf))).mono ?_
    exact fun out w' done => .report done.1 done.2.1 done.2.2
  | whole, .group g members, w, obliging, fresh => by
    rw [dealings_group] at obliging
    simp only [start, Act.ensures_bind, Act.ensures_pure]
    refine (startAll_granted members obliging (forall_allLeaves.1 fresh)).mono ?_
    exact fun out w' done => done.group

theorem startAll_granted : ∀ (jobs : List Job) {w : World σ},
    service.Obliging others limit (dealings false w.remote jobs) → (∀ job ∈ jobs, job.All (·.progress = {})) →
    Act.Ensures (startAll service jobs) w fun out w' =>
      Granted service others false w.remote w'.remote jobs out.1 out.2
  | [], w, _, _ => by
    rw [startAll, Act.ensures_pure]
    exact ⟨.refl _, rfl, List.forall_mem_nil _⟩
  | job :: rest, w, obliging, fresh => by
    have near := obliging
    rw [dealings_cons] at near
    rw [List.forall_mem_cons] at fresh
    simp only [startAll, Act.ensures_bind]
    refine (start_granted false job near.of_beside fresh.1).mono ?_
    rintro ⟨job', result⟩ w₁ head
    have fine : result = .ok () := head.fine
    subst fine
    simp only [Act.ensures_bind, Act.ensures_pure]
    refine (startAll_granted rest (head.rest obliging) fresh.2).mono ?_
    exact fun out w' tail => head.cons tail
end

mutual
theorem restart_granted : ∀ (whole : Bool) (job : Job) {w : World σ},
    service.Obliging others limit (dealings whole w.remote [job]) → job.failed → job.All Engaged →
    Act.Ensures (restart service job) w fun out w' =>
      Granted service others whole w.remote w'.remote [job] [out.1] out.2
  | whole, .report leaf, w, obliging, failed, engaged => by
    have known : Engaged leaf := engaged leaf (List.mem_singleton_self leaf)
    rw [dealings_report] at obliging
    simp only [restart, Act.ensures_bind, Act.ensures_pure]
    refine (ReportJob.restart_deals obliging known.sound failed).mono ?_
    exact fun out w' done => .report done.1 done.2.1 done.2.2
  | whole, .group g members, w, obliging, failed, engaged => by
    have failed : anyFailed members := failed
    rw [dealings_group] at obliging
    simp only [restart, failed, if_true, Act.ensures_bind]
    refine (restartFailed_granted g.attempt members obliging (forall_allLeaves.1 engaged)).mono ?_
    rintro ⟨members', attempt, result⟩ w₁ done
    have fine : result = .ok () := done.fine
    subst fine
    simp only [Act.ensures_bind, Act.ensures_log, Act.ensures_pure]
    exact done.group

theorem restartFailed_granted (attempt : Nat) : ∀ (jobs : List Job) {w : World σ},
    service.Obliging others limit (dealings false w.remote jobs) → AllEngaged jobs →
    Act.Ensures (restartFailed service attempt jobs) w fun out w' =>
      Granted service others false w.remote w'.remote jobs out.1 out.2.2
  | [], w, _, _ => by
    rw [restartFailed, Act.ensures_pure]
    exact ⟨.refl _, rfl, List.forall_mem_nil _⟩
  | job :: rest, w, obliging, engaged => by
    have near := obliging
    rw [dealings_cons] at near
    rw [AllEngaged, List.forall_mem_cons] at engaged
    have head : Act.Ensures (if job.failed then restart service job else pure (job, .ok ())) w fun out w' =>
        Granted service others false w.remote w'.remote [job] [out.1] out.2 := by
      split
      · rename_i failed
        exact restart_granted false job near.of_beside failed engaged.1
      · exact Act.ensures_pure.2 ⟨.refl _, rfl, List.forall_mem_singleton.2 engaged.1⟩
    rw [restartFailed_cons, Act.ensures_bind]
    refine head.mono ?_
    rintro ⟨job', result⟩ w₁ head
    have fine : result = .ok () := head.fine
    subst fine
    simp only [Act.ensures_bind, Act.ensures_pure]
    refine (restartFailed_granted (max attempt job'.attempt) rest (head.rest obliging) engaged.2).mono ?_
    exact fun out w' tail => head.cons tail
end

/-! ## Splitting -/

theorem allTasks_fresh {leaves : List ReportJob} (fresh : ∀ leaf ∈ leaves, leaf.asMade = leaf) :
    (leaves.map (ReportJob.tasks false)).sum = (leaves.map fun leaf => ⟨leaf, false, none⟩ : List Task) := by
  induction leaves with
  | nil => rfl
  | cons leaf rest ih =>
    rw [List.forall_mem_cons] at fresh
    obtain ⟨first, others⟩ := fresh
    have none : leaf.progress.run = none := by rw [← first]; rfl
    rw [List.map_cons, List.sum_cons, ih others, tasks_idle none, first, List.map_cons, ← Multiset.cons_coe,
      Multiset.singleton_add]

/-- The tasks of the parts that a report is split into. -/
theorem dealings_parts (s : σ) (leaf : ReportJob) (rows : List Row) : dealings whole s [leaf.parts rows] =
    ⟨s, ((leaf.parts rows).leaves.map fun part => ⟨part, false, none⟩ : List Task)⟩ := by
  have fresh : ∀ part ∈ (leaf.parts rows).leaves, part.asMade = part := by
    intro part mem
    rw [leaves_parts, List.mem_map] at mem
    obtain ⟨key, -, rfl⟩ := mem
    rfl
  rw [← allTasks_fresh fresh, ReportJob.parts, Split.group, dealings, allTasks_cons, allTasks_nil, add_zero, tasks]
  rfl

theorem split_deals {leaf : ReportJob} {w : World σ}
    (obliging : service.Obliging others limit (dealings true w.remote [.report leaf])) (sound : leaf.progress.Sound)
    (failed : leaf.failed) :
    Act.Ensures (leaf.split service) w fun out w' => ∃ rows, out = .ok (leaf.parts rows) ∧
      service.Deals others (dealings true w.remote [.report leaf]) (dealings true w'.remote [leaf.parts rows]) := by
  rw [dealings_report, tasks_failed sound failed] at obliging ⊢
  obtain ⟨rows, answer⟩ := obliging.probes _ (.refl _) _ (Multiset.mem_singleton_self _) rfl rfl
  have answer : (service.query leaf.edge leaf.probe w.remote).1 = .ok rows := answer
  have exchange : service.Exchange others _ _ := .probe ⟨leaf.asMade, true, none⟩ rfl rfl 0 answer
  rw [ReportJob.probe] at answer
  simp only [ReportJob.split, Service.queried, Act.ensures_bind, Act.ensures_call, answer, Act.ensures_log,
    Act.ensures_pure]
  refine ⟨rows, rfl, ?_⟩
  rw [add_zero] at exchange
  rw [dealings_parts]
  exact exchange.deals

end Job

end AsyncReports
