import AsyncReports.Proofs.Ends
import AsyncReports.Proofs.Job.Attempts
import AsyncReports.Proofs.Job.Sweep
import AsyncReports.Proofs.ReportJob.Isolation
import AsyncReports.Script

set_option autoImplicit false

/-!
# Restarting a group

A group of report jobs in use is started, restarted and updated, and its members may hear answers to checks that wait
in other batches. All the while one of its members is at the attempt of the group, or beyond it. So a restart that gets
through leaves the group at the greatest attempt of its members, whatever has happened before.
-/

namespace AsyncReports

variable {σ : Type} {service : Service σ}

namespace ReportJob

/-- The report job is what operations have made of a new one. -/
def InUse (leaf : ReportJob) : Prop :=
  ∃ (σ : Type) (service : Service σ) (edge : Edge) (params : Params) (interval : Interval) (settings : Settings)
    (desk : Desk), Desk.Reached service (.new edge params interval settings) desk ∧ desk.job = leaf

theorem InUse.sound {leaf : ReportJob} (h : leaf.InUse) : leaf.progress.Sound := by
  obtain ⟨σ, service, edge, params, interval, settings, desk, reached, rfl⟩ := h
  exact reached.sound rfl _ List.mem_cons_self

theorem InUse.first_le {leaf : ReportJob} (h : leaf.InUse) : 1 ≤ leaf.attempt := by
  obtain ⟨σ, service, edge, params, interval, settings, desk, reached, rfl⟩ := h
  have changes := reached.changes
  clear reached
  induction changes with
  | refl => exact Nat.le_refl 1
  | tail _ change ih => exact Nat.le_trans ih change.attempt_le

/-- What every operation does at least: it keeps the job sound and takes no attempt back. -/
structure Onward (a b : ReportJob) : Prop where
  sound : a.progress.Sound → b.progress.Sound
  attempt : a.attempt ≤ b.attempt

theorem Onward.refl (a : ReportJob) : Onward a a := ⟨id, Nat.le_refl _⟩

theorem Heard.onward {a b : ReportJob} (h : Heard a b) : Onward a b := ⟨h.sound, Nat.le_of_eq h.attempt_eq.symm⟩

theorem HalfStart.onward {a b : ReportJob} (h : HalfStart a b) : Onward a b := by
  rcases h with rfl | ⟨fit, run, now, rfl⟩
  · exact .refl b
  · exact ⟨fun sound => fit.sound_launched sound run now, Nat.le_refl _⟩

theorem Swept.onward {a b : ReportJob} (h : Swept ReportJob.failed cleared a b) : Onward a b := by
  rcases h with ⟨-, rfl⟩ | ⟨-, run, now, rfl⟩
  · exact .refl b
  · exact ⟨fun _ => Startable.sound_launched ⟨rfl, rfl⟩ a.sound_cleared run now, Nat.le_succ _⟩

theorem Sweep.onward {leaves : List ReportJob} {w w' : World σ} {out : Outcome (List ReportJob)}
    (h : RestartSweep service leaves w out w') : List.Forall₂ Onward leaves out.1 :=
  h.related (fun _ _ => Swept.onward) (fun a _ => ⟨fun _ => a.sound_cleared, Nat.le_succ _⟩) Onward.refl

/-- The job was submitted again: it is at the next attempt, which has just been given a run. -/
def Resubmitted (a b : ReportJob) : Prop :=
  ∃ run now, b =
    { a with attempt := a.attempt + 1, progress := { status := .started, run := some run, startedAt := some now } }

end ReportJob

namespace Job

open ReportJob

/-- A group of report jobs in use, whatever the world is like at each operation. -/
inductive InUse : Job → Prop
  | new {g : Group} {leaves : List ReportJob} (first : g.attempt = 1) (used : ∀ leaf ∈ leaves, leaf.InUse) :
    InUse (.group g (leaves.map .report))
  | start {σ : Type} {service : Service σ} {job job' : Job} {result : Except JobError Unit} {w w' : World σ}
    (before : InUse job) (run : start service job w = some ((job', result), w')) : InUse job'
  | restart {σ : Type} {service : Service σ} {job job' : Job} {result : Except JobError Unit} {w w' : World σ}
    (before : InUse job) (run : restart service job w = some ((job', result), w')) : InUse job'
  | update {σ : Type} {service : Service σ} {rounds : Nat} {job job' : Job} {result : Except JobError Unit}
    {w w' : World σ} (before : InUse job) (run : update service rounds job w = some ((job', result), w')) : InUse job'
  /-- A member takes in the answer to a check that was queued elsewhere. -/
  | hear {σ : Type} {g : Group} {members members' : List Job} {slot : Slot} {answer : Answer Json} {w w' : World σ}
    (before : InUse (.group g members)) (run : receiveAt members slot answer w = some (members', w')) :
    InUse (.group g members')

/-- Of the members of a group, one is at the attempt of the group, or beyond it. -/
structure Paced (g : Group) (leaves : List ReportJob) : Prop where
  sound : ∀ leaf ∈ leaves, leaf.progress.Sound
  ahead : leaves ≠ [] → ∃ leaf ∈ leaves, g.attempt ≤ leaf.attempt

theorem Paced.onward {g g' : Group} {leaves leaves' : List ReportJob} (h : Paced g leaves)
    (onward : List.Forall₂ Onward leaves leaves')
    (counts : g'.attempt = g.attempt ∨ ∃ leaf ∈ leaves', g'.attempt = leaf.attempt) : Paced g' leaves' := by
  refine ⟨forall₂_carry (fun _ _ onward sound => onward.sound sound) onward h.sound, fun some_ => ?_⟩
  rcases counts with same | ⟨leaf, mem, same⟩
  · have before : leaves ≠ [] := by
      rintro rfl
      cases onward
      exact some_ rfl
    obtain ⟨leaf, mem, le⟩ := h.ahead before
    obtain ⟨leaf', mem', moved⟩ := forall₂_partner onward leaf mem
    exact ⟨leaf', mem', same ▸ Nat.le_trans le moved.attempt⟩
  · exact ⟨leaf, mem, Nat.le_of_eq same⟩

theorem Flat.exists_leaves {members : List Job} (h : Flat members) :
    ∃ leaves : List ReportJob, members = leaves.map .report := by
  induction members with
  | nil => exact ⟨[], rfl⟩
  | cons member rest ih =>
    obtain ⟨⟨leaf, rfl⟩, flat⟩ := List.forall_mem_cons.1 h
    obtain ⟨leaves, rfl⟩ := ih flat
    exact ⟨leaf :: leaves, rfl⟩

/-- A group of report jobs stays one. -/
theorem Becomes.of_reports {r : ReportJob → ReportJob → Prop} {g : Group} {leaves : List ReportJob} {job : Job}
    (h : Becomes r (.group g (leaves.map .report)) job) :
    ∃ g' leaves', job = .group g' (leaves'.map .report) ∧ List.Forall₂ r leaves leaves' := by
  obtain ⟨g', members', rfl, made, related⟩ := h.of_group
  have flat : Flat (leaves.map .report) := by simp [Flat]
  obtain ⟨leaves', rfl⟩ := (flat.of_made made).exists_leaves
  rw [leaves_of_reports, leaves_of_reports] at related
  exact ⟨g', leaves', rfl, related⟩

theorem Paced.becomes {r : ReportJob → ReportJob → Prop} {g : Group} {leaves : List ReportJob} {job : Job}
    (h : Paced g leaves) (becomes : Becomes r (.group g (leaves.map .report)) job)
    (onward : ∀ a b, r a b → Onward a b) (same : job.attempt = g.attempt) :
    ∃ g' leaves', job = .group g' (leaves'.map .report) ∧ Paced g' leaves' := by
  obtain ⟨g', leaves', rfl, related⟩ := becomes.of_reports
  exact ⟨g', leaves', rfl, h.onward (related.imp onward) (.inl same)⟩

theorem restart_paced {g : Group} {leaves : List ReportJob} (h : Paced g leaves) (w : World σ) :
    Act.Ensures (restart service (.group g (leaves.map .report))) w fun out _ =>
      ∃ g' leaves', out.1 = .group g' (leaves'.map .report) ∧ Paced g' leaves' := by
  by_cases broken : ∃ leaf ∈ leaves, leaf.failed
  · refine (restart_sweep service g h.sound broken w).mono ?_
    rintro ⟨_, result⟩ w' ⟨leaves', attempt, rfl, sweep, counts⟩
    exact ⟨_, leaves', rfl, h.onward sweep.onward counts.taken⟩
  · rw [restart_of_fine service g broken]
    exact Act.ensures_pure.2 ⟨g, leaves, rfl, h⟩

theorem start_onward (job : Job) (w : World σ) :
    Act.Ensures (start service job) w fun out _ => Becomes Onward job out.1 := by
  refine (start_ensures service job w).mono ?_
  rintro ⟨job', _ | _⟩ _ h
  · exact h.1.mono fun _ _ => HalfStart.onward
  · exact h.mono fun _ _ launch => HalfStart.onward (.inr launch)

theorem update_heard (rounds : Nat) (g : Group) (members : List Job) (w : World σ) :
    Act.Ensures (update service rounds (.group g members)) w fun out _ =>
      Becomes Heard (.group g members) out.1 ∧ out.1.attempt = g.attempt := by
  simp only [update, Act.ensures_bind, Act.ensures_pure]
  refine ((poll_ensures service rounds 0 (.group g members) w).and (poll_attempt rounds 0 (.group g members) w)).mono ?_
  rintro _ _ ⟨⟨heard, -⟩, same⟩
  exact ⟨heard, same⟩

/-- Every operation keeps a group in step with its members. -/
theorem InUse.paced {job : Job} (h : InUse job) :
    ∃ g leaves, job = .group g (leaves.map .report) ∧ Paced g leaves := by
  induction h with
  | @new g leaves first used =>
    refine ⟨g, leaves, rfl, fun leaf mem => (used leaf mem).sound, fun some_ => ?_⟩
    obtain ⟨leaf, mem⟩ := List.exists_mem_of_ne_nil leaves some_
    exact ⟨leaf, mem, first ▸ (used leaf mem).first_le⟩
  | start _ run ih =>
    obtain ⟨g, leaves, rfl, paced⟩ := ih
    exact paced.becomes (start_onward _ _ _ _ run) (fun _ _ => id) (start_attempt _ _ _ _ run)
  | restart _ run ih =>
    obtain ⟨g, leaves, rfl, paced⟩ := ih
    exact restart_paced paced _ _ _ run
  | update _ run ih =>
    obtain ⟨g, leaves, rfl, paced⟩ := ih
    obtain ⟨heard, same⟩ := update_heard _ g _ _ _ _ run
    exact paced.becomes heard (fun _ _ => Heard.onward) same
  | @hear _ g members _ _ _ _ _ _ run ih =>
    obtain ⟨_, leaves, same, paced⟩ := ih
    obtain ⟨rfl, rfl⟩ := Job.group.inj same
    have heard := receiveAt_ensures (leaves.map .report) _ _ _ _ _ run
    have becomes : Becomes Heard (.group g (leaves.map .report)) (.group { g with attempt := g.attempt } _) :=
      .group heard
    exact paced.becomes becomes (fun _ _ => Heard.onward) rfl

theorem InUse.paced_leaves {g : Group} {leaves : List ReportJob} (h : InUse (.group g (leaves.map .report))) :
    Paced g leaves := by
  obtain ⟨g', leaves', same, paced⟩ := h.paced
  obtain ⟨rfl, reports⟩ := Job.group.inj same
  rwa [(List.map_inj_right fun _ _ => Job.report.inj).1 reports]

/-- What a restart of a group has done that got through: the members that have failed were submitted again, once each
and in order, and the others are as they were. The attempt of the group is the greatest of all, which is the greatest of
its members. -/
structure Restarted (g : Group) (leaves : List ReportJob) (w : World σ) (g' : Group) (leaves' : List ReportJob)
    (w' : World σ) : Prop where
  group : g' = { g with attempt := g'.attempt }
  members : List.Forall₂ (fun leaf leaf' => if leaf.failed then Resubmitted leaf leaf' else leaf' = leaf) leaves leaves'
  calls : w'.calls = w.calls ++ (leaves.filter (·.failed)).map request
  unfailed : (Job.group g' (leaves'.map .report)).failed = false
  uncompleted : (Job.group g' (leaves'.map .report)).completed = false
  greatest : (g.attempt :: leaves'.map (·.attempt)).max? = some g'.attempt
  level : (leaves'.map (·.attempt)).max? = some g'.attempt

theorem restarted_of_sweep {g : Group} {leaves leaves' : List ReportJob} {attempt : Nat} {w w' : World σ}
    (paced : Paced g leaves) (broken : ∃ leaf ∈ leaves, leaf.failed)
    (sweep : RestartSweep service leaves w (leaves', .ok ()) w') (counts : Counts g.attempt leaves' attempt (.ok ())) :
    Restarted g leaves w { g with attempt } leaves' w' := by
  have paced' : Paced { g with attempt } leaves' := paced.onward sweep.onward counts.taken
  obtain ⟨leaf, mem, failed⟩ := broken
  obtain ⟨_, mem', -⟩ := forall₂_partner sweep.onward leaf mem
  obtain ⟨ahead, here, le⟩ := paced'.ahead (List.ne_nil_of_mem mem')
  have level : (leaves'.map (·.attempt)).max? = some attempt := by
    rw [List.max?_eq_some_iff, List.forall_mem_map]
    have greatest := counts.greatest rfl
    exact ⟨List.mem_map.2 ⟨ahead, here, Nat.le_antisymm (greatest ahead here) le⟩, greatest⟩
  cases sweep with
  | whole each calls =>
    refine ⟨rfl, each.imp ?members, calls, ?unfailed, ?uncompleted, ?greatest, level⟩
    case members =>
      rintro leaf _ (⟨fine, rfl⟩ | ⟨failed, run, now, rfl⟩)
      · rw [fine, if_neg Bool.false_ne_true]
      · rw [if_pos failed]
        exact ⟨run, now, rfl⟩
    case unfailed =>
      rw [← Bool.not_eq_true, group_failed_iff]
      rintro ⟨leaf', mem, failed⟩
      rw [unfailed_of_swept each leaf' mem] at failed
      cases failed
    case uncompleted =>
      obtain ⟨leaf', mem, ⟨fine, -⟩ | ⟨-, run, now, rfl⟩⟩ := forall₂_partner each leaf mem
      · rw [failed] at fine
        cases fine
      · rw [completed_eq_all, Job.leaves, leaves_of_reports, List.all_eq_false]
        exact ⟨_, mem, Bool.false_ne_true⟩
    case greatest =>
      rw [List.max?_eq_some_iff, List.forall_mem_cons]
      rw [List.max?_eq_some_iff] at level
      exact ⟨List.mem_cons_of_mem _ level.1, counts.known, level.2⟩

/-- A restart of a group of report jobs in use always returns. It is a misuse exactly if no member has failed, and then
it does nothing. If it gets through, the failed members have been submitted again, and nothing else has happened. -/
theorem restart_of_inUse (service : Service σ) {g : Group} {leaves : List ReportJob}
    (used : InUse (.group g (leaves.map .report))) (w : World σ) :
    ∃ out w', restart service (.group g (leaves.map .report)) w = some (out, w') ∧
      ((∃ label misuse, out.2 = .error (.misuse label misuse)) ↔ ∀ leaf ∈ leaves, leaf.failed = false) ∧
      ((∀ leaf ∈ leaves, leaf.failed = false) → w' = w ∧
        out = (.group g (leaves.map .report),
          .error (.misuse (Job.group g (leaves.map .report)).label .restartUnfailed))) ∧
      (out.2 = .ok () →
        ∃ g' leaves', out.1 = .group g' (leaves'.map .report) ∧ Restarted g leaves w g' leaves' w') := by
  have paced := used.paced_leaves
  obtain ⟨out, w', run⟩ := restart_total service (.group g (leaves.map .report)) w
  refine ⟨out, w', run, ?_⟩
  by_cases broken : ∃ leaf ∈ leaves, leaf.failed
  · obtain ⟨leaves', attempt, restarted, sweep, counts⟩ := restart_sweep service g paced.sound broken w _ _ run
    have spoiled : ¬ ∀ leaf ∈ leaves, leaf.failed = false := by simpa using broken
    refine ⟨⟨?_, fun fine => absurd fine spoiled⟩, fun fine => absurd fine spoiled, fun done => ?_⟩
    · rintro ⟨label, misuse, error⟩
      obtain ⟨cause, other⟩ := sweep.blames error
      cases other
    · rw [done] at sweep counts
      exact ⟨_, leaves', restarted, restarted_of_sweep paced broken sweep counts⟩
  · have fine : ∀ leaf ∈ leaves, leaf.failed = false := by simpa using broken
    rw [restart_of_fine service g broken] at run
    obtain ⟨rfl, rfl⟩ := Act.pure_eq_some.1 run
    exact ⟨⟨fun _ => fine, fun _ => ⟨_, _, rfl⟩⟩, fun _ => ⟨rfl, rfl⟩, nofun⟩

def pairGroup : Group := { interval := ReportJob.sample.interval }

def newMembers : List ReportJob := [.sample, .sample]

/-- Two reports in one group, neither of them started. -/
def newPair : Job := .group pairGroup (newMembers.map .report)

theorem newPair_inUse : InUse newPair := by
  have sample : ReportJob.sample.InUse := ⟨Script, Script.service, _, _, _, _, _, .new, rfl⟩
  exact .new rfl (by simpa [newMembers] using sample)

/-- The first run fails, and all others complete. -/
def firstFails : World Script :=
  { remote := { status := [("run-1", [.ok (.named "Job Failed")])], defaultStatus := .ok (.named "Job Completed") } }

theorem newPair_run : ∃ started w₁ polled w₂ out w₃, start Script.service newPair firstFails = some (started, w₁) ∧
    update Script.service 3 started.1 w₁ = some (polled, w₂) ∧ polled.1.leaves.map ReportJob.failed = [true, false] ∧
    restart Script.service polled.1 w₂ = some (out, w₃) ∧ out.2.isOk ∧ out.1.attempt = 2 := by
  have run : ((start Script.service newPair firstFails).bind fun out₁ =>
      (update Script.service 3 out₁.1.1 out₁.2).bind fun out₂ =>
        (restart Script.service out₂.1.1 out₂.2).map fun out₃ =>
          (out₂.1.1.leaves.map ReportJob.failed, out₃.1.2.isOk, out₃.1.1.attempt)) = some ([true, false], true, 2) := by
    decide +kernel
  rw [Option.bind_eq_some_iff] at run
  obtain ⟨⟨started, w₁⟩, starts, run⟩ := run
  rw [Option.bind_eq_some_iff] at run
  obtain ⟨⟨polled, w₂⟩, polls, run⟩ := run
  rw [Option.map_eq_some_iff] at run
  obtain ⟨⟨out, w₃⟩, restarts, seen⟩ := run
  simp only [Prod.mk.injEq] at seen
  exact ⟨started, w₁, polled, w₂, out, w₃, starts, polls, seen.1, restarts, seen.2.1, seen.2.2⟩

theorem restart_of_inUse_newPair : ∃ g leaves w g' leaves' w', InUse (.group g (leaves.map .report)) ∧
    leaves.map ReportJob.failed = [true, false] ∧
    restart Script.service (.group g (leaves.map .report)) w = some ((.group g' (leaves'.map .report), .ok ()), w') ∧
    Restarted g leaves w g' leaves' w' ∧ g'.attempt = 2 := by
  obtain ⟨started, w₁, polled, w₂, out, w₃, starts, polls, failing, restarts, ok, attempt⟩ := newPair_run
  have used : InUse polled.1 := (newPair_inUse.start starts).update polls
  obtain ⟨g, leaves, same, -⟩ := used.paced
  rw [same] at used restarts failing
  rw [Job.leaves, leaves_of_reports] at failing
  obtain ⟨out', w', run, -, -, done⟩ := restart_of_inUse Script.service used w₂
  cases restarts.symm.trans run
  obtain ⟨job, _ | _⟩ := out
  · cases ok
  · obtain ⟨g', leaves', rfl, restarted⟩ := done rfl
    exact ⟨g, leaves, w₂, g', leaves', w₃, used, failing, run, restarted, attempt⟩

end Job

end AsyncReports
