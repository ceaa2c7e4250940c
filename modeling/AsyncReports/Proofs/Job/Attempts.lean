import AsyncReports.Proofs.Job.Polling
import AsyncReports.Proofs.Job.Submission

set_option autoImplicit false

/-!
# Counting attempts

A poll leaves all attempts as they are, and so does a start. A restart of a group raises the attempts of those members
that have failed, and the group's attempt with them, unless it is stopped: then the member in trouble has an attempt
more than the group knows of, but it is left cleared, so that it is not failed. `Seen` says this of a member.
-/

namespace AsyncReports

variable {σ : Type} {service : Service σ}

namespace ReportJob

theorem Heard.attempt_eq {a b : ReportJob} (h : Heard a b) : b.attempt = a.attempt := by
  refine h.keeps (p := fun job => job.attempt = a.attempt) ?_ rfl
  rintro _ _ ⟨now, run, rfl⟩ same
  exact same

theorem Launch.attempt_eq {a b : ReportJob} (h : Launch a b) : b.attempt = a.attempt := by
  obtain ⟨-, run, now, rfl⟩ := h
  rfl

theorem Heard.notStarted {a b : ReportJob} (h : Heard a b) (idle : a.progress.status = .notStarted) :
    b.progress.status = .notStarted := by
  refine h.keeps (p := fun job => job.progress.status = .notStarted) ?_ idle
  rintro a _ ⟨now, run, rfl⟩ idle
  rcases Progress.observe_cases now run a.progress with ⟨-, same⟩ | ⟨-, -, stored⟩ | ⟨-, next, step, -⟩
  · rw [same]
    exact idle
  · rw [stored]
    exact idle
  · have active := (Status.step?_observed step).1
    rw [idle] at active
    cases active

/-- The attempt of a member is no greater than its group's, unless the member was left cleared. -/
structure Seen (ceiling seen : Nat) (leaf : ReportJob) : Prop where
  sound : leaf.progress.Sound
  within : leaf.attempt ≤ ceiling
  counted : leaf.attempt ≤ seen ∨ leaf.progress.status = .notStarted

namespace Seen

variable {ceiling seen seen' : Nat} {leaf leaf' : ReportJob}

theorem mono (h : Seen ceiling seen leaf) (more : seen ≤ seen') : Seen ceiling seen' leaf :=
  ⟨h.sound, h.within, h.counted.imp_left fun le => Nat.le_trans le more⟩

theorem heard (h : Seen ceiling seen leaf) (heard : Heard leaf leaf') : Seen ceiling seen leaf' := by
  refine ⟨heard.sound h.sound, ?_, ?_⟩
  · rw [heard.attempt_eq]
    exact h.within
  · rw [heard.attempt_eq]
    exact h.counted.imp_right heard.notStarted

theorem of_failed (h : Seen ceiling seen leaf) (failed : leaf.failed) : leaf.attempt ≤ seen := by
  refine h.counted.resolve_right fun idle => ?_
  have failure : leaf.progress.status.isFailure := by
    rw [← h.sound.failed_eq]
    exact failed
  rw [idle] at failure
  cases failure

end Seen

/-- What a restart makes of a report job: it is launched at the next attempt, or left cleared at it. -/
theorem restart_attempt {job : ReportJob} (sound : job.progress.Sound) (failed : job.failed) (w : World σ) :
    Act.Ensures (job.restart service) w fun out _ => out.1.progress.Sound ∧ out.1.attempt = job.attempt + 1 ∧
      (out.2 = .ok () ∨ out.1.progress.status = .notStarted) := by
  refine (restart_ensures service job w).mono ?_
  rintro _ _ (⟨-, ⟨run, now, rfl⟩ | ⟨cause, rfl⟩⟩ | ⟨unfit, -⟩)
  · exact ⟨Startable.sound_launched ⟨rfl, rfl⟩ job.sound_cleared run now, rfl, .inl rfl⟩
  · exact ⟨job.sound_cleared, rfl, .inr rfl⟩
  · exact absurd (restartable_of_failed sound failed) unfit

end ReportJob

namespace Job

open ReportJob

/-! ## What leaves attempts as they are -/

theorem receiveAt_attempts (jobs : List Job) (slot : Slot) (answer : Answer Json) (w : World σ) :
    Act.Ensures (receiveAt jobs slot answer) w fun jobs' _ => jobs'.map attempt = jobs.map attempt := by
  induction jobs generalizing slot w with
  | nil => simp [receiveAt]
  | cons job rest ih =>
    obtain ⟨_ | position, label⟩ := slot
    · cases job with
      | report job =>
        simp only [receiveAt, Act.ensures_bind, Act.ensures_pure]
        refine (receive_heard label answer job w).mono fun job' _ heard => ?_
        simp [attempt, heard.attempt_eq]
      | group g members => simp [receiveAt]
    · simp only [receiveAt, Act.ensures_bind, Act.ensures_pure]
      exact (ih ⟨position, label⟩ w).mono fun rest' _ later => congrArg (job.attempt :: ·) later

theorem settle_attempts (rounds : Nat) (jobs : List Job) (batch : Batch Slot) (w : World σ) :
    Act.Ensures (settle service rounds jobs batch) w fun jobs' _ => jobs'.map attempt = jobs.map attempt := by
  have trans : ∀ as bs cs : List Job, bs.map attempt = as.map attempt → cs.map attempt = bs.map attempt →
      cs.map attempt = as.map attempt := fun _ _ _ first later => later.trans first
  exact Batch.drain_ensures (r := fun as bs => bs.map attempt = as.map attempt) service (fun _ => rfl) trans
    receiveAt_attempts rounds jobs batch w

theorem poll_attempt (rounds position : Nat) (job : Job) (w : World σ) :
    Act.Ensures (poll service rounds position job) w fun out _ => out.1.attempt = job.attempt := by
  cases job with
  | report job =>
    simp only [poll, Act.ensures_bind, Act.ensures_pure, attempt]
    exact fun _ _ _ => trivial
  | group g members =>
    simp only [poll, Act.ensures_bind, Act.ensures_pure]
    exact fun _ _ _ => rfl

theorem pollQueue_attempts (rounds limit : Nat) (jobs : List Job) :
    ∀ (done : List Job) (batch : Batch Slot) (w : World σ),
      Act.Ensures (pollQueue service rounds limit done batch jobs) w fun out _ =>
        out.1.map attempt = (done ++ jobs).map attempt := by
  induction jobs with
  | nil =>
    intro done batch w
    simp only [pollQueue, Act.ensures_bind, Act.ensures_pure, List.append_nil]
    exact settle_attempts rounds done batch w
  | cons job rest ih =>
    intro done batch w
    rw [pollQueue]
    split
    · simp only [Act.ensures_bind, Act.ensures_log, Act.ensures_pure, List.map_append]
      exact (settle_attempts rounds done batch _).mono fun done' _ same => by rw [same]
    · rw [Act.ensures_bind]
      refine (poll_attempt rounds done.length job w).mono ?_
      rintro ⟨job', checks, cause | _⟩ w₁ polled
      · simp only [Act.ensures_bind, Act.ensures_pure]
        refine (settle_attempts rounds (done ++ [job']) _ w₁).mono fun done' _ same => ?_
        have same : done'.map attempt = (done ++ [job']).map attempt := same
        have polled : job'.attempt = job.attempt := polled
        simp [same, polled]
      · refine (ih (done ++ [job']) (batch ++ checks) w₁).mono fun out _ same => ?_
        have polled : job'.attempt = job.attempt := polled
        simpa [polled] using same

/-- A start leaves the attempt of a group, and that of a report job if it ends well. -/
theorem start_attempt (job : Job) (w : World σ) :
    Act.Ensures (start service job) w fun out _ => out.1.attempt = job.attempt := by
  cases job with
  | report job =>
    simp only [start, Act.ensures_bind, Act.ensures_pure]
    refine (ReportJob.start_ensures service job w).mono ?_
    rintro _ _ (⟨-, ⟨run, now, rfl⟩ | ⟨cause, rfl⟩⟩ | ⟨-, rfl⟩) <;> rfl
  | group g members =>
    simp only [start, Act.ensures_bind, Act.ensures_pure]
    exact fun _ _ _ => rfl

/-- Jobs that polling has heard about, each at the attempt that it was at. -/
theorem pollQueue_heard (rounds limit : Nat) (jobs : List Job) (w : World σ) :
    Act.Ensures (pollQueue service rounds limit [] [] jobs) w fun out _ =>
      List.Forall₂ (fun job job' => Becomes Heard job job' ∧ job'.attempt = job.attempt) jobs out.1 := by
  have both : ∀ {as bs : List Job}, AllHeard as bs → bs.map attempt = as.map attempt →
      List.Forall₂ (fun job job' => Becomes Heard job job' ∧ job'.attempt = job.attempt) as bs := by
    intro as bs heard same
    induction heard with
    | nil => exact .nil
    | cons head _ ih =>
      obtain ⟨first, later⟩ := List.cons.inj same
      exact .cons ⟨head, first⟩ (ih later)
  refine ((pollQueue_ensures service rounds limit jobs [] [] w).and
    (pollQueue_attempts rounds limit jobs [] [] w)).mono ?_
  rintro out _ ⟨⟨heard, -⟩, same⟩
  exact both heard same

/-! ## Groups of report jobs -/

def Flat (members : List Job) : Prop := ∀ member ∈ members, ∃ leaf, member = .report leaf

theorem Flat.of_made {members members' : List Job} (h : Flat members)
    (made : members'.map asMade = members.map asMade) : Flat members' := by
  intro member mem
  have kept : member.asMade ∈ members.map asMade := made ▸ List.mem_map_of_mem mem
  obtain ⟨old, mem', same⟩ := List.mem_map.1 kept
  obtain ⟨leaf, rfl⟩ := h old mem'
  cases member with
  | report leaf' => exact ⟨leaf', rfl⟩
  | group => cases same

/-- A report job is at its first or second attempt, and a group of report jobs at one below the ceiling. -/
def Capped (ceiling : Nat) : Job → Prop
  | .report leaf => leaf.progress.Sound ∧ leaf.attempt ≤ min 2 ceiling
  | .group g members =>
    3 ≤ ceiling ∧ g.attempt ≤ ceiling ∧ Flat members ∧ ∀ leaf ∈ allLeaves members, Seen ceiling g.attempt leaf

variable {ceiling : Nat}

theorem Capped.heard {job job' : Job} (h : job.Capped ceiling) (heard : Becomes Heard job job')
    (same : job'.attempt = job.attempt) : job'.Capped ceiling := by
  cases job with
  | report leaf =>
    obtain ⟨leaf', rfl, changed⟩ := heard.of_report
    obtain ⟨sound, le⟩ := h
    refine ⟨changed.sound sound, ?_⟩
    rw [changed.attempt_eq]
    exact le
  | group g members =>
    obtain ⟨g', members', rfl, made, leaves⟩ := heard.of_group
    obtain ⟨room, le, flat, all⟩ := h
    have same : g'.attempt = g.attempt := same
    rw [Capped, same]
    exact ⟨room, le, flat.of_made made, forall₂_carry (fun _ _ heard seen => seen.heard heard) leaves all⟩

theorem restartOne_seen {seen : Nat} {leaf : ReportJob} (h : Seen ceiling seen leaf) (room : seen < ceiling)
    (w : World σ) :
    Act.Ensures (if Job.failed (.report leaf) then restart service (.report leaf) else pure (.report leaf, .ok ())) w
      fun out _ => ∃ leaf', out.1 = .report leaf' ∧ leaf'.progress.Sound ∧ leaf'.attempt ≤ ceiling ∧
        (out.2 = .ok () ∨ leaf'.progress.status = .notStarted) := by
  split
  · rename_i failed
    have failed : leaf.failed := failed
    have below : leaf.attempt + 1 ≤ ceiling := Nat.le_trans (Nat.succ_le_succ (h.of_failed failed)) room
    simp only [restart, Act.ensures_bind, Act.ensures_pure]
    refine (restart_attempt h.sound failed w).mono ?_
    rintro ⟨leaf', result⟩ _ ⟨sound, next, ends⟩
    exact ⟨leaf', rfl, sound, Nat.le_trans (Nat.le_of_eq next) below, ends⟩
  · exact Act.ensures_pure.2 ⟨leaf, rfl, h.sound, h.within, .inl rfl⟩

/-- A restart of a group's members ends with the greatest attempt that it has seen, which counts for all of them. -/
theorem restartFailed_seen {seen : Nat} (room : seen < ceiling) (members : List Job) :
    ∀ (attempt : Nat) (w : World σ), seen ≤ attempt → attempt ≤ ceiling → Flat members →
      (∀ leaf ∈ allLeaves members, Seen ceiling seen leaf) →
      Act.Ensures (restartFailed service attempt members) w fun out _ =>
        attempt ≤ out.2.1 ∧ out.2.1 ≤ ceiling ∧ Flat out.1 ∧ ∀ leaf ∈ allLeaves out.1, Seen ceiling out.2.1 leaf := by
  induction members with
  | nil =>
    intro attempt w _ le flat _
    rw [restartFailed]
    exact Act.ensures_pure.2 ⟨Nat.le_refl _, le, flat, by simp [allLeaves]⟩
  | cons member rest ih =>
    intro attempt w known le flat all
    obtain ⟨⟨leaf, rfl⟩, others⟩ : (∃ leaf, member = .report leaf) ∧ Flat rest := List.forall_mem_cons.1 flat
    obtain ⟨first, all⟩ : Seen ceiling seen leaf ∧ ∀ leaf ∈ allLeaves rest, Seen ceiling seen leaf :=
      List.forall_mem_cons.1 all
    have flat_cons : ∀ {leaf' : ReportJob} {rest' : List Job}, Flat rest' → Flat (.report leaf' :: rest') :=
      fun flat => List.forall_mem_cons.2 ⟨⟨_, rfl⟩, flat⟩
    rw [restartFailed_cons, Act.ensures_bind]
    refine (restartOne_seen first room w).mono ?_
    rintro ⟨_, cause | _⟩ w₁ ⟨leaf', rfl, sound, within, ends⟩
    · -- A member whose restart was refused is ahead of its group, but cleared.
      have cleared : leaf'.progress.status = .notStarted := ends.resolve_left (by simp)
      refine Act.ensures_pure.2 ⟨Nat.le_refl _, le, flat_cons others, List.forall_mem_cons.2 ⟨?_, ?_⟩⟩
      · exact ⟨sound, within, .inr cleared⟩
      · exact fun other mem => (all other mem).mono known
    · simp only [Act.ensures_bind, Act.ensures_pure]
      have more : seen ≤ max attempt leaf'.attempt := Nat.le_trans known (Nat.le_max_left _ _)
      refine (ih (max attempt leaf'.attempt) w₁ more (Nat.max_le.2 ⟨le, within⟩) others all).mono ?_
      rintro ⟨rest', attempt', result⟩ _ ⟨grown, le', flat', all'⟩
      have counted : leaf'.attempt ≤ attempt' := Nat.le_trans (Nat.le_max_right _ _) grown
      refine ⟨Nat.le_trans (Nat.le_max_left _ _) grown, le', flat_cons flat', List.forall_mem_cons.2 ⟨?_, all'⟩⟩
      exact ⟨sound, within, .inl counted⟩

theorem restart_capped {g : Group} {members : List Job} (h : (Job.group g members).Capped ceiling)
    (room : g.attempt < ceiling) (w : World σ) :
    Act.Ensures (restart service (.group g members)) w fun out _ => out.1.Capped ceiling := by
  obtain ⟨three, le, flat, all⟩ := h
  rw [restart]
  split
  · rw [Act.ensures_bind]
    refine (restartFailed_seen room members g.attempt w (Nat.le_refl _) le flat all).mono ?_
    rintro ⟨members', attempt, cause | _⟩ w₁ ⟨-, le', flat', all'⟩
    · exact Act.ensures_pure.2 ⟨three, le', flat', all'⟩
    · simp only [Act.ensures_bind, Act.ensures_log, Act.ensures_pure]
      exact ⟨three, le', flat', all'⟩
  · exact Act.ensures_pure.2 ⟨three, le, flat, all⟩

/-- A report job is restarted only while it is at its first attempt. -/
theorem restart_capped_report {leaf : ReportJob} (h : (Job.report leaf).Capped ceiling) (failed : leaf.failed)
    (first : leaf.attempt < 2) (room : leaf.attempt < ceiling) (w : World σ) :
    Act.Ensures (restart service (.report leaf)) w fun out _ => out.1.Capped ceiling := by
  simp only [restart, Act.ensures_bind, Act.ensures_pure]
  refine (restart_attempt h.1 failed w).mono ?_
  rintro ⟨leaf', result⟩ _ ⟨sound, next, -⟩
  refine ⟨sound, ?_⟩
  rw [show leaf'.attempt = leaf.attempt + 1 from next]
  omega

end Job

end AsyncReports
