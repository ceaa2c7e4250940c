import AsyncReports.Proofs.ReportJob.Desk

set_option autoImplicit false

/-!
# Answers to checks of earlier attempts

A restart leaves the checks of the failed run where they wait. Nothing in such a check keeps its answer away from the
new attempt. It does no harm if it tells nothing new or finds the job finished; otherwise the old run takes the place
of the new one. As long as no late answer brings news, the run of a job is the one that its attempt was given.
-/

namespace AsyncReports

variable {σ : Type}

/-- Every status document is about the run that was asked about. -/
structure Service.Faithful (service : Service σ) : Prop where
  status : ∀ id s run, (service.status id s).1 = .ok run → run.id = id
  statuses : ∀ ids s (k : Nat) id document run, ids[k]? = some id →
    (service.statuses ids s).1[k]? = some (.ok document) → Run.decode document = .ok run → run.id = id

namespace Progress

/-- The status after a run has been seen, if the job has not finished. -/
def following (p : Progress) (run : Run) : Status := (p.status.step? (.observed run.status)).getD p.status

theorem observe_open {p : Progress} (going : p.finishedAt = none) (now : Nat) (run : Run) :
    (p.observe now run).run = some run ∧ (p.observe now run).status = p.following run := by
  rcases observe_cases now run p with ⟨ended, -⟩ | ⟨-, idle, stored⟩ | ⟨-, next, step, moved⟩
  · rw [going] at ended
    cases ended
  · have still : p.status.step? (.observed run.status) = none := by
      cases step : p.status.step? (.observed run.status) with
      | none => rfl
      | some next =>
        have active := (Status.step?_observed step).1
        rw [idle] at active
        cases active
    rw [stored, following, still]
    exact ⟨rfl, rfl⟩
  · rw [moved, following, step]
    exact ⟨rfl, rfl⟩

theorem observe_eq_iff {p : Progress} (going : p.finishedAt = none) (now : Nat) (run : Run) :
    p.observe now run = p ↔ p.run = some run ∧ p.following run = p.status := by
  obtain ⟨seen, status⟩ := observe_open going now run
  constructor
  · intro same
    rw [same] at seen status
    exact ⟨seen, status.symm⟩
  · intro ⟨known, still⟩
    rcases observe_cases now run p with ⟨-, same⟩ | ⟨-, -, stored⟩ | ⟨-, next, step, moved⟩
    · exact same
    · rw [stored, ← known]
    · obtain rfl : next = p.status := by
        rw [following, step] at still
        exact still
      obtain ⟨running, unfailed, -⟩ := Status.not_terminal_of_active (Status.step?_observed step).1
      rw [moved, running, unfailed, ← known, Bool.or_false, ← going]
      rfl

theorem observe_notStarted_iff (p : Progress) (now : Nat) (run : Run) :
    (p.observe now run).status = .notStarted ↔ p.status = .notStarted := by
  rcases observe_cases now run p with ⟨-, same⟩ | ⟨-, -, stored⟩ | ⟨-, next, step, moved⟩
  · rw [same]
  · rw [stored]
  · obtain ⟨active, -, begun⟩ := Status.step?_observed step
    rw [moved]
    exact ⟨fun none => absurd none begun, fun none => absurd none (Status.not_terminal_of_active active).2.2⟩

theorem observe_runId {p : Progress} {run : Run} (same : p.run.map (·.id) = some run.id) (now : Nat) :
    (p.observe now run).run.map (·.id) = some run.id := by
  rcases observe_cases now run p with ⟨-, unchanged⟩ | ⟨-, -, stored⟩ | ⟨-, next, -, moved⟩
  · rw [unchanged, same]
  · rw [stored]
    rfl
  · rw [moved]
    rfl

end Progress

namespace ReportJob

@[simp] theorem heard_attempt (now : Nat) (answer : Answer Json) (job : ReportJob) :
    (job.heard now answer).attempt = job.attempt := by
  unfold heard
  cases reading answer <;> rfl

theorem heard_notStarted_iff (now : Nat) (answer : Answer Json) (job : ReportJob) :
    (job.heard now answer).progress.status = .notStarted ↔ job.progress.status = .notStarted := by
  unfold heard
  cases reading answer with
  | none => rfl
  | some run => exact Progress.observe_notStarted_iff job.progress now run

theorem heard_runId {answer : Answer Json} {job : ReportJob} {id : String} (known : job.runId = some id)
    (about : ∀ run, reading answer = some run → run.id = id) (now : Nat) : (job.heard now answer).runId = some id := by
  unfold heard
  cases read : reading answer with
  | none => exact known
  | some run =>
    obtain rfl := about run read
    exact Progress.observe_runId known now

end ReportJob

theorem Service.Faithful.of_paired {service : Service σ} {τ : Type} (faithful : service.Faithful) {batch : Batch τ}
    {check : Check τ} {answer : Answer Json} {s : σ} {run : Run}
    (paired : (check, answer) ∈ Batch.pair batch (service.statuses (Batch.runs batch) s).1)
    (read : ReportJob.reading answer = some run) : run.id = check.run := by
  rcases Batch.mem_pair paired with ⟨k, here, there⟩ | error
  · cases answer with
    | error cause => cases read
    | ok document =>
      have asked : (Batch.runs batch)[k]? = some check.run := by
        rw [Batch.runs, List.getElem?_map, here]
        rfl
      have decoded : Run.decode document = .ok run := by
        cases result : Run.decode document with
        | error cause => simp [ReportJob.reading, result, Except.toOption] at read
        | ok run' =>
          simp only [ReportJob.reading, result, Except.toOption, Option.some.injEq] at read
          rw [read]
      exact faithful.statuses _ s k _ document run asked there decoded
  · rw [error] at read
    cases read

namespace Hearing

/-- The check was queued before the job was restarted. -/
def Late (h : Hearing) : Prop := h.attempt < h.before.attempt

instance (h : Hearing) : Decidable h.Late := inferInstanceAs (Decidable (_ < _))

/-- The answer tells of a run while the job has not finished, and the run or the status is another than before. -/
def News (h : Hearing) : Prop :=
  h.before.completed = false ∧ ∃ run, ReportJob.reading h.answer = some run ∧
    ¬ (h.before.progress.run = some run ∧ h.before.progress.following run = h.before.progress.status)

theorem unchanged_iff {h : Hearing} {now : Nat} (taken : h.after = h.before.heard now h.answer) :
    h.after.progress = h.before.progress ↔ ¬ h.News := by
  rw [taken, News, ReportJob.heard, ReportJob.completed]
  cases read : ReportJob.reading h.answer with
  | none => simp
  | some run =>
    cases ended : h.before.progress.finishedAt with
    | some time =>
      have same := Progress.observe_of_finished (p := h.before.progress) (by rw [ended]; rfl) now run
      simp [same]
    | none => simp [Progress.observe_eq_iff ended]

theorem of_news {h : Hearing} {now : Nat} (taken : h.after = h.before.heard now h.answer) (news : h.News) :
    ∃ run, ReportJob.reading h.answer = some run ∧ h.after.progress.run = some run ∧
      h.after.progress.status = h.before.progress.following run := by
  obtain ⟨going, run, read, -⟩ := news
  have open_ : h.before.progress.finishedAt = none := by simpa [ReportJob.completed] using going
  have after : h.after.progress = h.before.progress.observe now run := by rw [taken, ReportJob.heard, read]
  rw [after]
  exact ⟨run, read, Progress.observe_open open_ now run⟩

end Hearing

namespace Desk

variable {service : Service σ} {desk desk' : Desk}

/-- The run that the present attempt was given. -/
def ownRun (desk : Desk) : Option String := desk.runs[desk.job.attempt - 1]?

/-- Every attempt but the present one was given a run, and the present one has been given one if it is started. -/
def Counted (desk : Desk) : Prop :=
  desk.job.attempt = desk.runs.length + if desk.job.progress.status = .notStarted then 1 else 0

/-- What the checks that wait remember. -/
def Labelled (desk : Desk) : Prop :=
  ∀ i id run attempt label, ⟨id, .own run attempt label⟩ ∈ desk.batches i → run = some id ∧ attempt ≤ desk.job.attempt

/-- What every answer was, and what it did. -/
def Reported (desk : Desk) : Prop :=
  ∀ h ∈ desk.hearings, (∃ now, h.after = h.before.heard now h.answer) ∧
    ∀ run, ReportJob.reading h.answer = some run → h.run = some run.id

/-- The job and its checks know of no other run than that of the attempt. -/
def Isolated (desk : Desk) : Prop :=
  desk.job.runId = desk.ownRun ∧
    ∀ i id run attempt label, ⟨id, .own run attempt label⟩ ∈ desk.batches i → attempt = desk.job.attempt →
      desk.ownRun = some id

theorem Counted.ownRun_of_notStarted (counted : desk.Counted) (none : desk.job.progress.status = .notStarted) :
    desk.ownRun = .none := by
  rw [Counted, if_pos none] at counted
  rw [ownRun, List.getElem?_eq_none_iff]
  omega

theorem Change.counted (change : Change service desk desk') (counted : desk.Counted) : desk'.Counted := by
  unfold Counted at counted ⊢
  cases change with
  | start fit run now =>
    rw [if_pos fit.2] at counted
    simpa [ReportJob.launched] using counted
  | reset fit =>
    have begun : desk.job.progress.status ≠ .notStarted :=
      Status.started_of_terminal ((Status.isTerminal_iff _).2 (.inr fit.2.2))
    rw [if_neg begun] at counted
    simpa [ReportJob.cleared] using counted
  | observe known read now => simpa only [Progress.observe_notStarted_iff] using counted
  | queue known going i => exact counted
  | queueOther i run => exact counted
  | keep kept => exact counted
  | hear paired now => simpa only [Desk.hear, ReportJob.heard_attempt, ReportJob.heard_notStarted_iff] using counted

theorem mem_put {i j : Nat} {batch : Batch Asker} {check : Check Asker} (mem : check ∈ (desk.put i batch).batches j) :
    check ∈ batch ∨ check ∈ desk.batches j := by
  unfold put at mem
  dsimp only at mem
  split at mem
  · exact .inl mem
  · exact .inr mem

/-- A check of the job that waits has waited before, or it asks about the run that the job has. -/
theorem Change.queued_of_mem (change : Change service desk desk') {j attempt : Nat} {id label : String}
    {run : Option String} (mem : ⟨id, .own run attempt label⟩ ∈ desk'.batches j) :
    (∃ i, ⟨id, .own run attempt label⟩ ∈ desk.batches i) ∨
      (run = some id ∧ desk.job.runId = some id ∧ attempt = desk.job.attempt) := by
  cases change with
  | start | reset | observe | hear => exact .inl ⟨j, mem⟩
  | queue known going i =>
    rcases mem_put mem with mem | mem
    · rcases List.mem_append.1 mem with mem | mem
      · exact .inl ⟨i, mem⟩
      · have same : desk.job.runId = some id := by
          cases List.mem_singleton.1 mem
          rw [ReportJob.runId, known]
          rfl
        cases List.mem_singleton.1 mem
        exact .inr ⟨same, same, rfl⟩
    · exact .inl ⟨j, mem⟩
  | queueOther i other =>
    rcases mem_put mem with mem | mem
    · rcases List.mem_append.1 mem with mem | mem
      · exact .inl ⟨i, mem⟩
      · cases List.mem_singleton.1 mem
    · exact .inl ⟨j, mem⟩
  | keep kept =>
    rcases mem_put mem with mem | mem
    · exact .inl ⟨_, kept.subset mem⟩
    · exact .inl ⟨j, mem⟩

theorem Change.attempt_le (change : Change service desk desk') : desk.job.attempt ≤ desk'.job.attempt := by
  cases change with
  | start | observe | queue | queueOther | keep => exact Nat.le_refl _
  | reset => exact Nat.le_succ _
  | hear paired now => exact Nat.le_of_eq (ReportJob.heard_attempt now _ desk.job).symm

theorem Change.labelled (change : Change service desk desk') (labelled : desk.Labelled) : desk'.Labelled := by
  intro j id run attempt label mem
  have later := change.attempt_le
  rcases change.queued_of_mem mem with ⟨i, mem⟩ | ⟨remembered, -, now⟩
  · obtain ⟨remembered, early⟩ := labelled i id run attempt label mem
    exact ⟨remembered, Nat.le_trans early later⟩
  · exact ⟨remembered, now ▸ later⟩

theorem mem_of_paired {i : Nat} {check : Check Asker} {answer : Answer Json} {answers : List (Answer Json)}
    (paired : (check, answer) ∈ Batch.pair (desk.batches i) answers) : check ∈ desk.batches i := by
  have mem := List.mem_map_of_mem (f := Prod.fst) paired
  rwa [Batch.pair_checks] at mem

theorem Change.reported (faithful : service.Faithful) (change : Change service desk desk') (labelled : desk.Labelled)
    (reported : desk.Reported) : desk'.Reported := by
  cases change with
  | hear paired now =>
    intro h mem
    rcases List.mem_append.1 mem with mem | mem
    · exact reported h mem
    · cases List.mem_singleton.1 mem
      refine ⟨⟨now, rfl⟩, fun run read => ?_⟩
      have about := faithful.of_paired paired read
      rw [about]
      exact (labelled _ _ _ _ _ (mem_of_paired paired)).1
  | start | reset | observe | queue | queueOther | keep => exact reported

/-- A change that leaves the attempt and its run alone. -/
theorem Isolated.onward (change : Change service desk desk') (isolated : desk.Isolated)
    (attempts : desk'.job.attempt = desk.job.attempt) (runs : desk'.runs = desk.runs)
    (same : desk'.job.runId = desk.job.runId) : desk'.Isolated := by
  obtain ⟨own, checks⟩ := isolated
  have given : desk'.ownRun = desk.ownRun := by rw [ownRun, attempts, runs, ownRun]
  rw [Isolated, given, same, attempts]
  refine ⟨own, fun j id run attempt label mem now => ?_⟩
  rcases change.queued_of_mem mem with ⟨i, mem⟩ | ⟨-, known, -⟩
  · exact checks i id run attempt label mem now
  · rw [← own, known]

theorem Isolated.start (isolated : desk.Isolated) (counted : desk.Counted) (fit : desk.job.Startable) (run : Run)
    (now : Nat) : Isolated { desk with job := desk.job.launched run now, runs := desk.runs ++ [run.id] } := by
  have unstarted := counted.ownRun_of_notStarted fit.2
  constructor
  · rw [Counted, if_pos fit.2] at counted
    symm
    change (desk.runs ++ [run.id])[desk.job.attempt - 1]? = some run.id
    rw [counted, Nat.add_sub_cancel, List.getElem?_concat_length]
  · -- No check of this attempt was queued before it had a run.
    intro i id run' attempt label mem now
    have other := isolated.2 i id run' attempt label mem now
    rw [unstarted] at other
    cases other

theorem Isolated.reset (labelled : desk.Labelled) (counted : desk.Counted) (fit : desk.job.Restartable) :
    Isolated { desk with job := desk.job.cleared } := by
  have begun : desk.job.progress.status ≠ .notStarted :=
    Status.started_of_terminal ((Status.isTerminal_iff _).2 (.inr fit.2.2))
  rw [Counted, if_neg begun] at counted
  constructor
  · symm
    change desk.runs[desk.job.attempt + 1 - 1]? = none
    rw [List.getElem?_eq_none_iff]
    omega
  · intro i id run attempt label mem now
    have early := (labelled i id run attempt label mem).2
    change attempt = desk.job.attempt + 1 at now
    omega

/-- An answer leaves the run of the attempt alone, unless it is late and brings news. -/
theorem Isolated.heard_runId (faithful : service.Faithful) (isolated : desk.Isolated) (labelled : desk.Labelled)
    {i attempt : Nat} {id label : String} {run : Option String} {answer : Answer Json} {s : σ}
    (paired : (⟨id, .own run attempt label⟩, answer) ∈
      Batch.pair (desk.batches i) (service.statuses (Batch.runs (desk.batches i)) s).1) (now : Nat)
    (quiet : ∀ h ∈ (desk.hear run attempt answer (desk.job.heard now answer)).hearings, h.Late → ¬ h.News) :
    (desk.job.heard now answer).runId = desk.job.runId := by
  obtain ⟨own, checks⟩ := isolated
  have queued := mem_of_paired paired
  have early := (labelled i id run attempt label queued).2
  by_cases current : attempt = desk.job.attempt
  · have given := checks i id run attempt label queued current
    rw [← own] at given
    rw [given]
    exact ReportJob.heard_runId given (fun latest read => faithful.of_paired paired read) now
  · have late : (⟨run, attempt, answer, desk.job, desk.job.heard now answer⟩ : Hearing).Late := by
      change attempt < desk.job.attempt
      omega
    have still := (Hearing.unchanged_iff rfl).2 (quiet _ (List.mem_append_right _ List.mem_cons_self) late)
    exact congrArg (fun p : Progress => p.run.map (·.id)) still

theorem Change.isolated (faithful : service.Faithful) (change : Change service desk desk') (counted : desk.Counted)
    (labelled : desk.Labelled) (isolated : desk.Isolated) (quiet : ∀ h ∈ desk'.hearings, h.Late → ¬ h.News) :
    desk'.Isolated := by
  have onward := isolated.onward change
  cases change with
  | start fit run now => exact isolated.start counted fit run now
  | reset fit => exact .reset labelled counted fit
  | @observe run latest s known read now =>
    have about := faithful.status run.id s latest read
    have same : desk.job.progress.run.map (·.id) = some latest.id := by
      rw [known, about]
      rfl
    exact onward rfl rfl ((Progress.observe_runId same now).trans same.symm)
  | queue | queueOther | keep => exact onward rfl rfl rfl
  | hear paired now =>
    exact onward (ReportJob.heard_attempt now _ _) rfl (isolated.heard_runId faithful labelled paired now quiet)

theorem Change.hearings_subset (change : Change service desk desk') : desk.hearings ⊆ desk'.hearings := by
  cases change with
  | start | reset | observe | queue | queueOther | keep => exact List.Subset.refl _
  | hear => exact List.subset_append_left _ _

structure Orderly (desk : Desk) : Prop where
  counted : desk.Counted
  labelled : desk.Labelled
  reported : desk.Reported
  isolated : (∀ h ∈ desk.hearings, h.Late → ¬ h.News) → desk.Isolated

theorem Orderly.new (edge : Edge) (params : Params) (interval : Interval) (settings : Settings) :
    Orderly { job := .new edge params interval settings } where
  counted := rfl
  labelled := by
    intro i id run attempt label mem
    cases mem
  reported := by
    intro h mem
    cases mem
  isolated := by
    intro _
    refine ⟨rfl, fun i id run attempt label mem => ?_⟩
    cases mem

theorem Change.orderly (faithful : service.Faithful) (change : Change service desk desk') (orderly : desk.Orderly) :
    desk'.Orderly where
  counted := change.counted orderly.counted
  labelled := change.labelled orderly.labelled
  reported := change.reported faithful orderly.labelled orderly.reported
  isolated := by
    intro quiet
    have before := orderly.isolated fun h mem => quiet h (change.hearings_subset mem)
    exact change.isolated faithful orderly.counted orderly.labelled before quiet

theorem Changes.orderly {first : Desk} (faithful : service.Faithful) (changes : Changes service first desk)
    (orderly : first.Orderly) : desk.Orderly := by
  induction changes with
  | refl => exact orderly
  | tail _ last ih => exact last.orderly faithful ih

/-- A late answer changes a job exactly if it brings news, and then the old run takes the place of the new one. As
long as none brings news, the job holds the run of its own attempt, and can be started if the attempt has none. -/
theorem late_unchanged_iff (faithful : service.Faithful) {edge : Edge} {params : Params} {interval : Interval}
    {settings : Settings} (reached : Reached service (.new edge params interval settings) desk) :
    (∀ h ∈ desk.hearings, h.Late →
      (h.after.progress = h.before.progress ↔ ¬ h.News) ∧
      (h.News → h.after.runId = h.run ∧ ∃ run, ReportJob.reading h.answer = some run ∧
        h.after.progress.status = h.before.progress.following run)) ∧
    ((∀ h ∈ desk.hearings, h.Late → ¬ h.News) →
      desk.job.runId = desk.ownRun ∧ (desk.job.progress.status = .notStarted → desk.job.Startable)) := by
  have orderly := reached.changes.orderly faithful (Orderly.new edge params interval settings)
  constructor
  · intro h mem _
    obtain ⟨⟨now, taken⟩, about⟩ := orderly.reported h mem
    refine ⟨Hearing.unchanged_iff taken, fun news => ?_⟩
    obtain ⟨run, read, seen, status⟩ := Hearing.of_news taken news
    have id := about run read
    refine ⟨?_, run, read, status⟩
    rw [id, ReportJob.runId, seen]
    rfl
  · intro quiet
    have own := (orderly.isolated quiet).1
    refine ⟨own, fun unstarted => ?_⟩
    rw [orderly.counted.ownRun_of_notStarted unstarted] at own
    exact ⟨Option.map_eq_none_iff.1 own, unstarted⟩

/-! ## A late check of a failed run -/

theorem failing_faithful (refused : List Nat) : (failing refused).Faithful where
  status := by
    intro id s run read
    cases read
    rfl
  statuses := by
    intro ids s k id document run asked answered decoded
    change (ids.map fun run => Except.ok (Script.statusDocument run Status.failed.text))[k]? = _ at answered
    rw [List.getElem?_map, asked] at answered
    cases answered
    have about : (Run.decode (Script.statusDocument id Status.failed.text)).map (·.id) = .ok id := rfl
    rw [decoded] at about
    cases about
    rfl

theorem lateCheck_reached {refused : List Nat} {desk : Desk} {w : World Nat}
    (ran : lateCheck.foldlM (operate (failing refused)) { job := .sample } { remote := 0 } = some (desk, w)) :
    Reached (failing refused) .sample desk :=
  Reached.operations .new lateCheck { remote := 0 } desk w ran

theorem lateCheck_restarted : ∃ desk w, lateCheck.foldlM (operate (failing [])) { job := .sample } { remote := 0 } =
    some (desk, w) ∧ ∃ h ∈ desk.hearings, h.Late ∧ h.before.runId = some "run-2" ∧
      h.before.progress.status = .started ∧ h.after.runId = some "run-1" ∧ h.after.progress.status = .failed := by
  have run : (lateCheck.foldlM (operate (failing [])) { job := .sample } { remote := 0 }).map
      (fun out => out.1.hearings.any fun h => decide (h.Late ∧ h.before.runId = some "run-2" ∧
        h.before.progress.status = .started ∧ h.after.runId = some "run-1" ∧ h.after.progress.status = .failed)) =
        some true := by
    decide +kernel
  obtain ⟨⟨desk, w⟩, ran, result⟩ := Option.map_eq_some_iff.1 run
  obtain ⟨h, mem, told⟩ := List.any_eq_true.1 result
  exact ⟨desk, w, ran, h, mem, of_decide_eq_true told⟩

theorem lateCheck_unstarted : ∃ desk w, lateCheck.foldlM (operate (failing [1])) { job := .sample } { remote := 0 } =
    some (desk, w) ∧ ∃ h ∈ desk.hearings, h.Late ∧ h.before.runId = none ∧
      h.after.progress.status = .notStarted ∧ h.after.runId = some "run-1" := by
  have run : (lateCheck.foldlM (operate (failing [1])) { job := .sample } { remote := 0 }).map
      (fun out => out.1.hearings.any fun h => decide (h.Late ∧ h.before.runId = none ∧
        h.after.progress.status = .notStarted ∧ h.after.runId = some "run-1")) = some true := by
    decide +kernel
  obtain ⟨⟨desk, w⟩, ran, result⟩ := Option.map_eq_some_iff.1 run
  obtain ⟨h, mem, told⟩ := List.any_eq_true.1 result
  exact ⟨desk, w, ran, h, mem, of_decide_eq_true told⟩

theorem late_unchanged_iff_lateCheck : (failing []).Faithful ∧ ∃ desk, Reached (failing []) .sample desk ∧
    ∃ h ∈ desk.hearings, h.Late ∧ (h.after.progress = h.before.progress ↔ ¬ h.News) := by
  obtain ⟨desk, w, ran, h, mem, late, -⟩ := lateCheck_restarted
  have reached := lateCheck_reached ran
  exact ⟨failing_faithful [], desk, reached, h, mem, late,
    ((late_unchanged_iff (failing_faithful []) reached).1 h mem late).1⟩

/-- A late answer ends the new attempt, or gives a run to a job that is to be started again. -/
theorem late_answer_counts :
    ((failing []).Faithful ∧ ∃ desk, Reached (failing []) .sample desk ∧ ∃ h ∈ desk.hearings, h.Late ∧
      h.after.progress ≠ h.before.progress ∧ h.before.runId = some "run-2" ∧ h.after.runId = some "run-1" ∧
      h.after.progress.status = .failed) ∧
    ((failing [1]).Faithful ∧ ∃ desk, Reached (failing [1]) .sample desk ∧ ∃ h ∈ desk.hearings, h.Late ∧
      h.after.progress ≠ h.before.progress ∧ h.after.progress.status = .notStarted ∧ ¬ h.after.Startable) := by
  constructor
  · obtain ⟨desk, w, ran, h, mem, late, new, started, old, failed⟩ := lateCheck_restarted
    refine ⟨failing_faithful [], desk, lateCheck_reached ran, h, mem, late, fun same => ?_, new, old, failed⟩
    rw [same, started] at failed
    cases failed
  · obtain ⟨desk, w, ran, h, mem, late, none, unstarted, old⟩ := lateCheck_unstarted
    refine ⟨failing_faithful [1], desk, lateCheck_reached ran, h, mem, late, fun same => ?_, unstarted, fun fit => ?_⟩
    · rw [ReportJob.runId, same] at old
      rw [ReportJob.runId, old] at none
      cases none
    · rw [ReportJob.runId, fit.1] at old
      cases old

end Desk

end AsyncReports
