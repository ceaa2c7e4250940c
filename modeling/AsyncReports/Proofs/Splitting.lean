import AsyncReports.Proofs.Bytes
import AsyncReports.Proofs.Job.Heir
import AsyncReports.Proofs.ReportJob.Desk
import AsyncReports.Script
import AsyncReports.Split

set_option autoImplicit false

/-!
# What a report job is split into

The keys that a split finds are a sorted list without repetitions, and which keys are in it is said by the rows alone.
So there is one group that rows can lead to, whatever their order and however often a key is named in them. A split
makes one request, the probe, and submits nothing.
-/

namespace AsyncReports

variable {σ : Type}

namespace Split

/-- A text names the key that it is, and a number the one that it is written as. -/
inductive Names : Json → String → Prop
  | text (key : String) : Names (.text key) key
  | int (n : Int) : Names (.int n) (Json.int n).write
  | float (x : Float) : Names (.float x) (Json.float x).write

/-- A row names a key by the field that identifies the level. -/
def Named (level : Level) (rows : List Row) (key : String) : Prop :=
  ∃ row ∈ rows, ∃ value, row.lookup level.idField = some value ∧ Names value key

theorem key?_eq_some_iff {value : Json} {key : String} : key? value = some key ↔ Names value key := by
  constructor
  · intro names
    cases value with
    | text =>
      cases names
      exact .text _
    | int n =>
      cases names
      exact .int n
    | float x =>
      cases names
      exact .float x
    | null | bool | array | object => cases names
  · rintro (_ | _ | _) <;> rfl

theorem mem_insertKey {key other : String} {keys : List String} :
    other ∈ insertKey key keys ↔ other = key ∨ other ∈ keys := by
  induction keys with
  | nil => simp [insertKey]
  | cons first rest ih =>
    rw [insertKey]
    split
    · rename_i same
      subst same
      simp
    · split
      · simp
      · rw [List.mem_cons, ih, List.mem_cons]
        tauto

theorem insertKey_sorted {keys : List String} (sorted : keys.Pairwise (· < ·)) (key : String) :
    (insertKey key keys).Pairwise (· < ·) := by
  induction keys with
  | nil => simp [insertKey]
  | cons first rest ih =>
    obtain ⟨least, later⟩ := List.pairwise_cons.1 sorted
    rw [insertKey]
    split
    · exact sorted
    · rename_i differs
      split
      · rename_i before
        refine List.pairwise_cons.2 ⟨List.forall_mem_cons.2 ⟨before, fun other mem => ?_⟩, sorted⟩
        exact before.trans (least other mem)
      · rename_i behind
        refine List.pairwise_cons.2 ⟨fun other mem => ?_, ih later⟩
        rcases mem_insertKey.1 mem with rfl | mem
        · exact lt_of_le_of_ne (not_lt.1 behind) (Ne.symm differs)
        · exact least other mem

theorem keys_sorted (rows : List Row) (level : Level) : (keys rows level).Pairwise (· < ·) := by
  unfold keys
  induction rows.filterMap fun row => (row.lookup level.idField).bind key? with
  | nil => exact .nil
  | cons key rest ih => exact insertKey_sorted ih key

theorem mem_keys {rows : List Row} {level : Level} {key : String} : key ∈ keys rows level ↔ Named level rows key := by
  have folded : ∀ found : List String, key ∈ found.foldr insertKey [] ↔ key ∈ found := by
    intro found
    induction found with
    | nil => rfl
    | cons first rest ih => rw [List.foldr_cons, mem_insertKey, ih, List.mem_cons]
  simp only [keys, folded, List.mem_filterMap, Option.bind_eq_some_iff, key?_eq_some_iff, Named]

/-- Rows that name the same keys have the same list of keys. -/
theorem keys_eq_of_named {rows rows' : List Row} {level : Level}
    (same : ∀ key, Named level rows key ↔ Named level rows' key) : keys rows level = keys rows' level := by
  have perm : (keys rows level).Perm (keys rows' level) := by
    rw [List.perm_ext_iff_of_nodup ((keys_sorted rows level).imp ne_of_lt) ((keys_sorted rows' level).imp ne_of_lt)]
    intro key
    rw [mem_keys, mem_keys, same key]
  exact perm.eq_of_pairwise (fun _ _ _ _ lt gt => absurd gt lt.asymm) (keys_sorted rows level) (keys_sorted rows' level)

/-- The part of a job for one key: a new job that differs from it in its entity only. -/
def share (job : ReportJob) (key : String) : ReportJob where
  interval := job.interval
  edge := ⟨job.settings.splitter.level, key⟩
  params := job.params
  settings := job.settings
  attempt := 1
  progress := {}
  handle := none

/-- A new group of the parts for some keys. -/
def shares (job : ReportJob) (keys : List String) : Job :=
  .group { interval := job.interval, settings := job.settings, attempt := 1 }
    (keys.map fun key => .report (share job key))

end Split

open Split

namespace ReportJob

/-- The window that is sent with the job's requests is that of its interval. -/
def Windowed (job : ReportJob) : Prop := job.params.window = some job.interval.window

theorem windowed_new (edge : Edge) (params : Params) (interval : Interval) (settings : Settings) :
    (new edge params interval settings).Windowed := rfl

theorem Windowed.of_asMade {job job' : ReportJob} (h : job.Windowed) (same : job'.asMade = job.asMade) :
    job'.Windowed := by
  have params := congrArg ReportJob.params same
  have interval := congrArg ReportJob.interval same
  change job'.params = job.params at params
  change job'.interval = job.interval at interval
  rw [Windowed, params, interval]
  exact h

/-- Nothing that is done to a job changes the window of its requests. -/
theorem windowed_of_reached {service : Service σ} {edge : Edge} {params : Params} {interval : Interval}
    {settings : Settings} {desk : Desk} (reached : Desk.Reached service (.new edge params interval settings) desk) :
    desk.job.Windowed :=
  (windowed_new edge params interval settings).of_asMade reached.asMade

/-- The world once the probe of a job has been answered. -/
def probed (service : Service σ) (job : ReportJob) (w : World σ) : World σ :=
  { w with
    remote := (service.query job.edge job.probe w.remote).2
    calls := w.calls ++ [.query job.edge job.probe] }

theorem group_eq_shares {job : ReportJob} (windowed : job.Windowed) (keys : List String) :
    group job keys = shares job keys := by
  have params : { job.params with window := some job.interval.window } = job.params := by rw [← windowed]
  simp only [group, part, new, params]
  rfl

theorem split_of_error {service : Service σ} {job : ReportJob} {w : World σ} {cause : ServiceError}
    (answer : (service.query job.edge job.probe w.remote).1 = .error cause) :
    job.split service w = some (.error (.service cause), job.probed service w) := by
  simp only [split, Service.queried, probed, probe] at answer ⊢
  rw [Act.bind_eq_some]
  exact ⟨_, _, rfl, by rw [answer]; rfl⟩

theorem split_of_rows {service : Service σ} {job : ReportJob} (windowed : job.Windowed) {w : World σ} {rows : List Row}
    (answer : (service.query job.edge job.probe w.remote).1 = .ok rows) :
    ∃ log, job.split service w =
      some (.ok (shares job (keys rows job.settings.splitter.level)), { job.probed service w with log }) := by
  rw [← group_eq_shares windowed]
  simp only [split, Service.queried, probed, probe, Act.bind_eq_some] at answer ⊢
  exact ⟨_, _, _, rfl, by rw [answer]; rfl⟩

/-- A split asks one question, by the probe of the job on its own entity. An error is passed on. An answer leads to a
group with one new part for each key that the rows name, in the order of the keys' bytes, so that other rows that name
the same keys lead to the same group. Without keys it is completed at once. -/
theorem split_exact (service : Service σ) {job : ReportJob} (windowed : job.Windowed) (w : World σ) :
    match (service.query job.edge job.probe w.remote).1 with
    | .error cause => job.split service w = some (.error (.service cause), job.probed service w)
    | .ok rows => ∃ keys log,
      job.split service w = some (.ok (shares job keys), { job.probed service w with log }) ∧
        (keys.map Text.bytes).Pairwise (· < ·) ∧
        (∀ key, key ∈ keys ↔ Named job.settings.splitter.level rows key) ∧
        (keys = [] → (shares job keys).completed ∧ (shares job keys).failed = false) ∧
        ∀ (v : World σ) (rows' : List Row), (service.query job.edge job.probe v.remote).1 = .ok rows' →
          (∀ key, Named job.settings.splitter.level rows' key ↔ Named job.settings.splitter.level rows key) →
          ∃ log', job.split service v = some (.ok (shares job keys), { job.probed service v with log := log' }) := by
  cases answer : (service.query job.edge job.probe w.remote).1 with
  | error cause => exact split_of_error answer
  | ok rows =>
    obtain ⟨log, run⟩ := split_of_rows windowed answer
    refine ⟨_, log, run, ?_, fun key => mem_keys, fun none => ?_, fun v rows' answer' named => ?_⟩
    · exact List.pairwise_map.2 ((keys_sorted rows _).imp Text.bytes_lt_bytes)
    · rw [none]
      exact ⟨rfl, rfl⟩
    · rw [← keys_eq_of_named named]
      exact split_of_rows windowed answer'

/-- A key twice, once as a number, another one, and rows that name none. -/
def sampleRows : List Row :=
  [[("campaign_id", .text "c-2")], [("campaign_id", .int 3)], [("campaign_id", .null)], [("campaign_id", .text "3")],
    [("ad_id", .text "9")]]

def sampleProbe : Script := { probes := [.ok (.array (sampleRows.map .object))] }

theorem split_exact_sample : sample.Windowed ∧ ∃ keys log,
    sample.split Script.service { remote := sampleProbe } =
        some (.ok (shares sample keys), { sample.probed Script.service { remote := sampleProbe } with log }) ∧
      (keys.map Text.bytes).Pairwise (· < ·) ∧ ∀ key, key ∈ keys ↔ key = "3" ∨ key = "c-2" := by
  have answer : (Script.service.query sample.edge sample.probe sampleProbe).1 = .ok sampleRows := rfl
  have windowed : sample.Windowed := rfl
  have split := split_exact Script.service windowed { remote := sampleProbe }
  simp only [answer] at split
  obtain ⟨keys, log, run, sorted, named, -, -⟩ := split
  refine ⟨windowed, keys, log, run, sorted, fun key => ?_⟩
  have found : Split.keys sampleRows sample.settings.splitter.level = ["3", "c-2"] := by decide +kernel
  rw [named, ← mem_keys, found, List.mem_cons, List.mem_singleton]

end ReportJob

end AsyncReports
