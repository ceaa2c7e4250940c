import AsyncReports.Proofs.Documents
import AsyncReports.Proofs.Manager.Admission
import AsyncReports.Proofs.Probe
import AsyncReports.Proofs.Splitting

set_option autoImplicit false

/-!
# Intervals and the windows that are sent

Jobs are made over intervals, and the windows in their requests are those of the intervals, which a probe reaches back
from. This lasts through restarts and splits, also in the hands of a manager. So all that is sent is ordered exactly if
the intervals are, and whether they are is up to where they come from: dates that are put together are looked at, dates
of a document are not.
-/

namespace AsyncReports

namespace Interval

/-- The interval does not end before it starts. -/
def Ordered (interval : Interval) : Prop := interval.start ≤ interval.stop

instance (interval : Interval) : Decidable interval.Ordered := inferInstanceAs (Decidable (_ ≤ _))

theorem ordered_day (d : Date) : (day d).Ordered := Int.le_refl d.day

/-- What is put together from two dates is ordered, and every ordered interval can be. -/
theorem ofDates?_eq_some_iff {start stop : Date} {interval : Interval} :
    ofDates? start stop = some interval ↔ interval = ⟨start, stop⟩ ∧ interval.Ordered := by
  have ordered : ¬ stop < start ↔ (⟨start, stop⟩ : Interval).Ordered := Int.not_lt
  rw [ofDates?, Option.ite_none_left_eq_some, ordered, Option.some.injEq]
  constructor
  · rintro ⟨known, rfl⟩
    exact ⟨rfl, known⟩
  · rintro ⟨rfl, known⟩
    exact ⟨known, rfl⟩

end Interval

variable {σ : Type} {service : Service σ} {origin : Interval → Prop}

namespace ReportJob

/-- The window of the job's requests is that of its interval, which is one of `origin`. -/
def Spans (origin : Interval → Prop) (job : ReportJob) : Prop := job.Windowed ∧ origin job.interval

theorem spans_parts {leaf : ReportJob} (known : origin leaf.interval) (rows : List Row) :
    (leaf.parts rows).All (Spans origin) := by
  intro part among
  rw [Job.leaves_parts, List.mem_map] at among
  obtain ⟨key, -, rfl⟩ := among
  exact ⟨windowed_new _ _ _ _, known⟩

end ReportJob

namespace Job

open ReportJob

/-- Jobs that are made over intervals of `origin`, groups of such jobs, and what becomes of them. -/
inductive Over (origin : Interval → Prop) : Job → Prop
  | report (edge : Edge) (params : Params) {interval : Interval} (settings : Settings) (known : origin interval) :
    Over origin (.report (.new edge params interval settings))
  | group (g : Group) {members : List Job} (all : ∀ job ∈ members, Over origin job) : Over origin (.group g members)
  | heir {made now : Job} (built : Over origin made) (heir : Heir made now) : Over origin now

theorem Heir.spans {made now : Job} (heir : Heir made now) (spans : made.All (Spans origin)) :
    now.All (Spans origin) := by
  rw [all_of_asMade fun _ => Iff.rfl] at spans ⊢
  cases heir with
  | same same => rwa [same]
  | split leaf rows whole parts =>
    rw [whole] at spans
    rw [parts]
    exact spans_parts (spans leaf List.mem_cons_self).2 rows

theorem Over.spans {job : Job} (built : job.Over origin) : job.All (Spans origin) := by
  induction built with
  | report edge params settings known => exact List.forall_mem_singleton.2 ⟨windowed_new _ _ _ _, known⟩
  | group g _ ih => exact forall_allLeaves.2 ih
  | heir _ heir ih => exact heir.spans ih

end Job

namespace Call

/-- A submission asks for the window of one of the intervals, and a probe for one that reaches back from it. -/
def Within (origin : Interval → Prop) : Call → Prop
  | .submit _ params => ∃ interval, origin interval ∧ params.window = some interval.window
  | .query _ params => ∃ interval days, origin interval ∧
    params.window = some ⟨interval.start.back days, interval.stop⟩
  | _ => True

/-- The window of a submission or a probe does not end before it begins. -/
def Ordered : Call → Prop
  | .submit _ params | .query _ params => ∃ window, params.window = some window ∧ window.first ≤ window.last
  | _ => True

theorem Within.ordered (all : ∀ interval, origin interval → interval.Ordered) {c : Call} (within : c.Within origin) :
    c.Ordered := by
  cases c with
  | submit edge params =>
    obtain ⟨interval, known, same⟩ := within
    exact ⟨_, same, all interval known⟩
  | query edge params =>
    obtain ⟨interval, days, known, same⟩ := within
    exact ⟨_, same, Int.le_trans (interval.start.back_le days) (all interval known)⟩
  | _ => trivial

end Call

open ReportJob Job

namespace ReportJob

theorem Spans.submits {leaf : ReportJob} (spans : leaf.Spans origin) :
    (Call.submit leaf.edge leaf.params).Within origin :=
  ⟨_, spans.2, spans.1⟩

theorem Spans.probes {leaf : ReportJob} (spans : leaf.Spans origin) :
    (Call.query leaf.edge (Split.probe leaf.params leaf.interval leaf.settings.splitter)).Within origin :=
  ⟨_, _, spans.2, rfl⟩

end ReportJob

namespace Manager

theorem spans_invariant (service : Service σ) (settings : ManagerSettings) (origin : Interval → Prop) :
    JobInvariant service settings (Job.All (Spans origin)) (Job.All (Spans origin)) where
  heard _ _ heard _ spans := heard.heir.spans spans
  launched _ _ launched spans := launched.heir.spans spans
  recovered job _ _ w _ _ run spans := (recover_ensures service _ job w _ _ run).heir.spans spans

/-- What neither submits nor probes sends no window. -/
theorem within_of_makes {deed : Deed} {c : Call} (made : deed.Makes c)
    (apart : ∀ edge params, ¬ deed.Makes (.submit edge params) ∧ ¬ deed.Makes (.query edge params)) :
    c.Within origin := by
  cases c with
  | submit edge params => exact absurd made (apart edge params).1
  | query edge params => exact absurd made (apart edge params).2
  | _ => trivial

theorem Does.within {settings : ManagerSettings} {a b : Manager × World σ} {deed : Deed} (does : Does service a deed b)
    (kept : Keeps settings (Job.All (Spans origin)) (Job.All (Spans origin)) a.1) :
    Asks service (Call.Within origin) a.2 b.2 := by
  obtain ⟨-, queue, source⟩ := kept
  cases deed with
  | read | pause | poll | hand | abandon =>
    exact does.asks.mono fun _ made => within_of_makes made fun _ _ => ⟨id, id⟩
  | enlist job result =>
    have spans : job ∈ a.1.source → ∀ leaf ∈ job.leaves, (Call.submit leaf.edge leaf.params).Within origin :=
      fun among leaf mem => (source job among leaf mem).submits
    cases does with
    | enlist front started => exact Job.start_only job (spans (front ▸ List.mem_cons_self)) _ _ _ started
    | refuse front refused => exact Job.start_only job (spans (front ▸ List.mem_cons_self)) _ _ _ refused
  | recover job recovery result =>
    have spans := queue job does.of_recover.1
    cases does with
    | recover _ _ _ recovered =>
      exact recover_only _ (fun leaf mem => (spans leaf mem).submits) (fun leaf mem => (spans leaf mem).probes)
        (fun leaf mem rows part among => (spans_parts (spans leaf mem).2 rows part among).submits) _ _ _ recovered

theorem next_within {settings : ManagerSettings} {source : List Job} {calls : List (NextCall σ)} {m m' : Manager}
    {rounds : Nat} {w w' : World σ} {result : Except JobError (Option (List Job))}
    (built : ∀ job ∈ source, job.Over origin) (h : History service { settings, source } calls m)
    (run : m.next service rounds w = some ((m', result), w')) : Asks service (Call.Within origin) w w' := by
  have inv := spans_invariant service settings origin
  obtain ⟨steps, conducted, -⟩ := next_course rounds m w _ _ run
  have start := inv.history h (keeps_new fun job among => (built job among).spans)
  exact conducted.course.asks fun step among =>
    have kept := (conducted.course.keeps inv.step start).2 step among
    kept.1.within kept.2.1

end Manager

/-- Jobs over intervals of `origin` are confined to requests of the kind `p`, in whatever state they are, also in the
hands of a manager. -/
def Confined (origin : Interval → Prop) (p : Call → Prop) : Prop :=
  (∀ (σ : Type) (service : Service σ) (job : Job), job.Over origin →
    Act.Only service p (job.start service) ∧ Act.Only service p (job.restart service) ∧
      Act.Only service p (job.split service)) ∧
  ∀ (σ : Type) (service : Service σ) (settings : ManagerSettings) (source : List Job)
    (calls : List (Manager.NextCall σ)) (m m' : Manager) (rounds : Nat) (w w' : World σ)
    (result : Except JobError (Option (List Job))),
    (∀ job ∈ source, job.Over origin) → Manager.History service { settings, source } calls m →
    m.next service rounds w = some ((m', result), w') → Asks service p w w'

theorem confined_within (origin : Interval → Prop) : Confined origin (Call.Within origin) := by
  constructor
  · intro σ service job built
    have spans := built.spans
    exact ⟨start_only job fun leaf mem => (spans leaf mem).submits,
      restart_only job fun leaf mem => (spans leaf mem).submits, split_only fun leaf mem => (spans leaf mem).probes⟩
  · intro σ service settings source calls m m' rounds w w' result built h run
    exact Manager.next_within built h run

theorem Confined.mono {p q : Call → Prop} (confined : Confined origin p) (weaker : ∀ c, p c → q c) :
    Confined origin q := by
  obtain ⟨used, managed⟩ := confined
  constructor
  · intro σ service job built
    obtain ⟨start, restart, split⟩ := used σ service job built
    exact ⟨start.mono weaker, restart.mono weaker, split.mono weaker⟩
  · intro σ service settings source calls m m' rounds w w' result built h run
    exact (managed σ service settings source calls m m' rounds w w' result built h run).mono weaker

/-- A day's report over another interval. -/
def sampleOver (interval : Interval) : Job := .report (.new ReportJob.sample.edge ReportJob.sample.params interval {})

theorem sampleOver_submits (interval : Interval) : ∃ out w' params,
    (sampleOver interval).start Script.service { remote := {} } = some (out, w') ∧
      w'.calls = [.submit ReportJob.sample.edge params] ∧ params.window = some interval.window :=
  ⟨_, _, _, rfl, rfl, rfl⟩

theorem confined_ordered_iff : Confined origin Call.Ordered ↔ ∀ interval, origin interval → interval.Ordered := by
  constructor
  · intro confined interval known
    obtain ⟨out, w', params, run, calls, same⟩ := sampleOver_submits interval
    obtain ⟨made, calls', ordered⟩ := ((confined.1 _ _ _ (.report _ _ _ known)).1 _ _ _ run).calls
    rw [calls, List.nil_append] at calls'
    obtain ⟨window, same', le⟩ := ordered _ (calls' ▸ List.mem_singleton_self _)
    rw [same] at same'
    cases same'
    exact le
  · exact fun all => (confined_within origin).mono fun _ within => within.ordered all

/-- What jobs send is about the intervals they are made over: submissions have their windows, probes reach back from
them. All that is sent is ordered exactly if the intervals are. A day is, and so is what is put together from two dates,
for reversed dates are refused. A document gives the interval that it spells, in order or not, so every interval comes
from some document. -/
theorem windows_ordered_iff (origin : Interval → Prop) :
    Confined origin (Call.Within origin) ∧
    (Confined origin Call.Ordered ↔ ∀ interval, origin interval → interval.Ordered) ∧
    (∀ d : Date, (Interval.day d).Ordered) ∧
    (∀ (start stop : Date) (interval : Interval),
      Interval.ofDates? start stop = some interval ↔ interval = ⟨start, stop⟩ ∧ interval.Ordered) ∧
    (∀ (j : Json) (interval : Interval), Interval.decode j = .ok interval ↔ ∃ x y, Shape.Pairs "start" "end" j x y ∧
      Decoder.date x = .ok interval.start ∧ Decoder.date y = .ok interval.stop) ∧
    ∀ interval : Interval, ∃ j, Interval.decode j = .ok interval :=
  ⟨confined_within origin, confined_ordered_iff, Interval.ordered_day, fun _ _ _ => Interval.ofDates?_eq_some_iff,
    fun _ _ => Interval.decode_eq_ok, fun interval => ⟨interval.encode, interval.decode_encode⟩⟩

theorem windows_ordered_iff_made : Confined (fun interval => ∃ d, interval = .day d) Call.Ordered ∧
    Confined (fun interval => ∃ start stop, Interval.ofDates? start stop = some interval) Call.Ordered := by
  obtain ⟨-, days, ordered, -⟩ := windows_ordered_iff fun interval => ∃ d, interval = .day d
  obtain ⟨-, dates, -, made, -⟩ :=
    windows_ordered_iff fun interval => ∃ start stop, Interval.ofDates? start stop = some interval
  constructor
  · refine days.2 ?_
    rintro _ ⟨d, rfl⟩
    exact ordered d
  · refine dates.2 ?_
    rintro interval ⟨start, stop, known⟩
    exact ((made start stop interval).1 known).2

/-- It ends months before it starts, so that even a probe does not reach back far enough. -/
def reversed : Interval := ⟨⟨18693, by decide⟩, ReportJob.sample.interval.stop⟩

theorem reversed_is_sent :
    Interval.decode (.object [("end", .text "2021-01-01"), ("start", .text "2021-03-07")]) = .ok reversed ∧
    ¬ reversed.Ordered ∧
    (∃ out w' params, (sampleOver reversed).start Script.service { remote := {} } = some (out, w') ∧
      w'.calls = [.submit ReportJob.sample.edge params] ∧ ¬ Call.Ordered (.submit ReportJob.sample.edge params)) ∧
    ∃ out w' params, (sampleOver reversed).split Script.service { remote := {} } = some (out, w') ∧
      w'.calls = [.query ReportJob.sample.edge params] ∧ ¬ Call.Ordered (.query ReportJob.sample.edge params) := by
  refine ⟨rfl, by decide, ⟨_, _, _, rfl, rfl, ?_⟩, _, _, _, rfl, rfl, ?_⟩
  · rintro ⟨_, ⟨⟩, le⟩
    exact absurd le (by decide)
  · rintro ⟨_, ⟨⟩, le⟩
    exact absurd le (by decide)

end AsyncReports
