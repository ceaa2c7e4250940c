import AsyncReports.Proofs.Calendar
import AsyncReports.Proofs.ReportJob
import AsyncReports.Split

set_option autoImplicit false

/-!
# What a probe asks for

A probe asks for the report of the job itself, but by the keys of the level to split by and over a longer window. The
window begins so many days before the interval as the settings say, counted in the calendar, or with the first date
that there is.
-/

namespace AsyncReports

namespace Date

/-- Looking back by so many days ends at the first date at the latest. -/
def back (d : Date) (days : Nat) : Date := (d.earlier? days).getD .first

theorem back_day (d : Date) (days : Nat) : (d.back days).day = max firstDay (d.day - days) := by
  have last := d.inRange.2
  unfold back earlier? ofDay?
  split_ifs with inRange
  · exact (max_eq_right inRange.1).symm
  · have before : d.day - days < firstDay := by omega
    exact (max_eq_left before.le).symm

theorem back_le (d : Date) (days : Nat) : d.back days ≤ d := by
  change (d.back days).day ≤ d.day
  rw [back_day]
  exact max_le d.inRange.1 (by omega)

theorem back_antitone (d : Date) {days more : Nat} (le : days ≤ more) : d.back more ≤ d.back days := by
  change (d.back more).day ≤ (d.back days).day
  rw [back_day, back_day]
  exact max_le_max_left firstDay (by omega)

/-- Where the calendar has a day so many days earlier that can be a date, that is where looking back ends. -/
theorem back_eq {c : Civil} (supported : c.Supported) {d : Date} {days : Nat}
    (earlier : Civil.next^[days] c = d.civil) : (d.back days).civil = c := by
  obtain ⟨e, rfl⟩ := exists_civil supported
  rw [iterate_next_civil_iff] at earlier
  have same : (d.back days).day = e.day := by
    rw [back_day, ← earlier, add_sub_cancel_right]
    exact max_eq_right e.inRange.1
  rw [civil, same]
  rfl

theorem back_eq_first {d : Date} {days : Nat}
    (none : ∀ c : Civil, c.Supported → Civil.next^[days] c ≠ d.civil) : d.back days = first := by
  have before : d.day - days < firstDay := by
    by_contra within
    have last := d.inRange.2
    let e : Date := ⟨d.day - days, not_lt.1 within, by omega⟩
    refine none e.civil e.civil_supported ?_
    rw [iterate_next_civil_iff]
    exact sub_add_cancel d.day days
  rw [back, earlier?, ofDay?, dif_neg fun inRange => not_lt.2 inRange.1 before]
  rfl

end Date

theorem SplitSettings.lookbackDays_eq {settings : SplitSettings} (bounded : settings.windowDays < 2 ^ 32 - 1) :
    settings.lookbackDays = settings.windowDays + 1 := by
  simp only [lookbackDays, Limits.attributionExtraDays, UInt32.toNat_add, UInt32.toNat_ofNat']
  omega

namespace Split

/-- A probe keeps of the job's parameters what narrows the report down. Its window ends with the interval, and begins
as many days before it as an effect may come later and one, in the calendar, or with the first date if there is no such
day. So the window covers the interval, and settings that allow for later effects only make it longer. The longest
window that 32 bits can say is left out, since one day more than that is none at all. -/
theorem probe_looks_back (params : Params) {interval : Interval} (ordered : interval.start ≤ interval.stop)
    {settings : SplitSettings} (bounded : settings.windowDays < 2 ^ 32 - 1) : ∃ since : Date,
    probe params interval settings =
      { level := settings.level
        fields := [settings.level.idField]
        breakdowns := params.breakdowns
        actionBreakdowns := params.actionBreakdowns
        attributionWindows := params.attributionWindows
        increment := none
        window := some ⟨since, interval.stop⟩
        extra := params.extra } ∧
    (∀ c : Civil, c.Supported → Civil.next^[settings.windowDays + 1] c = interval.start.civil → since.civil = c) ∧
    ((∀ c : Civil, c.Supported → Civil.next^[settings.windowDays + 1] c ≠ interval.start.civil) →
      since.civil = ⟨-262143, 1, 1⟩) ∧
    since ≤ interval.start ∧ interval.start ≤ interval.stop ∧
    ∀ (wider : SplitSettings) (window : Window), settings.windowDays ≤ wider.windowDays →
      wider.windowDays < 2 ^ 32 - 1 → (probe params interval wider).window = some window → window.first ≤ since := by
  have probes : ∀ s : SplitSettings, s.windowDays < 2 ^ 32 - 1 →
      (probe params interval s).window = some ⟨interval.start.back (s.windowDays + 1), interval.stop⟩ := by
    intro s bounded
    rw [← SplitSettings.lookbackDays_eq bounded]
    rfl
  refine ⟨interval.start.back (settings.windowDays + 1), ?_, fun c supported => Date.back_eq supported, ?_,
    Date.back_le _ _, ordered, ?_⟩
  · rw [← probes settings bounded]
    rfl
  · intro none
    rw [Date.back_eq_first none]
    decide
  · intro wider window le bounded known
    obtain rfl := Option.some.inj ((probes wider bounded).symm.trans known)
    exact Date.back_antitone _ (Nat.succ_le_succ le)

/-- The first of March of the year zero, which is a leap year. -/
def marchZero : Date := ⟨-719468, by decide⟩

theorem probe_looks_back_marchZero : (Interval.day marchZero).start ≤ (Interval.day marchZero).stop ∧
    ({ windowDays := 60 } : SplitSettings).windowDays < 2 ^ 32 - 1 ∧
    ∃ since : Date, (probe ReportJob.sample.params (.day marchZero) { windowDays := 60 }).window =
      some ⟨since, marchZero⟩ ∧ since.civil = ⟨-1, 12, 31⟩ := by
  have ordered : (Interval.day marchZero).start ≤ (Interval.day marchZero).stop := Int.le_refl _
  have bounded : ({ windowDays := 60 } : SplitSettings).windowDays < 2 ^ 32 - 1 := by decide
  obtain ⟨since, probes, earlier, -⟩ := probe_looks_back ReportJob.sample.params ordered bounded
  refine ⟨ordered, bounded, since, by rw [probes]; rfl, earlier _ (by decide) ?_⟩
  decide +kernel

end Split

end AsyncReports
