import AsyncReports.Split
import AsyncReports.Proofs.Job.Tree
import Mathlib.Data.Multiset.MapFold

set_option autoImplicit false

/-!
# Keeping account of jobs

Jobs are values, so what it means that none is lost and none appears twice is said by a correspondence:
`Accounted made now` pairs every job of the first list with one job of the second that it has become, and leaves
none over on either side. A job becomes itself, whatever attempts and runs it has been through, or a group that it
was split into.
-/

namespace AsyncReports

def ReportJob.probe (job : ReportJob) : Params := Split.probe job.params job.interval job.settings.splitter

def ReportJob.parts (job : ReportJob) (rows : List Row) : Job :=
  Split.group job (Split.keys rows job.settings.splitter.level)

namespace Job

/-- What has become of a job: the same job, or a group that it was split into. The interval, and with it the key,
stays in both cases. -/
inductive Heir (made now : Job) : Prop
  | same (h : now.asMade = made.asMade)
  | split (job : ReportJob) (rows : List Row) (whole : made.asMade = .report job)
      (parts : now.asMade = job.parts rows)

theorem asMade_parts (job : ReportJob) (rows : List Row) : (job.parts rows).asMade = job.asMade.parts rows := by
  simp only [ReportJob.parts, Split.group, asMade, allAsMade_eq_map, List.map_map]
  rfl

theorem leaves_parts (job : ReportJob) (rows : List Row) :
    (job.parts rows).leaves = (Split.keys rows job.settings.splitter.level).map (Split.part job) := by
  rw [← leaves_of_reports (List.map (Split.part job) _), List.map_map]
  rfl

theorem Heir.refl (job : Job) : Heir job job := .same rfl

theorem Heir.interval {made now : Job} (h : Heir made now) : now.interval = made.interval := by
  cases h with
  | same h => rw [← asMade_interval now, h, asMade_interval]
  | split job rows whole parts => rw [← asMade_interval now, ← asMade_interval made, parts, whole]; rfl

theorem Heir.trans {a b c : Job} (h : Heir a b) (h' : Heir b c) : Heir a c := by
  cases h' with
  | same same =>
    cases h with
    | same same' => exact .same (same.trans same')
    | split job rows whole parts => exact .split job rows whole (same.trans parts)
  | split job rows whole parts =>
    cases h with
    | same same => exact .split job rows (same.symm.trans whole) parts
    | split job' rows' whole' parts' =>
      rw [parts'] at whole
      cases whole

theorem Becomes.heir {r : ReportJob → ReportJob → Prop} {a b : Job} (h : Becomes r a b) : Heir a b := .same h.made

/-- The jobs of the first list correspond one to one to those of the second, which they have become. -/
def Accounted (made now : List Job) : Prop := Multiset.Rel Heir (made : Multiset Job) (now : Multiset Job)

namespace Accounted

theorem of_perm {made now : List Job} (h : made.Perm now) : Accounted made now := by
  rw [Accounted, Multiset.coe_eq_coe.2 h]
  exact Multiset.rel_refl_of_refl_on fun job _ => .refl job

theorem of_forall₂ {made now : List Job} (h : List.Forall₂ Heir made now) : Accounted made now := by
  induction h with
  | nil => exact .zero
  | cons head _ ih => exact Multiset.Rel.cons head ih

theorem append {made now made' now' : List Job} (h : Accounted made now) (h' : Accounted made' now') :
    Accounted (made ++ made') (now ++ now') := by
  rw [Accounted, ← Multiset.coe_add, ← Multiset.coe_add]
  exact Multiset.Rel.add h h'

theorem trans {a b c : List Job} (h : Accounted a b) (h' : Accounted b c) : Accounted a c := by
  have : IsTrans Job Heir := ⟨fun _ _ _ => Heir.trans⟩
  exact Multiset.Rel.trans Heir h h'

theorem length_eq {made now : List Job} (h : Accounted made now) : made.length = now.length := by
  have := Multiset.card_eq_card_of_rel h
  simpa using this

theorem intervals {made now : List Job} (h : Accounted made now) :
    (made.map Job.interval).Perm (now.map Job.interval) := by
  rw [← Multiset.coe_eq_coe, ← Multiset.map_coe, ← Multiset.map_coe, ← Multiset.rel_eq, Multiset.rel_map]
  exact Multiset.Rel.mono h fun _ _ _ _ heir => heir.interval.symm

end Accounted

end Job

end AsyncReports
