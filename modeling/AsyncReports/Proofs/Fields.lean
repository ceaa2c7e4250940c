import AsyncReports.Json
import Mathlib.Data.String.Basic

set_option autoImplicit false

/-!
# Fields of an object

What stands under a name, and how fields take their places among others. If all their names are new, nothing is
replaced: the fields are then those of both sides, and each side can be told from the other by its names.
-/

namespace AsyncReports.Json

section Lookup

variable {α : Type}

theorem lookup_eq_none_iff {name : String} {fields : List (String × α)} :
    fields.lookup name = none ↔ name ∉ fields.map Prod.fst := by
  simp only [List.lookup_eq_none_iff, bne_iff_ne, List.mem_map, not_exists, not_and]
  exact ⟨fun apart field among same => apart field among same.symm,
    fun absent field among same => absent field among same.symm⟩

theorem lookup_eq_some_iff {name : String} {value : α} {fields : List (String × α)}
    (once : (fields.map Prod.fst).Nodup) : fields.lookup name = some value ↔ (name, value) ∈ fields := by
  induction fields with
  | nil => simp
  | cons field rest ih =>
    obtain ⟨key, first⟩ := field
    obtain ⟨absent, once⟩ := List.nodup_cons.1 once
    by_cases same : name = key
    · subst same
      have elsewhere : (name, value) ∉ rest := fun among => absent (List.mem_map.2 ⟨_, among, rfl⟩)
      simp [elsewhere, eq_comm]
    · rw [List.lookup_cons, beq_eq_false_iff_ne.2 same]
      simp [same, ih once]

end Lookup

variable {name : String} {value : Json} {declared fields : List (String × Json)}

theorem lookup_filter (keeps : String → Bool) (kept : keeps name = true) :
    (fields.filter fun field => keeps field.1).lookup name = fields.lookup name := by
  induction fields with
  | nil => rfl
  | cons field rest ih =>
    obtain ⟨key, value⟩ := field
    by_cases same : name = key
    · subst same
      rw [List.filter_cons_of_pos (by exact kept), List.lookup_cons_self, List.lookup_cons_self]
    · rw [lookup_cons_of_ne same, List.filter_cons]
      split
      · rw [lookup_cons_of_ne same, ih]
      · exact ih

theorem mem_insertField {field : String × Json} (among : field ∈ insertField name value fields) :
    field.1 = name ∨ field ∈ fields := by
  induction fields with
  | nil =>
    rw [insertField, List.mem_singleton] at among
    exact .inl (congrArg Prod.fst among)
  | cons first rest ih =>
    obtain ⟨key, old⟩ := first
    rw [insertField] at among
    split at among
    · exact (List.mem_cons.1 among).imp (congrArg Prod.fst) (List.mem_cons_of_mem _)
    · split at among
      · exact (List.mem_cons.1 among).imp (congrArg Prod.fst) id
      · rcases List.mem_cons.1 among with rfl | later
        · exact .inr List.mem_cons_self
        · exact (ih later).imp id (List.mem_cons_of_mem _)

/-- Each name once, in order. -/
def Sorted (fields : List (String × Json)) : Prop := fields.Pairwise fun a b => a.1 < b.1

theorem insertField_sorted (sorted : Sorted fields) : Sorted (insertField name value fields) := by
  induction fields with
  | nil => exact List.pairwise_singleton _ _
  | cons first rest ih =>
    obtain ⟨key, old⟩ := first
    obtain ⟨least, later⟩ := List.pairwise_cons.1 sorted
    rw [insertField]
    by_cases same : name = key
    · subst same
      rw [if_pos rfl]
      exact List.pairwise_cons.2 ⟨least, later⟩
    rw [if_neg same]
    by_cases before : name < key
    · rw [if_pos before]
      refine List.pairwise_cons.2 ⟨List.forall_mem_cons.2 ⟨before, fun field among => ?_⟩, sorted⟩
      exact before.trans (least field among)
    · rw [if_neg before]
      refine List.pairwise_cons.2 ⟨fun field among => ?_, ih later⟩
      rcases mem_insertField among with named | among
      · rw [named]
        exact lt_of_le_of_ne (not_lt.1 before) (Ne.symm same)
      · exact least field among

theorem insertField_perm (absent : name ∉ fields.map Prod.fst) :
    (insertField name value fields).Perm ((name, value) :: fields) := by
  induction fields with
  | nil => exact .refl _
  | cons field rest ih =>
    obtain ⟨key, old⟩ := field
    rw [List.map_cons, List.mem_cons, not_or] at absent
    rw [insertField, if_neg absent.1]
    by_cases before : name < key
    · rw [if_pos before]
    · rw [if_neg before]
      exact ((ih absent.2).cons _).trans (.swap _ _ _)

theorem insertField_filter (keeps : String → Bool) (leaves : keeps name = false) :
    (insertField name value fields).filter (fun field => keeps field.1) = fields.filter fun field => keeps field.1 := by
  induction fields with
  | nil => simp [insertField, leaves]
  | cons field rest ih =>
    obtain ⟨key, old⟩ := field
    rw [insertField]
    by_cases same : name = key
    · subst same
      simp [leaves]
    rw [if_neg same]
    by_cases before : name < key
    · rw [if_pos before, List.filter_cons_of_neg (by simp [leaves])]
    · rw [if_neg before]
      simp only [List.filter_cons, ih]

/-- A field that comes after all others that are kept is the last of them. -/
theorem insertField_filter_last (keeps : String → Bool) (sorted : Sorted fields) (kept : keeps name = true)
    (last : ∀ field ∈ fields, keeps field.1 = true → field.1 < name) :
    (insertField name value fields).filter (fun field => keeps field.1) =
      fields.filter (fun field => keeps field.1) ++ [(name, value)] := by
  induction fields with
  | nil => simp [insertField, kept]
  | cons field rest ih =>
    obtain ⟨key, old⟩ := field
    obtain ⟨first, later⟩ := List.forall_mem_cons.1 last
    obtain ⟨least, sorted⟩ := List.pairwise_cons.1 sorted
    have differs : name ≠ key := by
      rintro rfl
      exact lt_irrefl _ (first kept)
    rw [insertField, if_neg differs]
    by_cases before : name < key
    · have none : ((key, old) :: rest).filter (fun field => keeps field.1) = [] := by
        refine List.filter_eq_nil_iff.2 fun field among keep => ?_
        have behind : name < field.1 := by
          rcases List.mem_cons.1 among with rfl | among
          · exact before
          · exact before.trans (least field among)
        exact lt_asymm behind (last field among keep)
      rw [if_pos before, List.filter_cons_of_pos (by exact kept), none, List.nil_append]
    · rw [if_neg before, List.filter_cons, List.filter_cons, ih sorted later]
      split <;> rfl

/-- Puts fields in their places, one after another. -/
def insertFields (declared fields : List (String × Json)) : List (String × Json) :=
  declared.foldr (fun field fields => insertField field.1 field.2 fields) fields

theorem insertFields_sorted (sorted : Sorted fields) : Sorted (insertFields declared fields) := by
  induction declared with
  | nil => exact sorted
  | cons field rest ih => exact insertField_sorted ih

theorem insertFields_filter (keeps : String → Bool) (leaves : ∀ field ∈ declared, keeps field.1 = false) :
    (insertFields declared fields).filter (fun field => keeps field.1) = fields.filter fun field => keeps field.1 := by
  induction declared with
  | nil => rfl
  | cons field rest ih =>
    obtain ⟨first, later⟩ := List.forall_mem_cons.1 leaves
    exact (insertField_filter keeps first).trans (ih later)

theorem insertFields_lookup :
    (insertFields declared fields).lookup name = (declared.lookup name).or (fields.lookup name) := by
  induction declared with
  | nil => rfl
  | cons field rest ih =>
    obtain ⟨key, value⟩ := field
    rw [insertFields, List.foldr_cons, lookup_insertField]
    by_cases same : name = key
    · rw [if_pos same, same, List.lookup_cons_self, Option.some_or]
    · rw [if_neg same, lookup_cons_of_ne same, ← ih, insertFields]

theorem insertFields_perm (once : (declared.map Prod.fst).Nodup)
    (apart : ∀ field ∈ declared, field.1 ∉ fields.map Prod.fst) :
    (insertFields declared fields).Perm (declared ++ fields) := by
  induction declared with
  | nil => exact .refl _
  | cons field rest ih =>
    obtain ⟨absent, once⟩ := List.nodup_cons.1 once
    obtain ⟨first, later⟩ := List.forall_mem_cons.1 apart
    have rest_perm := ih once later
    refine (insertField_perm ?_).trans (rest_perm.cons field)
    change field.1 ∉ (insertFields rest fields).map Prod.fst
    rw [(rest_perm.map Prod.fst).mem_iff, List.map_append, List.mem_append, not_or]
    exact ⟨absent, first⟩

end AsyncReports.Json
