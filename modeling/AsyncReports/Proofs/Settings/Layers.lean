import AsyncReports.Settings.Layers
import Mathlib.Data.List.Basic

set_option autoImplicit false

/-!
# Where a value of a layer ends up

A place is the name of a table with the name of an entry in it. As long as the tables with places stay tables and
nothing is put below a place, what a tree holds at each place is what the sources say about that place, one value laid
over the other. `Orderly` says this of a value and its path; it is kept by one step, and so by whole sources.
-/

namespace AsyncReports.Layer

variable {places : List (String × String)} {place : String × String} {tree value : Json} {path : List Step}

/-- What a tree holds at a place. -/
def at? (tree : Json) (place : String × String) : Option Json := (entries (tree.get? place.1)).lookup place.2

/-- What a value at the end of a path says about a place. -/
def told (place : String × String) : List Step → Json → List Json
  | [.entry table], .object fields =>
    fields.filterMap fun field => if (Text.lower table, Text.lower field.1) = place then some field.2 else none
  | [.entry table, .entry name], value => if (Text.lower table, Text.lower name) = place then [value] else []
  | _, _ => []

/-- What a source says about a place, its last word last. -/
def said (place : String × String) (layer : Layer) : List Json :=
  layer.flatMap fun field => told place (steps field.1) field.2

/-- Values laid over each other, the lowest first. -/
def stack (lower : Option Json) (values : List Json) : Option Json :=
  values.foldl (fun lower value => some (overlay value lower)) lower

theorem stack_append (lower : Option Json) (values more : List Json) :
    stack lower (values ++ more) = stack (stack lower values) more := by
  rw [stack, List.foldl_append]
  rfl

/-- What has places is a table, wherever it is there at all. -/
def Tabled (places : List (String × String)) (tree : Json) : Prop :=
  ∃ fields, tree = .object fields ∧
    ∀ name ∈ places.map Prod.fst, ∀ value, fields.lookup name = some value → ∃ inner, value = .object inner

/-- A value that stands for a table with places is a table. No path leads into such a table by position, or below one
of the places. -/
def Orderly (places : List (String × String)) : List Step → Json → Prop
  | [.entry table], value => Text.lower table ∈ places.map Prod.fst → ∃ fields, value = .object fields
  | .entry table :: .item _ :: _, _ => Text.lower table ∉ places.map Prod.fst
  | .entry table :: .entry name :: _ :: _, _ => (Text.lower table, Text.lower name) ∉ places
  | _, _ => True

/-- A path begins with a name. -/
theorem steps_head (name : String) : ∃ table rest, steps name = .entry table :: rest := by
  unfold steps
  dsimp only
  split
  · split_ifs
    · exact ⟨_, _, rfl⟩
    · exact ⟨_, _, rfl⟩
  · exact ⟨_, _, rfl⟩

theorem told_of_ne {table : String} (ne : place.1 ≠ Text.lower table) (rest : List Step) (value : Json) :
    told place (.entry table :: rest) value = [] := by
  have apart (name : String) : (Text.lower table, name) ≠ place := fun same => ne (congrArg Prod.fst same).symm
  unfold told
  split
  · rename_i same
    cases same
    simp only [apart, if_false, List.filterMap_none]
  · rename_i same
    cases same
    exact if_neg (apart _)
  · rfl

theorem overlayFields_lookup (fields lower : List (String × Json)) (name : String) :
    (overlayFields fields lower).lookup name =
      stack (lower.lookup name)
        (fields.filterMap fun field => if Text.lower field.1 = name then some field.2 else none) := by
  induction fields generalizing lower with
  | nil => rfl
  | cons field rest ih =>
    obtain ⟨key, value⟩ := field
    rw [overlayFields, ih, Json.lookup_insertField]
    by_cases same : Text.lower key = name
    · subst same
      simp [stack]
    · simp [same, Ne.symm same]

/-- A table laid over a table, or over nothing, is a table again. -/
theorem overlay_object (fields : List (String × Json)) {lower : Option Json}
    (tabled : ∀ value, lower = some value → ∃ inner, value = .object inner) :
    overlay (.object fields) lower = .object (overlayFields fields (entries lower)) := by
  cases fields with
  | cons field rest => rfl
  | nil =>
    cases lower with
    | none => rfl
    | some value =>
      obtain ⟨inner, rfl⟩ := tabled value rfl
      rfl

/-- Inside a table with places, each place takes what it is told. -/
theorem overlayAt_table {table : String} {rest : List Step} {lower : Option Json}
    (tabled : ∀ value, lower = some value → ∃ inner, value = .object inner)
    (known : Text.lower table ∈ places.map Prod.fst) (orderly : Orderly places (.entry table :: rest) value) :
    ∃ inner, overlayAt rest value lower = .object inner ∧ ∀ name, (Text.lower table, name) ∈ places →
      inner.lookup name =
        stack ((entries lower).lookup name) (told (Text.lower table, name) (.entry table :: rest) value) := by
  match rest with
  | [] =>
    obtain ⟨fields, rfl⟩ := orderly known
    refine ⟨_, overlay_object fields tabled, fun name _ => ?_⟩
    rw [overlayFields_lookup]
    simp only [told, Prod.mk.injEq, true_and]
  | [.entry other] =>
    refine ⟨_, rfl, fun name _ => ?_⟩
    rw [Json.lookup_insertField, overlayAt]
    by_cases same : name = Text.lower other
    · subst same
      simp [told, stack]
    · simp [told, stack, same, Ne.symm same]
  | .entry other :: step :: more =>
    refine ⟨_, rfl, fun name among => ?_⟩
    have ne : name ≠ Text.lower other := by
      rintro rfl
      exact orderly among
    rw [Json.lookup_insertField, if_neg ne]
    rfl
  | .item _ :: _ => exact absurd known orderly

theorem Tabled.overlayAt (tabled : Tabled places tree) {table : String} {rest : List Step}
    (orderly : Orderly places (.entry table :: rest) value) :
    Tabled places (overlayAt (.entry table :: rest) value (some tree)) ∧ ∀ place ∈ places,
      at? (Layer.overlayAt (.entry table :: rest) value (some tree)) place =
        stack (at? tree place) (told place (.entry table :: rest) value) := by
  obtain ⟨fields, rfl, tables⟩ := tabled
  have whole : Layer.overlayAt (.entry table :: rest) value (some (.object fields)) = .object (Json.insertField
      (Text.lower table) (Layer.overlayAt rest value (fields.lookup (Text.lower table))) fields) := rfl
  have inside : Text.lower table ∈ places.map Prod.fst → _ := fun known =>
    overlayAt_table (tables _ known) known orderly
  constructor
  · refine ⟨_, whole, fun name known held found => ?_⟩
    rw [Json.lookup_insertField] at found
    split_ifs at found with same
    · subst same
      obtain ⟨inner, table, -⟩ := inside known
      exact ⟨inner, (Option.some.inj found).symm.trans table⟩
    · exact tables name known held found
  · rintro ⟨name, entry⟩ among
    have known : name ∈ places.map Prod.fst := List.mem_map.2 ⟨_, among, rfl⟩
    by_cases same : name = Text.lower table
    · subst same
      obtain ⟨inner, table, holds⟩ := inside known
      rw [whole, at?, Json.get?, Json.lookup_insertField, if_pos rfl, table]
      exact holds entry among
    · rw [told_of_ne same, whole, at?, Json.get?, Json.lookup_insertField, if_neg same]
      rfl

theorem onto_at? {layer : Layer} (tabled : Tabled places tree)
    (orderly : ∀ field ∈ layer, Orderly places (steps field.1) field.2) :
    Tabled places (layer.onto tree) ∧ ∀ place ∈ places,
      at? (layer.onto tree) place = stack (at? tree place) (layer.said place) := by
  induction layer generalizing tree with
  | nil => exact ⟨tabled, fun _ _ => rfl⟩
  | cons field layer ih =>
    rw [List.forall_mem_cons] at orderly
    obtain ⟨table, rest, spelled⟩ := steps_head field.1
    have first := orderly.1
    rw [spelled] at first
    obtain ⟨kept, holds⟩ := tabled.overlayAt first
    rw [← spelled] at kept holds
    obtain ⟨tabled', later⟩ := ih kept orderly.2
    refine ⟨tabled', fun place among => ?_⟩
    rw [said, List.flatMap_cons, stack_append, ← holds place among]
    exact later place among

/-- Of a merged tree, each place holds what the sources say about it, from the lowest to the highest. -/
theorem merge_at? {layers : List Layer}
    (orderly : ∀ layer ∈ layers, ∀ field ∈ layer, Orderly places (steps field.1) field.2) :
    Tabled places (merge layers) ∧
      ∀ place ∈ places, at? (merge layers) place = stack none (layers.flatMap (said place)) := by
  have general (tree : Json) (tabled : Tabled places tree) :
      Tabled places (layers.foldl (fun tree layer => layer.onto tree) tree) ∧
      ∀ place ∈ places, at? (layers.foldl (fun tree layer => layer.onto tree) tree) place =
        stack (at? tree place) (layers.flatMap (said place)) := by
    induction layers generalizing tree with
    | nil => exact ⟨tabled, fun _ _ => rfl⟩
    | cons layer layers ih =>
      rw [List.forall_mem_cons] at orderly
      obtain ⟨kept, holds⟩ := onto_at? tabled orderly.1
      obtain ⟨tabled', later⟩ := ih orderly.2 _ kept
      refine ⟨tabled', fun place among => ?_⟩
      rw [List.flatMap_cons, stack_append, ← holds place among]
      exact later place among
  exact general (.object []) ⟨[], rfl, by simp⟩

end AsyncReports.Layer
