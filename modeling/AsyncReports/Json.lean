set_option autoImplicit false

/-!
# Document values

The values that requests, answers and settings files are made of. A whole number and a fraction are different
values even where they are equal as numbers. The fields of an object that was read from text are sorted by
name, each name once; nothing here depends on it.
-/

namespace AsyncReports

inductive Json where
  | null
  | bool (value : Bool)
  | int (value : Int)
  | float (value : Float)
  | text (value : String)
  | array (items : List Json)
  | object (fields : List (String × Json))
deriving Inhabited

namespace Json

def nat (n : Nat) : Json := .int n

/-- The value of a field; of a value that is no object, nothing. -/
def get? (name : String) : Json → Option Json
  | .object fields => fields.lookup name
  | _ => none

/-- The value of a field, where a missing one counts as null. -/
def get (name : String) (j : Json) : Json := (j.get? name).getD .null

/-- Puts a field in its place among sorted ones; a field of that name is replaced. -/
def insertField (name : String) (value : Json) : List (String × Json) → List (String × Json)
  | [] => [(name, value)]
  | (other, old) :: rest =>
    if name = other then (name, value) :: rest
    else if name < other then (name, value) :: (other, old) :: rest
    else (other, old) :: insertField name value rest

/-- Sorts fields by name; of several fields with one name the last one counts. -/
def sortFields (fields : List (String × Json)) : List (String × Json) :=
  fields.foldl (fun sorted field => insertField field.1 field.2 sorted) []

theorem lookup_cons_of_ne {name other : String} (h : other ≠ name) (value : Json)
    (fields : List (String × Json)) : ((name, value) :: fields).lookup other = fields.lookup other := by
  rw [List.lookup_cons, beq_eq_false_iff_ne.2 h]

theorem lookup_insertField (name other : String) (value : Json) (fields : List (String × Json)) :
    (insertField name value fields).lookup other =
      if other = name then some value else fields.lookup other := by
  induction fields with
  | nil =>
    by_cases h : other = name
    · simp [insertField, h]
    · simp [insertField, lookup_cons_of_ne h, h]
  | cons field rest ih =>
    obtain ⟨key, old⟩ := field
    by_cases hk : name = key
    · subst hk
      by_cases h : other = name
      · simp [insertField, h]
      · simp [insertField, lookup_cons_of_ne h, h]
    · by_cases hl : name < key
      · by_cases h : other = name
        · simp [insertField, hk, hl, h]
        · simp [insertField, hk, hl, lookup_cons_of_ne h, h]
      · by_cases ho : other = key
        · subst ho
          simp [insertField, hk, hl, Ne.symm hk]
        · simp [insertField, hk, hl, lookup_cons_of_ne ho, ih]

end Json

end AsyncReports
