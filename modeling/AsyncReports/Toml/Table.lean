import AsyncReports.Json

set_option autoImplicit false

/-!
# Tables built from statements

A settings file in the table format is a list of statements. A header opens a table, or a new element of an
array of tables, and the values that follow go into it. A table may be opened by a header only once, a dotted
key may only extend tables that dotted keys have made, and nothing may be set twice.
-/

namespace AsyncReports.Toml

/-- What has made a table. -/
inductive Origin
  /-- Its own header. -/
  | header
  /-- The header of a table below it. -/
  | implied
  /-- A dotted key that passes through it. -/
  | dotted
deriving DecidableEq

inductive Node
  | value (value : Json)
  | table (origin : Origin) (entries : List (String × Node))
  /-- An array whose elements have headers; the last one is open. -/
  | tables (elements : List Node)

abbrev Entries := List (String × Node)

/-- Sets an entry, in the place of the old one of that name if there is one. -/
def assign (name : String) (node : Node) : Entries → Entries
  | [] => [(name, node)]
  | entry :: rest => if entry.1 = name then (name, node) :: rest else entry :: assign name node rest

/-- Changes the table at the end of a path; tables that are missing on the way are implied. -/
def changeAt : List String → (Entries → Option Entries) → Entries → Option Entries
  | [], change, entries => change entries
  | name :: path, change, entries =>
    match entries.lookup name with
    | none => (changeAt path change []).map fun inner => assign name (.table .implied inner) entries
    | some (.table origin inner) =>
      (changeAt path change inner).map fun inner => assign name (.table origin inner) entries
    | some (.tables elements) =>
      match elements.getLast? with
      | some (.table origin inner) =>
        (changeAt path change inner).map fun inner =>
          assign name (.tables (elements.dropLast ++ [.table origin inner])) entries
      | _ => none
    | some (.value _) => none

/-- What the header of a table does where the table belongs. -/
def openTable (name : String) (entries : Entries) : Option Entries :=
  match entries.lookup name with
  | none => some (assign name (.table .header []) entries)
  | some (.table .implied inner) => some (assign name (.table .header inner) entries)
  | _ => none

/-- What the header of an element does where its array belongs. -/
def openElement (name : String) (entries : Entries) : Option Entries :=
  match entries.lookup name with
  | none => some (assign name (.tables [.table .header []]) entries)
  | some (.tables elements) => some (assign name (.tables (elements ++ [.table .header []])) entries)
  | _ => none

/-- Sets a value below a table. The key's last part needs a table that is `free` for it: the open one, or one
that dotted keys have made. -/
def put (value : Json) (free : Bool) : List String → Entries → Option Entries
  | [], _ => none
  | [name], entries =>
    if free && (entries.lookup name).isNone then some (assign name (.value value) entries) else none
  | name :: path, entries =>
    match entries.lookup name with
    | none => (put value true path []).map fun inner => assign name (.table .dotted inner) entries
    | some (.table .header _) => none
    | some (.table origin inner) =>
      (put value (origin = .dotted) path inner).map fun inner => assign name (.table origin inner) entries
    | some (.tables elements) =>
      match elements.getLast? with
      | some (.table origin inner) =>
        (put value false path inner).map fun inner =>
          assign name (.tables (elements.dropLast ++ [.table origin inner])) entries
      | _ => none
    | some (.value _) => none

mutual
def Node.toJson : Node → Json
  | .value v => v
  | .table _ entries => .object (entriesToJson entries)
  | .tables elements => .array (elementsToJson elements)

def entriesToJson : List (String × Node) → List (String × Json)
  | [] => []
  | (name, node) :: rest => (name, node.toJson) :: entriesToJson rest

def elementsToJson : List Node → List Json
  | [] => []
  | node :: rest => node.toJson :: elementsToJson rest
end

inductive Statement
  | table (path : List String) (name : String)
  | element (path : List String) (name : String)
  | value (key : List String) (value : Json)

/-- The tables so far, and the path of the open one. -/
structure Draft where
  root : Entries := []
  path : List String := []

def Draft.apply? (d : Draft) : Statement → Option Draft
  | .table path name => (changeAt path (openTable name) d.root).map (⟨·, path ++ [name]⟩)
  | .element path name => (changeAt path (openElement name) d.root).map (⟨·, path ++ [name]⟩)
  | .value key value => (changeAt d.path (put value true key) d.root).map (⟨·, d.path⟩)

/-- The tables that a list of statements makes. -/
def tables? (statements : List Statement) : Option (List (String × Json)) :=
  (statements.foldlM Draft.apply? {}).map fun d => entriesToJson d.root

end AsyncReports.Toml
