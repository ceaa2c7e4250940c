import AsyncReports.Proofs.Documents
import Mathlib.Data.List.Nodup

set_option autoImplicit false

/-!
# Parameters on the wire

Parameters are written as one object, in which the fields they declare stand among those that only pass through. Since
no field of the second kind has a declared name, both can be told apart again when the object is read: parameters that
were read are the same after they have been written and read once more.
-/

namespace AsyncReports

namespace Params

variable {row : Row} {p : Params}

/-- The names that parameters declare. -/
def names : List String :=
  ["level", "fields", "breakdowns", "action_breakdowns", "action_attribution_windows", "time_increment", "time_range"]

theorem declares_iff {name : String} : declares name = true ↔ name ∈ names := by
  rw [declares, ← Option.ne_none_iff_isSome, ne_eq, Json.lookup_eq_none_iff, not_not]
  rfl

/-! ## What is read -/

/-- What fields say, if they are those of parameters: no declared name stands twice, the level and the fields of the
report are there, the other lists are empty unless they are there, and a missing increment or window counts as null. -/
structure Spells (row : Row) (p : Params) : Prop where
  once : ∀ name ∈ names, (row.map Prod.fst).count name ≤ 1
  level : ∃ j, row.lookup "level" = some j ∧ Level.decode j = .ok p.level
  fields : row.lookup "fields" = some (.array (p.fields.map .text))
  breakdowns : (row.lookup "breakdowns").getD (.array []) = .array (p.breakdowns.map .text)
  actionBreakdowns : (row.lookup "action_breakdowns").getD (.array []) = .array (p.actionBreakdowns.map .text)
  attributionWindows :
    (row.lookup "action_attribution_windows").getD (.array []) = .array (p.attributionWindows.map .text)
  increment : Decoder.optional Decoder.count ((row.lookup "time_increment").getD .null) = .ok p.increment
  window : Decoder.optional Window.decode ((row.lookup "time_range").getD .null) = .ok p.window
  extra : p.extra = row.filter fun field => !declares field.1

theorem Spells.checked (spells : Spells row p) : shape.checkFields [] row = .ok () := by
  have level : Level.decode ((row.lookup "level").getD .null) = .ok p.level := by
    obtain ⟨level, named, reads⟩ := spells.level
    rw [named]
    exact reads
  have fields : (row.lookup "fields").getD .null = .array (p.fields.map .text) := by
    rw [spells.fields]
    rfl
  have reads {α : Type} {decoder : Decoder α} {a : α} (name : String) (declared : name ∈ names) {absent : Json}
      (known : decoder ((row.lookup name).getD absent) = .ok a) : Shape.Fits row name decoder.check :=
    Shape.fits_of_reads absent (spells.once name declared) known
  rw [Shape.checkFields_nil_eq_ok (by decide)]
  simp only [shape, List.forall_mem_cons, List.not_mem_nil, false_implies, implies_true, and_true]
  exact ⟨reads "level" (by decide) level,
    reads "fields" (by decide) (Decoder.texts_eq_ok.2 fields),
    reads "breakdowns" (by decide) (Decoder.texts_eq_ok.2 spells.breakdowns),
    reads "action_breakdowns" (by decide) (Decoder.texts_eq_ok.2 spells.actionBreakdowns),
    reads "action_attribution_windows" (by decide) (Decoder.texts_eq_ok.2 spells.attributionWindows),
    reads "time_increment" (by decide) spells.increment,
    reads "time_range" (by decide) spells.window⟩

theorem decode_eq_ok {v : Json} : decode v = .ok p ↔ ∃ row, v = .object row ∧ Spells row p := by
  cases v with
  | object row =>
    have empty : Decoder.list Decoder.text (.array []) = .ok [] := rfl
    have unset {α : Type} (decoder : Decoder α) : Decoder.optional decoder .null = .ok none := rfl
    simp only [decode, bind_eq_ok, Shape.required_eq_ok, Shape.defaulted_eq empty, Shape.defaulted_eq (unset _),
      Decoder.texts_eq_ok, pure, Except.pure, Except.ok.injEq]
    constructor
    · rintro ⟨⟨⟩, passes, level, readLevel, fields, ⟨_, readFields, rfl⟩, breakdowns, readBreakdowns, actions,
        readActions, windows, readWindows, increment, readIncrement, window, readWindow, rfl⟩
      have fits := (Shape.checkFields_nil_eq_ok (by decide)).1 passes
      have once : ∀ name ∈ names, (row.map Prod.fst).count name ≤ 1 := by
        intro name among
        obtain ⟨field, declared, rfl⟩ := List.mem_map.1 (show name ∈ shape.fields.map Prod.fst from among)
        exact (fits field declared).1
      exact ⟨row, rfl, once, readLevel, readFields, readBreakdowns, readActions, readWindows, readIncrement,
        readWindow, rfl⟩
    · rintro ⟨_, ⟨⟩, spells⟩
      refine ⟨(), spells.checked, p.level, spells.level, p.fields, ⟨_, spells.fields, rfl⟩, p.breakdowns,
        spells.breakdowns, p.actionBreakdowns, spells.actionBreakdowns, p.attributionWindows,
        spells.attributionWindows, p.increment, spells.increment, p.window, spells.window, ?_⟩
      rw [← spells.extra]
  | null | bool | int | float | text | array => simp [decode]

/-! ## What is written -/

/-- Parameters that can be read back: what passes through has no declared name, and the increment is a number that a
count can be. -/
structure Writable (p : Params) : Prop where
  apart : ∀ field ∈ p.extra, field.1 ∉ names
  short : ∀ days, p.increment = some days → days < Width.capacity 32

theorem Spells.writable (spells : Spells row p) : Writable p := by
  constructor
  case apart =>
    intro field passing declared
    rw [spells.extra, List.mem_filter, declares_iff.2 declared] at passing
    exact absurd passing.2 Bool.false_ne_true
  case short =>
    intro days known
    have reads := spells.increment
    rw [known, Decoder.optional_eq_ok] at reads
    rcases reads with ⟨-, unset⟩ | ⟨-, n, reads, same⟩
    · cases unset
    · cases same
      exact (Decoder.unsigned_eq_ok.1 reads).2

/-- The fields of parameters as they are written. -/
def written (p : Params) : Row := Json.insertFields p.declared p.extra

theorem declared_names (p : Params) : (p.declared.map Prod.fst).Sublist names := by
  unfold declared
  cases p.increment <;> cases p.window <;> simp [names]

theorem declared_nodup (p : Params) : (p.declared.map Prod.fst).Nodup := p.declared_names.nodup (by decide)

theorem mem_names_of_declared {field : String × Json} (among : field ∈ p.declared) : field.1 ∈ names :=
  p.declared_names.subset (List.mem_map.2 ⟨field, among, rfl⟩)

theorem declared_lookup_increment (p : Params) : p.declared.lookup "time_increment" = p.increment.map Json.nat := by
  unfold declared
  cases p.increment <;> cases p.window <;> rfl

theorem declared_lookup_window (p : Params) : p.declared.lookup "time_range" = p.window.map Window.encode := by
  unfold declared
  cases p.increment <;> cases p.window <;> rfl

theorem Writable.not_mem (writable : Writable p) {name : String} (declared : name ∈ names) :
    name ∉ p.extra.map Prod.fst := by
  intro among
  obtain ⟨field, passing, rfl⟩ := List.mem_map.1 among
  exact writable.apart field passing declared

theorem Writable.written_perm (writable : Writable p) : p.written.Perm (p.declared ++ p.extra) :=
  Json.insertFields_perm p.declared_nodup fun _ among => writable.not_mem (mem_names_of_declared among)

theorem Writable.written_lookup (writable : Writable p) {name : String} (declared : name ∈ names) :
    p.written.lookup name = p.declared.lookup name := by
  rw [written, Json.insertFields_lookup, Json.lookup_eq_none_iff.2 (writable.not_mem declared), Option.or_none]

theorem Writable.written_count (writable : Writable p) {name : String} (declared : name ∈ names) :
    (p.written.map Prod.fst).count name ≤ 1 := by
  rw [(writable.written_perm.map Prod.fst).count_eq, List.map_append, List.count_append,
    List.count_eq_zero.2 (writable.not_mem declared)]
  exact List.nodup_iff_count_le_one.1 p.declared_nodup name

theorem Writable.written_filter (writable : Writable p) :
    p.written.filter (fun field => !declares field.1) = p.extra := by
  have leaves : ∀ field ∈ p.declared, (!declares field.1) = false := by
    intro field among
    rw [declares_iff.2 (mem_names_of_declared among), Bool.not_true]
  rw [written, Json.insertFields_filter (fun name => !declares name) leaves]
  refine List.filter_eq_self.2 fun field passing => ?_
  rw [Bool.not_eq_true', ← Bool.not_eq_true, declares_iff]
  exact writable.apart field passing

theorem Writable.spells (writable : Writable p) : Spells p.written p := by
  constructor
  case once => exact fun name declared => writable.written_count declared
  case level => exact ⟨p.level.encode, writable.written_lookup (by decide), p.level.decode_encode⟩
  case fields => exact writable.written_lookup (by decide)
  case breakdowns | actionBreakdowns | attributionWindows =>
    rw [writable.written_lookup (by decide)]
    rfl
  case increment =>
    rw [writable.written_lookup (by decide), declared_lookup_increment, Decoder.optional_eq_ok]
    cases known : p.increment with
    | none => exact .inl ⟨rfl, rfl⟩
    | some days =>
      exact .inr ⟨nofun, days, Decoder.unsigned_eq_ok.2 ⟨rfl, writable.short days known⟩, rfl⟩
  case window =>
    rw [writable.written_lookup (by decide), declared_lookup_window, Decoder.optional_eq_ok]
    cases p.window with
    | none => exact .inl ⟨rfl, rfl⟩
    | some window => exact .inr ⟨nofun, window, window.decode_encode, rfl⟩
  case extra => exact writable.written_filter.symm

theorem decode_encode (writable : Writable p) : decode p.encode = .ok p :=
  decode_eq_ok.2 ⟨p.written, rfl, writable.spells⟩

/-- Parameters survive the wire. They say what the fields they were read from say, and of these fields all that have no
declared name pass through as they were. Written, the parameters are the declared fields, spelled in one way, and those
that pass through; names that were in order, each once, are so again. Read once more the parameters are the same, so
that writing them again changes nothing. -/
theorem survives_wire {v : Json} (decodes : decode v = .ok p) :
    ∃ row written : Row, v = .object row ∧ p.encode = .object written ∧ Spells row p ∧
      (∀ field ∈ p.extra, field.1 ∉ names) ∧ p.extra = row.filter (fun field => field.1 ∉ names) ∧
      (row.lookup "breakdowns" = none → p.breakdowns = []) ∧
      (row.lookup "action_breakdowns" = none → p.actionBreakdowns = []) ∧
      (row.lookup "action_attribution_windows" = none → p.attributionWindows = []) ∧
      written.Perm
        ([("level", .text p.level.text), ("fields", .array (p.fields.map .text)),
            ("breakdowns", .array (p.breakdowns.map .text)),
            ("action_breakdowns", .array (p.actionBreakdowns.map .text)),
            ("action_attribution_windows", .array (p.attributionWindows.map .text))] ++
          (p.increment.map fun days => ("time_increment", .int days)).toList ++
          (p.window.map fun window =>
            ("time_range", .object [("since", .text window.first.text), ("until", .text window.last.text)])).toList ++
          p.extra) ∧
      (Json.Sorted row → Json.Sorted written) ∧ decode p.encode = .ok p ∧
      (decode p.encode).map encode = .ok p.encode := by
  obtain ⟨row, rfl, spells⟩ := decode_eq_ok.1 decodes
  have writable := spells.writable
  have extra : p.extra = row.filter (fun field => field.1 ∉ names) := by
    simp only [spells.extra, ← declares_iff, Bool.decide_eq_true, decide_not]
  have omitted {name : String} {items : List String}
      (said : (row.lookup name).getD (.array []) = .array (items.map .text)) (absent : row.lookup name = none) :
      items = [] := by
    rw [absent] at said
    exact List.map_eq_nil_iff.1 (Json.array.inj said).symm
  have again := decode_encode writable
  refine ⟨row, p.written, rfl, rfl, spells, writable.apart, extra, omitted spells.breakdowns,
    omitted spells.actionBreakdowns, omitted spells.attributionWindows, writable.written_perm, fun sorted => ?_,
    again, ?_⟩
  · refine Json.insertFields_sorted ?_
    rw [extra]
    exact List.Pairwise.filter _ sorted
  · rw [again]
    rfl

/-- A spelling that is not the one used for writing: the level is the only field of an object, the increment is null,
the window is a list of two dates with blanks in them and without their zeros, and one field only passes through. -/
def loose : Json :=
  .object
    [("fields", .array [.text "impressions"]), ("level", .object [("ad", .null)]), ("limit", .int 500),
      ("time_increment", .null), ("time_range", .array [.text "1970-1- 1", .text " 1970-1-02 "])]

theorem survives_wire_loose : ∃ (p : Params) (written : Row), decode loose = .ok p ∧ p.encode = .object written ∧
    p.extra = [("limit", .int 500)] ∧
    written.lookup "time_range" = some (.object [("since", .text "1970-01-01"), ("until", .text "1970-01-02")]) ∧
    decode (.object written) = .ok p := by
  have decodes : decode loose = .ok
      { level := .ad
        fields := ["impressions"]
        window := some ⟨⟨0, by decide⟩, ⟨1, by decide⟩⟩
        extra := [("limit", .int 500)] } := by
    rfl
  obtain ⟨row, written, -, writes, -, -, -, -, -, -, -, -, again, -⟩ := survives_wire decodes
  rw [writes] at again
  refine ⟨_, written, decodes, writes, rfl, ?_, again⟩
  rw [← Json.object.inj writes]
  rfl

end Params

end AsyncReports
