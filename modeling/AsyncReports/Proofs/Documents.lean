import AsyncReports.Proofs.Date.Text
import AsyncReports.Proofs.Decoding
import AsyncReports.Report
import Mathlib.Data.List.Nodup

set_option autoImplicit false

/-!
# Documents of fixed shape

Runs, intervals, windows, entities and events are the same after they have been written and read once more. Of a status
document only six names count. Two of them are for the identifier, and since both come behind the other four, it does
not matter which one is used, not even for what is complained of first.
-/

namespace AsyncReports

theorem Decoder.date_encodeDate (d : Date) : Decoder.date (encodeDate d) = .ok d := by
  rw [encodeDate, Decoder.date, Date.ofText_text]
  rfl

theorem Level.decode_encode (level : Level) : decode level.encode = .ok level := by
  cases level <;> rfl

theorem Status.decode_encode (status : Status) : decode status.encode = .ok status := by
  cases status <;> rfl

theorem Event.decode_encode (event : Event) : decode event.encode = .ok event := by
  cases event with
  | start | reset => rfl
  | observed status => cases status <;> rfl

theorem Edge.decode_eq_ok {j : Json} {edge : Edge} : decode j = .ok edge ↔
    ∃ x y, Shape.Pairs "level" "id" j x y ∧ Level.decode x = .ok edge.level ∧ Decoder.text y = .ok edge.id :=
  Shape.pair_eq_ok rfl (by decide) fun _ _ _ _ same => (Edge.mk.injEq ..).mp same

theorem Edge.decode_encode (edge : Edge) : decode edge.encode = .ok edge :=
  decode_eq_ok.2 ⟨_, _, .named (by simp) (by simp) rfl rfl, edge.level.decode_encode, rfl⟩

theorem Window.decode_eq_ok {j : Json} {window : Window} : decode j = .ok window ↔
    ∃ x y, Shape.Pairs "since" "until" j x y ∧ Decoder.date x = .ok window.first ∧ Decoder.date y = .ok window.last :=
  Shape.pair_eq_ok rfl (by decide) fun _ _ _ _ same => (Window.mk.injEq ..).mp same

theorem Window.decode_encode (window : Window) : decode window.encode = .ok window :=
  decode_eq_ok.2 ⟨_, _, .named (by simp) (by simp) rfl rfl, Decoder.date_encodeDate _, Decoder.date_encodeDate _⟩

theorem Interval.decode_eq_ok {j : Json} {interval : Interval} : decode j = .ok interval ↔
    ∃ x y, Shape.Pairs "start" "end" j x y ∧ Decoder.date x = .ok interval.start ∧
      Decoder.date y = .ok interval.stop :=
  Shape.pair_eq_ok rfl (by decide) fun _ _ _ _ same => (Interval.mk.injEq ..).mp same

theorem Interval.decode_encode (interval : Interval) : decode interval.encode = .ok interval :=
  decode_eq_ok.2 ⟨_, _, .named (by simp) (by simp) rfl rfl, Decoder.date_encodeDate _, Decoder.date_encodeDate _⟩

namespace Run

variable {row rest : Row} {run : Run}

def renamed (row : Row) : Row :=
  row.map fun field => (if field.1 = "id" then "report_run_id" else field.1, field.2)

/-- What a status document may say besides the identifier of its run. -/
def optionalNames : List String := ["async_status", "async_percent_completion", "date_start", "date_stop"]

/-- The fields of a status document that count. -/
def names : List String := "id" :: "report_run_id" :: optionalNames

/-- What the fields of a document say, the identifier under its own name. -/
def ofFields (fields : Row) : Except DecodeError Run := do
  shape.checkFields [] fields
  let id ← shape.required .named fields "report_run_id" Decoder.text
  let status ← Shape.defaulted fields "async_status" Status.decode .notStarted
  let percent ← Shape.defaulted fields "async_percent_completion" Decoder.float 0
  let dateStart ← Shape.defaulted fields "date_start" (Decoder.optional Decoder.date) none
  let dateStop ← Shape.defaulted fields "date_stop" (Decoder.optional Decoder.date) none
  pure ⟨id, status, percent, dateStart, dateStop⟩

theorem decode_object (row : Row) : decode (.object row) = ofFields (renamed row) := by
  change (shape.checkFields [] (renamed row) >>= _) >>= _ = shape.checkFields [] (renamed row) >>= _
  cases shape.checkFields [] (renamed row) <;> rfl

theorem ofFields_congr {fields fields' : Row} (checks : shape.checkFields [] fields = shape.checkFields [] fields')
    (same : ∀ field ∈ shape.fields, fields.lookup field.1 = fields'.lookup field.1) :
    ofFields fields = ofFields fields' := by
  simp only [shape, List.forall_mem_cons, List.not_mem_nil, false_implies, implies_true, and_true] at same
  obtain ⟨id, status, percent, start, stop⟩ := same
  simp only [ofFields, checks, Shape.required, Shape.defaulted, id, status, percent, start, stop]

theorem renamed_filter : renamed (row.filter fun field => field.1 ∈ names) =
    (renamed row).filter fun field => (shape.fields.lookup field.1).isSome := by
  have same (name : String) : decide (name ∈ names) =
      (shape.fields.lookup (if name = "id" then "report_run_id" else name)).isSome := by
    by_cases id : name = "id"
    · subst id
      rfl
    · have declared : (shape.fields.lookup name).isSome ↔ name ∈ "report_run_id" :: optionalNames := by
        rw [← Option.ne_none_iff_isSome, ne_eq, Json.lookup_eq_none_iff, not_not]
        rfl
      rw [if_neg id, Bool.eq_iff_iff, declared, decide_eq_true_eq, names, List.mem_cons, or_iff_right id]
  simp only [renamed, List.filter_map, Function.comp_def, same]

/-- A document may say more than what is known of it here. -/
theorem decode_known (row : Row) :
    decode (.object (row.filter fun field => field.1 ∈ names)) = decode (.object row) := by
  rw [decode_object, decode_object, renamed_filter]
  refine ofFields_congr Shape.checkFields_filter fun field declared => ?_
  refine Json.lookup_filter (fun name => (shape.fields.lookup name).isSome) ?_
  rw [← Option.ne_none_iff_isSome, ne_eq, Json.lookup_eq_none_iff, not_not]
  exact List.mem_map.2 ⟨field, declared, rfl⟩

/-- The identifier may stand under either name. -/
theorem decode_either {rest : Row} (sorted : Json.Sorted rest) (j : Json) (absent : "id" ∉ rest.map Prod.fst)
    (absent' : "report_run_id" ∉ rest.map Prod.fst) :
    decode (.object (Json.insertField "id" j rest)) = decode (.object (Json.insertField "report_run_id" j rest)) := by
  have early : ∀ name ∈ names, name = "id" ∨ name = "report_run_id" ∨ name < "id" ∧ name < "report_run_id" := by decide
  have place : ∀ field ∈ rest, decide (field.1 ∈ names) = true → field.1 < "id" ∧ field.1 < "report_run_id" := by
    intro field among known
    rcases early field.1 (of_decide_eq_true known) with same | same | before
    · exact absurd (List.mem_map.2 ⟨field, among, same⟩) absent
    · exact absurd (List.mem_map.2 ⟨field, among, same⟩) absent'
    · exact before
  rw [← decode_known, ← decode_known (Json.insertField "report_run_id" j rest),
    Json.insertField_filter_last (fun name => name ∈ names) sorted (by decide) fun field among known =>
      (place field among known).1,
    Json.insertField_filter_last (fun name => name ∈ names) sorted (by decide) fun field among known =>
      (place field among known).2, decode_object, decode_object]
  simp [renamed]

/-- What fields say, if they are those of a status document: the identifier stands under one of its names, no other
name stands twice, a status, a percentage and dates are what they say, and without them the run is not started, it is
at zero, and the dates are not known. -/
structure Spells (row : Row) (run : Run) : Prop where
  named : (row.map Prod.fst).count "id" + (row.map Prod.fst).count "report_run_id" ≤ 1
  once : ∀ name ∈ optionalNames, (row.map Prod.fst).count name ≤ 1
  id : (row.lookup "id").or (row.lookup "report_run_id") = some (.text run.id)
  status : Status.decode ((row.lookup "async_status").getD (.text "Job Not Started")) = .ok run.status
  percent : Decoder.float ((row.lookup "async_percent_completion").getD (.float 0)) = .ok run.percent
  dateStart : Decoder.optional Decoder.date ((row.lookup "date_start").getD .null) = .ok run.dateStart
  dateStop : Decoder.optional Decoder.date ((row.lookup "date_stop").getD .null) = .ok run.dateStop

theorem renamed_lookup {name : String} (ne : name ≠ "id") (ne' : name ≠ "report_run_id") :
    (renamed row).lookup name = row.lookup name := by
  induction row with
  | nil => rfl
  | cons field rest ih =>
    obtain ⟨key, value⟩ := field
    have other : name = (if key = "id" then "report_run_id" else key) ↔ name = key := by
      by_cases id : key = "id" <;> simp [id, ne, ne']
    rw [renamed, List.map_cons]
    by_cases same : name = key
    · subst same
      rw [if_neg ne, List.lookup_cons_self, List.lookup_cons_self]
    · rw [Json.lookup_cons_of_ne (mt other.1 same), Json.lookup_cons_of_ne same]
      exact ih

theorem renamed_count {name : String} (ne : name ≠ "id") (ne' : name ≠ "report_run_id") :
    ((renamed row).map Prod.fst).count name = (row.map Prod.fst).count name := by
  induction row with
  | nil => rfl
  | cons field rest ih =>
    have other : (if field.1 = "id" then "report_run_id" else field.1) = name ↔ field.1 = name := by
      by_cases id : field.1 = "id" <;> simp [id, Ne.symm ne, Ne.symm ne']
    simp only [renamed, List.map_cons, List.count_cons, beq_iff_eq, other] at ih ⊢
    rw [ih]

theorem renamed_count_id : ((renamed row).map Prod.fst).count "report_run_id" =
    (row.map Prod.fst).count "id" + (row.map Prod.fst).count "report_run_id" := by
  induction row with
  | nil => rfl
  | cons field rest ih =>
    simp only [renamed, List.map_cons, List.count_cons, beq_iff_eq] at ih ⊢
    rw [ih]
    by_cases id : field.1 = "id"
    · simp [id]
      omega
    · simp [id, Nat.add_assoc]

theorem renamed_lookup_id (once : (row.map Prod.fst).count "id" + (row.map Prod.fst).count "report_run_id" ≤ 1) :
    (renamed row).lookup "report_run_id" = (row.lookup "id").or (row.lookup "report_run_id") := by
  induction row with
  | nil => rfl
  | cons field rest ih =>
    obtain ⟨key, value⟩ := field
    rw [renamed, List.map_cons]
    by_cases id : key = "id"
    · subst id
      rw [if_pos rfl, List.lookup_cons_self, List.lookup_cons_self, Option.some_or]
    rw [if_neg id, Json.lookup_cons_of_ne (Ne.symm id)]
    rw [List.map_cons, List.count_cons_of_ne id] at once
    by_cases same : key = "report_run_id"
    · subst same
      rw [List.count_cons_self] at once
      have absent : rest.lookup "id" = none := Json.lookup_eq_none_iff.2 (List.count_eq_zero.1 (by omega))
      rw [List.lookup_cons_self, List.lookup_cons_self, absent, Option.none_or]
    · rw [List.count_cons_of_ne same] at once
      rw [Json.lookup_cons_of_ne (Ne.symm same), Json.lookup_cons_of_ne (Ne.symm same)]
      exact ih once

theorem ofFields_eq_ok {fields : Row} : ofFields fields = .ok run ↔
    (∀ name ∈ "report_run_id" :: optionalNames, (fields.map Prod.fst).count name ≤ 1) ∧
      fields.lookup "report_run_id" = some (.text run.id) ∧
      Status.decode ((fields.lookup "async_status").getD (.text "Job Not Started")) = .ok run.status ∧
      Decoder.float ((fields.lookup "async_percent_completion").getD (.float 0)) = .ok run.percent ∧
      Decoder.optional Decoder.date ((fields.lookup "date_start").getD .null) = .ok run.dateStart ∧
      Decoder.optional Decoder.date ((fields.lookup "date_stop").getD .null) = .ok run.dateStop := by
  have unset {α : Type} (decoder : Decoder α) : Decoder.optional decoder .null = .ok none := rfl
  have zero : Decoder.float (.float 0) = .ok 0 := rfl
  have idle : Status.decode (.text "Job Not Started") = .ok .notStarted := rfl
  have once : (shape.fields.map Prod.fst).Nodup := by decide
  simp only [ofFields, bind_eq_ok, Shape.required_eq_ok, Shape.defaulted_eq idle, Shape.defaulted_eq zero,
    Shape.defaulted_eq (unset _), Shape.checkFields_nil_eq_ok once, Decoder.text_eq_ok, pure, Except.pure,
    Except.ok.injEq]
  constructor
  · rintro ⟨⟨⟩, fits, id, ⟨_, found, rfl⟩, status, readStatus, percent, readPercent, start, readStart, stop, readStop,
      rfl⟩
    refine ⟨fun name among => ?_, found, readStatus, readPercent, readStart, readStop⟩
    obtain ⟨field, declared, rfl⟩ := List.mem_map.1 (show name ∈ shape.fields.map Prod.fst from among)
    exact (fits field declared).1
  · rintro ⟨single, found, status, percent, start, stop⟩
    refine ⟨(), ?_, run.id, ⟨_, found, rfl⟩, run.status, status, run.percent, percent, run.dateStart, start,
      run.dateStop, stop, rfl⟩
    have id : Decoder.text ((fields.lookup "report_run_id").getD .null) = .ok run.id := by
      rw [found]
      rfl
    simp only [shape, optionalNames, List.forall_mem_cons, List.not_mem_nil, false_implies, implies_true,
      and_true] at single ⊢
    obtain ⟨one, two, three, four, five⟩ := single
    exact ⟨Shape.fits_of_reads _ one id, Shape.fits_of_reads _ two status, Shape.fits_of_reads _ three percent,
      Shape.fits_of_reads _ four start, Shape.fits_of_reads _ five stop⟩

theorem decode_eq_ok : decode (.object row) = .ok run ↔ Spells row run := by
  have apart : ∀ name ∈ optionalNames, name ≠ "id" ∧ name ≠ "report_run_id" := by decide
  have lookup (name : String) (among : name ∈ optionalNames) : (renamed row).lookup name = row.lookup name :=
    renamed_lookup (apart name among).1 (apart name among).2
  have count : (∀ name ∈ optionalNames, ((renamed row).map Prod.fst).count name ≤ 1) ↔
      ∀ name ∈ optionalNames, (row.map Prod.fst).count name ≤ 1 :=
    forall₂_congr fun name among => by rw [renamed_count (apart name among).1 (apart name among).2]
  rw [decode_object, ofFields_eq_ok, List.forall_mem_cons, renamed_count_id, count,
    lookup "async_status" (by decide), lookup "async_percent_completion" (by decide), lookup "date_start" (by decide),
    lookup "date_stop" (by decide)]
  constructor
  · rintro ⟨⟨named, once⟩, id, status, percent, start, stop⟩
    rw [renamed_lookup_id named] at id
    exact ⟨named, once, id, status, percent, start, stop⟩
  · rintro ⟨named, once, id, status, percent, start, stop⟩
    rw [← renamed_lookup_id named] at id
    exact ⟨⟨named, once⟩, id, status, percent, start, stop⟩

theorem decode_encode {run : Run} (finite : run.percent.isFinite = true) : decode run.encode = .ok run := by
  have dates (d : Option Date) : Decoder.optional Decoder.date (encodeOptionalDate d) = .ok d := by
    cases d with
    | none => rfl
    | some d => exact Decoder.optional_eq_ok.2 (.inr ⟨nofun, d, Decoder.date_encodeDate d, rfl⟩)
  refine decode_eq_ok.2 ⟨by simp, by simp [optionalNames], rfl, ?_, ?_, dates _, dates _⟩
  · exact run.status.decode_encode
  · change Decoder.float (encodeFloat run.percent) = .ok run.percent
    rw [encodeFloat, if_pos finite]
    rfl

theorem refused_of_both (one : "id" ∈ row.map Prod.fst) (other : "report_run_id" ∈ row.map Prod.fst) :
    ∃ cause, decode (.object row) = .error cause := by
  cases out : decode (.object row) with
  | error cause => exact ⟨cause, rfl⟩
  | ok run =>
    have named := (decode_eq_ok.1 out).named
    have once := List.count_pos_iff.2 one
    have again := List.count_pos_iff.2 other
    omega

theorem Spells.defaults (spells : Spells row run) :
    (row.lookup "async_status" = none → run.status = .notStarted) ∧
      (row.lookup "async_percent_completion" = none → run.percent = 0) ∧
      (row.lookup "date_start" = none → run.dateStart = none) ∧
      (row.lookup "date_stop" = none → run.dateStop = none) := by
  obtain ⟨-, -, -, status, percent, start, stop⟩ := spells
  refine ⟨fun absent => ?_, fun absent => ?_, fun absent => ?_, fun absent => ?_⟩
  · rw [absent] at status
    exact (Except.ok.inj status).symm
  · rw [absent] at percent
    exact (Except.ok.inj percent).symm
  · rw [absent] at start
    exact (Except.ok.inj start).symm
  · rw [absent] at stop
    exact (Except.ok.inj stop).symm

end Run

/-- What has been written is read back as it was: runs whose percentage is finite, intervals, windows, entities and
events, with dates of any year. A status document says what `Run.Spells` tells of its fields. The identifier may stand
under either of its names, but not under both, what is missing counts as not started, zero or unknown, and nothing
depends on fields of other names. -/
theorem documents_round_trip :
    (∀ run : Run, run.percent.isFinite = true → Run.decode run.encode = .ok run) ∧
    (∀ interval : Interval, Interval.decode interval.encode = .ok interval) ∧
    (∀ window : Window, Window.decode window.encode = .ok window) ∧
    (∀ edge : Edge, Edge.decode edge.encode = .ok edge) ∧
    (∀ event : Event, Event.decode event.encode = .ok event) ∧
    (∀ (row : Row) (run : Run), Run.decode (.object row) = .ok run ↔ Run.Spells row run) ∧
    (∀ (rest : Row) (j : Json), Json.Sorted rest → "id" ∉ rest.map Prod.fst → "report_run_id" ∉ rest.map Prod.fst →
      Run.decode (.object (Json.insertField "id" j rest)) =
        Run.decode (.object (Json.insertField "report_run_id" j rest))) ∧
    (∀ row : Row, "id" ∈ row.map Prod.fst → "report_run_id" ∈ row.map Prod.fst →
      ∃ cause, Run.decode (.object row) = .error cause) ∧
    (∀ (row : Row) (run : Run), Run.decode (.object row) = .ok run →
      (row.lookup "async_status" = none → run.status = .notStarted) ∧
      (row.lookup "async_percent_completion" = none → run.percent = 0) ∧
      (row.lookup "date_start" = none → run.dateStart = none) ∧
      (row.lookup "date_stop" = none → run.dateStop = none)) ∧
    ∀ row row' : Row, (row.filter fun field => field.1 ∈ Run.names) = (row'.filter fun field => field.1 ∈ Run.names) →
      Run.decode (.object row) = Run.decode (.object row') := by
  refine ⟨fun _ => Run.decode_encode, Interval.decode_encode, Window.decode_encode, Edge.decode_encode,
    Event.decode_encode, fun _ _ => Run.decode_eq_ok, fun _ j sorted absent absent' =>
      Run.decode_either sorted j absent absent', fun _ => Run.refused_of_both, fun _ _ decodes =>
      (Run.decode_eq_ok.1 decodes).defaults, fun row row' same => ?_⟩
  rw [← Run.decode_known row, same, Run.decode_known]

theorem documents_round_trip_early :
    let run : Run := { id := "17", status := .running, percent := 62.5, dateStart := some .first }
    let interval := Interval.day .first
    run.encode = .object
      [("async_percent_completion", .float 62.5), ("async_status", .text "Job Running"),
        ("date_start", .text "-262143-01-01"), ("date_stop", .null), ("report_run_id", .text "17")] ∧
    Run.decode run.encode = .ok run ∧
    interval.encode = .object [("end", .text "-262143-01-01"), ("start", .text "-262143-01-01")] ∧
    Interval.decode interval.encode = .ok interval ∧
    Run.decode (.object [("account_id", .int 5), ("async_status", .text "Job Running"), ("id", .text "17")]) =
      Run.decode (.object [("account_id", .int 5), ("async_status", .text "Job Running"),
        ("report_run_id", .text "17")]) := by
  obtain ⟨run, interval, -, -, -, -, either, -⟩ := documents_round_trip
  have sorted : Json.Sorted [("account_id", .int 5), ("async_status", .text "Job Running")] :=
    List.pairwise_pair.2 (by decide)
  exact ⟨rfl, run _ (by decide), rfl, interval _, either _ (.text "17") sorted (by decide) (by decide)⟩

end AsyncReports
