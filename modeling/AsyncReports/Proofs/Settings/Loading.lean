import AsyncReports.Proofs.Settings
import AsyncReports.Proofs.Settings.Layers
import AsyncReports.Settings.Load
import Mathlib.Data.List.Induction

set_option autoImplicit false

/-!
# What settings are loaded

Each setting is what the highest source says that says anything about it, or its default, and only the settings that
come out of this are checked. This is so as long as sources call settings by their names: a section given as a list, or
something put below a setting, would take other settings with it. The level is the one setting for which a table may
stand, and tables lie over each other instead of replacing each other, so that they have to agree.
-/

namespace AsyncReports

open Layer Lenient

/-- What can be set. -/
inductive Setting
  | maxCalls
  | pageSize
  | windowDays
  | level
  | throttleLimit
  | maxAttempts
  | pollSeconds
  | maxQueue
  | maxChecks

namespace Setting

/-- The section of a setting, and its name there. -/
def place : Setting → String × String
  | maxCalls => ("batch", "max_calls_per_batch")
  | pageSize => ("results", "page_size")
  | windowDays => ("splitter", "attribution_window_days")
  | level => ("splitter", "partition_level")
  | throttleLimit => ("manager", "throttle_limit")
  | maxAttempts => ("manager", "max_attempts")
  | pollSeconds => ("manager", "status_poll_interval_seconds")
  | maxQueue => ("manager", "max_jobs_in_queue")
  | maxChecks => ("manager", "max_jobs_to_check")

def places : List (String × String) :=
  [maxCalls, pageSize, windowDays, level, throttleLimit, maxAttempts, pollSeconds, maxQueue, maxChecks].map place

theorem place_mem (setting : Setting) : setting.place ∈ places := by
  cases setting <;> decide

def Value : Setting → Type
  | level => Level
  | throttleLimit => Float
  | _ => Nat

/-- What a setting takes a value for. -/
def convert : (setting : Setting) → Json → Option setting.Value
  | maxCalls | pageSize | pollSeconds | maxQueue | maxChecks => whole?
  | windowDays | maxAttempts => below? (Width.capacity 32)
  | level => level?
  | throttleLimit => float?

def default : (setting : Setting) → setting.Value
  | maxCalls => Limits.callsPerBatch
  | pageSize => Limits.resultPageSize
  | windowDays => Limits.attributionDays
  | level => Level.campaign
  | throttleLimit => Limits.throttle
  | maxAttempts => Limits.attempts
  | pollSeconds => Limits.pollSeconds
  | maxQueue => Limits.queue
  | maxChecks => Limits.checks

def of : (setting : Setting) → Settings → setting.Value
  | maxCalls, s => s.batch.maxCalls
  | pageSize, s => s.results.pageSize
  | windowDays, s => s.splitter.windowDays
  | level, s => s.splitter.level
  | throttleLimit, s => s.manager.throttleLimit
  | maxAttempts, s => s.manager.maxAttempts
  | pollSeconds, s => s.manager.pollSeconds
  | maxQueue, s => s.manager.maxQueue
  | maxChecks, s => s.manager.maxChecks

/-- A setting that nothing is said about has its default. -/
def read (setting : Setting) : Option Json → Option setting.Value
  | some value => setting.convert value
  | none => some setting.default

/-- The settings of given values. -/
def build (values : (setting : Setting) → setting.Value) : Settings where
  batch := ⟨values maxCalls⟩
  results := ⟨values pageSize⟩
  splitter := ⟨values windowDays, values level⟩
  manager := ⟨values throttleLimit, values maxAttempts, values pollSeconds, values maxQueue, values maxChecks⟩

theorem of_build (values : (setting : Setting) → setting.Value) (setting : Setting) :
    setting.of (build values) = values setting := by
  cases setting <;> rfl

end Setting

open Setting

variable {tree : Json}

/-! ## Reading a tree -/

theorem tabled_section? (tabled : Tabled places tree) (names : List String) {table : String}
    (known : table ∈ places.map Prod.fst) : section? names (tree.get? table) = some (entries (tree.get? table)) := by
  obtain ⟨fields, rfl, tables⟩ := tabled
  rw [Json.get?]
  cases found : fields.lookup table with
  | none => rfl
  | some value =>
    obtain ⟨inner, rfl⟩ := tables table known value found
    rfl

/-- A tree whose sections are tables spells the settings that its places give one by one. -/
theorem Settings.ofTree?_of_reads (tabled : Tabled places tree) {values : (setting : Setting) → setting.Value}
    (reads : ∀ setting : Setting, setting.read (at? tree setting.place) = some (values setting)) :
    ofTree? tree = some (build values) := by
  have table (setting : Setting) (names : List String) : section? names (tree.get? setting.place.1) =
      some (entries (tree.get? setting.place.1)) :=
    tabled_section? tabled names (List.mem_map.2 ⟨_, setting.place_mem, rfl⟩)
  have found (setting : Setting) : setting? (entries (tree.get? setting.place.1)) setting.place.2 setting.convert
      setting.default = some (values setting) := by
    rw [← reads setting, at?, setting?]
    cases (entries (tree.get? setting.place.1)).lookup setting.place.2 <;> rfl
  have batch : BatchSettings.ofTree? (tree.get? "batch") = some (build values).batch :=
    Option.bind_eq_some_iff.2 ⟨_, table maxCalls _, Option.bind_eq_some_iff.2 ⟨_, found maxCalls, rfl⟩⟩
  have results : ResultSettings.ofTree? (tree.get? "results") = some (build values).results :=
    Option.bind_eq_some_iff.2 ⟨_, table pageSize _, Option.bind_eq_some_iff.2 ⟨_, found pageSize, rfl⟩⟩
  have splitter : SplitSettings.ofTree? (tree.get? "splitter") = some (build values).splitter :=
    Option.bind_eq_some_iff.2 ⟨_, table level _, Option.bind_eq_some_iff.2 ⟨_, found windowDays,
      Option.bind_eq_some_iff.2 ⟨_, found level, rfl⟩⟩⟩
  have manager : ManagerSettings.ofTree? (tree.get? "manager") = some (build values).manager :=
    Option.bind_eq_some_iff.2 ⟨_, table maxAttempts _, Option.bind_eq_some_iff.2 ⟨_, found throttleLimit,
      Option.bind_eq_some_iff.2 ⟨_, found maxAttempts, Option.bind_eq_some_iff.2 ⟨_, found pollSeconds,
        Option.bind_eq_some_iff.2 ⟨_, found maxQueue, Option.bind_eq_some_iff.2 ⟨_, found maxChecks, rfl⟩⟩⟩⟩⟩⟩
  rw [ofTree?, batch, results, splitter, manager]
  rfl

/-! ## Values laid over each other -/

def isTable : Json → Bool
  | .object _ => true
  | _ => false

/-- The tables that nothing but tables lies on. -/
def onTop (values : List Json) : List Json := values.reverse.takeWhile isTable

/-- What is not a table replaces whatever lies below. -/
theorem stack_of_plain {value : Json} (plain : isTable value = false) (lower : Option Json)
    (values : List Json) : stack lower (values ++ [value]) = some value := by
  rw [stack_append]
  cases value with
  | object fields => cases plain
  | _ => rfl

theorem Setting.plain_of_convert {setting : Setting} (other : setting ≠ .level) {value : Json}
    (fits : (setting.convert value).isSome) : isTable value = false := by
  cases value with
  | object fields => cases setting <;> first | exact absurd rfl other | cases fits
  | _ => rfl

theorem level?_object {fields : List (String × Json)} {level : Level} (names : level? (.object fields) = some level) :
    ∃ name inner, fields = [(name, inner)] ∧ Text.lower name = level.text := by
  match fields with
  | [(name, inner)] =>
    have found := List.find?_some (p := fun level : Level => level.text = Text.lower name) names
    exact ⟨name, inner, rfl, (of_decide_eq_true found).symm⟩
  | [] | _ :: _ :: _ => cases names

/-- The only entry that tables for one level have together. -/
def Single (level : Level) (fields : List (String × Json)) : Prop := ∃ inner, fields = [(level.text, inner)]

theorem overlay_level {name : String} (inner : Json) {level : Level} (same : Text.lower name = level.text)
    {lower : Option Json} (agrees : entries lower = [] ∨ Single level (entries lower)) :
    ∃ fields, overlay (.object [(name, inner)]) lower = .object fields ∧ Single level fields := by
  refine ⟨_, rfl, ?_⟩
  rw [overlayFields, overlayFields, same]
  rcases agrees with none | ⟨old, single⟩
  · rw [none]
    exact ⟨_, rfl⟩
  · rw [single, Json.insertField, if_pos rfl]
    exact ⟨_, rfl⟩

theorem onTop_append_object (values : List Json) (fields : List (String × Json)) :
    onTop (values ++ [.object fields]) = .object fields :: onTop values := by
  rw [onTop, List.reverse_append]
  exact List.takeWhile_cons_of_pos rfl

/-- Tables for one level make no other table than one for that level. -/
theorem entries_of_agreeing {values : List Json} {level : Level}
    (agree : ∀ table ∈ onTop values, level? table = some level) :
    entries (stack none values) = [] ∨ Single level (entries (stack none values)) := by
  induction values using List.reverseRecOn with
  | nil => exact .inl rfl
  | append_singleton values value ih =>
    cases value with
    | object fields =>
      rw [onTop_append_object, List.forall_mem_cons] at agree
      obtain ⟨name, inner, rfl, same⟩ := level?_object agree.1
      obtain ⟨whole, table, single⟩ := overlay_level inner same (ih agree.2)
      rw [stack_append]
      change entries (some (overlay _ _)) = [] ∨ Single level (entries (some (overlay _ _)))
      rw [table]
      exact .inr single
    | _ =>
      rw [stack_of_plain rfl]
      exact .inl rfl

theorem level?_single {level : Level} {fields : List (String × Json)} (single : Single level fields) :
    level? (.object fields) = some level := by
  obtain ⟨inner, rfl⟩ := single
  cases level <;> rfl

theorem level?_stack {values : List Json} {value : Json} {level : Level} (names : level? value = some level)
    (agree : ∀ table ∈ onTop (values ++ [value]), level? table = some level) :
    ∃ whole, stack none (values ++ [value]) = some whole ∧ level? whole = some level := by
  cases value with
  | object fields =>
    rw [onTop_append_object, List.forall_mem_cons] at agree
    obtain ⟨name, inner, rfl, same⟩ := level?_object names
    obtain ⟨whole, table, single⟩ := overlay_level inner same (entries_of_agreeing agree.2)
    refine ⟨.object whole, ?_, level?_single single⟩
    rw [stack_append, ← table]
    rfl
  | _ => exact ⟨_, stack_of_plain rfl _ _, names⟩

/-- Of values that lie over each other, the highest one counts. -/
theorem Setting.read_stack {setting : Setting} {values : List Json}
    (fits : ∀ value, values.getLast? = some value → (setting.convert value).isSome)
    (agree : setting = .level → ∀ table ∈ onTop values, level? table = values.getLast?.bind level?) :
    setting.read (stack none values) = setting.read values.getLast? := by
  induction values using List.reverseRecOn with
  | nil => rfl
  | append_singleton values value _ =>
    rw [List.getLast?_concat] at fits agree ⊢
    have top := fits value rfl
    by_cases same : setting = .level
    · subst same
      obtain ⟨level, names⟩ := Option.isSome_iff_exists.1 top
      have names : level? value = some level := names
      rw [Option.bind_some, names] at agree
      obtain ⟨whole, stacked, names'⟩ := level?_stack names (agree rfl)
      rw [stacked]
      exact names'.trans names.symm
    · rw [stack_of_plain (plain_of_convert same top)]

/-! ## Loading -/

namespace Setting

theorem steps_place (setting : Setting) :
    steps (setting.place.1 ++ "." ++ setting.place.2) = [.entry setting.place.1, .entry setting.place.2] := by
  cases setting <;> decide

theorem lower_place (setting : Setting) :
    (Text.lower setting.place.1, Text.lower setting.place.2) = setting.place := by
  cases setting <;> decide

/-- A variable that is named for the setting, in any letter case. -/
def Names (setting : Setting) (name : String) : Prop :=
  Text.lower name = "insights_jobs__" ++ setting.place.1 ++ "__" ++ setting.place.2

variable {setting : Setting} {name : String}

/-- Such a variable leads to the setting's place. -/
theorem Names.settings (names : setting.Names name) (text : String) :
    Variables.settings [(name, text)] = [(setting.place.1 ++ "." ++ setting.place.2, Variables.value text)] := by
  have chars : name.toList.map Text.lowerChar =
      ("insights_jobs__" ++ setting.place.1 ++ "__" ++ setting.place.2).toList := by
    rw [← names, Text.lower, String.toList_ofList]
  have starts : Variables.settingsStart.isPrefixOf
      ("insights_jobs__" ++ setting.place.1 ++ "__" ++ setting.place.2).toList = true := by
    cases setting <;> decide
  have spelled : String.ofList (Variables.path (("insights_jobs__" ++ setting.place.1 ++ "__" ++
      setting.place.2).toList.drop Variables.settingsStart.length)) = setting.place.1 ++ "." ++ setting.place.2 := by
    cases setting <;> decide
  have known : Variables.setting? (name, text) =
      some (setting.place.1 ++ "." ++ setting.place.2, Variables.value text) := by
    simp only [Variables.setting?, chars, starts, spelled, if_true]
  rw [Variables.settings, List.filterMap_cons_some known]
  rfl

theorem Names.orderly (names : setting.Names name) (text : String) :
    ∀ field ∈ Variables.settings [(name, text)], Orderly places (steps field.1) field.2 := by
  rw [names.settings, List.forall_mem_singleton, steps_place]
  trivial

/-- It says its value of this setting, and nothing of any other. -/
theorem Names.said (names : setting.Names name) (text : String) (place : String × String) :
    said place (Variables.settings [(name, text)]) = if setting.place = place then [Variables.value text] else [] := by
  rw [names.settings, Layer.said, List.flatMap_singleton, steps_place, told, lower_place]

end Setting

namespace Settings

/-- The highest word on a setting: that of the variables, else of the file for the environment, else of the base
file. -/
def highest (base special : Layer) (vars : Variables) (setting : Setting) : Option Json :=
  (said setting.place vars.settings).getLast?.or
    ((said setting.place special).getLast?.or (said setting.place base).getLast?)

theorem getLast?_said (base special : Layer) (vars : Variables) (setting : Setting) :
    (([base, special, vars.settings] : List Layer).flatMap (said setting.place)).getLast? =
      highest base special vars setting := by
  simp only [List.flatMap_cons, List.flatMap_nil, List.append_nil, List.getLast?_append, highest, Option.or_assoc]

/-- Of every setting a layer says the same as another one, in whatever order. -/
def SaysSame (layer other : Layer) : Prop :=
  ∀ setting : Setting, (said setting.place layer).Perm (said setting.place other)

theorem SaysSame.said_eq {layer other : Layer} (same : SaysSame layer other) {setting : Setting}
    (once : (said setting.place other).length ≤ 1) : said setting.place layer = said setting.place other := by
  match said setting.place other, once, same setting with
  | [], _, perm => exact perm.eq_nil
  | [_], _, perm => exact perm.eq_singleton

/-- What is loaded if every setting can take the highest value that is set, or its default. -/
theorem load_of_reads (directory : String) {files : Files} {environment : String} {vars : Variables}
    {base special : Layer} (readsBase : files.layer? fileName = some base)
    (readsSpecial : files.layer? (environmentFileName environment) = some special)
    (orderly : ∀ layer ∈ [base, special, vars.settings], ∀ field ∈ layer, Orderly places (steps field.1) field.2)
    (agree : ∀ table ∈ onTop (([base, special, vars.settings] : List Layer).flatMap (said Setting.level.place)),
      level? table = (highest base special vars .level).bind level?)
    {values : (setting : Setting) → setting.Value}
    (reads : ∀ setting : Setting, setting.read (highest base special vars setting) = some (values setting)) :
    load directory files environment vars =
      match ranges.find? fun range => !range.holds (build values) with
      | some range => .error (.outOfRange range.field (range.value (build values)) range.rule)
      | none => .ok (build values) := by
  obtain ⟨tabled, holds⟩ := merge_at? orderly
  have stacked (setting : Setting) :
      setting.read (at? (merge [base, special, vars.settings]) setting.place) = some (values setting) := by
    rw [holds setting.place setting.place_mem, ← reads, ← getLast?_said]
    refine read_stack ?_ ?_
    · rw [getLast?_said]
      intro value known
      have fits := reads setting
      rw [known] at fits
      exact Option.isSome_iff_exists.2 ⟨_, fits⟩
    · rintro rfl
      rw [getLast?_said]
      exact agree
  have layers : layers? files environment vars = some [base, special, vars.settings] := by
    rw [layers?, readsBase, readsSpecial]
    rfl
  rw [load, layers, Option.bind_some, ofTree?_of_reads tabled stacked]
  dsimp only
  rw [check_eq, broken?]
  cases ranges.find? fun range => !range.holds (build values) <;> rfl

/-- Files and variables that can be read, call all settings by their names and say each at most once give each setting
the highest value that is set, wherever lower ones are, or its default. Only what comes out of this is checked: it is
loaded if all ranges hold, and refused for the first one that does not. The value of a setting only has to fit where it
is the highest, but tables for the level have to agree if they lie on each other. Nothing else that the sources say
makes a difference, nor the order in which they say it. A variable of a setting's name sets that setting. -/
theorem load_resolves (directory : String) {files : Files} {environment : String} {vars : Variables}
    {base special : Layer} (readsBase : files.layer? fileName = some base)
    (readsSpecial : files.layer? (environmentFileName environment) = some special)
    (orderly : ∀ layer ∈ [base, special, vars.settings], ∀ field ∈ layer, Orderly places (steps field.1) field.2)
    (once : ∀ layer ∈ [base, special, vars.settings], ∀ setting : Setting, (said setting.place layer).length ≤ 1)
    (fits : ∀ setting value, highest base special vars setting = some value → (setting.convert value).isSome)
    (agree : ∀ table ∈ onTop (([base, special, vars.settings] : List Layer).flatMap (said Setting.level.place)),
      level? table = (highest base special vars .level).bind level?) :
    (∃ settings : Settings,
      (∀ setting : Setting, some (setting.of settings) =
        match highest base special vars setting with
        | some value => setting.convert value
        | none => some setting.default) ∧
      load directory files environment vars =
        match ranges.find? fun range => !range.holds settings with
        | some range => .error (.outOfRange range.field (range.value settings) range.rule)
        | none => .ok settings) ∧
    (∀ (files' : Files) (vars' : Variables) (base' special' : Layer), files'.layer? fileName = some base' →
      files'.layer? (environmentFileName environment) = some special' →
      (∀ layer ∈ [base', special', vars'.settings], ∀ field ∈ layer, Orderly places (steps field.1) field.2) →
      SaysSame base' base → SaysSame special' special → SaysSame vars'.settings vars.settings →
      load directory files' environment vars' = load directory files environment vars) ∧
    ∀ (setting : Setting) (name text : String), setting.Names name →
      (∀ field ∈ Variables.settings [(name, text)], Orderly places (steps field.1) field.2) ∧
      ∀ place, said place (Variables.settings [(name, text)]) =
        if setting.place = place then [Variables.value text] else [] := by
  have reads (setting : Setting) : ∃ value, setting.read (highest base special vars setting) = some value := by
    cases highest : highest base special vars setting with
    | none => exact ⟨_, rfl⟩
    | some value => exact Option.isSome_iff_exists.1 (fits setting value highest)
  choose values values_eq using reads
  have loaded := load_of_reads directory readsBase readsSpecial orderly agree values_eq
  refine ⟨⟨build values, fun setting => ?_, loaded⟩, ?_, fun setting name text names =>
    ⟨names.orderly text, names.said text⟩⟩
  · rw [of_build, ← values_eq]
    cases highest base special vars setting <;> rfl
  · intro files' vars' base' special' readsBase' readsSpecial' orderly' sameBase sameSpecial sameVars
    simp only [List.forall_mem_cons] at once
    have eqBase (setting : Setting) := sameBase.said_eq (once.1 setting)
    have eqSpecial (setting : Setting) := sameSpecial.said_eq (once.2.1 setting)
    have eqVars (setting : Setting) := sameVars.said_eq (once.2.2.1 setting)
    have same (setting : Setting) : highest base' special' vars' setting = highest base special vars setting := by
      simp only [highest, eqBase, eqSpecial, eqVars]
    rw [loaded]
    refine load_of_reads directory readsBase' readsSpecial' orderly' ?_ fun setting => same setting ▸ values_eq setting
    simpa only [List.flatMap_cons, List.flatMap_nil, eqBase, eqSpecial, eqVars, same] using agree

/-! ## An example -/

/-- The base file sets what is out of range, but a higher file sets it too. -/
def layered : Files :=
  [("insights-jobs.ini", "[batch]\nmax_calls_per_batch=0\n[manager]\nmax_attempts=3\n"),
    ("insights-jobs-test.ini", "[batch]\nmax_calls_per_batch=25\nsize=7\n")]

def layeredBase : Layer :=
  [("batch", .object [("max_calls_per_batch", .text "0")]), ("manager", .object [("max_attempts", .text "3")])]

def layeredSpecial : Layer := [("batch", .object [("max_calls_per_batch", .text "25"), ("size", .text "7")])]

def raised : Variables := [("INSIGHTS_JOBS__MANAGER__MAX_ATTEMPTS", "4")]

theorem names_raised : maxAttempts.Names "INSIGHTS_JOBS__MANAGER__MAX_ATTEMPTS" := by
  rw [Names]
  decide

set_option maxRecDepth 10000 in
theorem highest_layered (setting : Setting) : highest layeredBase layeredSpecial raised setting =
    match setting with
    | .maxCalls => some (.text "25")
    | .maxAttempts => some (Variables.value "4")
    | _ => none := by
  have told (place : String × String) :
      said place raised.settings = if maxAttempts.place = place then [Variables.value "4"] else [] :=
    names_raised.said "4" place
  rw [highest, told]
  cases setting <;> rfl

theorem orderly_layered : ∀ layer ∈ [layeredBase, layeredSpecial, raised.settings], ∀ field ∈ layer,
    Orderly places (steps field.1) field.2 := by
  have table {name : String} (fields : List (String × Json)) (plain : steps name = [.entry name]) :
      Orderly places (steps name) (.object fields) := by
    rw [plain]
    exact fun _ => ⟨_, rfl⟩
  simp only [List.forall_mem_cons, layeredBase, layeredSpecial]
  exact ⟨⟨table _ (by decide), table _ (by decide), by simp⟩, ⟨table _ (by decide), by simp⟩, names_raised.orderly "4",
    by simp⟩

theorem once_layered : ∀ layer ∈ [layeredBase, layeredSpecial, raised.settings], ∀ setting : Setting,
    (said setting.place layer).length ≤ 1 := by
  simp only [List.forall_mem_cons]
  refine ⟨fun setting => ?_, fun setting => ?_, fun setting => ?_, by simp⟩
  · cases setting <;> decide
  · cases setting <;> decide
  · rw [raised, names_raised.said]
    split_ifs <;> simp

theorem four_attempts : below? (Width.capacity 32) (Variables.value "4") = some 4 := by decide +kernel

theorem fits_layered : ∀ setting value, highest layeredBase layeredSpecial raised setting = some value →
    (setting.convert value).isSome := by
  intro setting value known
  rw [highest_layered] at known
  cases setting with
  | maxCalls =>
    have fits : (whole? (.text "25")).isSome := by decide +kernel
    cases known
    exact fits
  | maxAttempts =>
    rw [← Option.some.inj known]
    exact Option.isSome_iff_exists.2 ⟨_, four_attempts⟩
  | _ => cases known

theorem agree_layered : ∀ table ∈ onTop (([layeredBase, layeredSpecial, raised.settings] : List Layer).flatMap
    (said Setting.level.place)), level? table = (highest layeredBase layeredSpecial raised .level).bind level? := by
  have base : said Setting.level.place layeredBase = [] := by decide
  have special : said Setting.level.place layeredSpecial = [] := by decide
  have raised : said Setting.level.place raised.settings = [] := names_raised.said "4" _
  simp only [List.flatMap_cons, List.flatMap_nil, base, special, raised]
  exact fun _ mem => absurd mem List.not_mem_nil

set_option maxRecDepth 10000 in
theorem load_resolves_layered :
    layered.layer? fileName = some layeredBase ∧
    layered.layer? (environmentFileName "test") = some layeredSpecial ∧
    ∃ settings, load "config" layered "test" raised = .ok settings ∧ settings.batch.maxCalls = 25 ∧
      settings.manager.maxAttempts = 4 ∧ settings.results.pageSize = 100 := by
  have readsBase : layered.layer? fileName = some layeredBase := by rfl
  have readsSpecial : layered.layer? (environmentFileName "test") = some layeredSpecial := by rfl
  obtain ⟨⟨settings, resolved, loaded⟩, -⟩ :=
    load_resolves "config" readsBase readsSpecial orderly_layered once_layered fits_layered agree_layered
  simp only [highest_layered] at resolved
  have calls : settings.batch.maxCalls = 25 := Option.some.inj (resolved .maxCalls)
  have size : settings.results.pageSize = 100 := Option.some.inj (resolved .pageSize)
  have attempts : settings.manager.maxAttempts = 4 := Option.some.inj ((resolved .maxAttempts).trans four_attempts)
  have limit : settings.manager.throttleLimit = 70 := Option.some.inj (resolved .throttleLimit)
  have queue : settings.manager.maxQueue = 100 := Option.some.inj (resolved .maxQueue)
  have checks : settings.manager.maxChecks = 50 := Option.some.inj (resolved .maxChecks)
  have valid : settings.check = .ok () := by
    rw [check_ok_iff, calls, size, attempts, limit, queue, checks]
    decide +kernel
  have whole : settings.broken? = none := broken?_eq_none.2 ((check_eq_ok settings).1 valid)
  refine ⟨readsBase, readsSpecial, settings, ?_, calls, attempts, size⟩
  rw [loaded, ← broken?, whole]

/-- Two levels, each in a table of its own. -/
def clashing : Files :=
  [("insights-jobs.toml", "[splitter.partition_level]\nad = 1\n"),
    ("insights-jobs-development.toml", "[splitter.partition_level]\nadset = 1\n")]

/-- A section by position, and a table laid over it. -/
def listed : Files :=
  [("insights-jobs.toml", "manager = [60.0, 3]\n"),
    ("insights-jobs-development.toml", "[manager]\nthrottle_limit = 65.0\n")]

/-- Each of these sources can be loaded alone, but together they get into each other's way: of two levels in tables none
is left, a section by position is lost, and what is put below a setting takes its place. -/
theorem sources_interfere :
    (∀ file ∈ clashing, (load "config" [file] "development" []).isOk) ∧
    (load "config" clashing "development" []).isOk = false ∧
    (load "config" (listed.take 1) "development" []).toOption.map (·.manager.maxAttempts) = some 3 ∧
    (load "config" listed "development" []).toOption.map (·.manager.maxAttempts) = some 5 ∧
    (load "config" [] "development" []).isOk ∧
    (load "config" [] "development" [("INSIGHTS_JOBS__MANAGER__MAX_ATTEMPTS__X", "1")]).isOk = false := by
  decide +kernel

end Settings

end AsyncReports
