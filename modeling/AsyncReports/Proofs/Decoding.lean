import AsyncReports.Decoding
import AsyncReports.Proofs.Fields

set_option autoImplicit false

/-!
# What decoders take

A decoder is a chain of steps that may each refuse, and what it takes is what none of them refuses. A record may have
its fields in any order: what counts is that no field it declares stands twice, and what stands under each name.
-/

namespace AsyncReports

variable {α β γ ε : Type}

theorem bind_eq_ok {x : Except ε α} {f : α → Except ε β} {b : β} :
    (x >>= f) = .ok b ↔ ∃ a, x = .ok a ∧ f a = .ok b := by
  cases x <;> simp [bind, Except.bind]

theorem map_eq_ok {x : Except ε α} {f : α → β} {b : β} : x.map f = .ok b ↔ ∃ a, x = .ok a ∧ f a = b := by
  cases x <;> simp [Except.map]

namespace Decoder

theorem check_eq_ok {decoder : Decoder α} {j : Json} : decoder.check j = .ok () ↔ ∃ a, decoder j = .ok a := by
  simp [check, map_eq_ok]

theorem text_eq_ok {j : Json} {s : String} : text j = .ok s ↔ j = .text s := by
  cases j <;> simp [text]

theorem items_text_eq_ok {js : List Json} {items : List String} :
    Decoder.items text js = .ok items ↔ js = items.map .text := by
  induction js generalizing items with
  | nil => cases items <;> simp [Decoder.items]
  | cons j rest ih =>
    simp only [Decoder.items, bind_eq_ok, text_eq_ok, ih, pure, Except.pure, Except.ok.injEq]
    constructor
    · rintro ⟨s, rfl, more, rfl, rfl⟩
      rfl
    · intro same
      cases items with
      | nil => cases same
      | cons s more =>
        cases same
        exact ⟨s, rfl, more, rfl, rfl⟩

/-- There is one way to write a list of texts. -/
theorem texts_eq_ok {j : Json} {items : List String} : list text j = .ok items ↔ j = .array (items.map .text) := by
  cases j <;> simp [list, items_text_eq_ok]

theorem unsigned_eq_ok {limit : Nat} {width : String} {j : Json} {n : Nat} :
    unsigned limit width j = .ok n ↔ j = .nat n ∧ n < limit := by
  cases j with
  | int m =>
    rw [unsigned, Json.nat, Json.int.injEq]
    by_cases fits : 0 ≤ m ∧ m < limit
    · rw [if_pos fits, Except.ok.injEq]
      omega
    · rw [if_neg fits]
      simp only [reduceCtorEq, false_iff]
      omega
  | null | bool | float | text | array | object => simp [unsigned, Json.nat]

theorem optional_eq_ok {value : Decoder α} {j : Json} {a : Option α} :
    optional value j = .ok a ↔ j = .null ∧ a = none ∨ j ≠ .null ∧ ∃ b, value j = .ok b ∧ some b = a := by
  cases j with
  | null => simp [optional, eq_comm]
  | bool | int | float | text | array | object => simp [optional, map_eq_ok]

end Decoder

namespace Shape

variable {s : Shape} {fields rest : List (String × Json)} {name key : String} {value : Json}
  {check : Json → Except DecodeError Unit}

/-- Under a declared name there is at most one value, and it passes the check. -/
def Fits (fields : List (String × Json)) (name : String) (check : Json → Except DecodeError Unit) : Prop :=
  (fields.map Prod.fst).count name ≤ 1 ∧ ∀ value, fields.lookup name = some value → check value = .ok ()

theorem fits_of_absent (absent : name ∉ fields.map Prod.fst) : Fits fields name check := by
  refine ⟨by simp [List.count_eq_zero.2 absent], fun value found => ?_⟩
  rw [Json.lookup_eq_none_iff.2 absent] at found
  cases found

theorem fits_cons_self :
    Fits ((name, value) :: rest) name check ↔ name ∉ rest.map Prod.fst ∧ check value = .ok () := by
  rw [Fits, List.map_cons, List.count_cons_self, List.lookup_cons_self, ← List.count_eq_zero]
  refine and_congr (by omega) ?_
  simp only [Option.some.injEq, forall_eq']

theorem fits_cons_of_ne (ne : name ≠ key) : Fits ((key, value) :: rest) name check ↔ Fits rest name check := by
  rw [Fits, Fits, Json.lookup_cons_of_ne ne, List.map_cons, List.count_cons_of_ne (Ne.symm ne)]

/-- What a record asks of its fields, it asks of each declared name by itself. -/
theorem checkFields_eq_ok {seen : List String} : s.checkFields seen fields = .ok () ↔
    ∀ name check, s.fields.lookup name = some check →
      (name ∈ seen → name ∉ fields.map Prod.fst) ∧ Fits fields name check := by
  -- Only declared names are added to those seen, so a name met for the first time may not come again behind.
  induction fields generalizing seen with
  | nil => simp [checkFields, Fits]
  | cons field rest ih =>
    obtain ⟨key, value⟩ := field
    rw [checkFields]
    have elsewhere {name : String} (ne : name ≠ key) :
        name ∉ ((key, value) :: rest).map Prod.fst ↔ name ∉ rest.map Prod.fst := by
      simp [ne]
    cases known : s.fields.lookup key with
    | none =>
      simp only [ih]
      refine forall_congr' fun name => forall_congr' fun check => imp_congr_right fun declared => ?_
      have ne : name ≠ key := by
        rintro rfl
        rw [known] at declared
        cases declared
      rw [elsewhere ne, fits_cons_of_ne ne]
    | some own =>
      by_cases again : key ∈ seen
      · simp only [if_pos again, reduceCtorEq, false_iff]
        intro fits
        exact (fits key own known).1 again List.mem_cons_self
      simp only [if_neg again, bind_eq_ok, ih]
      constructor
      · rintro ⟨⟨⟩, passes, later⟩ name check declared
        obtain ⟨once, fits⟩ := later name check declared
        by_cases same : name = key
        · subst same
          obtain rfl : check = own := Option.some.inj (declared.symm.trans known)
          exact ⟨fun seen => absurd seen again, fits_cons_self.2 ⟨once List.mem_cons_self, passes⟩⟩
        · rw [elsewhere same, fits_cons_of_ne same]
          exact ⟨fun seen => once (List.mem_cons_of_mem key seen), fits⟩
      · intro fits
        obtain ⟨absent, passes⟩ := fits_cons_self.1 (fits key own known).2
        refine ⟨(), passes, fun name check declared => ?_⟩
        by_cases same : name = key
        · subst same
          exact ⟨fun _ => absent, fits_of_absent absent⟩
        · obtain ⟨once, fits⟩ := fits name check declared
          rw [elsewhere same] at once
          rw [fits_cons_of_ne same] at fits
          exact ⟨fun seen => once ((List.mem_cons.1 seen).resolve_left same), fits⟩

/-- Fields that a record does not declare do not matter to it. -/
theorem checkFields_filter {seen : List String} :
    s.checkFields seen (fields.filter fun field => (s.fields.lookup field.1).isSome) = s.checkFields seen fields := by
  induction fields generalizing seen with
  | nil => rfl
  | cons field rest ih =>
    obtain ⟨key, value⟩ := field
    cases known : s.fields.lookup key with
    | none => rw [List.filter_cons_of_neg (by simp [known]), ih, checkFields, known]
    | some check =>
      rw [List.filter_cons_of_pos (by simp [known]), checkFields, checkFields, known]
      simp only [ih]

/-- A record that declares no name twice asks one thing of each field it declares. -/
theorem checkFields_nil_eq_ok (once : (s.fields.map Prod.fst).Nodup) :
    s.checkFields [] fields = .ok () ↔ ∀ field ∈ s.fields, Fits fields field.1 field.2 := by
  simp only [checkFields_eq_ok, Json.lookup_eq_some_iff once, List.not_mem_nil, false_implies, true_and, Prod.forall]

theorem fits_of_reads {decoder : Decoder α} {a : α} (absent : Json) (once : (fields.map Prod.fst).count name ≤ 1)
    (reads : decoder ((fields.lookup name).getD absent) = .ok a) : Fits fields name decoder.check := by
  refine ⟨once, fun value found => Decoder.check_eq_ok.2 ⟨a, ?_⟩⟩
  rw [found] at reads
  exact reads

theorem required_eq_ok {decoder : Decoder α} {a : α} :
    s.required .named fields name decoder = .ok a ↔ ∃ j, fields.lookup name = some j ∧ decoder j = .ok a := by
  unfold required
  cases fields.lookup name <;> simp

/-- A field that may be missing is read as if its default stood there. -/
theorem defaulted_eq {decoder : Decoder α} {a : α} {absent : Json} (stands : decoder absent = .ok a) :
    defaulted fields name decoder a = decoder ((fields.lookup name).getD absent) := by
  unfold defaulted
  cases fields.lookup name <;> simp [stands]

/-- A record of two fields is spelled with their names, each of them once, or as a list of the two. -/
inductive Pairs (first second : String) : Json → Json → Json → Prop
  | named {row : List (String × Json)} {x y : Json} (once : (row.map Prod.fst).count first ≤ 1)
    (once' : (row.map Prod.fst).count second ≤ 1) (found : row.lookup first = some x)
    (found' : row.lookup second = some y) : Pairs first second (.object row) x y
  | listed (x y : Json) : Pairs first second (.array [x, y]) x y

section Pair

variable {first second : String} {left : Decoder α} {right : Decoder β} {make : α → β → γ} {a : α} {b : β}

theorem checkFields_pair (two : s.fields = [(first, left.check), (second, right.check)]) (ne : first ≠ second) :
    s.checkFields [] fields = .ok () ↔ Fits fields first left.check ∧ Fits fields second right.check := by
  rw [checkFields_nil_eq_ok (by simp [two, ne]), two, List.forall_mem_cons, List.forall_mem_singleton]

theorem pair_named_eq_ok (two : s.fields = [(first, left.check), (second, right.check)]) (ne : first ≠ second)
    {row : List (String × Json)} :
    s.checkFields [] row = .ok () ∧ s.required .named row first left = .ok a ∧
        s.required .named row second right = .ok b ↔
      ∃ x y, Pairs first second (.object row) x y ∧ left x = .ok a ∧ right y = .ok b := by
  rw [checkFields_pair two ne, required_eq_ok, required_eq_ok]
  constructor
  · rintro ⟨⟨fits, fits'⟩, ⟨x, found, reads⟩, y, found', reads'⟩
    exact ⟨x, y, .named fits.1 fits'.1 found found', reads, reads'⟩
  · rintro ⟨x, y, ⟨once, once', found, found'⟩, reads, reads'⟩
    have fits : Fits row first left.check := fits_of_reads .null once (by rw [found]; exact reads)
    have fits' : Fits row second right.check := fits_of_reads .null once' (by rw [found']; exact reads')
    exact ⟨⟨fits, fits'⟩, ⟨x, found, reads⟩, y, found', reads'⟩

theorem pair_listed_eq_ok (two : s.fields = [(first, left.check), (second, right.check)]) (ne : first ≠ second)
    {values : List Json} :
    s.checkFields [] ((s.fields.map Prod.fst).zip values) = .ok () ∧
        s.required (.listed values.length) ((s.fields.map Prod.fst).zip values) first left = .ok a ∧
        s.required (.listed values.length) ((s.fields.map Prod.fst).zip values) second right = .ok b ∧
        s.finish (.listed values.length) = .ok () ↔
      ∃ x y, Pairs first second (.array values) x y ∧ left x = .ok a ∧ right y = .ok b := by
  rw [checkFields_pair two ne, finish, two]
  constructor
  · rintro ⟨-, reads, reads', short⟩
    match values with
    | [] => cases reads
    | [x] =>
      simp [required, Json.lookup_cons_of_ne (Ne.symm ne)] at reads'
    | [x, y] =>
      simp only [required, List.map_cons, List.zip_cons_cons, List.lookup_cons_self,
        Json.lookup_cons_of_ne (Ne.symm ne)] at reads reads'
      exact ⟨x, y, .listed x y, reads, reads'⟩
    | x :: y :: z :: more => simp at short
  · rintro ⟨x, y, ⟨⟩, reads, reads'⟩
    have behind : [(first, x), (second, y)].lookup second = some y := by
      rw [Json.lookup_cons_of_ne (Ne.symm ne), List.lookup_cons_self]
    have fits : Fits [(first, x), (second, y)] first left.check :=
      fits_cons_self.2 ⟨by simp [ne], Decoder.check_eq_ok.2 ⟨a, reads⟩⟩
    have fits' : Fits [(first, x), (second, y)] second right.check :=
      (fits_cons_of_ne (Ne.symm ne)).2 (fits_cons_self.2 ⟨by simp, Decoder.check_eq_ok.2 ⟨b, reads'⟩⟩)
    refine ⟨⟨fits, fits'⟩, ?_, ?_, rfl⟩
    · simpa [required] using reads
    · simpa [required, behind] using reads'

/-- What a record of two fields is read from. -/
theorem pair_eq_ok (two : s.fields = [(first, left.check), (second, right.check)]) (ne : first ≠ second)
    (distinct : ∀ a b a' b', make a b = make a' b' → a = a' ∧ b = b') {j : Json} :
    (do
      let (fields, spelling) ← s.entries j
      let a ← s.required spelling fields first left
      let b ← s.required spelling fields second right
      s.finish spelling
      pure (make a b)) = .ok (make a b) ↔
      ∃ x y, Pairs first second j x y ∧ left x = .ok a ∧ right y = .ok b := by
  cases j with
  | object row =>
    rw [← pair_named_eq_ok two ne]
    simp only [entries, bind_eq_ok, pure, Except.pure, Except.ok.injEq]
    constructor
    · rintro ⟨_, ⟨⟨⟩, checked, rfl⟩, a', reads, b', reads', -, -, same⟩
      obtain ⟨rfl, rfl⟩ := distinct _ _ _ _ same
      exact ⟨checked, reads, reads'⟩
    · rintro ⟨checked, reads, reads'⟩
      exact ⟨_, ⟨(), checked, rfl⟩, a, reads, b, reads', (), rfl, rfl⟩
  | array values =>
    rw [← pair_listed_eq_ok two ne]
    simp only [entries, bind_eq_ok, pure, Except.pure, Except.ok.injEq]
    constructor
    · rintro ⟨_, ⟨⟨⟩, checked, rfl⟩, a', reads, b', reads', ⟨⟩, short, same⟩
      obtain ⟨rfl, rfl⟩ := distinct _ _ _ _ same
      exact ⟨checked, reads, reads', short⟩
    · rintro ⟨checked, reads, reads', short⟩
      exact ⟨_, ⟨(), checked, rfl⟩, a, reads, b, reads', (), short, rfl⟩
  | null | bool | int | float | text =>
    simp only [entries, bind_eq_ok, reduceCtorEq, false_and, exists_false, false_iff]
    rintro ⟨_, _, ⟨⟩, _⟩

end Pair

end Shape

end AsyncReports
