import AsyncReports.Date.Text
import AsyncReports.Proofs.Calendar
import Mathlib.Data.List.TakeWhile

set_option autoImplicit false

/-!
# Reading what was written

Every date is read back from its text, whatever the sign and the length of its year. Only the year is written with
a varying number of digits, and there the sign tells how far it goes: a year without one has exactly four digits, a
year with one ends at the hyphen.
-/

namespace AsyncReports

namespace Text

/-- At least one character, and only digits. -/
def IsNumeral (s : List Char) : Prop := s ≠ [] ∧ ∀ c ∈ s, isDigit c = true

theorem isBlank_of_isDigit {c : Char} (digit : isDigit c = true) : isBlank c = false := by
  have bounds : 48 ≤ c.toNat ∧ c.toNat ≤ 57 := by
    rw [isDigit, Bool.and_eq_true, decide_eq_true_eq, decide_eq_true_eq] at digit
    exact digit
  simp only [isBlank, Bool.or_eq_false_iff, Bool.and_eq_false_iff, decide_eq_false_iff_not]
  omega

theorem dropBlanks_cons {c : Char} (visible : isBlank c = false) (s : List Char) : dropBlanks (c :: s) = c :: s :=
  List.dropWhile_cons_of_neg (by rw [visible]; exact Bool.false_ne_true)

theorem IsNumeral.dropBlanks {digits : List Char} (numeral : IsNumeral digits) (rest : List Char) :
    dropBlanks (digits ++ rest) = digits ++ rest := by
  obtain ⟨c, more, rfl⟩ := List.exists_cons_of_ne_nil numeral.1
  exact dropBlanks_cons (isBlank_of_isDigit (numeral.2 c List.mem_cons_self)) _

theorem ofDigits_eq (digits : List Char) : ofDigits digits = Nat.ofDigitChars 10 digits 0 :=
  Nat.ofDigitChars_eq_foldl.symm

end Text

namespace Date

open Text

theorem padded_isNumeral (width n : Nat) : IsNumeral (padded width n) := by
  refine ⟨List.append_ne_nil_of_right_ne_nil _ Nat.toDigits_ne_nil, fun c among => ?_⟩
  rcases List.mem_append.1 among with zero | digit
  · rw [List.eq_of_mem_replicate zero]
    rfl
  · exact Nat.isDigit_of_mem_toDigits (by decide) (le_refl 10) digit

theorem ofDigits_padded (width n : Nat) : ofDigits (padded width n) = n := by
  rw [ofDigits_eq, padded, Nat.ofDigitChars_append, Nat.ofDigitChars_replicate_zero, Nat.mul_zero,
    Nat.ofDigitChars_ten_toDigits]

theorem length_padded {width n : Nat} (pos : 0 < width) (fits : n < 10 ^ width) : (padded width n).length = width := by
  have short := (Nat.length_toDigits_le_iff (by decide) pos).2 fits
  rw [padded, List.length_append, List.length_replicate, Nat.sub_add_cancel short]

/-- A number of as many digits as may be read ends there. -/
theorem readNumber_full {digits : List Char} (numeral : IsNumeral digits) (rest : List Char) :
    readNumber (some digits.length) (digits ++ rest) = .ok (ofDigits digits, rest) := by
  have span : ((digits ++ rest).take digits.length).takeWhile isDigit = digits := by
    rw [List.take_left]
    exact List.takeWhile_eq_self_iff.2 numeral.2
  rw [readNumber, if_neg (by simp [numeral.1])]
  simp only [span]
  rw [if_neg (by simp [numeral.1]), List.drop_left]

/-- A number of any length ends where the digits end. -/
theorem readNumber_open {digits : List Char} (numeral : IsNumeral digits) {c : Char} (ends : isDigit c = false)
    (rest : List Char) : readNumber none (digits ++ c :: rest) = .ok (ofDigits digits, c :: rest) := by
  have span : (digits ++ c :: rest).takeWhile isDigit = digits := by
    rw [List.takeWhile_append_of_pos numeral.2, List.takeWhile_cons_of_neg (by simp [ends]), List.append_nil]
  rw [readNumber, if_neg (by simp)]
  simp only [span]
  rw [if_neg (by simp [numeral.1]), List.drop_left]

/-- The digits of a year and its sign make up the year, if it fits. -/
theorem year_of_digits {year : Int} (fits : Width.holdsSigned 32 year = true)
    {digits : Except DateError (Nat × List Char)} {n : Nat} {rest : List Char} (known : digits = .ok (n, rest))
    (sign : Nat → Int) (value : sign n = year) :
    (do
      let (n, s) ← digits
      let (year, s) ← pure (sign n, s)
      if !Width.holdsSigned 32 year then .error .outOfRange
      pure (year, s)) = (.ok (year, rest) : Except DateError (Int × List Char)) := by
  subst known value
  simp only [bind, Except.bind, pure, Except.pure]
  rw [fits]
  rfl

theorem readYear_writeYear {year : Int} (fits : Width.holdsSigned 32 year = true) (rest : List Char) :
    readYear (writeYear year ++ '-' :: rest) = .ok (year, '-' :: rest) := by
  have numeral := padded_isNumeral 4 year.natAbs
  have ends := readNumber_open numeral (c := '-') rfl rest
  rw [ofDigits_padded] at ends
  by_cases negative : year < 0
  · have value : -(year.natAbs : Int) = year := by omega
    have visible : dropBlanks ('-' :: (padded 4 year.natAbs ++ '-' :: rest)) = _ := dropBlanks_cons rfl _
    rw [writeYear, if_pos negative, List.cons_append, readYear, visible]
    exact year_of_digits fits ends (fun n => -n) value
  have value : (year.natAbs : Int) = year := by omega
  by_cases short : year < 10000
  · obtain ⟨c, more, first⟩ := List.exists_cons_of_ne_nil numeral.1
    have digit := numeral.2 c (by rw [first]; exact List.mem_cons_self)
    have whole := readNumber_full numeral ('-' :: rest)
    rw [length_padded (by decide) (by omega), ofDigits_padded] at whole
    rw [writeYear, if_neg negative, if_pos short, readYear, numeral.dropBlanks]
    rw [first, List.cons_append] at whole ⊢
    -- The first character is a digit, hence no sign.
    split
    · next sign =>
      cases sign
      exact absurd digit (by decide)
    · next sign =>
      cases sign
      exact absurd digit (by decide)
    · exact year_of_digits fits whole (fun n => n) value
  · have visible : dropBlanks ('+' :: (padded 4 year.natAbs ++ '-' :: rest)) = _ := dropBlanks_cons rfl _
    rw [writeYear, if_neg negative, if_neg short, List.cons_append, readYear, visible]
    exact year_of_digits fits ends (fun n => n) value

theorem readPart_padded {greatest n : Nat} (least : 1 ≤ n) (most : n ≤ greatest) (short : n < 100)
    (rest : List Char) : readPart greatest (padded 2 n ++ rest) = .ok (n, rest) := by
  have numeral := padded_isNumeral 2 n
  have whole := readNumber_full numeral rest
  rw [length_padded (by decide) short, ofDigits_padded] at whole
  have within : ¬ (n < 1 ∨ greatest < n) := by omega
  rw [readPart, numeral.dropBlanks, whole]
  simp only [within, bind, Except.bind, pure, Except.pure]
  rfl

theorem readHyphen_hyphen (rest : List Char) : readHyphen ('-' :: rest) = .ok rest := by
  rw [readHyphen, dropBlanks_cons rfl]
  rfl

theorem read_write (d : Date) : read d.write = .ok d := by
  obtain ⟨⟨month, month', day, day'⟩, year⟩ := d.civil_supported
  have long := Civil.monthLength_le d.civil.year d.civil.month
  have fits : Width.holdsSigned 32 d.civil.year = true := by
    have limit : Width.capacity (32 - 1) = 2147483648 := rfl
    simp only [Width.holdsSigned, limit, Bool.and_eq_true, decide_eq_true_eq]
    omega
  have real : ofCivil? ⟨d.civil.year, d.civil.month, d.civil.day⟩ = some d := ofCivil?_civil d
  have written : d.write =
      writeYear d.civil.year ++ '-' :: (padded 2 d.civil.month ++ '-' :: (padded 2 d.civil.day ++ [])) := by
    simp only [write, List.append_nil, List.append_assoc, List.cons_append]
  rw [read, written, readYear_writeYear fits]
  simp only [bind, Except.bind, readHyphen_hyphen]
  rw [readPart_padded month month' (by omega)]
  simp only [readHyphen_hyphen]
  rw [readPart_padded day (by omega) (by omega)]
  simp only [real]
  rfl

theorem ofText_text (d : Date) : ofText d.text = .ok d := by
  rw [ofText, text, String.toList_ofList, read_write]

end Date

end AsyncReports
