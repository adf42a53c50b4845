import VellarSdk.Js.Decimal
import Mathlib.Data.Nat.Factorization.Basic
import Mathlib.Data.Nat.Factorization.Defs
import Mathlib.Tactic.FieldSimp

/-!
# JSON Numbers

The number literals of a JSON text. They are fewer than the ones an operator
reads out of a string: no zero stands in front of other digits, no sign but a minus
in front of all, and digits on both sides of a point.

A literal names any decimal, and `JSON.parse` gives the number nearest to it. How
that is found is left to a `Rounding`, of which it is used that a number is named by
a decimal that is read as this number, and that small integers are numbers.

A number is printed in one of four layouts. Each is a literal, of the value that was
printed, so that a number is read back from its text.

## Main definitions

* `readNumber`: The value of a number literal.
* `IsDecimal`: The rationals a literal can name.
* `Rounding`, `Rounding.Exact`: The numbers nearest to what was read.
* `exactRounding`: The one where nothing is rounded.

## Theorems

* `readUnsigned_numeral`, `readUnsigned_scaled`: What a literal is worth, by its
  parts.
* `readUnsigned_layout`: The same for the digits of a printed number.
* `readNumber_toStr`: A number is read back from its text.
-/

namespace VellarSdk

namespace Js

/-- The letters an exponent begins with. -/
def isExponent (u : CodeUnit) : Bool :=
  u == 101 || u == 69

/-- A number literal without its sign. What follows the exponent's letter is
    left to `unsignedDecimal`. -/
def isUnsignedNumber (s : JsString) : Bool :=
  let mantissa := before isExponent s
  let whole := before (fun u => u == 46) mantissa
  let fraction := mantissa.drop whole.length
  isDigits whole && (whole.length == 1 || whole.head? != some 48) &&
    (fraction.isEmpty || isDigits fraction.tail)

/-- The value of a number literal without its sign, if it has the form that JSON asks
    for. An exponent of any size is taken at its word. -/
def readUnsigned (s : JsString) : Option ℚ :=
  if isUnsignedNumber s then
    match unsignedDecimal s with
    | some (.finite q) => some q
    | _ => none
  else none

/-- The value of a number literal. -/
def readNumber : JsString → Option ℚ
  | 45 :: s => (readUnsigned s).map Neg.neg
  | s => readUnsigned s

/-- The rationals with a finite decimal expansion. -/
def IsDecimal (q : ℚ) : Prop :=
  ∃ n : Nat, q.den ∣ 10 ^ n

/-- The number nearest to a decimal, as the decimal that names it. -/
structure Rounding where
  nearest : ℚ → JsNumber
  decimal : ∀ {q p : ℚ}, nearest q = .finite p → IsDecimal p
  nearest_nearest : ∀ {q p : ℚ}, nearest q = .finite p → nearest p = .finite p
  nearest_int : ∀ n : Int, n.natAbs ≤ 2 ^ 53 → nearest n = .finite n

/-- The decimals that name a number. -/
def Rounding.Exact (r : Rounding) (q : ℚ) : Prop :=
  r.nearest q = .finite q

/-- Every decimal taken for a number of its own, as it is where none has more digits
    than a number can tell apart. -/
def exactRounding : Rounding where
  nearest q := if 10 ^ q.den % q.den = 0 then .finite q else .infinity false
  decimal {q p} h := by
    by_cases hq : 10 ^ q.den % q.den = 0
    · rw [if_pos hq] at h
      injection h with h
      exact ⟨q.den, h ▸ Nat.dvd_of_mod_eq_zero hq⟩
    · rw [if_neg hq] at h
      exact absurd h (by simp only [reduceCtorEq, not_false_eq_true])
  nearest_nearest {q p} h := by
    by_cases hq : 10 ^ q.den % q.den = 0
    · rw [if_pos hq] at h
      injection h with h
      rw [← h, if_pos hq]
    · rw [if_neg hq] at h
      exact absurd h (by simp only [reduceCtorEq, not_false_eq_true])
  nearest_int n _ := by
    rw [if_pos]
    rw [Rat.den_intCast, Nat.mod_one]

theorem Rounding.Exact.isDecimal {r : Rounding} {q : ℚ} (h : r.Exact q) : IsDecimal q :=
  r.decimal h

/-! ## Literals by their parts -/

/-- Digits, and others after a point if there are any. -/
def numeral (whole fraction : JsString) : JsString :=
  whole ++ if fraction = [] then [] else 46 :: fraction

/-- The parts of a literal: digits without a needless zero in front, and others. -/
structure IsNumeral (whole fraction : JsString) : Prop where
  digits : isDigits whole = true
  leading : whole.length = 1 ∨ whole.head? ≠ some 48
  places : ∀ u ∈ fraction, isDigit u = true

section Numeral

variable {whole fraction : JsString}

theorem ne_of_isDigit {u c : CodeUnit} (h : isDigit u = true) (hc : isDigit c = false) : u ≠ c := by
  rintro rfl
  rw [h] at hc
  exact absurd hc (by simp only [Bool.true_eq_false, not_false_eq_true])

theorem isExponent_of_isDigit {u : CodeUnit} (h : isDigit u = true) : isExponent u = false := by
  rw [isExponent, beq_eq_false_iff_ne.mpr (ne_of_isDigit h rfl),
    beq_eq_false_iff_ne.mpr (ne_of_isDigit h rfl), Bool.or_self]

theorem IsNumeral.isDigits_append (h : IsNumeral whole fraction) :
    isDigits (whole ++ fraction) = true := by
  obtain ⟨hne, hdigit⟩ := (isDigits_iff whole).mp h.digits
  refine (isDigits_iff _).mpr ⟨List.append_ne_nil_of_left_ne_nil hne _, ?_⟩
  exact List.forall_mem_append.mpr ⟨hdigit, h.places⟩

/-- A numeral has no exponent in it. -/
theorem IsNumeral.not_isExponent (h : IsNumeral whole fraction) :
    ∀ u ∈ numeral whole fraction, isExponent u = false := by
  intro u hu
  rcases List.mem_append.mp hu with hu | hu
  · exact isExponent_of_isDigit (((isDigits_iff whole).mp h.digits).2 u hu)
  · by_cases hf : fraction = []
    · rw [if_pos hf] at hu
      exact absurd hu List.not_mem_nil
    · rw [if_neg hf] at hu
      rcases List.mem_cons.mp hu with rfl | hu
      · rfl
      · exact isExponent_of_isDigit (h.places u hu)

/-- The point of a numeral comes after the first of its parts. -/
theorem IsNumeral.before_point (h : IsNumeral whole fraction) :
    before (fun u => u == 46) (numeral whole fraction) = whole := by
  have hpoint : ∀ u ∈ whole, (u == 46) = false := fun u hu =>
    beq_eq_false_iff_ne.mpr (ne_of_isDigit (((isDigits_iff whole).mp h.digits).2 u hu) rfl)
  unfold numeral
  by_cases hf : fraction = []
  · rw [if_pos hf, List.append_nil, before_of_not hpoint]
  · rw [if_neg hf]
    refine before_append_cons (fun hmem => ?_) fraction
    exact absurd (hpoint 46 hmem) (by simp only [beq_self_eq_true, Bool.true_eq_false,
      not_false_eq_true])

/-- What is behind the first part is the other one, with its point. -/
theorem drop_numeral (whole fraction : JsString) :
    (numeral whole fraction).drop whole.length =
      if fraction = [] then [] else 46 :: fraction := by
  rw [numeral, List.drop_left]

/-- A text whose mantissa is a numeral is a literal so far. -/
theorem IsNumeral.isUnsignedNumber (h : IsNumeral whole fraction) {s : JsString}
    (hs : before isExponent s = numeral whole fraction) : isUnsignedNumber s = true := by
  have hleading : (whole.length == 1 || whole.head? != some 48) = true := by
    rw [Bool.or_eq_true, beq_iff_eq, bne_iff_ne]
    exact h.leading
  rw [Js.isUnsignedNumber]
  simp only [hs, h.before_point, drop_numeral, h.digits, hleading, Bool.and_self, Bool.true_and]
  by_cases hf : fraction = []
  · rw [if_pos hf]
    rfl
  · rw [if_neg hf, List.isEmpty_cons, Bool.false_or, List.tail_cons]
    exact (isDigits_iff _).mpr ⟨hf, h.places⟩

theorem IsNumeral.drop_point (whole fraction : JsString) :
    ((numeral whole fraction).drop whole.length).drop 1 = fraction := by
  rw [drop_numeral]
  by_cases hf : fraction = []
  · rw [if_pos hf, hf, List.drop_nil]
  · rw [if_neg hf, List.drop_succ_cons, List.drop_zero]

/-- A numeral is worth its digits. -/
theorem readUnsigned_numeral (h : IsNumeral whole fraction) :
    readUnsigned (numeral whole fraction) = some (decimalValue whole fraction) := by
  have hbefore : before isExponent (numeral whole fraction) = numeral whole fraction :=
    before_of_not h.not_isExponent
  have hvalue : unsignedDecimal (numeral whole fraction) =
      some (.finite (decimalValue whole fraction)) := by
    have hbefore' := hbefore
    unfold isExponent at hbefore'
    simp only [unsignedDecimal, hbefore', h.before_point, IsNumeral.drop_point,
      h.isDigits_append, Bool.not_true, Bool.false_eq_true, if_false, if_true]
  rw [readUnsigned, if_pos (h.isUnsignedNumber hbefore), hvalue]

/-- The mantissa ends at the exponent. -/
theorem before_append_of_pos {p : CodeUnit → Bool} {s : JsString} (h : ∀ u ∈ s, p u = false)
    {c : CodeUnit} (hc : p c = true) (t : JsString) : before p (s ++ c :: t) = s := by
  induction s with
  | nil => rw [List.nil_append, before, List.takeWhile_cons, hc]; rfl
  | cons u s ih =>
      rw [List.forall_mem_cons] at h
      rw [List.cons_append, before, List.takeWhile_cons, h.1]
      exact congrArg (u :: ·) (ih h.2)

/-- With an exponent it is scaled. -/
theorem readUnsigned_scaled (h : IsNumeral whole fraction) (exponent : JsString) :
    readUnsigned (numeral whole fraction ++ 101 :: exponent) =
      match scaleBy (decimalValue whole fraction) exponent with
      | some (.finite q) => some q
      | _ => none := by
  have hbefore : before isExponent (numeral whole fraction ++ 101 :: exponent) =
      numeral whole fraction := before_append_of_pos h.not_isExponent rfl exponent
  have hvalue : unsignedDecimal (numeral whole fraction ++ 101 :: exponent) =
      scaleBy (decimalValue whole fraction) exponent := by
    have hbefore' := hbefore
    unfold isExponent at hbefore'
    have hlength : (numeral whole fraction).length ≠
        (numeral whole fraction ++ 101 :: exponent).length := by
      rw [List.length_append, List.length_cons]
      omega
    have hdrop : (numeral whole fraction ++ 101 :: exponent).drop
        ((numeral whole fraction).length + 1) = exponent := by
      rw [← List.drop_drop, List.drop_left, List.drop_succ_cons, List.drop_zero]
    simp only [unsignedDecimal, hbefore', h.before_point, IsNumeral.drop_point,
      h.isDigits_append, Bool.not_true, Bool.false_eq_true, if_false, if_neg hlength, hdrop]
  rw [readUnsigned, if_pos (h.isUnsignedNumber hbefore), hvalue]

end Numeral

/-! ## Printed numbers -/

theorem isNumeral_of_digits {digits : JsString} (h : isDigits digits = true)
    (hleading : digits.head? ≠ some 48) : IsNumeral digits [] where
  digits := h
  leading := .inr hleading
  places := fun _ hu => absurd hu List.not_mem_nil

theorem numeral_nil (whole : JsString) : numeral whole [] = whole := by
  rw [numeral, if_pos rfl, List.append_nil]

theorem numeral_of_ne_nil {fraction : JsString} (h : fraction ≠ []) (whole : JsString) :
    numeral whole fraction = whole ++ js "." ++ fraction := by
  rw [numeral, if_neg h, List.append_assoc]
  rfl

/-- Where the point stands is a power of ten. -/
theorem decimalValue_eq (whole fraction : JsString) : decimalValue whole fraction =
    (digitsToNat 10 (whole ++ fraction) : ℚ) * 10 ^ (-(fraction.length : Int)) := by
  rw [decimalValue, zpow_neg, zpow_natCast, div_eq_mul_inv]

theorem digitsToNat_zeros_append (k : Nat) (s : JsString) :
    digitsToNat 10 (List.replicate k 48 ++ s) = digitsToNat 10 s := by
  rw [digitsToNat_append, digitsToNat_zeros, Nat.zero_mul, Nat.zero_add]

/-- The exponent scales by a power of ten. -/
theorem scaleBy_sign (q : ℚ) (e : Int) :
    scaleBy q ((if e < 0 then js "-" else js "+") ++ natToString e.natAbs) =
      some (.finite (q * 10 ^ e)) := by
  by_cases he : e < 0
  · have habs : e = -(e.natAbs : Int) := by omega
    rw [if_pos he]
    show scaleBy q (45 :: natToString e.natAbs) = _
    rw [scaleBy, if_pos (isDigits_natToString _), digitsToNat_natToString]
    conv => rhs; rw [habs, zpow_neg, zpow_natCast]
    rw [div_eq_mul_inv]
  · have habs : e = (e.natAbs : Int) := by omega
    rw [if_neg he]
    show scaleBy q (43 :: natToString e.natAbs) = _
    rw [scaleBy, if_pos (isDigits_natToString _), digitsToNat_natToString]
    conv => rhs; rw [habs, zpow_natCast]

section Layout

variable {digits : JsString} (hdigits : isDigits digits = true)
  (hleading : digits.head? ≠ some 48)

include hdigits hleading

/-- The digits before a point that stands among them. -/
theorem isNumeral_take {n : Nat} (hn : 0 < n) :
    IsNumeral (digits.take n) (digits.drop n) := by
  obtain ⟨hne, hall⟩ := (isDigits_iff digits).mp hdigits
  refine ⟨(isDigits_iff _).mpr ⟨?_, fun u hu => hall u (List.mem_of_mem_take hu)⟩, .inr ?_,
    fun u hu => hall u (List.mem_of_mem_drop hu)⟩
  · rw [ne_eq, List.take_eq_nil_iff, not_or]
    exact ⟨by omega, hne⟩
  · rw [List.head?_take, if_neg (by omega)]
    exact hleading

omit hleading in
theorem isNumeral_zeros {k : Nat} : IsNumeral (js "0") (List.replicate k 48 ++ digits) := by
  refine ⟨rfl, .inl rfl, List.forall_mem_append.mpr ⟨fun u hu => ?_, ?_⟩⟩
  · exact isDigit_of_mem_zeros hu
  · exact ((isDigits_iff digits).mp hdigits).2

/-- Whichever way the digits of a number are laid out, they are worth the same. -/
theorem readUnsigned_layout (point : Int) : readUnsigned (JsNumber.layout digits point) =
    some ((digitsToNat 10 digits : ℚ) * 10 ^ (point - digits.length)) := by
  obtain ⟨hne, hall⟩ := (isDigits_iff digits).mp hdigits
  have hlength : 0 < digits.length := List.length_pos_iff.mpr hne
  unfold JsNumber.layout
  by_cases hwhole : (digits.length : Int) ≤ point ∧ point ≤ 21
  · -- All of the digits, and zeros behind them.
    have hzeros : isDigits (digits ++ List.replicate (point - digits.length).toNat 48) = true :=
      (isDigits_iff _).mpr ⟨List.append_ne_nil_of_left_ne_nil hne _,
        List.forall_mem_append.mpr ⟨hall, fun u hu => isDigit_of_mem_zeros hu⟩⟩
    have hhead : (digits ++ List.replicate (point - digits.length).toNat 48).head? ≠ some 48 := by
      rw [List.head?_append_of_ne_nil _ hne]
      exact hleading
    have hexp : point - digits.length = ((point - digits.length).toNat : Int) := by omega
    have hread := readUnsigned_numeral (isNumeral_of_digits hzeros hhead)
    rw [numeral_nil, decimalValue, List.append_nil, List.length_nil, pow_zero, div_one,
      digitsToNat_append, digitsToNat_zeros, Nat.add_zero, List.length_replicate] at hread
    rw [if_pos hwhole, hread]
    conv => rhs; rw [hexp, zpow_natCast]
    push_cast
    rfl
  rw [if_neg hwhole]
  by_cases hamong : 0 < point ∧ point ≤ 21
  · -- The point stands among them.
    have hdrop : digits.drop point.toNat ≠ [] := by
      rw [ne_eq, List.drop_eq_nil_iff]
      omega
    have hexp : point - digits.length = -((digits.drop point.toNat).length : Int) := by
      rw [List.length_drop]
      omega
    rw [if_pos hamong, ← numeral_of_ne_nil hdrop,
      readUnsigned_numeral (isNumeral_take hdigits hleading (by omega)), decimalValue_eq,
      List.take_append_drop, hexp]
  rw [if_neg hamong]
  by_cases hzero : -6 < point ∧ point ≤ 0
  · -- It stands in front of them, and zeros after it.
    have hplaces : List.replicate (-point).toNat 48 ++ digits ≠ [] :=
      List.append_ne_nil_of_right_ne_nil _ hne
    have hexp : point - digits.length =
        -((List.replicate (-point).toNat (48 : CodeUnit) ++ digits).length : Int) := by
      rw [List.length_append, List.length_replicate]
      omega
    have htext : js "0." ++ List.replicate (-point).toNat 48 ++ digits =
        numeral (js "0") (List.replicate (-point).toNat 48 ++ digits) := by
      rw [numeral_of_ne_nil hplaces, List.append_assoc]
      rfl
    have hvalue : digitsToNat 10 (js "0" ++ (List.replicate (-point).toNat 48 ++ digits)) =
        digitsToNat 10 digits := by
      rw [show js "0" = List.replicate 1 48 from rfl, digitsToNat_zeros_append,
        digitsToNat_zeros_append]
    rw [if_pos hzero, htext, readUnsigned_numeral (isNumeral_zeros hdigits),
      decimalValue_eq, hvalue, hexp]
  -- One digit stands before the point, and an exponent follows.
  have htext : digits.take 1 ++ (if digits.length = 1 then [] else js "." ++ digits.drop 1) =
      numeral (digits.take 1) (digits.drop 1) := by
    by_cases hone : digits.length = 1
    · rw [if_pos hone, List.drop_eq_nil_iff.mpr (by omega), numeral_nil, List.append_nil]
    · rw [if_neg hone, numeral_of_ne_nil (by rw [ne_eq, List.drop_eq_nil_iff]; omega),
        List.append_assoc]
  have hscale := readUnsigned_scaled (isNumeral_take hdigits hleading Nat.one_pos)
    ((if point - 1 < 0 then js "-" else js "+") ++ natToString (point - 1).natAbs)
  rw [scaleBy_sign, decimalValue_eq, List.take_append_drop] at hscale
  have hexp : point - digits.length = -((digits.drop 1).length : Int) + (point - 1) := by
    rw [List.length_drop]
    omega
  rw [if_neg hzero, htext, hexp, zpow_add₀ (by norm_num), ← mul_assoc]
  refine Eq.trans (congrArg readUnsigned ?_) hscale
  rw [List.append_assoc, List.append_assoc]
  rfl

end Layout

namespace JsNumber

/-- A power of ten that clears the denominator is found. -/
theorem decimalPlaces_spec {q : ℚ} {fuel j n : Nat} (hn : q.den ∣ 10 ^ n) (hj : j ≤ n)
    (hfuel : n ≤ j + fuel) : q.den ∣ 10 ^ decimalPlaces q fuel j := by
  induction fuel generalizing j with
  | zero =>
      rw [decimalPlaces, show j = n by omega]
      exact hn
  | succ fuel ih =>
      rw [decimalPlaces]
      by_cases h : 10 ^ j % q.den = 0
      · rw [if_pos h]
        exact Nat.dvd_of_mod_eq_zero h
      · rw [if_neg h]
        have hne : j ≠ n := by
          rintro rfl
          exact h (Nat.mod_eq_zero_of_dvd hn)
        exact ih (by omega) (by omega)

end JsNumber

/-- A denominator that a power of ten clears is cleared by its own. -/
theorem IsDecimal.dvd {q : ℚ} (h : IsDecimal q) : q.den ∣ 10 ^ q.den := by
  obtain ⟨n, hn⟩ := h
  have hpow : ∀ k : Nat, (10 : Nat) ^ k ≠ 0 := fun k =>
    Nat.pos_iff_ne_zero.mp (Nat.pow_pos (by omega))
  rw [← Nat.factorization_le_iff_dvd q.den_nz (hpow _)]
  intro p
  have hle := (Nat.factorization_le_iff_dvd q.den_nz (hpow n)).mpr hn p
  rw [Nat.factorization_pow, Finsupp.smul_apply, smul_eq_mul] at hle ⊢
  rcases Nat.eq_zero_or_pos ((10 : Nat).factorization p) with hzero | hpos
  · rw [hzero, Nat.mul_zero] at hle
    omega
  · calc q.den.factorization p ≤ q.den := (Nat.factorization_lt p q.den_nz).le
      _ ≤ q.den * (10 : Nat).factorization p := Nat.le_mul_of_pos_right _ hpos

theorem head?_natToString {n : Nat} (hn : 0 < n) : (natToString n).head? ≠ some 48 := by
  intro h
  obtain ⟨t, ht⟩ := List.head?_eq_some_iff.mp h
  have hvalue := digitsToNat_natToString n
  rw [ht, natToString_eq_zero_cons ht] at hvalue
  rw [← hvalue] at hn
  exact absurd hn (by decide)

/-- What begins with a sign is no unsigned literal. -/
theorem readNumber_of_unsigned {s : JsString} {q : ℚ} (h : readUnsigned s = some q) :
    readNumber s = some q := by
  unfold readNumber
  split
  · next t =>
    have hfirst : isUnsignedNumber (45 :: t) = false := by
      simp [isUnsignedNumber, before, isDigits, isDigit, isExponent]
    rw [readUnsigned, hfirst] at h
    exact absurd h (by simp only [Bool.false_eq_true, if_false, reduceCtorEq, not_false_eq_true])
  · exact h

/-- A number is read back from its text. -/
theorem readNumber_toStr {q : ℚ} (h : IsDecimal q) :
    readNumber (JsNumber.finite q).toStr = some q := by
  by_cases hzero : q = 0
  · subst hzero
    decide +kernel
  have hnum : 0 < q.num.natAbs := Int.natAbs_pos.mpr (Rat.num_ne_zero.mpr hzero)
  have hplaces := JsNumber.decimalPlaces_spec h.dvd (Nat.zero_le _)
    (Nat.le_of_eq (Nat.zero_add _).symm)
  simp only [JsNumber.toStr, if_neg hzero]
  generalize JsNumber.decimalPlaces q q.den 0 = places at hplaces ⊢
  -- The digits and the zeros behind them are the number without its point.
  have hstrip := JsNumber.stripZeros_spec (q.num.natAbs * 10 ^ places)
    (q.num.natAbs * 10 ^ places / q.den)
  have hdvd : q.den ∣ q.num.natAbs * 10 ^ places := Dvd.dvd.mul_left hplaces _
  have hpos : 0 < q.num.natAbs * 10 ^ places / q.den :=
    Nat.div_pos (Nat.le_of_dvd (Nat.mul_pos hnum (Nat.pow_pos (by omega))) hdvd) q.den_pos
  generalize JsNumber.stripZeros (q.num.natAbs * 10 ^ places)
    (q.num.natAbs * 10 ^ places / q.den) = stripped at hstrip ⊢
  rcases stripped with ⟨s, zeros⟩
  have hs : 0 < s := by
    rcases Nat.eq_zero_or_pos s with rfl | hs
    · rw [Nat.zero_mul] at hstrip
      omega
    · exact hs
  have hvalue : (s : ℚ) * 10 ^ ((zeros : Int) - places) = |q| := by
    have hnat : s * 10 ^ zeros * q.den = q.num.natAbs * 10 ^ places := by
      rw [hstrip, Nat.div_mul_cancel hdvd]
    have hcast : (s : ℚ) * 10 ^ zeros * q.den = q.num.natAbs * 10 ^ places := by exact_mod_cast hnat
    have habs : |q| = (q.num.natAbs : ℚ) / q.den := by
      conv => lhs; rw [← Rat.num_div_den q, abs_div, Nat.abs_cast]
      rw [Nat.cast_natAbs, Int.cast_abs]
    have hden : (q.den : ℚ) ≠ 0 := by exact_mod_cast q.den_nz
    rw [habs, zpow_sub₀ (by norm_num), zpow_natCast, zpow_natCast, mul_div_assoc', div_eq_div_iff
      (by positivity) hden, hcast]
  have hlayout := readUnsigned_layout (isDigits_natToString s) (head?_natToString hs)
    ((natToString s).length + zeros - places)
  rw [digitsToNat_natToString, show ((natToString s).length : Int) + zeros - places -
    (natToString s).length = zeros - places by ring, hvalue] at hlayout
  by_cases hneg : q < 0
  · rw [if_pos hneg]
    show (readUnsigned (JsNumber.layout (natToString s)
      ((natToString s).length + zeros - places))).map Neg.neg = some q
    rw [hlayout, Option.map_some, abs_of_neg hneg, neg_neg]
  · rw [if_neg hneg, List.nil_append]
    rw [abs_of_nonneg (not_lt.mp hneg)] at hlayout
    exact readNumber_of_unsigned hlayout

end Js

end VellarSdk
