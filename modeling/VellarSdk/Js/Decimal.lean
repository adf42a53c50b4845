import VellarSdk.Js.Number
import Mathlib.Data.List.DropRight

/-!
# Decimal Texts

Digits, and what may be done to them without a change of value: zeros in front of
a number, and behind a fraction. Digit strings of one length are told apart by
their values, so that a string of digits is its value's, padded in front to its
length. Everything said of padding and of leading zeros comes from that.

A decimal text is digits, or digits on both sides of a point.

## Main definitions

* `padStart`, `padEnd`: Padding with zeros.
* `stripLeadingZeros`, `stripTrailingZeros`: Dropping them.
* `Decimal`: A decimal text, by its two parts.
* `Decimal.text`, `Decimal.value`: How it is written, and the number it denotes.
* `Decimal.trimmed`: Without needless zeros.
* `Decimal.units`, `Decimal.ofUnits`: In units of its last places, and back.

## Theorems

* `digitsToNat_append`: The value of digits one after the other.
* `digitsToNat_inj`: Digits of one length are told apart by their values.
* `padStart_natToString`, `natToString_digitsToNat`: Digits are those of their
  value.
* `padEnd_stripTrailingZeros`: Zeros that were dropped are put back.
* `Decimal.units_ofUnits`, `Decimal.ofUnits_units`: The two are inverse, but for
  needless zeros.
-/

namespace VellarSdk

namespace Js

/-- `s.padStart(width, "0")`. -/
def padStart (width : Nat) (s : JsString) : JsString :=
  List.replicate (width - s.length) 48 ++ s

/-- `s.padEnd(width, "0")`. -/
def padEnd (width : Nat) (s : JsString) : JsString :=
  s ++ List.replicate (width - s.length) 48

/-- `s.replace(/0+$/, "")`. -/
def stripTrailingZeros (s : JsString) : JsString :=
  s.rdropWhile (fun u => u == 48)

/-- Digits without the zeros that stand before another digit. -/
def stripLeadingZeros : JsString → JsString
  | [] => []
  | u :: s => if u = 48 ∧ s ≠ [] then stripLeadingZeros s else u :: s

section Digits

variable {s t : JsString} {u : CodeUnit}

theorem digitValue_lt (h : isDigit u = true) : digitsToNat.digitValue u < 10 := by
  simp only [isDigit, Bool.and_eq_true, decide_eq_true_eq, UInt16.le_iff_toNat_le,
    UInt16.reduceToNat] at h
  have hle : u ≤ 57 := UInt16.le_iff_toNat_le.mpr h.2
  rw [digitsToNat.digitValue, if_pos hle]
  omega

theorem digitValue_inj {v : CodeUnit} (hu : isDigit u = true) (hv : isDigit v = true)
    (h : digitsToNat.digitValue u = digitsToNat.digitValue v) : u = v := by
  simp only [isDigit, Bool.and_eq_true, decide_eq_true_eq, UInt16.le_iff_toNat_le,
    UInt16.reduceToNat] at hu hv
  have hule : u ≤ 57 := UInt16.le_iff_toNat_le.mpr hu.2
  have hvle : v ≤ 57 := UInt16.le_iff_toNat_le.mpr hv.2
  rw [digitsToNat.digitValue, digitsToNat.digitValue, if_pos hule, if_pos hvle] at h
  exact UInt16.toNat_inj.mp (by omega)

theorem intToString_natCast (n : Nat) : intToString n = natToString n := by
  rw [intToString, if_neg (by omega), Int.natAbs_natCast]

theorem digitsToNat_concat (s : JsString) (u : CodeUnit) :
    digitsToNat 10 (s ++ [u]) = digitsToNat 10 s * 10 + digitsToNat.digitValue u := by
  rw [digitsToNat, List.foldl_append, List.foldl_cons, List.foldl_nil, digitsToNat]

/-- The value of digits one after the other. -/
theorem digitsToNat_append (s t : JsString) :
    digitsToNat 10 (s ++ t) = digitsToNat 10 s * 10 ^ t.length + digitsToNat 10 t := by
  induction t using List.reverseRecOn with
  | nil => rw [List.append_nil, List.length_nil, Nat.pow_zero, Nat.mul_one]; rfl
  | append_singleton t u ih =>
      rw [← List.append_assoc, digitsToNat_concat, ih, digitsToNat_concat, List.length_append,
        List.length_singleton, Nat.pow_succ]
      ring

theorem digitsToNat_zeros (k : Nat) : digitsToNat 10 (List.replicate k 48) = 0 := by
  induction k with
  | zero => rfl
  | succ k ih => rw [List.replicate_succ', digitsToNat_concat, ih]; rfl

theorem digitsToNat_padStart (width : Nat) (s : JsString) :
    digitsToNat 10 (padStart width s) = digitsToNat 10 s := by
  rw [padStart, digitsToNat_append, digitsToNat_zeros, Nat.zero_mul, Nat.zero_add]

theorem length_padStart {width : Nat} (h : s.length ≤ width) :
    (padStart width s).length = width := by
  rw [padStart, List.length_append, List.length_replicate]
  omega

theorem length_padEnd {width : Nat} (h : s.length ≤ width) : (padEnd width s).length = width := by
  rw [padEnd, List.length_append, List.length_replicate]
  omega

theorem isDigit_of_mem_zeros {k : Nat} (hu : u ∈ List.replicate k (48 : CodeUnit)) :
    isDigit u = true := by
  rw [List.eq_of_mem_replicate hu]
  rfl

theorem isDigit_padStart (width : Nat) (h : ∀ u ∈ s, isDigit u = true) :
    ∀ u ∈ padStart width s, isDigit u = true := by
  intro u hu
  rcases List.mem_append.mp hu with hu | hu
  · exact isDigit_of_mem_zeros hu
  · exact h u hu

theorem isDigit_padEnd (width : Nat) (h : ∀ u ∈ s, isDigit u = true) :
    ∀ u ∈ padEnd width s, isDigit u = true := by
  intro u hu
  rcases List.mem_append.mp hu with hu | hu
  · exact h u hu
  · exact isDigit_of_mem_zeros hu

theorem digitsToNat_lt (h : ∀ u ∈ s, isDigit u = true) : digitsToNat 10 s < 10 ^ s.length := by
  induction s using List.reverseRecOn with
  | nil => exact Nat.one_pos
  | append_singleton s u ih =>
      rw [List.forall_mem_append, List.forall_mem_singleton] at h
      have hs := ih h.1
      have hu := digitValue_lt h.2
      rw [digitsToNat_concat, List.length_append, List.length_singleton, Nat.pow_succ]
      omega

/-- Digits of one length are told apart by their values. -/
theorem digitsToNat_inj (hs : ∀ u ∈ s, isDigit u = true) (ht : ∀ u ∈ t, isDigit u = true)
    (hlength : s.length = t.length) (h : digitsToNat 10 s = digitsToNat 10 t) : s = t := by
  induction s using List.reverseRecOn generalizing t with
  | nil => exact (List.length_eq_zero_iff.mp hlength.symm).symm
  | append_singleton s u ih =>
      rcases List.eq_nil_or_concat t with rfl | ⟨t, v, rfl⟩
      · rw [List.length_append, List.length_singleton] at hlength
        exact absurd hlength (Nat.succ_ne_zero _)
      · rw [List.concat_eq_append] at ht hlength h ⊢
        rw [List.forall_mem_append, List.forall_mem_singleton] at hs ht
        rw [List.length_append, List.length_append, List.length_singleton,
          List.length_singleton] at hlength
        rw [digitsToNat_concat, digitsToNat_concat] at h
        have hu := digitValue_lt hs.2
        have hv := digitValue_lt ht.2
        rw [ih hs.1 ht.1 (Nat.add_right_cancel hlength) (by omega),
          digitValue_inj hs.2 ht.2 (by omega)]

/-- Digits are those of their value, with zeros in front. -/
theorem padStart_natToString (h : isDigits s = true) :
    padStart s.length (natToString (digitsToNat 10 s)) = s := by
  obtain ⟨hne, hdigit⟩ := (isDigits_iff s).mp h
  have hlength : (natToString (digitsToNat 10 s)).length ≤ s.length :=
    length_natToString_le (List.length_pos_of_ne_nil hne) (digitsToNat_lt hdigit)
  refine digitsToNat_inj (isDigit_padStart _ (isDigit_natToString _)) hdigit
    (length_padStart hlength) ?_
  rw [digitsToNat_padStart, digitsToNat_natToString]

/-- A number is printed without leading zeros. -/
theorem natToString_eq_zero_cons {n : Nat} (h : natToString n = 48 :: s) : s = [] := by
  induction n using Nat.strong_induction_on generalizing s with
  | _ n ih =>
      rw [natToString_eq] at h
      by_cases hn : n < 10
      · rw [if_pos hn, List.nil_append, List.cons.injEq] at h
        exact h.2.symm
      · rw [if_neg hn] at h
        rcases hrest : natToString (n / 10) with _ | ⟨u, rest⟩
        · exact absurd hrest ((isDigits_iff _).mp (isDigits_natToString _)).1
        · rw [hrest, List.cons_append, List.cons.injEq] at h
          obtain ⟨rfl, -⟩ := h
          -- A quotient that is only a zero is zero.
          have hnil := ih (n / 10) (by omega) hrest
          have hvalue := digitsToNat_natToString (n / 10)
          rw [hrest, hnil] at hvalue
          have hzero : digitsToNat 10 [48] = 0 := rfl
          omega

theorem stripLeadingZeros_natToString (n : Nat) :
    stripLeadingZeros (natToString n) = natToString n := by
  rcases hprint : natToString n with _ | ⟨u, rest⟩
  · rfl
  · rw [stripLeadingZeros, if_neg]
    rintro ⟨rfl, hne⟩
    exact hne (natToString_eq_zero_cons hprint)

theorem stripLeadingZeros_zeros_append (k : Nat) (h : s ≠ []) :
    stripLeadingZeros (List.replicate k 48 ++ s) = stripLeadingZeros s := by
  induction k with
  | zero => rw [List.replicate_zero, List.nil_append]
  | succ k ih =>
      rw [List.replicate_succ, List.cons_append, stripLeadingZeros,
        if_pos ⟨rfl, List.append_ne_nil_of_right_ne_nil _ h⟩, ih]

/-- A number read from digits prints as these without the zeros in front. -/
theorem natToString_digitsToNat (h : isDigits s = true) :
    natToString (digitsToNat 10 s) = stripLeadingZeros s := by
  have hne := ((isDigits_iff _).mp (isDigits_natToString (digitsToNat 10 s))).1
  have hstrip := congrArg stripLeadingZeros (padStart_natToString h)
  rw [padStart, stripLeadingZeros_zeros_append _ hne, stripLeadingZeros_natToString] at hstrip
  exact hstrip

theorem stripTrailingZeros_append_zeros (s : JsString) (k : Nat) :
    stripTrailingZeros (s ++ List.replicate k 48) = stripTrailingZeros s := by
  induction k with
  | zero => rw [List.replicate_zero, List.append_nil]
  | succ k ih =>
      rw [List.replicate_succ', ← List.append_assoc, stripTrailingZeros,
        List.rdropWhile_concat_pos _ _ _ rfl]
      exact ih

/-- What was dropped is zeros. -/
theorem stripTrailingZeros_spec (s : JsString) :
    ∃ k, s = stripTrailingZeros s ++ List.replicate k 48 := by
  refine ⟨(s.rtakeWhile (fun u => u == 48)).length, ?_⟩
  have hzeros : s.rtakeWhile (fun u => u == 48) =
      List.replicate (s.rtakeWhile (fun u => u == 48)).length 48 := by
    refine List.eq_replicate_of_mem (fun u hu => ?_)
    exact beq_iff_eq.mp (List.mem_rtakeWhile_imp (p := fun u => u == 48) hu)
  have hsplit : stripTrailingZeros s ++ s.rtakeWhile (fun u => u == 48) = s :=
    List.rdropWhile_append_rtakeWhile
  rw [← hzeros]
  exact hsplit.symm

theorem length_stripTrailingZeros_le (s : JsString) : (stripTrailingZeros s).length ≤ s.length :=
  (List.rdropWhile_prefix _ s).length_le

/-- Zeros that were dropped are put back. -/
theorem padEnd_stripTrailingZeros (s : JsString) :
    padEnd s.length (stripTrailingZeros s) = s := by
  obtain ⟨k, hk⟩ := stripTrailingZeros_spec s
  have hlength := congrArg List.length hk
  rw [List.length_append, List.length_replicate] at hlength
  have hcount : s.length - (stripTrailingZeros s).length = k := by omega
  rw [padEnd, hcount]
  exact hk.symm

theorem isDigit_stripTrailingZeros (h : ∀ u ∈ s, isDigit u = true) :
    ∀ u ∈ stripTrailingZeros s, isDigit u = true :=
  fun u hu => h u ((List.rdropWhile_prefix _ s).subset hu)

/-- The digits behind the point of a number of units, of which `places` to a
    place before it. -/
def fractionDigits (places n : Nat) : JsString :=
  stripTrailingZeros (padStart places (natToString n))

theorem isDigit_fractionDigits (places n : Nat) :
    ∀ u ∈ fractionDigits places n, isDigit u = true :=
  isDigit_stripTrailingZeros (isDigit_padStart _ (isDigit_natToString n))

theorem padEnd_fractionDigits {places n : Nat} (h : n < 10 ^ places) :
    (fractionDigits places n).length ≤ places ∧
      digitsToNat 10 (padEnd places (fractionDigits places n)) = n := by
  rcases Nat.eq_zero_or_pos places with rfl | hplaces
  · -- Without places there are no units but whole ones.
    obtain rfl : n = 0 := by omega
    exact ⟨le_rfl, rfl⟩
  · have hlength := length_padStart (length_natToString_le hplaces h)
    have hback := padEnd_stripTrailingZeros (padStart places (natToString n))
    have hle := length_stripTrailingZeros_le (padStart places (natToString n))
    rw [hlength] at hback hle
    refine ⟨hle, ?_⟩
    rw [fractionDigits, hback, digitsToNat_padStart, digitsToNat_natToString]

/-- The units of a fraction have its digits. -/
theorem fractionDigits_padEnd {places : Nat} (hs : ∀ u ∈ s, isDigit u = true)
    (hlength : s.length ≤ places) :
    fractionDigits places (digitsToNat 10 (padEnd places s)) = stripTrailingZeros s := by
  rcases Nat.eq_zero_or_pos places with rfl | hplaces
  · obtain rfl : s = [] := List.length_eq_zero_iff.mp (Nat.le_zero.mp hlength)
    rfl
  · have hpadded := length_padEnd hlength
    have hdigits : isDigits (padEnd places s) = true := by
      refine (isDigits_iff _).mpr ⟨?_, isDigit_padEnd _ hs⟩
      exact List.ne_nil_of_length_pos (by omega)
    have hprint := padStart_natToString hdigits
    rw [hpadded] at hprint
    rw [fractionDigits, hprint, padEnd, stripTrailingZeros_append_zeros]

end Digits

/-- A decimal text: digits, and maybe more digits behind a point. -/
@[ext] structure Decimal where
  whole : JsString
  fraction : JsString
  isDigits_whole : isDigits whole = true
  isDigit_fraction : ∀ u ∈ fraction, isDigit u = true

namespace Decimal

/-- How a decimal is written: without a point, if there is nothing behind it. -/
def text (x : Decimal) : JsString :=
  if x.fraction = [] then x.whole else x.whole ++ 46 :: x.fraction

/-- The number that a decimal denotes. -/
def value (x : Decimal) : ℚ :=
  decimalValue x.whole x.fraction

/-- A decimal, in units of which `10 ^ places` make one. -/
def units (x : Decimal) (places : Nat) : Nat :=
  digitsToNat 10 (x.whole ++ padEnd places x.fraction)

/-- Without leading zeros in its whole part and trailing zeros in its fraction. -/
def trimmed (x : Decimal) : Decimal where
  whole := stripLeadingZeros x.whole
  fraction := stripTrailingZeros x.fraction
  isDigits_whole := by
    rw [← natToString_digitsToNat x.isDigits_whole]
    exact isDigits_natToString _
  isDigit_fraction := isDigit_stripTrailingZeros x.isDigit_fraction

/-- The decimal of a number of units. -/
def ofUnits (places n : Nat) : Decimal where
  whole := natToString (n / 10 ^ places)
  fraction := fractionDigits places (n % 10 ^ places)
  isDigits_whole := isDigits_natToString _
  isDigit_fraction := isDigit_fractionDigits _ _

variable {x : Decimal} {places : Nat}

/-- The units of a decimal that has no more places than they have. -/
theorem units_eq (h : x.fraction.length ≤ places) :
    (x.units places : ℚ) = x.value * 10 ^ places := by
  have hplaces : (10 : ℚ) ^ places =
      10 ^ x.fraction.length * 10 ^ (places - x.fraction.length) := by
    rw [← pow_add]
    congr 1
    omega
  rw [units, padEnd, ← List.append_assoc, digitsToNat_append, digitsToNat_zeros, Nat.add_zero,
    List.length_replicate, Nat.cast_mul, Nat.cast_pow, Nat.cast_ofNat, value, decimalValue, hplaces,
    ← mul_assoc, div_mul_cancel₀ _ (pow_ne_zero _ (by norm_num))]

theorem units_eq_zero_iff (h : x.fraction.length ≤ places) : x.units places = 0 ↔ x.value = 0 := by
  rw [← Nat.cast_eq_zero (R := ℚ), units_eq h, mul_eq_zero, or_iff_left]
  exact pow_ne_zero _ (by norm_num)

@[simp] theorem whole_trimmed (x : Decimal) : x.trimmed.whole = stripLeadingZeros x.whole := rfl
@[simp] theorem fraction_trimmed (x : Decimal) :
    x.trimmed.fraction = stripTrailingZeros x.fraction := rfl
@[simp] theorem whole_ofUnits (places n : Nat) :
    (ofUnits places n).whole = natToString (n / 10 ^ places) := rfl
@[simp] theorem fraction_ofUnits (places n : Nat) :
    (ofUnits places n).fraction = fractionDigits places (n % 10 ^ places) := by
  unfold ofUnits
  with_reducible rfl

theorem mod_pow_lt (places n : Nat) : n % 10 ^ places < 10 ^ places :=
  Nat.mod_lt n (Nat.pow_pos (by omega))

theorem length_fraction_ofUnits (places n : Nat) :
    (ofUnits places n).fraction.length ≤ places := by
  rw [fraction_ofUnits]
  exact (padEnd_fractionDigits (mod_pow_lt places n)).1

/-- A number of units is read back from its decimal. -/
theorem units_ofUnits (places n : Nat) : (ofUnits places n).units places = n := by
  obtain ⟨hlength, hvalue⟩ := padEnd_fractionDigits (mod_pow_lt places n)
  rw [units, whole_ofUnits, fraction_ofUnits, digitsToNat_append, hvalue, length_padEnd hlength,
    digitsToNat_natToString, Nat.div_add_mod']

/-- The decimal of its units is a decimal without needless zeros. -/
theorem ofUnits_units (h : x.fraction.length ≤ places) :
    ofUnits places (x.units places) = x.trimmed := by
  have hlength := length_padEnd h
  have hlt := digitsToNat_lt (isDigit_padEnd places x.isDigit_fraction)
  rw [hlength] at hlt
  have hunits : x.units places = digitsToNat 10 x.whole * 10 ^ places +
      digitsToNat 10 (padEnd places x.fraction) := by
    rw [units, digitsToNat_append, hlength]
  have hdiv : x.units places / 10 ^ places = digitsToNat 10 x.whole := by
    rw [hunits, Nat.add_comm, Nat.add_mul_div_right _ _ (Nat.pow_pos (by omega)),
      Nat.div_eq_of_lt hlt, Nat.zero_add]
  have hmod : x.units places % 10 ^ places = digitsToNat 10 (padEnd places x.fraction) := by
    rw [hunits, Nat.add_comm, Nat.add_mul_mod_self_right, Nat.mod_eq_of_lt hlt]
  refine Decimal.ext ?_ ?_
  · rw [whole_ofUnits, hdiv, natToString_digitsToNat x.isDigits_whole, whole_trimmed]
  · rw [fraction_ofUnits, hmod, fractionDigits_padEnd x.isDigit_fraction h, fraction_trimmed]

end Decimal

end Js

end VellarSdk
