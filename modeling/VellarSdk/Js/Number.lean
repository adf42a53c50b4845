import VellarSdk.Js.Value

/-!
# JavaScript Arithmetic

The arithmetic that turns a seller's timeout into a ledger number. The timeout
is read from a challenge, so it can be any value: an operator converts it to a
number first, and what has no number is `NaN`, which arithmetic passes on and no
comparison holds of. Values are exact here, where a double would round.

## Main definitions

* `JsNum`: A number or `NaN`.
* `stringToNumber`, `JsValue.toNumber`: `ToNumber`.
* `JsNum.add`, `JsNum.div`, `JsNum.ceil`, `JsNum.min`, `JsNum.max`: Operators
  and `Math` functions.
* `JsNum.lt`, `JsNum.le`: The comparisons.

## Theorems

* `JsNum.le_clamp`: A clamped number is within its bounds.
* `stringToNumber_intToString`: An integer is read back from its text.
-/

namespace VellarSdk

namespace Js

/-- A number, or `NaN`. -/
abbrev JsNum := Option JsNumber

/-- A whole number. -/
def JsNum.ofNat (n : Nat) : JsNum :=
  some (.finite n)

/-- The value of a run of digits with an optional fraction, as the digits
    before and after the point. -/
def decimalValue (whole fraction : JsString) : ℚ :=
  (digitsToNat 10 (whole ++ fraction) : ℚ) / 10 ^ fraction.length

/-- Scale by a power of ten given by an optionally signed run of digits. -/
def scaleBy (q : ℚ) : JsString → JsNum
  | 45 :: ds => if isDigits ds then some (.finite (q / 10 ^ digitsToNat 10 ds)) else none
  | 43 :: ds => if isDigits ds then some (.finite (q * 10 ^ digitsToNat 10 ds)) else none
  | ds => if isDigits ds then some (.finite (q * 10 ^ digitsToNat 10 ds)) else none

/-- An unsigned decimal literal: digits, a fraction and an exponent, of which
    there must be a digit before the exponent. -/
def unsignedDecimal (s : JsString) : JsNum :=
  let mantissa := before (fun u => u == 101 || u == 69) s
  let whole := before (fun u => u == 46) mantissa
  let fraction := (mantissa.drop whole.length).drop 1
  -- A point alone is no number, nor is a second point.
  if !isDigits (whole ++ fraction) then none
  else if mantissa.length = s.length then some (.finite (decimalValue whole fraction))
  else scaleBy (decimalValue whole fraction) (s.drop (mantissa.length + 1))

/-- A negated number. -/
def JsNum.neg : JsNum → JsNum
  | some (.finite q) => some (.finite (-q))
  | some (.infinity negative) => some (.infinity (!negative))
  | none => none

/-- The number a string denotes to the operators: blank is zero, and unlike for
    `BigInt` fractions, exponents and `Infinity` are read too. -/
def stringToNumber (s : JsString) : JsNum :=
  match trim s with
  | [] => JsNum.ofNat 0
  | 48 :: 120 :: ds | 48 :: 88 :: ds =>
      if !ds.isEmpty && ds.all isHexDigit then JsNum.ofNat (digitsToNat 16 ds) else none
  | 48 :: 111 :: ds | 48 :: 79 :: ds =>
      if !ds.isEmpty && ds.all (fun u => 48 ≤ u && u ≤ 55) then JsNum.ofNat (digitsToNat 8 ds)
      else none
  | 48 :: 98 :: ds | 48 :: 66 :: ds =>
      if !ds.isEmpty && ds.all (fun u => u == 48 || u == 49) then JsNum.ofNat (digitsToNat 2 ds)
      else none
  -- A sign is not allowed before a base prefix, and those stand above.
  | 45 :: ds => if ds = js "Infinity" then some (.infinity true) else (unsignedDecimal ds).neg
  | 43 :: ds => if ds = js "Infinity" then some (.infinity false) else unsignedDecimal ds
  | ds => if ds = js "Infinity" then some (.infinity false) else unsignedDecimal ds

/-- `ToNumber`. A `bigint` is refused, and an object goes through its string
    form. -/
def JsValue.toNumber : JsValue → Except NativeError JsNum
  | .undefined => .ok none
  | .null => .ok (JsNum.ofNat 0)
  | .bool b => .ok (JsNum.ofNat (if b then 1 else 0))
  | .num n => .ok (some n)
  | .bigint _ => .error .typeError
  | .str s => .ok (stringToNumber s)
  | v => v.toStr.map stringToNumber

namespace JsNum

/-- `String(x)`. -/
def toStr : JsNum → JsString
  | some n => n.toStr
  | none => "NaN"

/-- Addition of a finite number. -/
def add (x : JsNum) (q : ℚ) : JsNum :=
  match x with
  | some (.finite p) => some (.finite (p + q))
  | some (.infinity negative) => some (.infinity negative)
  | none => none

/-- Division by a positive number. -/
def div (x : JsNum) (q : ℚ) : JsNum :=
  match x with
  | some (.finite p) => some (.finite (p / q))
  | some (.infinity negative) => some (.infinity negative)
  | none => none

/-- `Math.ceil`. -/
def ceil : JsNum → JsNum
  | some (.finite p) => some (.finite (⌈p⌉ : ℤ))
  | x => x

/-- `x < y`, which `NaN` never is. -/
def lt : JsNum → JsNum → Bool
  | some (.finite p), some (.finite q) => p < q
  | some (.finite _), some (.infinity negative) => !negative
  | some (.infinity negative), some (.finite _) => negative
  | some (.infinity a), some (.infinity b) => a && !b
  | _, _ => false

/-- `Math.min`. -/
def min (x y : JsNum) : JsNum :=
  if x.isNone || y.isNone then none else if y.lt x then y else x

/-- `Math.max`. -/
def max (x y : JsNum) : JsNum :=
  if x.isNone || y.isNone then none else if x.lt y then y else x

/-- `x <= y`, which `NaN` never is. -/
def le (x y : JsNum) : Bool :=
  x.isSome && y.isSome && !y.lt x

section Order

variable {x y z : JsNumber}

theorem le_of_not_lt (h : lt (some y) (some x) ≠ true) : le (some x) (some y) = true := by
  simp only [le, h, Option.isSome_some, Bool.and_self, Bool.not_false]

theorem le_of_lt (h : lt (some x) (some y) = true) : le (some x) (some y) = true := by
  refine le_of_not_lt (fun h' => ?_)
  cases x <;> cases y <;> simp_all [lt]
  exact absurd h' (not_lt_of_gt h)

theorem le_trans (hxy : le (some x) (some y) = true) (hyz : le (some y) (some z) = true) :
    le (some x) (some z) = true := by
  cases x <;> cases y <;> cases z <;> simp_all [le, lt]
  case infinity.infinity.infinity a b c => cases a <;> cases b <;> cases c <;> simp_all
  all_goals grind

theorem le_refl (x : JsNumber) : le (some x) (some x) = true :=
  le_of_not_lt (by cases x <;> simp [lt])

theorem min_spec (x y : JsNumber) :
    ∃ w, min (some x) (some y) = some w ∧ le (some w) (some y) = true := by
  by_cases h : lt (some y) (some x) = true
  · exact ⟨y, if_pos h, le_refl y⟩
  · exact ⟨x, if_neg h, le_of_not_lt h⟩

theorem max_spec (x y : JsNumber) : ∃ w, max (some x) (some y) = some w ∧
    le (some x) (some w) = true ∧ le (some y) (some w) = true ∧ (w = x ∨ w = y) := by
  by_cases h : lt (some x) (some y) = true
  · exact ⟨y, if_pos h, le_of_lt h, le_refl y, .inr rfl⟩
  · exact ⟨x, if_neg h, le_refl x, le_of_not_lt h, .inl rfl⟩

end Order

/-- Clamping: the result is a number, at least the lower bound and at most the
    upper one, unless that is the smaller. -/
theorem le_clamp (x y z : JsNumber) : ∃ w, max (min (some x) (some y)) (some z) = some w ∧
    le (some z) (some w) = true ∧ le (some w) (max (some y) (some z)) = true := by
  rcases min_spec x y with ⟨v, hv, hvy⟩
  rcases max_spec v z with ⟨w, hw, -, hzw, hwv⟩
  rcases max_spec y z with ⟨u, hu, hyu, hzu, -⟩
  rw [hv, hw, hu]
  refine ⟨w, rfl, hzw, ?_⟩
  rcases hwv with rfl | rfl
  · exact le_trans hvy hyu
  · exact hzu

theorem le_add {x y : JsNum} (h : le x y = true) (q : ℚ) : le (x.add q) (y.add q) = true := by
  cases x with
  | none => exact absurd h (by simp [le])
  | some a =>
      cases y with
      | none => exact absurd h (by simp [le])
      | some b => cases a <;> cases b <;> simp_all [le, lt, add]

end JsNum

/-- Digits are read as the number they denote. -/
theorem unsignedDecimal_of_isDigits {s : JsString} (h : isDigits s = true) :
    unsignedDecimal s = JsNum.ofNat (digitsToNat 10 s) := by
  have hdigit := ((isDigits_iff s).mp h).2
  have hother : ∀ c : CodeUnit, isDigit c = false → ∀ u ∈ s, (u == c) = false := by
    intro c hc u hu
    rw [beq_eq_false_iff_ne]
    rintro rfl
    rw [hdigit u hu] at hc
    exact absurd hc (by simp only [Bool.true_eq_false, not_false_eq_true])
  have hmantissa : before (fun u => u == 101 || u == 69) s = s :=
    before_of_not (fun u hu => by rw [hother 101 rfl u hu, hother 69 rfl u hu]; rfl)
  have hwhole : before (fun u => u == 46) s = s := before_of_not (hother 46 rfl)
  simp only [unsignedDecimal, hmantissa, hwhole, List.drop_length, List.drop_nil, List.append_nil, h,
    Bool.not_true, Bool.false_eq_true, if_false, if_true, decimalValue, List.length_nil, pow_zero,
    div_one, JsNum.ofNat]

/-- A run of digits begins with no base prefix, no sign and no name. -/
theorem stringToNumber_of_isDigits {s : JsString} (h : isDigits s = true) :
    stringToNumber s = JsNum.ofNat (digitsToNat 10 s) := by
  obtain ⟨hne, hdigit⟩ := (isDigits_iff s).mp h
  have hnot : ∀ u ∈ s, ∀ c : CodeUnit, isDigit c = false → u ≠ c := by
    rintro u hu c hc rfl
    rw [hdigit u hu] at hc
    exact absurd hc (by simp only [Bool.true_eq_false, not_false_eq_true])
  rw [stringToNumber, trim_of_isDigit hdigit]
  split
  · exact absurd rfl hne
  · exact absurd rfl (hnot 120 (by simp) 120 rfl)
  · exact absurd rfl (hnot 88 (by simp) 88 rfl)
  · exact absurd rfl (hnot 111 (by simp) 111 rfl)
  · exact absurd rfl (hnot 79 (by simp) 79 rfl)
  · exact absurd rfl (hnot 98 (by simp) 98 rfl)
  · exact absurd rfl (hnot 66 (by simp) 66 rfl)
  · exact absurd rfl (hnot 45 (by simp) 45 rfl)
  · exact absurd rfl (hnot 43 (by simp) 43 rfl)
  · rw [if_neg, unsignedDecimal_of_isDigits h]
    rintro rfl
    exact absurd h (by decide)

/-- An integer is read back from its decimal text. -/
theorem stringToNumber_intToString (n : Int) : stringToNumber (intToString n) = some (.finite n) := by
  have hdigits := isDigits_natToString n.natAbs
  by_cases h : n < 0
  · have htrim : trim (45 :: natToString n.natAbs) = 45 :: natToString n.natAbs := by
      refine trim_of_not_whiteSpace (fun u hu => ?_)
      rcases List.mem_cons.mp hu with rfl | hu
      · rfl
      · exact isWhiteSpace_of_isDigit (isDigit_natToString _ u hu)
    have htext : intToString n = 45 :: natToString n.natAbs := by
      rw [intToString, if_pos h]
      rfl
    have hname : natToString n.natAbs ≠ js "Infinity" := by
      intro heq
      rw [heq] at hdigits
      exact absurd hdigits (by decide)
    have hcast : -((n.natAbs : ℕ) : ℚ) = (n : ℚ) := by
      rw [Nat.cast_natAbs, abs_of_neg h, Int.cast_neg, neg_neg]
    rw [htext, stringToNumber, htrim]
    simp only [if_neg hname, unsignedDecimal_of_isDigits hdigits, digitsToNat_natToString,
      JsNum.ofNat, JsNum.neg, hcast]
  · have hcast : ((n.natAbs : ℕ) : ℚ) = (n : ℚ) := by
      rw [Nat.cast_natAbs, abs_of_nonneg (not_lt.mp h)]
    rw [intToString, if_neg h, stringToNumber_of_isDigits hdigits, digitsToNat_natToString,
      JsNum.ofNat, hcast]

/-- Text and numbers are read alike. -/
example : stringToNumber " 60 " = JsNum.ofNat 60 ∧ stringToNumber "6e1" = JsNum.ofNat 60 ∧
    stringToNumber "60s" = none := by decide +kernel

end Js

end VellarSdk
