import VellarSdk.Js.Number
import Mathlib.Order.WithBot

/-!
# The Order of Numbers

Numbers without `NaN` are in order: the finite ones as rationals, and the two
infinities at its ends. On them the comparisons of the language are those of the
order, and `Math.min` and `Math.max` are its meet and join, so that what holds of
monotone functions of an order holds of the arithmetic of numbers.

## Main definitions

* `JsNumber.rank`: Where a number stands.

## Theorems

* `JsNum.lt_some`, `JsNum.min_some`, `JsNum.max_some`: The comparisons and `Math`
  functions.
-/

namespace VellarSdk

namespace Js

namespace JsNumber

/-- Where a number stands among the others. -/
def rank : JsNumber → WithBot (WithTop ℚ)
  | .finite q => ((q : WithTop ℚ) : WithBot (WithTop ℚ))
  | .infinity true => ⊥
  | .infinity false => ((⊤ : WithTop ℚ) : WithBot (WithTop ℚ))

theorem rank_injective : Function.Injective rank := by
  intro x y h
  cases x with
  | finite p =>
      cases y with
      | finite q => exact congrArg JsNumber.finite (WithTop.coe_injective (WithBot.coe_injective h))
      | infinity negative =>
          cases negative
          · exact absurd (WithBot.coe_injective h) WithTop.coe_ne_top
          · exact absurd h WithBot.coe_ne_bot
  | infinity negative =>
      cases y with
      | finite q =>
          cases negative
          · exact absurd (WithBot.coe_injective h) WithTop.top_ne_coe
          · exact absurd h WithBot.bot_ne_coe
      | infinity other =>
          cases negative <;> cases other
          · rfl
          · exact absurd h WithBot.coe_ne_bot
          · exact absurd h WithBot.bot_ne_coe
          · rfl

instance : LinearOrder JsNumber :=
  LinearOrder.lift' rank rank_injective

theorem lt_iff_rank {x y : JsNumber} : x < y ↔ x.rank < y.rank :=
  Iff.rfl

theorem finite_lt {p q : ℚ} : JsNumber.finite p < .finite q ↔ p < q := by
  rw [lt_iff_rank, rank, rank, WithBot.coe_lt_coe, WithTop.coe_lt_coe]

theorem finite_le {p q : ℚ} : JsNumber.finite p ≤ .finite q ↔ p ≤ q := by
  rw [← not_lt, finite_lt, not_lt]

theorem lt_infinity (q : ℚ) : JsNumber.finite q < .infinity false := by
  rw [lt_iff_rank, rank, rank, WithBot.coe_lt_coe]
  exact WithTop.coe_lt_top q

theorem infinity_lt (q : ℚ) : JsNumber.infinity true < .finite q := by
  rw [lt_iff_rank, rank, rank]
  exact WithBot.bot_lt_coe _

theorem le_infinity (x : JsNumber) : x ≤ .infinity false := by
  cases x with
  | finite q => exact (lt_infinity q).le
  | infinity negative =>
      cases negative
      · exact le_rfl
      · exact ((infinity_lt 0).trans (lt_infinity 0)).le

theorem infinity_le (x : JsNumber) : JsNumber.infinity true ≤ x := by
  cases x with
  | finite q => exact (infinity_lt q).le
  | infinity negative =>
      cases negative
      · exact le_infinity _
      · exact le_rfl

end JsNumber

namespace JsNum

/-- The comparison of the language is that of the order. -/
theorem lt_some {x y : JsNumber} : lt (some x) (some y) = true ↔ x < y := by
  cases x with
  | finite p =>
      cases y with
      | finite q => rw [lt, decide_eq_true_iff, JsNumber.finite_lt]
      | infinity negative =>
          cases negative
          · exact iff_of_true rfl (JsNumber.lt_infinity p)
          · exact iff_of_false Bool.false_ne_true (JsNumber.infinity_lt p).not_gt
  | infinity negative =>
      cases y with
      | finite q =>
          cases negative
          · exact iff_of_false Bool.false_ne_true (JsNumber.lt_infinity q).not_gt
          · exact iff_of_true rfl (JsNumber.infinity_lt q)
      | infinity other =>
          cases negative
          · exact iff_of_false Bool.false_ne_true (JsNumber.le_infinity _).not_gt
          · cases other
            · exact iff_of_true rfl ((JsNumber.infinity_lt 0).trans (JsNumber.lt_infinity 0))
            · exact iff_of_false Bool.false_ne_true (lt_irrefl _)

/-- `Math.min` is the meet. -/
theorem min_some (x y : JsNumber) : JsNum.min (some x) (some y) = some (x ⊓ y) := by
  have hdef : JsNum.min (some x) (some y) =
      if lt (some y) (some x) = true then some y else some x := rfl
  rw [hdef]
  by_cases h : y < x
  · rw [if_pos (lt_some.mpr h), inf_eq_right.mpr h.le]
  · rw [if_neg (fun hlt => h (lt_some.mp hlt)), inf_eq_left.mpr (not_lt.mp h)]

/-- `Math.max` is the join. -/
theorem max_some (x y : JsNumber) : JsNum.max (some x) (some y) = some (x ⊔ y) := by
  have hdef : JsNum.max (some x) (some y) =
      if lt (some x) (some y) = true then some y else some x := rfl
  rw [hdef]
  by_cases h : x < y
  · rw [if_pos (lt_some.mpr h), sup_eq_right.mpr h.le]
  · rw [if_neg (fun hlt => h (lt_some.mp hlt)), sup_eq_left.mpr (not_lt.mp h)]

end JsNum

end Js

end VellarSdk
