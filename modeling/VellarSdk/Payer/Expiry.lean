import VellarSdk.Js.Extended
import VellarSdk.Payer.SmartAccount

/-!
# Expirations of the Two Payment Builders

The client of the SDK and the smart-account scheme both turn a seller's timeout
into ledgers. The scheme clamps the seconds before it rounds them up to ledgers,
and the client clamps the ledgers after. Rounding up is monotone, and the two
bounds are the same one on its two sides, so that clamping first or last makes no
difference.

The scheme refuses what is short, where the client falls back on its least
window. What it does not refuse, the two agree on.

## Main definitions

* `ledgers`: The ledgers of a timeout.
* `expirationWindow`: What both clamp them to.

## Theorems

* `expirationOffsetFor_eq`, `expirationLedgersFor_eq`: Both clamp to the window.
* `expirationLedgersFor_agrees`: What the two agree on.
-/

namespace VellarSdk

namespace Payer

open Js X402

/-- `Math.ceil(t / ESTIMATED_LEDGER_SECONDS) - EXPIRATION_SAFETY_MARGIN`. -/
def ledgers : JsNumber → JsNumber
  | .finite t => .finite (⌈t / 5⌉ + (-2))
  | .infinity negative => .infinity negative

/-- At most 58 ledgers, which are those of five minutes, and at least three. -/
def expirationWindow (t : JsNumber) : JsNumber :=
  (ledgers t ⊓ 58) ⊔ 3

theorem ledgers_eq (t : JsNumber) :
    ((JsNum.div (some t) 5).ceil).add (-2) = some (ledgers t) := by
  cases t <;> rfl

theorem ledgers_mono : Monotone ledgers := by
  intro s t hst
  cases s with
  | finite p =>
      cases t with
      | finite q =>
          rw [JsNumber.finite_le] at hst
          have hdiv : p / 5 ≤ q / 5 := div_le_div_of_nonneg_right hst (by norm_num)
          have hceil : ((⌈p / 5⌉ : ℤ) : ℚ) ≤ (⌈q / 5⌉ : ℤ) := Int.cast_le.mpr (Int.ceil_mono hdiv)
          rw [ledgers, ledgers, JsNumber.finite_le]
          exact add_le_add_left hceil _
      | infinity negative =>
          cases negative
          · exact JsNumber.le_infinity _
          · exact absurd hst (JsNumber.infinity_lt p).not_ge
  | infinity negative =>
      cases negative
      · rw [le_antisymm hst (JsNumber.le_infinity t)]
      · exact JsNumber.infinity_le _

/-- Five minutes. -/
theorem ledgers_300 : ledgers 300 = 58 := by
  decide +kernel

theorem expirationWindow_mono : Monotone expirationWindow :=
  fun _ _ h => sup_le_sup_right (inf_le_inf_right _ (ledgers_mono h)) _

/-- Clamping the seconds is clamping the ledgers. -/
theorem ledgers_clamped (t : JsNumber) : ledgers (t ⊓ 300) = ledgers t ⊓ 58 := by
  rw [ledgers_mono.map_inf, ledgers_300]

theorem expirationOffsetFor_eq (t : JsNumber) :
    expirationOffsetFor (.num t) none = .ok (some (expirationWindow t)) := by
  have hclamped : ((((JsNum.div (some t) 5).ceil).add (-2)).min (JsNum.ofNat 58)).max
      (JsNum.ofNat 3) = some (expirationWindow t) := by
    rw [ledgers_eq, JsNum.ofNat, JsNum.min_some, JsNum.ofNat, JsNum.max_some]
    rfl
  exact congrArg Except.ok hclamped

theorem expirationLedgersFor_eq (t : JsNumber) : expirationLedgersFor (.num t) =
    if expirationWindow t < 5 then
      throwUnworkableTimeout (.num t) (some (expirationWindow t))
    else .ok (some (expirationWindow t)) := by
  have hclamped : ((((JsNum.min (some t) (JsNum.ofNat 300)).div 5).ceil).add (-2)).max
      (JsNum.ofNat 3) = some (expirationWindow t) := by
    rw [JsNum.ofNat, JsNum.min_some, ledgers_eq, JsNum.ofNat, JsNum.max_some]
    exact congrArg (fun n => some (n ⊔ 3)) (ledgers_clamped t)
  have hdef : expirationLedgersFor (.num t) =
      (fun offset : JsNum => if offset.lt (JsNum.ofNat 5) = true then
        throwUnworkableTimeout (.num t) offset else .ok offset)
      (((((JsNum.min (some t) (JsNum.ofNat 300)).div 5).ceil).add (-2)).max (JsNum.ofNat 3)) :=
    rfl
  rw [hdef, hclamped]
  by_cases hshort : expirationWindow t < 5
  · rw [if_pos hshort]
    exact if_pos (JsNum.lt_some.mpr hshort)
  · rw [if_neg hshort]
    exact if_neg (fun h => hshort (JsNum.lt_some.mp h))

/-- What is short is short of the bounds too. -/
theorem expirationWindow_lt_iff (t : JsNumber) : expirationWindow t < 5 ↔ ledgers t < 5 := by
  rw [expirationWindow, sup_lt_iff, inf_lt_iff]
  constructor
  · rintro ⟨hledgers | hbound, -⟩
    · exact hledgers
    · exact absurd hbound (by decide)
  · intro hledgers
    exact ⟨.inl hledgers, by decide⟩

/-- The error that a timeout is refused with. -/
def RefusesTimeout (t : JsNumber) : Prop :=
  ∃ offset message, expirationLedgersFor (.num t) =
    .error ⟨.unworkableTimeout (.num t) offset, message⟩

theorem refusesTimeout_of_lt {t : JsNumber} (h : ledgers t < 5) : RefusesTimeout t := by
  unfold RefusesTimeout
  rw [expirationLedgersFor_eq, if_pos ((expirationWindow_lt_iff t).mpr h)]
  exact ⟨_, _, rfl⟩

theorem expirationLedgersFor_of_le {t : JsNumber} (h : 5 ≤ ledgers t) :
    expirationLedgersFor (.num t) = .ok (some (expirationWindow t)) := by
  rw [expirationLedgersFor_eq, if_neg]
  rw [expirationWindow_lt_iff]
  exact not_lt.mpr h

/-- Clamped where nothing is short, the window is the ledgers up to the bound. -/
theorem expirationWindow_of_le {t : JsNumber} (h : 5 ≤ ledgers t) :
    expirationWindow t = ledgers t ⊓ 58 := by
  have hthree : (3 : JsNumber) ≤ 5 := by decide
  rw [expirationWindow, sup_eq_left]
  exact le_inf (hthree.trans h) (by decide)

/-- The scheme refuses a timeout of less than five ledgers, and of any other gives
    the offset that the client gives. Neither gives a longer timeout less. -/
theorem expirationLedgersFor_agrees :
    (∀ t, (ledgers t < 5 ∧ RefusesTimeout t) ∨ (5 ≤ ledgers t ∧ ∃ offset,
      expirationLedgersFor (.num t) = .ok (some offset) ∧
        expirationOffsetFor (.num t) none = .ok (some offset) ∧
        5 ≤ offset ∧ offset ≤ 58 ∧ offset ≤ ledgers t)) ∧
    (∀ s t n, s ≤ t → expirationLedgersFor (.num s) = .ok (some n) →
      ∃ n', expirationLedgersFor (.num t) = .ok (some n') ∧ n ≤ n') ∧
    ∀ s t, s ≤ t → ∃ n n', expirationOffsetFor (.num s) none = .ok (some n) ∧
      expirationOffsetFor (.num t) none = .ok (some n') ∧ n ≤ n' := by
  refine ⟨?_, ?_, ?_⟩
  · intro t
    by_cases h : ledgers t < 5
    · exact .inl ⟨h, refusesTimeout_of_lt h⟩
    · rw [not_lt] at h
      -- From five ledgers on the window is the lesser of the ledgers and 58.
      have hwindow := expirationWindow_of_le h
      refine .inr ⟨h, expirationWindow t, expirationLedgersFor_of_le h, expirationOffsetFor_eq t,
        ?_, ?_, ?_⟩
      · rw [hwindow]
        exact le_inf h (by decide)
      · rw [hwindow]
        exact inf_le_right
      · rw [hwindow]
        exact inf_le_left
  · intro s t n hst hs
    by_cases h : ledgers s < 5
    · obtain ⟨offset, message, hrefused⟩ := refusesTimeout_of_lt h
      rw [hrefused] at hs
      exact absurd hs (by simp only [reduceCtorEq, not_false_eq_true])
    · rw [not_lt] at h
      rw [expirationLedgersFor_of_le h, Except.ok.injEq, Option.some.injEq] at hs
      refine ⟨_, expirationLedgersFor_of_le (h.trans (ledgers_mono hst)), ?_⟩
      rw [← hs]
      exact expirationWindow_mono hst
  · intro s t hst
    exact ⟨_, _, expirationOffsetFor_eq s, expirationOffsetFor_eq t, expirationWindow_mono hst⟩

/-- At the boundary: thirty seconds are refused, and a little more is not. -/
example : ledgers (.finite 30) = 4 ∧ ledgers (.finite (30 + 1 / 1000)) = 5 := by
  decide +kernel

end Payer

end VellarSdk
