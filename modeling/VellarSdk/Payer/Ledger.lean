import VellarSdk.X402.Types

/-!
# The Session Ledger

The cumulative spend ledger of the payer: what each asset may cost this session
and what was recorded against it so far.

It fails closed. An asset with no configured ceiling is refused outright, by the
check and by the debit, so no bucket can appear for it. `WithinCeilings` is the
invariant the ledger exists to keep: every recorded amount is non-negative and
under the ceiling of its asset. One debit keeps it when the check passed for
the same amount in the same state, which is `within_record`; that the state
is still the same when the debit comes is not the ledger's business but the
mutex's.

## Main definitions

* `SpendLedger`, `createSpendLedger`: The ledger and its empty start.
* `SpendLedger.assertWithinCeiling`, `SpendLedger.record`,
  `SpendLedger.remainingFor`: Its methods.
* `WithinCeilings`: Every recorded amount fits its ceiling.

## Theorems

* `assertWithinCeiling_eq_ok`: When the check passes.
* `record_eq_ok`: What a debit does.
* `spentFor_record`: The spend of every asset after a debit.
* `within_create`: An empty ledger is within its ceilings.
* `within_record`: A checked debit stays within the ceilings.
* `within_spentFor`: What the invariant says about the recorded spend.
-/

namespace VellarSdk

namespace Payer

open Js X402

/-- The ceilings the ledger was created with, and the recorded spend. -/
structure SpendLedger where
  ceilings : JsMap Int
  spent : JsMap Int

/-- A ledger over per-asset ceilings, with nothing spent. -/
def createSpendLedger (ceilings : JsMap Int) : SpendLedger :=
  { ceilings := ceilings, spent := [] }

namespace SpendLedger

/-- The ceiling of an asset, refusing one that has none. -/
def ceilingFor (l : SpendLedger) (asset : JsValue) : Except JsError Int :=
  match l.ceilings.get asset with
  | some ceiling => .ok ceiling
  -- An asset that was not configured has a ceiling of zero, as the error reports it.
  | none => throwSessionCeilingExceeded asset 0 0 0

/-- What was recorded for an asset. -/
def spentFor (l : SpendLedger) (asset : JsValue) : Int :=
  (l.spent.get asset).getD 0

/-- Throw unless `amount` fits under this asset's remaining ceiling. -/
def assertWithinCeiling (l : SpendLedger) (asset : JsValue) (amount : Int) :
    Except JsError Unit := do
  let ceiling ← l.ceilingFor asset
  if l.spentFor asset + amount > ceiling then
    throwSessionCeilingExceeded asset amount (l.spentFor asset) ceiling
  else return ()

/-- Record a settlement. The ceiling is resolved again first, so an asset
    without one gets no bucket. -/
def record (l : SpendLedger) (asset : JsValue) (amount : Int) : Except JsError SpendLedger := do
  let _ ← l.ceilingFor asset
  return { l with spent := l.spent.set asset (l.spentFor asset + amount) }

/-- What is left of an asset's ceiling. -/
def remainingFor (l : SpendLedger) (asset : JsValue) : Except JsError Int := do
  let ceiling ← l.ceilingFor asset
  let remaining := ceiling - l.spentFor asset
  return if remaining > 0 then remaining else 0

theorem throwSessionCeilingExceeded_ne_ok {α : Type} {asset : JsValue} {x y z : Int} {a : α} :
    (throwSessionCeilingExceeded asset x y z : Except JsError α) ≠ .ok a := by
  intro h
  rcases bind_eq_ok.mp h with ⟨_, -, h⟩
  exact absurd h (by simp only [reduceCtorEq, not_false_eq_true])

theorem ceilingFor_eq_ok {l : SpendLedger} {asset : JsValue} {c : Int} :
    l.ceilingFor asset = .ok c ↔ l.ceilings.get asset = some c := by
  unfold ceilingFor
  cases l.ceilings.get asset with
  | none => simp only [throwSessionCeilingExceeded_ne_ok, reduceCtorEq]
  | some d => simp only [Except.ok.injEq, Option.some.injEq]

theorem assertWithinCeiling_eq_ok {l : SpendLedger} {asset : JsValue} {amount : Int} :
    l.assertWithinCeiling asset amount = .ok () ↔
      ∃ c, l.ceilings.get asset = some c ∧ l.spentFor asset + amount ≤ c := by
  rw [assertWithinCeiling, bind_eq_ok]
  -- The comparison is strict: spending exactly the ceiling is allowed.
  refine exists_congr (fun c => and_congr ceilingFor_eq_ok ?_)
  by_cases hgt : l.spentFor asset + amount > c
  · rw [if_pos hgt]
    exact iff_of_false throwSessionCeilingExceeded_ne_ok (by omega)
  · rw [if_neg hgt]
    exact iff_of_true rfl (by omega)

theorem record_eq_ok {l l' : SpendLedger} {asset : JsValue} {amount : Int} :
    l.record asset amount = .ok l' ↔ (∃ c, l.ceilings.get asset = some c) ∧
      l' = { l with spent := l.spent.set asset (l.spentFor asset + amount) } := by
  rw [record, bind_eq_ok]
  constructor
  · rintro ⟨c, hc, h⟩
    exact ⟨⟨c, ceilingFor_eq_ok.mp hc⟩, (Except.ok.inj h).symm⟩
  · rintro ⟨⟨c, hc⟩, rfl⟩
    exact ⟨c, ceilingFor_eq_ok.mpr hc, rfl⟩

/-- The spend of every asset after a debit: one of them grows by the amount,
    the others are untouched. -/
theorem spentFor_record {l l' : SpendLedger} {asset : JsValue} {amount : Int}
    (h : l.record asset amount = .ok l') (a : JsValue) :
    l'.spentFor a = if asset.strictEq a then l.spentFor asset + amount else l.spentFor a := by
  rcases record_eq_ok.mp h with ⟨-, rfl⟩
  simp only [spentFor, JsMap.get_set]
  by_cases hk : asset.strictEq a = true
  · simp only [hk, if_true, Option.getD_some]
  · simp only [hk, Bool.false_eq_true, if_false]

/-- The debited asset itself grows by the amount. -/
theorem spentFor_record_self {l l' : SpendLedger} {asset : JsValue} {amount : Int}
    (h : l.record asset amount = .ok l') : l'.spentFor asset = l.spentFor asset + amount := by
  -- A ceiling was found under this key, so it is identical to itself.
  rcases record_eq_ok.mp h with ⟨⟨c, hc⟩, -⟩
  rw [spentFor_record h, if_pos (JsMap.strictEq_self_of_get hc)]

theorem ceilings_record {l l' : SpendLedger} {asset : JsValue} {amount : Int}
    (h : l.record asset amount = .ok l') : l'.ceilings = l.ceilings := by
  rcases record_eq_ok.mp h with ⟨-, rfl⟩
  rfl

end SpendLedger

/-- Every recorded amount is non-negative and under the ceiling of its asset.
    In particular an asset without a ceiling has no bucket. -/
def WithinCeilings (l : SpendLedger) : Prop :=
  ∀ asset v, l.spent.get asset = some v → ∃ c, l.ceilings.get asset = some c ∧ 0 ≤ v ∧ v ≤ c

theorem within_create (ceilings : JsMap Int) : WithinCeilings (createSpendLedger ceilings) := by
  intro asset v h
  exact absurd h (by simp only [createSpendLedger, JsMap.get, reduceCtorEq, not_false_eq_true])

/-- What the invariant says about the recorded spend: an unset bucket counts
    as zero, so it is never negative, and it is under every ceiling that is
    itself not negative. -/
theorem within_spentFor {l : SpendLedger} (h : WithinCeilings l) (asset : JsValue) :
    0 ≤ l.spentFor asset ∧
      ∀ c, l.ceilings.get asset = some c → 0 ≤ c → l.spentFor asset ≤ c := by
  unfold SpendLedger.spentFor
  cases hv : l.spent.get asset with
  | none => exact ⟨le_refl _, fun c _ hc => hc⟩
  | some v =>
      rcases h asset v hv with ⟨c, hc, h0, hle⟩
      refine ⟨h0, fun c' hc' _ => ?_⟩
      rw [hc, Option.some.injEq] at hc'
      rw [← hc']
      exact hle

/-- A debit of an amount that passed the check stays within the ceilings. -/
theorem within_record {l l' : SpendLedger} {asset : JsValue} {amount : Int}
    (h : WithinCeilings l) (hpos : 0 ≤ amount)
    (hcheck : l.assertWithinCeiling asset amount = .ok ())
    (hrec : l.record asset amount = .ok l') : WithinCeilings l' := by
  intro a v hv
  rcases SpendLedger.assertWithinCeiling_eq_ok.mp hcheck with ⟨c, hc, hle⟩
  rcases SpendLedger.record_eq_ok.mp hrec with ⟨-, rfl⟩
  simp only [JsMap.get_set] at hv
  by_cases hk : asset.strictEq a = true
  · -- The updated bucket: identical keys are equal, and the sum passed the check.
    have heq : asset = a := JsValue.eq_of_strictEq hk
    subst heq
    rw [if_pos hk, Option.some.injEq] at hv
    have h0 := (within_spentFor h asset).1
    exact ⟨c, hc, by omega, by omega⟩
  · rw [if_neg hk] at hv
    exact h a v hv

end Payer

end VellarSdk
