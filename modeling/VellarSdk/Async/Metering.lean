import Mathlib.Algebra.Order.Field.Basic
import Mathlib.Tactic.Ring
import VellarSdk.Async.Machine

/-!
# Metered Machines

A machine that spends what it earns in time, and cannot save more than so much. Its
level is what it has left: a step raises it by the rate times what went by at most,
and not over the capacity, and takes off what is spent. As it is never below zero,
what is spent in a window was there when the first of it was spent, which is the
capacity at most, or was earned in the window since.

## Main definitions

* `Machine.times`: When a machine spends along a run.
* `Metered`: What a step does to the level.

## Theorems

* `times_ge`: Nothing is spent before the start.
* `times_le_level`: What is spent was left, or is earned.
* `window_le`: What is spent in a window.
-/

namespace VellarSdk

namespace Async

namespace Machine

variable {σ α K : Type*}

/-- When a machine spends along a run, of what it spends in a step. -/
def times (m : Machine σ α) (spends : σ → α → Option K) : σ → List α → List K
  | _, [] => []
  | s, a :: as => match m.step s a with
    | some s' => (spends s a).toList ++ times m spends s' as
    | none => []

section Times

variable {m : Machine σ α} {spends : σ → α → Option K} {s s' : σ} {a : α} {as : List α}

theorem times_cons (hstep : m.step s a = some s') :
    m.times spends s (a :: as) = (spends s a).toList ++ m.times spends s' as := by
  simp only [times, hstep]

theorem times_stuck (hstep : m.step s a = none) : m.times spends s (a :: as) = [] := by
  simp only [times, hstep]

end Times

variable [Field K] [LinearOrder K]

/-- One, if something is spent. -/
def cost : Option K → K
  | some _ => 1
  | none => 0

/-- Steps that meet the condition keep time and level as a meter does: what is spent is
    spent at the end of the step, out of what was left and earned. -/
structure Metered (m : Machine σ α) (P : σ → α → Prop) (Good : σ → Prop) (capacity rate : K)
    (time level : σ → K) (spends : σ → α → Option K) : Prop where
  nonneg : ∀ s, Good s → 0 ≤ level s
  good : ∀ s a s', Good s → P s a → m.step s a = some s' → Good s'
  forward : ∀ s a s', Good s → P s a → m.step s a = some s' → time s ≤ time s'
  spent : ∀ s a s' t, Good s → P s a → m.step s a = some s' → spends s a = some t → t = time s'
  capped : ∀ s a s', Good s → P s a → m.step s a = some s' →
    level s' + cost (spends s a) ≤ capacity
  earned : ∀ s a s', Good s → P s a → m.step s a = some s' →
    level s' + cost (spends s a) ≤ level s + (time s' - time s) * rate

section Windows

variable {m : Machine σ α} {P : σ → α → Prop} {Good : σ → Prop} {capacity rate : K}
  {time level : σ → K} {spends : σ → α → Option K} {s s' : σ} {a : α} {as : List α} {lo hi : K}
  {p : K → Bool}

/-- Nothing is spent before the start. -/
theorem times_ge (h : m.Metered P Good capacity rate time level spends) (hgood : Good s)
    (hwhere : m.RunWhere P s as) : ∀ t ∈ m.times spends s as, time s ≤ t := by
  induction as generalizing s with
  | nil => exact fun t ht => absurd ht List.not_mem_nil
  | cons a as ih =>
      intro t ht
      cases hstep : m.step s a with
      | none =>
          rw [times_stuck hstep] at ht
          exact absurd ht List.not_mem_nil
      | some s' =>
          have hforward := h.forward s a s' hgood hwhere.1 hstep
          rw [times_cons hstep] at ht
          rcases List.mem_append.mp ht with ht | ht
          · rw [h.spent s a s' t hgood hwhere.1 hstep (Option.mem_toList.mp ht)]
            exact hforward
          · have hgood' := h.good s a s' hgood hwhere.1 hstep
            exact hforward.trans (ih hgood' (hwhere.2 s' hstep) t ht)

/-- What is spent at a time outside a window is not counted. -/
theorem countP_step_eq_zero (h : m.Metered P Good capacity rate time level spends)
    (hgood : Good s) (hstart : P s a) (hstep : m.step s a = some s')
    (hp : ¬ p (time s') = true) : (spends s a).toList.countP p = 0 := by
  rw [List.countP_eq_zero]
  intro t ht hpt
  rw [h.spent s a s' t hgood hstart hstep (Option.mem_toList.mp ht)] at hpt
  exact hp hpt

/-- Past the end of a window, nothing is spent in it. -/
theorem countP_times_eq_zero (h : m.Metered P Good capacity rate time level spends)
    (hgood : Good s) (hwhere : m.RunWhere P s as) (hlate : hi < time s)
    (hp : ∀ t, p t = true → t ≤ hi) : (m.times spends s as).countP p = 0 := by
  rw [List.countP_eq_zero]
  intro t ht hpt
  exact absurd (hp t hpt) (not_le.mpr (hlate.trans_le (times_ge h hgood hwhere t ht)))

/-- A step that ends past a window, and what comes after it, spend nothing in it. -/
theorem countP_late (h : m.Metered P Good capacity rate time level spends) (hgood : Good s)
    (hwhere : m.RunWhere P s (a :: as)) (hstep : m.step s a = some s') (hlate : hi < time s')
    (hp : ∀ t, p t = true → t ≤ hi) : (m.times spends s (a :: as)).countP p = 0 := by
  have hfirst := countP_step_eq_zero h hgood hwhere.1 hstep
    (fun hpt => absurd (hp _ hpt) (not_le.mpr hlate))
  have hgood' := h.good s a s' hgood hwhere.1 hstep
  rw [times_cons hstep, List.countP_append, hfirst,
    countP_times_eq_zero h hgood' (hwhere.2 s' hstep) hlate hp]

variable [IsStrictOrderedRing K]

/-- What is spent in a step counts for one at most. -/
theorem countP_toList_le (o : Option K) (p : K → Bool) : (o.toList.countP p : K) ≤ cost o := by
  cases o with
  | none => exact le_of_eq Nat.cast_zero
  | some t =>
      have hle : (some t).toList.countP p ≤ 1 := List.countP_le_length
      have hcast : ((some t).toList.countP p : K) ≤ (1 : Nat) := Nat.cast_le.mpr hle
      rwa [Nat.cast_one] at hcast

/-- What is spent by the end of a window was left, or is earned until then. -/
theorem times_le_level (h : m.Metered P Good capacity rate time level spends) (hrate : 0 ≤ rate)
    (hgood : Good s) (hwhere : m.RunWhere P s as) (htime : time s ≤ hi)
    (hp : ∀ t, p t = true → t ≤ hi) :
    ((m.times spends s as).countP p : K) ≤ level s + (hi - time s) * rate := by
  induction as generalizing s with
  | nil =>
      exact Nat.cast_zero.trans_le
        (add_nonneg (h.nonneg s hgood) (mul_nonneg (sub_nonneg.mpr htime) hrate))
  | cons a as ih =>
      have hnonneg : (0 : K) ≤ level s + (hi - time s) * rate :=
        add_nonneg (h.nonneg s hgood) (mul_nonneg (sub_nonneg.mpr htime) hrate)
      cases hstep : m.step s a with
      | none =>
          rw [times_stuck hstep]
          exact Nat.cast_zero.trans_le hnonneg
      | some s' =>
          have hgood' := h.good s a s' hgood hwhere.1 hstep
          have hearned := h.earned s a s' hgood hwhere.1 hstep
          -- What is spent later than the period does not count.
          by_cases hlate : hi < time s'
          · rw [countP_late h hgood hwhere hstep hlate hp, Nat.cast_zero]
            exact hnonneg
          · have hlater := ih hgood' (hwhere.2 s' hstep) (not_lt.mp hlate)
            rw [times_cons hstep, List.countP_append, Nat.cast_add]
            calc ((spends s a).toList.countP p : K) + ((m.times spends s' as).countP p : K)
                ≤ cost (spends s a) + (level s' + (hi - time s') * rate) :=
                  add_le_add (countP_toList_le _ p) hlater
              _ = (level s' + cost (spends s a)) + (hi - time s') * rate := by ring
              _ ≤ (level s + (time s' - time s) * rate) + (hi - time s') * rate :=
                  add_le_add hearned le_rfl
              _ = level s + (hi - time s) * rate := by ring

/-- What is spent in a window is the capacity at most, and what is earned in it. -/
theorem window_le (h : m.Metered P Good capacity rate time level spends) (hrate : 0 ≤ rate)
    (hcapacity : 0 ≤ capacity) (hgood : Good s) (hwhere : m.RunWhere P s as) (hle : lo ≤ hi)
    (hp : ∀ t, p t = true ↔ lo ≤ t ∧ t ≤ hi) :
    ((m.times spends s as).countP p : K) ≤ capacity + (hi - lo) * rate := by
  have hnonneg : (0 : K) ≤ capacity + (hi - lo) * rate :=
    add_nonneg hcapacity (mul_nonneg (sub_nonneg.mpr hle) hrate)
  have hend : ∀ t, p t = true → t ≤ hi := fun t ht => ((hp t).mp ht).2
  induction as generalizing s with
  | nil => exact Nat.cast_zero.trans_le hnonneg
  | cons a as ih =>
      cases hstep : m.step s a with
      | none =>
          rw [times_stuck hstep]
          exact Nat.cast_zero.trans_le hnonneg
      | some s' =>
          have hgood' := h.good s a s' hgood hwhere.1 hstep
          have hcapped := h.capped s a s' hgood hwhere.1 hstep
          by_cases hlate : hi < time s'
          · rw [countP_late h hgood hwhere hstep hlate hend, Nat.cast_zero]
            exact hnonneg
          · rw [times_cons hstep, List.countP_append, Nat.cast_add]
            by_cases hearly : time s' < lo
            · -- The step is over before the window begins.
              rw [countP_step_eq_zero h hgood hwhere.1 hstep
                (fun hpt => absurd ((hp _).mp hpt).1 (not_le.mpr hearly)), Nat.cast_zero, zero_add]
              exact ih hgood' (hwhere.2 s' hstep)
            · have hlater :=
                times_le_level h hrate hgood' (hwhere.2 s' hstep) (not_lt.mp hlate) hend
              have hwindow : (hi - time s') * rate ≤ (hi - lo) * rate :=
                mul_le_mul_of_nonneg_right (sub_le_sub_left (not_lt.mp hearly) hi) hrate
              calc ((spends s a).toList.countP p : K) + ((m.times spends s' as).countP p : K)
                  ≤ cost (spends s a) + (level s' + (hi - time s') * rate) :=
                    add_le_add (countP_toList_le _ p) hlater
                _ = (level s' + cost (spends s a)) + (hi - time s') * rate := by ring
                _ ≤ capacity + (hi - lo) * rate := add_le_add hcapped hwindow

end Windows

end Machine

end Async

end VellarSdk
