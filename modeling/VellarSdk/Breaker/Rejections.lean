import VellarSdk.Breaker.Overlap

/-!
# Rejections of a Breaker

A call that is rejected is documented to be a failure. The breaker looks for one
in the error, though, and takes a call for a success when it finds none, which it
does of a rejection with `undefined`: that closes the breaker.

Nothing is lost by it where there is nothing to lose, in a closed breaker that has
counted no failure. Along the runs in which every other rejection has a value, all
of them count, and along no others.

## Main definitions

* `CountsAsFailure`: What a rejection is to do to a breaker.
* `RejectionCounts`: It does so, where a run takes the step.
* `ErrorTells`: A rejection with `undefined` finds nothing to lose.

## Theorems

* `wellCounted_step`: An open breaker is at the threshold.
* `countsAsFailure_iff`: When a rejection counts.
* `rejections_count_iff`: When all the rejections of a run do.
* `undefined_closes`: One that does not.
-/

namespace VellarSdk

namespace Breaker

open Js Async

/-- A rejection neither closes the breaker nor takes back a failure, and it opens a
    breaker that is half-open at that moment. -/
structure CountsAsFailure (o : CircuitBreakerOptions) (now : ℚ) (b b' : CircuitBreaker) :
    Prop where
  stays : b.state ≠ .closed → b'.state ≠ .closed
  kept : b.failures ≤ b'.failures
  reopens : (b.readState o now).state = .halfOpen → b'.state = .opened ∧ b'.openedAt = now

/-- Where a rejected call ends here, it counts. -/
def RejectionCounts (o : CircuitBreakerOptions) (s : Overlap) (a : BreakerAction) : Prop :=
  ∀ i e now s', a = .settle i (.rejected e) now → (overlapping o).step s a = some s' →
    CountsAsFailure o now s.breaker s'.breaker

/-- Where a call under way is rejected with `undefined` here, the breaker is closed
    and has counted no failure. -/
def ErrorTells (s : Overlap) (a : BreakerAction) : Prop :=
  ∀ i now, a = .settle i (.rejected .undefined) now → i < s.inFlight.length →
    s.breaker.state = .closed ∧ s.breaker.failures = 0

/-- A breaker counts up to the threshold, and has got there unless it is closed. -/
def WellCounted (o : CircuitBreakerOptions) (b : CircuitBreaker) : Prop :=
  b.failures ≤ o.failureThreshold ∧ (b.state ≠ .closed → b.failures = o.failureThreshold)

variable {o : CircuitBreakerOptions} {b : CircuitBreaker} {now : ℚ}

theorem wellCounted_readState (h : WellCounted o b) : WellCounted o (b.readState o now) := by
  rcases b.readState_cases o now with ⟨hopen, -, heq⟩ | ⟨-, heq⟩
  · rw [heq]
    have hcount : b.failures = o.failureThreshold :=
      h.2 (by rw [hopen]; simp only [ne_eq, reduceCtorEq, not_false_eq_true])
    exact ⟨h.1, fun _ => hcount⟩
  · rw [heq]
    exact h

theorem wellCounted_execute (h : WellCounted o b) : WellCounted o (b.execute o now).1 := by
  have hread : WellCounted o (b.readState o now) := wellCounted_readState h
  rcases b.execute_cases o now with ⟨-, heq⟩ | ⟨-, -, heq⟩ | ⟨-, -, heq⟩ | ⟨-, heq⟩ <;> rw [heq] <;>
    exact hread

theorem wellCounted_close (o : CircuitBreakerOptions) : WellCounted o CircuitBreaker.close :=
  ⟨Nat.zero_le _, fun h => absurd rfl h⟩

/-- A failure that is only counted leaves the breaker closed. -/
theorem wellCounted_recordFailure (h : WellCounted o b) :
    WellCounted o (b.recordFailure o now) := by
  rw [CircuitBreaker.recordFailure_eq]
  cases hopens : b.opens o with
  | true => exact ⟨le_refl _, fun _ => rfl⟩
  | false =>
      rw [CircuitBreaker.opens, decide_eq_false_iff_not, not_or] at hopens
      refine ⟨(not_le.mp hopens.2).le, fun hstate => ?_⟩
      have hcount := h.2 hstate
      exact absurd (by omega) hopens.2

theorem wellCounted_settle (h : WellCounted o b) (outcome : Outcome) :
    WellCounted o (b.settle o now outcome) := by
  rw [CircuitBreaker.settle_eq]
  cases o.verdict outcome with
  | none => exact h
  | some failed =>
      cases failed with
      | false => exact wellCounted_close o
      | true => exact wellCounted_recordFailure h

variable {s s' : Overlap} {a : BreakerAction}

theorem wellCounted_step (hs : WellCounted o s.breaker)
    (h : (overlapping o).step s a = some s') : WellCounted o s'.breaker := by
  cases a with
  | execute now =>
      simp only [overlapping, Option.some.injEq] at h
      subst h
      exact wellCounted_execute hs
  | readState now =>
      simp only [overlapping, Option.some.injEq] at h
      subst h
      exact wellCounted_readState hs
  | settle i outcome now =>
      obtain ⟨k, -, rfl⟩ := settle_step h
      exact wellCounted_settle hs outcome
  | reset =>
      simp only [overlapping, Option.some.injEq] at h
      subst h
      exact wellCounted_close o

/-- A rejection with a value counts. -/
theorem countsAsFailure_of_defined (hnone : o.isFailure = none) (h : WellCounted o b)
    {e : JsValue} (he : e ≠ .undefined) :
    CountsAsFailure o now b (b.settle o now (.rejected e)) := by
  rw [CircuitBreaker.settle_eq, CircuitBreakerOptions.verdict_rejected hnone he,
    CircuitBreaker.record, CircuitBreaker.recordFailure_eq]
  cases hopens : b.opens o with
  | true =>
      exact ⟨fun _ => by simp only [if_true, CircuitBreaker.open', ne_eq, reduceCtorEq,
        not_false_eq_true], h.1, fun _ => ⟨rfl, rfl⟩⟩
  | false =>
      rw [CircuitBreaker.opens, decide_eq_false_iff_not, not_or] at hopens
      -- A breaker below the threshold is closed.
      have hclosed : b.state = .closed := by
        by_contra hstate
        have hcount := h.2 hstate
        exact hopens.2 (by omega)
      refine ⟨fun hstate => absurd hclosed hstate, Nat.le_succ _, fun hhalf => ?_⟩
      rw [CircuitBreaker.readState_of_closed o now hclosed, hclosed] at hhalf
      exact absurd hhalf (by simp only [reduceCtorEq, not_false_eq_true])

/-- A rejection with `undefined` counts exactly if there is nothing to lose. -/
theorem countsAsFailure_undefined_iff (hnone : o.isFailure = none) :
    CountsAsFailure o now b (b.settle o now (.rejected .undefined)) ↔
      b.state = .closed ∧ b.failures = 0 := by
  rw [CircuitBreaker.settle_eq, CircuitBreakerOptions.verdict_undefined hnone,
    CircuitBreaker.record]
  constructor
  · intro h
    refine ⟨?_, Nat.le_zero.mp h.kept⟩
    by_contra hstate
    exact h.stays hstate rfl
  · rintro ⟨hclosed, hcount⟩
    refine ⟨fun hstate => absurd hclosed hstate, hcount.le, fun hhalf => ?_⟩
    rw [CircuitBreaker.readState_of_closed o now hclosed, hclosed] at hhalf
    exact absurd hhalf (by simp only [reduceCtorEq, not_false_eq_true])

theorem countsAsFailure_iff (hnone : o.isFailure = none) (h : WellCounted o b) (e : JsValue) :
    CountsAsFailure o now b (b.settle o now (.rejected e)) ↔
      (e = .undefined → b.state = .closed ∧ b.failures = 0) := by
  by_cases he : e = .undefined
  · subst he
    rw [countsAsFailure_undefined_iff hnone]
    exact ⟨fun hnothing _ => hnothing, fun hnothing => hnothing rfl⟩
  · exact iff_of_true (countsAsFailure_of_defined hnone h he) (fun hundefined => absurd hundefined he)

/-- The step that ends a call. -/
theorem settle_step_iff {i : Nat} {outcome : Outcome} :
    (overlapping o).step s (.settle i outcome now) = some s' ↔
      i < s.inFlight.length ∧ s' = s.settle o i outcome now := by
  constructor
  · intro h
    obtain ⟨k, hcall, heq⟩ := settle_step h
    exact ⟨(List.getElem?_eq_some_iff.mp hcall).1, heq⟩
  · rintro ⟨hlt, rfl⟩
    simp only [overlapping, List.getElem?_eq_getElem hlt]

theorem rejectionCounts_iff (hnone : o.isFailure = none) (hs : WellCounted o s.breaker)
    (a : BreakerAction) : RejectionCounts o s a ↔ ErrorTells s a := by
  constructor
  · rintro h i now rfl hlt
    exact (countsAsFailure_undefined_iff hnone).mp
      (h i .undefined now _ rfl (settle_step_iff.mpr ⟨hlt, rfl⟩))
  · rintro h i e now s' rfl hstep
    obtain ⟨hlt, rfl⟩ := settle_step_iff.mp hstep
    refine (countsAsFailure_iff hnone hs e).mpr ?_
    rintro rfl
    exact h i now rfl hlt

/-- Every rejection of a run counts as a failure exactly if those with `undefined`
    find the breaker closed and without a failure. -/
theorem rejections_count_iff (o : CircuitBreakerOptions) (hnone : o.isFailure = none) (clock : ℚ)
    (actions : List BreakerAction) :
    (overlapping o).RunWhere (RejectionCounts o) { clock := clock } actions ↔
      (overlapping o).RunWhere ErrorTells { clock := clock } actions :=
  Machine.runWhere_congr (I := fun s : Overlap => WellCounted o s.breaker)
    (fun _ _ _ hs h => wellCounted_step hs h)
    (fun _ a hs => rejectionCounts_iff hnone hs a) ⟨Nat.zero_le _, fun h => absurd rfl h⟩

/-- A call that is rejected with `undefined` at once. -/
def rejectedAtOnce : List BreakerAction :=
  [.execute 0, .settle 0 (.rejected .undefined) 1]

theorem rejections_count_iff_rejectedAtOnce :
    (overlapping {}).RunWhere (RejectionCounts {}) { clock := 0 } rejectedAtOnce := by
  refine (rejections_count_iff {} rfl 0 rejectedAtOnce).mpr ?_
  refine Machine.runWhere_cons rfl (fun _ _ => nofun) ?_
  exact Machine.runWhere_cons rfl (fun _ _ _ _ => ⟨rfl, rfl⟩) trivial

/-- A failure, and then a rejection with `undefined`, which takes it back. -/
theorem undefined_closes : ¬ ∀ o : CircuitBreakerOptions, o.isFailure = none → ∀ clock actions,
    (overlapping o).RunWhere (RejectionCounts o) { clock := clock } actions := by
  intro h
  have hcounts := h {} rfl 0 [.execute 0, .settle 0 (.rejected .null) 1, .execute 2,
    .settle 0 (.rejected .undefined) 3]
  have hlast := (((hcounts.2 _ rfl).2 _ rfl).2 _ rfl).1 0 .undefined 3 _ rfl rfl
  exact absurd hlast.kept (by decide)

end Breaker

end VellarSdk
