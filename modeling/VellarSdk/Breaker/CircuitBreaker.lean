import Mathlib.Tactic.Linarith
import VellarSdk.Js.Value

/-!
# The Circuit Breaker

The breaker that stands before the facilitator's calls. It keeps four variables,
and two things move them: asking for the state, which turns an open breaker
half-open once its cooldown is over, and the result of a call that was let
through.

A call is let through in one turn and its result is classified in another, so
`execute` comes in two parts: `CircuitBreaker.execute` decides whether the call
is made, and `CircuitBreaker.settle` is what its outcome does to the breaker.

A turn reads the clock at most once. In `execute` the state is asked for twice,
and the second time the breaker is not open, so that the clock is not looked at.

## Main definitions

* `CircuitBreakerOptions`, `CircuitBreaker`: The options and the variables.
* `CircuitBreaker.classify`, `CircuitBreaker.state`, `CircuitBreaker.execute`:
  What moves them.
* `CircuitBreakerOptions.verdict`: How a call's outcome is classified.
* `CircuitBreaker.opens`: Does a failure open the breaker?

## Theorems

* `recordFailure_eq`: A failure opens the breaker, or is only counted.
* `settle_eq`: A result records a failure, closes the breaker, or does nothing.
* `settle_cases`: What that does to the state.
* `execute_cases`: A call is let through or refused, and why.
-/

namespace VellarSdk

namespace Breaker

open Js

/-- What the failure predicate is shown of a call. -/
structure CallResult where
  ok : Bool
  error : JsValue

/-- The options, each with its default. The predicate may throw. -/
structure CircuitBreakerOptions where
  failureThreshold : Nat := 5
  openDurationMs : ℚ := 30000
  halfOpenMaxCalls : Nat := 1
  isFailure : Option (CallResult → Except JsValue Bool) := none

inductive CircuitBreakerState where
  | closed
  | opened
  | halfOpen
  deriving DecidableEq, Repr

/-- The error of a call that was refused. -/
structure CircuitOpenError where
  message : String :=
    "The vellar-facilitator circuit is open (downstream outage); call refused."
  deriving DecidableEq, Repr

/-- The error of a call that was refused as the trials were used up. -/
def trialsExhausted : CircuitOpenError where
  message :=
    "The vellar-facilitator circuit is half-open and trial calls are exhausted; call refused."

/-- The variables of a breaker. -/
structure CircuitBreaker where
  state : CircuitBreakerState := .closed
  failures : Nat := 0
  openedAt : ℚ := 0
  halfOpenUsed : Nat := 0
  deriving DecidableEq

/-- How a call ended: it returned, or it was rejected with some value. -/
inductive Outcome where
  | resolved
  | rejected (error : JsValue)

namespace CircuitBreaker

variable (o : CircuitBreakerOptions) (b : CircuitBreaker) (now : ℚ)

/-- `open`, at a reading of the clock. -/
def open' : CircuitBreaker :=
  { b with state := .opened, openedAt := now, failures := o.failureThreshold }

def halfOpen : CircuitBreaker :=
  { b with state := .halfOpen, halfOpenUsed := 0 }

def close : CircuitBreaker :=
  { state := .closed, failures := 0, openedAt := 0, halfOpenUsed := 0 }

def recordFailure : CircuitBreaker :=
  let b := { b with failures := b.failures + 1 }
  if b.state = .halfOpen ∧ b.failures ≥ 1 then
    -- A failed trial reopens immediately.
    b.open' o now
  else if b.failures ≥ o.failureThreshold then b.open' o now
  else b

/-- Record what came of a call. It throws what the predicate throws. -/
def classify (result : CallResult) : Except JsValue CircuitBreaker :=
  match o.isFailure with
  | some isFailure => do
      if ← isFailure result then return b.recordFailure o now
      else return close
  | none => match result.error with
    | .undefined => return close
    | _ => return b.recordFailure o now

/-- Reading the `state` property. -/
def readState : CircuitBreaker :=
  if b.state = .opened ∧ now - b.openedAt ≥ o.openDurationMs then b.halfOpen else b

def reset : CircuitBreaker :=
  close

/-- The part of `execute` before the call: the call goes on, or is refused. -/
def execute : CircuitBreaker × Except CircuitOpenError Unit :=
  let b := b.readState o now
  if b.state = .opened then (b, .error {})
  else
    let b := b.readState o now
    if b.state = .halfOpen then
      if b.halfOpenUsed ≥ o.halfOpenMaxCalls then (b, .error trialsExhausted)
      else ({ b with halfOpenUsed := b.halfOpenUsed + 1 }, .ok ())
    else (b, .ok ())

/-- The part of `execute` after the call. A throw out of the classification of a
    call that returned is classified in its place. -/
def settle : Outcome → CircuitBreaker
  | .resolved => match b.classify o now ⟨true, .undefined⟩ with
    | .ok b' => b'
    | .error error => match b.classify o now ⟨false, error⟩ with
      | .ok b' => b'
      | .error _ => b
  | .rejected error => match b.classify o now ⟨false, error⟩ with
    | .ok b' => b'
    | .error _ => b

end CircuitBreaker

namespace CircuitBreakerOptions

variable (o : CircuitBreakerOptions)

/-- Does the result count as a failure? -/
def counts (result : CallResult) : Except JsValue Bool :=
  match o.isFailure with
  | some isFailure => isFailure result
  | none => match result.error with
    | .undefined => .ok false
    | _ => .ok true

/-- Is the outcome recorded as a failure, or as a success? Nothing is recorded
    when the predicate throws. -/
def verdict : Outcome → Option Bool
  | .resolved => match o.counts ⟨true, .undefined⟩ with
    | .ok failed => some failed
    | .error error => (o.counts ⟨false, error⟩).toOption
  | .rejected error => (o.counts ⟨false, error⟩).toOption

/-- The failure predicate does not throw. -/
def Total : Prop :=
  ∀ isFailure, o.isFailure = some isFailure → ∀ result, ∃ failed, isFailure result = .ok failed

end CircuitBreakerOptions

namespace CircuitBreaker

variable (o : CircuitBreakerOptions) (b : CircuitBreaker) (now : ℚ)

/-- Does a failure that is recorded now open the breaker? -/
def opens : Bool :=
  decide (b.state = .halfOpen ∨ o.failureThreshold ≤ b.failures + 1)

/-- What the verdict on a call does to the breaker. -/
def record : Option Bool → CircuitBreaker
  | some true => b.recordFailure o now
  | some false => close
  | none => b

/-- A failure opens the breaker, or is only counted. -/
theorem recordFailure_eq : b.recordFailure o now =
    if b.opens o then b.open' o now else { b with failures := b.failures + 1 } := by
  unfold opens recordFailure
  by_cases hhalf : b.state = .halfOpen
  · simp only [hhalf, ge_iff_le, Nat.le_add_left, and_self, if_true, true_or, decide_true, open']
  · by_cases hmany : o.failureThreshold ≤ b.failures + 1
    · simp only [hhalf, false_and, if_false, ge_iff_le, hmany, if_true, or_true, decide_true, open']
    · simp only [hhalf, false_and, if_false, ge_iff_le, hmany, or_self, decide_false,
        Bool.false_eq_true]

theorem recordFailure_cases :
    (b.opens o = true ∧ (b.recordFailure o now).state = .opened ∧
      (b.recordFailure o now).openedAt = now) ∨
    (b.opens o = false ∧ b.recordFailure o now = { b with failures := b.failures + 1 } ∧
      b.state ≠ .halfOpen) := by
  rw [recordFailure_eq]
  cases hopens : b.opens o with
  | true => exact .inl ⟨rfl, rfl, rfl⟩
  | false =>
      refine .inr ⟨rfl, rfl, fun hhalf => ?_⟩
      rw [opens, decide_eq_false_iff_not, not_or] at hopens
      exact hopens.1 hhalf

theorem classify_eq (result : CallResult) :
    b.classify o now result = (o.counts result).map (fun failed => b.record o now (some failed)) := by
  unfold classify CircuitBreakerOptions.counts
  cases o.isFailure with
  | none => cases result.error <;> rfl
  | some isFailure =>
      cases hverdict : isFailure result with
      | error e => simp only [hverdict]; rfl
      | ok failed => cases failed <;> simp only [hverdict] <;> rfl

/-- What an outcome does depends on the verdict on it alone. -/
theorem settle_eq (outcome : Outcome) :
    b.settle o now outcome = b.record o now (o.verdict outcome) := by
  cases outcome with
  | resolved =>
      simp only [settle, CircuitBreakerOptions.verdict, classify_eq]
      cases o.counts ⟨true, .undefined⟩ with
      | ok failed => rfl
      | error e => cases h : o.counts ⟨false, e⟩ <;> simp only [Except.map, h] <;> rfl
  | rejected error =>
      simp only [settle, CircuitBreakerOptions.verdict, classify_eq]
      cases o.counts ⟨false, error⟩ <;> rfl

/-- Everything a result can do to the state and the opening: a success closes the
    breaker, a failure opens it, and one that is only counted leaves both. -/
theorem settle_cases (outcome : Outcome) :
    (o.verdict outcome = some false ∧ (b.settle o now outcome).state = .closed) ∨
    (o.verdict outcome = some true ∧ (b.settle o now outcome).state = .opened ∧
      (b.settle o now outcome).openedAt = now) ∨
    ((o.verdict outcome = none ∨ b.state ≠ .halfOpen) ∧
      (b.settle o now outcome).state = b.state ∧
      (b.settle o now outcome).openedAt = b.openedAt) := by
  rw [settle_eq]
  cases hverdict : o.verdict outcome with
  | none => exact .inr (.inr ⟨.inl rfl, rfl, rfl⟩)
  | some failed =>
      cases failed with
      | false => exact .inl ⟨rfl, rfl⟩
      | true =>
          rw [record]
          rcases b.recordFailure_cases o now with ⟨-, hstate, hopenedAt⟩ | ⟨-, heq, hhalf⟩
          · exact .inr (.inl ⟨rfl, hstate, hopenedAt⟩)
          · rw [heq]
            exact .inr (.inr ⟨.inr hhalf, rfl, rfl⟩)

/-- Asking for the state begins a half-open episode, or changes nothing. -/
theorem readState_cases :
    (b.state = .opened ∧ b.openedAt + o.openDurationMs ≤ now ∧ b.readState o now = b.halfOpen) ∨
    ((b.state = .opened → now < b.openedAt + o.openDurationMs) ∧ b.readState o now = b) := by
  unfold readState
  by_cases h : b.state = .opened ∧ now - b.openedAt ≥ o.openDurationMs
  · exact .inl ⟨h.1, by linarith [h.2], if_pos h⟩
  · refine .inr ⟨fun hopen => ?_, if_neg h⟩
    rw [not_and, not_le] at h
    linarith [h hopen]

theorem readState_of_not_opened {b : CircuitBreaker} (h : b.state ≠ .opened) :
    b.readState o now = b := by
  unfold readState
  rw [if_neg (fun hc => h hc.1)]

theorem readState_of_closed {b : CircuitBreaker} (h : b.state = .closed) :
    b.readState o now = b := by
  refine readState_of_not_opened o now (fun hopen => ?_)
  rw [h] at hopen
  exact absurd hopen (by simp only [reduceCtorEq, not_false_eq_true])

/-- A call is refused by an open breaker, refused as the trials are used up, let
    through as a trial, or let through by a closed breaker. -/
theorem execute_cases :
    ((b.readState o now).state = .opened ∧ b.execute o now = (b.readState o now, .error {})) ∨
    ((b.readState o now).state = .halfOpen ∧
      o.halfOpenMaxCalls ≤ (b.readState o now).halfOpenUsed ∧
      b.execute o now = (b.readState o now, .error trialsExhausted)) ∨
    ((b.readState o now).state = .halfOpen ∧
      (b.readState o now).halfOpenUsed < o.halfOpenMaxCalls ∧
      b.execute o now = ({ b.readState o now with
        halfOpenUsed := (b.readState o now).halfOpenUsed + 1 }, .ok ())) ∨
    ((b.readState o now).state = .closed ∧ b.execute o now = (b.readState o now, .ok ())) := by
  -- `execute` reads the state twice; the second reading changes nothing more.
  unfold execute
  cases hstate : (b.readState o now).state with
  | opened => exact .inl ⟨rfl, by simp only [hstate, if_true]⟩
  | closed =>
      have hagain := readState_of_not_opened o now (b := b.readState o now)
        (by rw [hstate]; exact nofun)
      refine .inr (.inr (.inr ⟨rfl, ?_⟩))
      simp only [hagain, hstate, reduceCtorEq, if_false]
  | halfOpen =>
      have hagain := readState_of_not_opened o now (b := b.readState o now)
        (by rw [hstate]; exact nofun)
      by_cases hused : o.halfOpenMaxCalls ≤ (b.readState o now).halfOpenUsed
      · refine .inr (.inl ⟨rfl, hused, ?_⟩)
        simp only [hagain, hstate, reduceCtorEq, if_false, if_true, ge_iff_le, hused]
      · refine .inr (.inr (.inl ⟨rfl, not_le.mp hused, ?_⟩))
        simp only [hagain, hstate, reduceCtorEq, if_false, if_true, ge_iff_le, hused]

end CircuitBreaker

namespace CircuitBreakerOptions

variable {o : CircuitBreakerOptions}

theorem total_of_none (h : o.isFailure = none) : o.Total := by
  intro isFailure hsome
  rw [h] at hsome
  exact absurd hsome (Option.some_ne_none isFailure).symm

/-- Without a predicate, a call that returned is a success. -/
theorem verdict_resolved (h : o.isFailure = none) : o.verdict .resolved = some false := by
  simp only [verdict, counts, h]

/-- Without a predicate, a rejection is a failure if its error is a value. -/
theorem verdict_rejected (h : o.isFailure = none) {e : JsValue} (he : e ≠ .undefined) :
    o.verdict (.rejected e) = some true := by
  unfold verdict counts
  rw [h]
  cases e with
  | undefined => exact absurd rfl he
  | _ => rfl

theorem verdict_undefined (h : o.isFailure = none) :
    o.verdict (.rejected .undefined) = some false := by
  simp only [verdict, counts, h, Except.toOption]

end CircuitBreakerOptions

/-- A predicate that does not throw leaves no outcome without a verdict. -/
theorem CircuitBreakerOptions.Total.verdict {o : CircuitBreakerOptions} (h : o.Total)
    (outcome : Outcome) : ∃ failed, o.verdict outcome = some failed := by
  have hcounts : ∀ result, ∃ failed, o.counts result = .ok failed := by
    intro result
    unfold counts
    cases hf : o.isFailure with
    | none => cases result.error <;> exact ⟨_, rfl⟩
    | some isFailure => exact h isFailure hf result
  cases outcome with
  | resolved =>
      obtain ⟨failed, hfailed⟩ := hcounts ⟨true, .undefined⟩
      exact ⟨failed, by simp only [CircuitBreakerOptions.verdict, hfailed]⟩
  | rejected error =>
      obtain ⟨failed, hfailed⟩ := hcounts ⟨false, error⟩
      exact ⟨failed, by simp only [CircuitBreakerOptions.verdict, hfailed, Except.toOption]⟩

end Breaker

end VellarSdk
