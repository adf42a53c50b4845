import Mathlib.Data.List.Induction
import VellarSdk.Breaker.Overlap

/-!
# The Automaton a Breaker Is Documented As

What a breaker is for, without its variables: it is closed and counts failures in
a row, or it was tripped at some moment, and then it is open until the cooldown is
over and half-open from there on. Nothing has to happen for it to turn half-open,
where the code has a property that does it when it is asked for.

The automaton is told how calls end, and nothing else of a run. That it agrees with
the breaker is an invariant that ties the two, `Matches`, and does not need that
calls do not overlap. What needs it is that a call is made whenever the automaton
is not open, as the code allows a half-open breaker so many trials only.

## Main definitions

* `Report`, `reports`: What the automaton is told of a run.
* `Automaton`, `Automaton.after`: The automaton.
* `trailingFailures`: The failures in a row at the end of a run.

## Theorems

* `byFailures_after`: The automaton by the failures in a row.
* `matches_settle`, `matches_execute`: What a step keeps.
* `breaker_is_automaton`: The breaker is the automaton.
-/

namespace VellarSdk

namespace Breaker

open Js Async

/-- A call has ended, at a reading of the clock, or the breaker was reset. -/
inductive Report where
  | result (failed : Bool) (now : ℚ)
  | reset
  deriving DecidableEq

def Report.isFailure : Report → Bool
  | .result failed _ => failed
  | .reset => false

/-- Every rejection is a failure. -/
def Outcome.failed : Outcome → Bool
  | .resolved => false
  | .rejected _ => true

def BreakerAction.report : BreakerAction → Option Report
  | .settle _ outcome now => some (.result outcome.failed now)
  | .reset => some .reset
  | .execute _ | .readState _ => none

def reports (actions : List BreakerAction) : List Report :=
  actions.filterMap BreakerAction.report

theorem reports_append (actions : List BreakerAction) (action : BreakerAction) :
    reports (actions ++ [action]) = reports actions ++ action.report.toList := by
  rw [reports, reports, List.filterMap_append]
  cases action <;> rfl

/-- The failures since the last success or reset. -/
def trailingFailures (history : List Report) : Nat :=
  (history.reverse.takeWhile Report.isFailure).length

/-- Closed with so many failures in a row, or tripped at some moment. -/
inductive Automaton where
  | closed (failures : Nat)
  | tripped (since : ℚ)
  deriving DecidableEq

namespace Automaton

def next (threshold : Nat) : Automaton → Report → Automaton
  | _, .reset => closed 0
  | _, .result false _ => closed 0
  | closed n, .result true now => if n + 1 < threshold then closed (n + 1) else tripped now
  -- A failed trial.
  | tripped _, .result true now => tripped now

/-- The automaton after it was told all of this. -/
def after (threshold : Nat) (history : List Report) : Automaton :=
  history.foldl (next threshold) (closed 0)

/-- The state that is seen at a reading of the clock. -/
def stateAt (openDurationMs now : ℚ) : Automaton → CircuitBreakerState
  | closed _ => .closed
  | tripped since => if now - since ≥ openDurationMs then .halfOpen else .opened

/-- The count that is seen. -/
def count (threshold : Nat) : Automaton → Nat
  | closed n => n
  | tripped _ => threshold

end Automaton

section History

variable {threshold : Nat} {history : List Report} {r : Report}

theorem after_append (threshold : Nat) (history : List Report) (r : Report) :
    Automaton.after threshold (history ++ [r]) = (Automaton.after threshold history).next threshold r := by
  rw [Automaton.after, Automaton.after, List.foldl_append, List.foldl_cons, List.foldl_nil]

theorem trailingFailures_append (history : List Report) (r : Report) :
    trailingFailures (history ++ [r]) = if r.isFailure then trailingFailures history + 1 else 0 := by
  rw [trailingFailures, trailingFailures, List.reverse_append, List.reverse_singleton,
    List.singleton_append, List.takeWhile_cons]
  cases r.isFailure with
  | true => rfl
  | false => rfl

/-- Where the automaton is, by the failures in a row: below the threshold it is
    closed and has counted them, and from there on it was tripped by the last. -/
def ByFailures (threshold : Nat) (history : List Report) : Automaton → Prop
  | .closed n => n = trailingFailures history ∧ n < threshold
  | .tripped since => threshold ≤ trailingFailures history ∧
      history.getLast? = some (.result true since)

theorem byFailures_next {a : Automaton} (hthreshold : 1 ≤ threshold)
    (h : ByFailures threshold history a) (r : Report) :
    ByFailures threshold (history ++ [r]) (a.next threshold r) := by
  cases r with
  | reset => exact ⟨by rw [trailingFailures_append]; rfl, hthreshold⟩
  | result failed now =>
      cases failed with
      | false => cases a <;> exact ⟨by rw [trailingFailures_append]; rfl, hthreshold⟩
      | true =>
          have htrailing : trailingFailures (history ++ [.result true now]) =
              trailingFailures history + 1 := by
            rw [trailingFailures_append]
            rfl
          cases a with
          | closed n =>
              obtain ⟨rfl, hn⟩ := h
              rw [Automaton.next]
              by_cases hmore : trailingFailures history + 1 < threshold
              · rw [if_pos hmore]
                exact ⟨htrailing.symm, hmore⟩
              · rw [if_neg hmore]
                exact ⟨by omega, List.getLast?_concat⟩
          | tripped since => exact ⟨by have := h.1; omega, List.getLast?_concat⟩

theorem byFailures_after (hthreshold : 1 ≤ threshold) (history : List Report) :
    ByFailures threshold history (Automaton.after threshold history) := by
  induction history using List.reverseRecOn with
  | nil => exact ⟨rfl, hthreshold⟩
  | append_singleton history r ih =>
      rw [after_append]
      exact byFailures_next hthreshold ih r

end History

variable {o : CircuitBreakerOptions} {b : CircuitBreaker} {a : Automaton} {clock now : ℚ}

/-- The variables of a breaker are what the automaton says. A breaker that was
    tripped still says open after the cooldown, until it is asked. -/
def Matches (o : CircuitBreakerOptions) (clock : ℚ) (b : CircuitBreaker) : Automaton → Prop
  | .closed n => b.state = .closed ∧ b.failures = n ∧ n < o.failureThreshold
  | .tripped since => b.failures = o.failureThreshold ∧
      ((b.state = .opened ∧ b.openedAt = since) ∨
        (b.state = .halfOpen ∧ since + o.openDurationMs ≤ clock))

theorem Matches.later (h : Matches o clock b a) (hclock : clock ≤ now) : Matches o now b a := by
  cases a with
  | closed n => exact h
  | tripped since =>
      obtain ⟨hfailures, hopen | ⟨hhalf, hover⟩⟩ := h
      · exact ⟨hfailures, .inl hopen⟩
      · exact ⟨hfailures, .inr ⟨hhalf, hover.trans hclock⟩⟩

theorem matches_readState (h : Matches o clock b a) (hclock : clock ≤ now) :
    Matches o now (b.readState o now) a := by
  rcases b.readState_cases o now with ⟨hopen, hover, heq⟩ | ⟨-, heq⟩
  · rw [heq]
    cases a with
    | closed n =>
        rw [h.1] at hopen
        exact absurd hopen (by simp only [reduceCtorEq, not_false_eq_true])
    | tripped since =>
        obtain ⟨hfailures, ⟨-, hsince⟩ | ⟨hhalf, -⟩⟩ := h
        · exact ⟨hfailures, .inr ⟨rfl, hsince ▸ hover⟩⟩
        · rw [hhalf] at hopen
          exact absurd hopen (by simp only [reduceCtorEq, not_false_eq_true])
  · rw [heq]
    exact h.later hclock

/-- The state that is read is the one the automaton has by then. -/
theorem stateAt_of_matches (h : Matches o clock b a) (hclock : clock ≤ now) :
    (b.readState o now).state = a.stateAt o.openDurationMs now := by
  cases a with
  | closed n =>
      rw [CircuitBreaker.readState_of_closed o now h.1, h.1]
      rfl
  | tripped since =>
      obtain ⟨-, ⟨hopen, hsince⟩ | ⟨hhalf, hover⟩⟩ := h
      · unfold CircuitBreaker.readState Automaton.stateAt
        simp only [hopen, true_and, hsince]
        by_cases hover : now - since ≥ o.openDurationMs
        · rw [if_pos hover, if_pos hover]
          rfl
        · rw [if_neg hover, if_neg hover, hopen]
      · rw [CircuitBreaker.readState_of_not_opened o now (by rw [hhalf]; exact nofun), hhalf]
        exact (if_pos (by linarith)).symm

/-- Deciding on a call uses a trial at most. -/
theorem matches_execute (h : Matches o clock b a) (hclock : clock ≤ now) :
    Matches o now (b.execute o now).1 a := by
  have hread := matches_readState h hclock
  rcases b.execute_cases o now with ⟨-, heq⟩ | ⟨-, -, heq⟩ | ⟨-, -, heq⟩ | ⟨-, heq⟩ <;> rw [heq]
  · exact hread
  · exact hread
  · cases a with
    | closed n => exact hread
    | tripped since => exact hread
  · exact hread

theorem matches_reset (hthreshold : 1 ≤ o.failureThreshold) (threshold : Nat) :
    Matches o clock CircuitBreaker.reset (a.next threshold .reset) := by
  cases a <;> exact ⟨rfl, rfl, hthreshold⟩

/-- A failure is counted, or it trips the breaker. -/
theorem matches_recordFailure (h : Matches o clock b a) :
    Matches o now (b.recordFailure o now) (a.next o.failureThreshold (.result true now)) := by
  rw [CircuitBreaker.recordFailure_eq]
  cases a with
  | closed n =>
      obtain ⟨hstate, rfl, -⟩ := h
      have hopens : b.opens o = decide (o.failureThreshold ≤ b.failures + 1) := by
        simp only [CircuitBreaker.opens, hstate, reduceCtorEq, false_or]
      rw [hopens, Automaton.next]
      by_cases hmore : b.failures + 1 < o.failureThreshold
      · rw [if_pos hmore, if_neg (by rw [decide_eq_true_iff]; omega)]
        exact ⟨hstate, rfl, hmore⟩
      · rw [if_neg hmore, if_pos (by rw [decide_eq_true_iff]; omega)]
        exact ⟨rfl, .inl ⟨rfl, rfl⟩⟩
  | tripped since =>
      -- An open breaker is at the threshold, and a half-open one needs no count.
      have hopens : b.opens o = true := by
        rw [CircuitBreaker.opens, decide_eq_true_iff]
        exact .inr (by rw [h.1]; omega)
      rw [hopens, if_pos rfl]
      exact ⟨rfl, .inl ⟨rfl, rfl⟩⟩

/-- How a call ended does to the breaker what it does to the automaton. -/
theorem matches_settle (hnone : o.isFailure = none) (hthreshold : 1 ≤ o.failureThreshold)
    (h : Matches o clock b a) {outcome : Outcome}
    (hdefined : ∀ e, outcome = .rejected e → e ≠ .undefined) :
    Matches o now (b.settle o now outcome)
      (a.next o.failureThreshold (.result outcome.failed now)) := by
  rw [CircuitBreaker.settle_eq]
  cases outcome with
  | resolved =>
      rw [CircuitBreakerOptions.verdict_resolved hnone]
      cases a <;> exact ⟨rfl, rfl, hthreshold⟩
  | rejected e =>
      rw [CircuitBreakerOptions.verdict_rejected hnone (hdefined e rfl)]
      exact matches_recordFailure h

variable {s s' : Overlap} {action : BreakerAction}

/-- A rejection has a value. -/
def Defined (_ : Overlap) (action : BreakerAction) : Prop :=
  ∀ i e now, action = .settle i (.rejected e) now → e ≠ .undefined

theorem matches_step (hnone : o.isFailure = none) (hthreshold : 1 ≤ o.failureThreshold)
    {before : List BreakerAction}
    (hs : Matches o s.clock s.breaker (Automaton.after o.failureThreshold (reports before)))
    (hclock : NonDecreasing s action) (hdefined : Defined s action)
    (h : (overlapping o).step s action = some s') :
    Matches o s'.clock s'.breaker
      (Automaton.after o.failureThreshold (reports (before ++ [action]))) := by
  rw [reports_append]
  cases action with
  | execute now =>
      -- Asking the breaker is not reported; it moves with its clock alone.
      simp only [overlapping, Option.some.injEq] at h
      subst h
      rw [BreakerAction.report, Option.toList_none, List.append_nil]
      exact matches_execute hs (hclock now rfl)
  | readState now =>
      simp only [overlapping, Option.some.injEq] at h
      subst h
      rw [BreakerAction.report, Option.toList_none, List.append_nil]
      exact matches_readState hs (hclock now rfl)
  | settle i outcome now =>
      -- An outcome is what the automaton is told.
      obtain ⟨k, -, rfl⟩ := settle_step h
      rw [BreakerAction.report, Option.toList_some, after_append]
      exact matches_settle hnone hthreshold hs
        (fun e he => hdefined i e now (by rw [he]))
  | reset =>
      simp only [overlapping, Option.some.injEq] at h
      subst h
      rw [BreakerAction.report, Option.toList_some, after_append]
      exact matches_reset hthreshold _

/-- A call that does not overlap is made exactly when the breaker is not open. -/
theorem execute_ok_iff (hmax : 1 ≤ o.halfOpenMaxCalls) (hs : TrialsUnderWay o s)
    (hquiet : s.inFlight = []) (now : ℚ) :
    (s.breaker.execute o now).2 = .ok () ↔ (s.breaker.readState o now).state ≠ .opened := by
  rcases s.breaker.execute_cases o now with ⟨hstate, heq⟩ | ⟨hstate, hfull, -⟩ |
    ⟨hstate, -, heq⟩ | ⟨hstate, heq⟩
  · rw [heq, hstate]
    exact iff_of_false (by simp only [reduceCtorEq, not_false_eq_true]) (fun h => h rfl)
  · -- No trial of the episode is under way, so none was used.
    have hused := (trialsUnderWay_readState hs now hstate).2
    rw [hquiet, List.length_nil] at hused
    omega
  · rw [heq, hstate]
    exact iff_of_true rfl (by simp only [ne_eq, reduceCtorEq, not_false_eq_true])
  · rw [heq, hstate]
    exact iff_of_true rfl (by simp only [ne_eq, reduceCtorEq, not_false_eq_true])

/-- What is seen of the breaker at any time is what is seen of the automaton, which
    is closed with the number of failures in a row below the threshold, and tripped
    by the last of them from there on; and a call that does not overlap with another
    is made exactly when the automaton is not open. -/
theorem breaker_is_automaton (o : CircuitBreakerOptions) (hnone : o.isFailure = none)
    (hthreshold : 1 ≤ o.failureThreshold) (hmax : 1 ≤ o.halfOpenMaxCalls) (clock : ℚ)
    (actions : List BreakerAction) (s : Overlap)
    (hclock : (overlapping o).RunWhere NonDecreasing { clock := clock } actions)
    (hdefined : (overlapping o).RunWhere Defined { clock := clock } actions)
    (hrun : (overlapping o).run { clock := clock } actions = some s) (now : ℚ)
    (hnow : s.clock ≤ now) :
    (s.breaker.readState o now).state =
      (Automaton.after o.failureThreshold (reports actions)).stateAt o.openDurationMs now ∧
    s.breaker.failures =
      (Automaton.after o.failureThreshold (reports actions)).count o.failureThreshold ∧
    ByFailures o.failureThreshold (reports actions)
      (Automaton.after o.failureThreshold (reports actions)) ∧
    (s.inFlight = [] → ((s.breaker.execute o now).2 = .ok () ↔
      (Automaton.after o.failureThreshold (reports actions)).stateAt o.openDurationMs now ≠
        .opened)) := by
  have hmatches : Matches o s.clock s.breaker
      (Automaton.after o.failureThreshold (reports actions)) := by
    refine Machine.run_history (I := fun before s =>
      Matches o s.clock s.breaker (Automaton.after o.failureThreshold (reports before)))
      (fun _ _ _ _ hs hP h => matches_step hnone hthreshold hs hP.1 hP.2 h) ⟨rfl, rfl, hthreshold⟩
      (Machine.runWhere_and hclock hdefined) hrun
  -- A trial that is under way holds its place, so without one a half-open breaker asks.
  have htrials : TrialsUnderWay o s :=
    Machine.run_invariant (P := fun _ _ => True)
      (fun _ _ _ hs _ h => trialsUnderWay_step (CircuitBreakerOptions.total_of_none hnone) hs h)
      (fun hhalf => absurd hhalf (by simp only [reduceCtorEq, not_false_eq_true]))
      (Machine.runWhere_of_forall_mem (fun _ _ _ => trivial)) hrun
  have hstate := stateAt_of_matches hmatches hnow
  refine ⟨hstate, ?_, byFailures_after hthreshold _, fun hquiet => ?_⟩
  · cases ha : Automaton.after o.failureThreshold (reports actions) with
    | closed n =>
        rw [ha] at hmatches
        exact hmatches.2.1
    | tripped since =>
        rw [ha] at hmatches
        exact hmatches.1
  · rw [← hstate]
    exact execute_ok_iff hmax htrials hquiet now

/-- Two calls that fail. -/
def failedTwice : List BreakerAction :=
  [.execute 0, .settle 0 (.rejected .null) 1, .execute 2, .settle 0 (.rejected .null) 3]

def twoFailures : CircuitBreakerOptions where
  failureThreshold := 2
  openDurationMs := 2

/-- The breaker after them. -/
def trippedAlone : Overlap where
  breaker := { state := .opened, failures := 2, openedAt := 3 }
  clock := 3
  openings := 1

/-- It is half-open once the cooldown is over, and lets a trial through. -/
theorem breaker_is_automaton_failedTwice :
    (trippedAlone.breaker.readState twoFailures 5).state = .halfOpen ∧
      trippedAlone.breaker.failures = 2 ∧
      (trippedAlone.breaker.execute twoFailures 5).2 = .ok () := by
  have hclock : (overlapping twoFailures).RunWhere NonDecreasing { clock := 0 } failedTwice := by
    refine Machine.runWhere_cons rfl (nonDecreasing_of_le rfl (by decide)) ?_
    refine Machine.runWhere_cons rfl (nonDecreasing_of_le rfl (by decide)) ?_
    refine Machine.runWhere_cons rfl (nonDecreasing_of_le rfl (by decide)) ?_
    exact Machine.runWhere_cons rfl (nonDecreasing_of_le rfl (by decide)) trivial
  have hdefined : (overlapping twoFailures).RunWhere Defined { clock := 0 } failedTwice := by
    refine Machine.runWhere_of_forall_mem (fun action haction s i e now hsettle => ?_)
    subst hsettle
    simp only [failedTwice, List.mem_cons, BreakerAction.settle.injEq, Outcome.rejected.injEq,
      reduceCtorEq, List.not_mem_nil, or_false, false_or] at haction
    rcases haction with ⟨-, rfl, -⟩ | ⟨-, rfl, -⟩ <;>
      simp only [ne_eq, reduceCtorEq, not_false_eq_true]
  have hover : (Automaton.tripped 3).stateAt 2 5 = .halfOpen := by
    rw [Automaton.stateAt, if_pos (by norm_num)]
  obtain ⟨hstate, hcount, -, hcalls⟩ := breaker_is_automaton twoFailures rfl (by decide)
    (by decide) 0 failedTwice trippedAlone hclock hdefined rfl 5 (by decide)
  refine ⟨hstate.trans hover, hcount, (hcalls rfl).mpr ?_⟩
  exact fun hopen => absurd (hover.symm.trans hopen) (by decide)

end Breaker

end VellarSdk
