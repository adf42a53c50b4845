import VellarSdk.Async.Machine
import VellarSdk.Breaker.CircuitBreaker

/-!
# Overlapping Calls of a Breaker

A breaker with the calls that were let through and have no result yet. Its runs
are the interleavings of overlapping calls: between the turn that lets a call
through and the turn that classifies its outcome, any number of other calls may
be let through, refused or classified.

What the breaker does not keep, and the statements about it need, is when a call
was let through. Each call under way carries the number of times the breaker had
opened by then, so a call is older than an opening when its number is smaller
than the number of openings up to it.

The breaker does not tell those calls apart either. A call that was let through
before the breaker opened ends like any other: its success closes the breaker,
whatever is left of the cooldown, and its failure starts the cooldown over.
`Timely` is what a run has to keep to for the cooldown to last as long as the
option says. That the breaker never wedges needs no such condition: every result
ends a half-open episode, so the trials of the one that goes on are all still
under way.

## Main definitions

* `Overlap`, `BreakerAction`, `overlapping`: The calls of a breaker.
* `CooldownKept`: Every cooldown lasts as long as the option says.
* `Timely`: No call older than an opening moves its cooldown.

## Theorems

* `underWay_step`, `notExtended_step`, `trialsUnderWay_step`: What a step keeps.
* `cooldown_kept`: Cooldowns are kept along runs that meet the condition.
* `never_wedges`: A breaker that has nothing under way recovers.
-/

namespace VellarSdk

namespace Breaker

open Js Async

/-- A breaker, the last reading of its clock, the times it has opened, and for
    each call under way how many of them were before it. -/
structure Overlap where
  breaker : CircuitBreaker := {}
  clock : ℚ
  openings : Nat := 0
  inFlight : List Nat := []

/-- What can happen to a breaker. -/
inductive BreakerAction where
  | execute (now : ℚ)
  | settle (i : Nat) (outcome : Outcome) (now : ℚ)
  | readState (now : ℚ)
  | reset

/-- The reading of the clock, where it is read. -/
def BreakerAction.time : BreakerAction → Option ℚ
  | .execute now => some now
  | .settle _ _ now => some now
  | .readState now => some now
  | .reset => none

variable (o : CircuitBreakerOptions)

/-- A call is put under way when it was not refused. -/
def Overlap.execute (s : Overlap) (now : ℚ) : Overlap :=
  let r := s.breaker.execute o now
  { s with
    breaker := r.1
    clock := now
    inFlight := match r.2 with
      | .ok () => s.inFlight ++ [s.openings]
      | .error _ => s.inFlight }

/-- A call under way ends. -/
def Overlap.settle (s : Overlap) (i : Nat) (outcome : Outcome) (now : ℚ) : Overlap :=
  { breaker := s.breaker.settle o now outcome
    clock := now
    openings := if o.verdict outcome = some true ∧ s.breaker.opens o = true then s.openings + 1
      else s.openings
    inFlight := s.inFlight.eraseIdx i }

/-- The calls of a breaker, in any order. -/
def overlapping : Machine Overlap BreakerAction where
  step s a := match a with
    | .execute now => some (s.execute o now)
    | .settle i outcome now => match s.inFlight[i]? with
      | some _ => some (s.settle o i outcome now)
      | none => none
    | .readState now => some { s with breaker := s.breaker.readState o now, clock := now }
    | .reset => some { s with breaker := CircuitBreaker.reset }

/-- The clock does not go back. -/
def NonDecreasing (s : Overlap) (a : BreakerAction) : Prop :=
  ∀ now, a.time = some now → s.clock ≤ now

/-- The call is refused as the breaker is open, and it is not made. -/
def Overlap.Refused (s : Overlap) (now : ℚ) : Prop :=
  (s.breaker.execute o now).2 = .error {} ∧ (s.execute o now).inFlight = s.inFlight

/-- Neither has the breaker closed, nor does a call fail that was let through
    after the first `n` openings. -/
def OnlyOlderFail (n : Nat) (s : Overlap) (a : BreakerAction) : Prop :=
  s.breaker.state ≠ .closed ∧ ∀ i outcome now k, a = .settle i outcome now →
    s.inFlight[i]? = some k → n ≤ k → o.verdict outcome ≠ some true

/-- Wherever in the run the breaker opens, and is not reset, it refuses every
    call until the cooldown is over; and then no longer, unless it closed or a
    call failed that was let through since. -/
def CooldownKept (clock : ℚ) (actions : List BreakerAction) : Prop :=
  ∀ before i outcome t since s₀ s₁ s, actions = before ++ .settle i outcome t :: since →
    (overlapping o).run { clock := clock } before = some s₀ →
    (overlapping o).step s₀ (.settle i outcome t) = some s₁ →
    s₀.breaker.state ≠ .opened → s₁.breaker.state = .opened →
    (overlapping o).run s₁ since = some s → .reset ∉ since →
    ∀ now, s.clock ≤ now →
      (now < t + o.openDurationMs → s.Refused o now) ∧
      ((overlapping o).RunWhere (OnlyOlderFail o s₁.openings) s₁ since →
        t + o.openDurationMs ≤ now → ¬ s.Refused o now)

/-- A result that arrives while the breaker is open is a failure of the moment
    it opened, or a success after the cooldown; one that arrives while it is
    half-open is not the failure of a call older than the last opening. -/
def Timely (s : Overlap) (a : BreakerAction) : Prop :=
  0 < o.openDurationMs → ∀ i outcome now, a = .settle i outcome now →
    (s.breaker.state = .opened → o.verdict outcome = some false →
      s.breaker.openedAt + o.openDurationMs ≤ now) ∧
    (s.breaker.state = .opened → o.verdict outcome = some true → now ≤ s.breaker.openedAt) ∧
    (s.breaker.state = .halfOpen → o.verdict outcome = some true →
      ∀ k, s.inFlight[i]? = some k → ¬ k < s.openings)

variable {o} {s s' : Overlap} {a : BreakerAction} {t : ℚ} {n : Nat}

/-- What asking for the state leaves: a half-open episode where the cooldown is
    over, and otherwise the state as it was. -/
def Asked (o : CircuitBreakerOptions) (now : ℚ) (b b' : CircuitBreaker) : Prop :=
  (b.state = .opened ∧ b.openedAt + o.openDurationMs ≤ now ∧ b'.state = .halfOpen) ∨
  (b'.state = b.state ∧ b'.openedAt = b.openedAt)

theorem asked_readState (b : CircuitBreaker) (now : ℚ) : Asked o now b (b.readState o now) := by
  rcases b.readState_cases o now with ⟨hopen, hover, heq⟩ | ⟨-, heq⟩
  · exact .inl ⟨hopen, hover, by rw [heq]; rfl⟩
  · exact .inr (by rw [heq]; exact ⟨rfl, rfl⟩)

theorem asked_execute (b : CircuitBreaker) (now : ℚ) : Asked o now b (b.execute o now).1 := by
  have hasked := asked_readState (o := o) b now
  rcases b.execute_cases o now with ⟨-, heq⟩ | ⟨-, -, heq⟩ | ⟨-, -, heq⟩ | ⟨-, heq⟩ <;> rw [heq] <;>
    exact hasked

theorem settle_step {i : Nat} {outcome : Outcome} {now : ℚ}
    (h : (overlapping o).step s (.settle i outcome now) = some s') :
    ∃ k, s.inFlight[i]? = some k ∧ s' = s.settle o i outcome now := by
  cases hcall : s.inFlight[i]? with
  | none =>
      simp only [overlapping, hcall] at h
      exact absurd h (by simp only [reduceCtorEq, not_false_eq_true])
  | some k =>
      simp only [overlapping, hcall, Option.some.injEq] at h
      exact ⟨k, rfl, h.symm⟩

/-- Everything a step can do to the state and the opening of a breaker. -/
theorem step_cases (h : (overlapping o).step s a = some s') :
    (∃ now, a.time = some now ∧ s'.clock = now ∧ s'.openings = s.openings ∧
      Asked o now s.breaker s'.breaker) ∨
    (∃ i outcome now k, a = .settle i outcome now ∧ s.inFlight[i]? = some k ∧
      s' = s.settle o i outcome now) ∨
    a = .reset := by
  cases a with
  | execute now =>
      simp only [overlapping, Option.some.injEq] at h
      subst h
      exact .inl ⟨now, rfl, rfl, rfl, asked_execute s.breaker now⟩
  | readState now =>
      simp only [overlapping, Option.some.injEq] at h
      subst h
      exact .inl ⟨now, rfl, rfl, rfl, asked_readState s.breaker now⟩
  | settle i outcome now =>
      obtain ⟨k, hcall, heq⟩ := settle_step h
      exact .inr (.inl ⟨i, outcome, now, k, rfl, hcall, heq⟩)
  | reset => exact .inr (.inr rfl)

/-- An opening at `t` still stands, or its cooldown is over. -/
def UnderWay (o : CircuitBreakerOptions) (t : ℚ) (s : Overlap) : Prop :=
  t ≤ s.clock ∧
    ((s.breaker.state = .opened ∧ s.breaker.openedAt = t) ∨ t + o.openDurationMs ≤ s.clock)

theorem underWay_step (hs : UnderWay o t s) (hclock : NonDecreasing s a) (htimely : Timely o s a)
    (hreset : a ≠ .reset) (h : (overlapping o).step s a = some s') : UnderWay o t s' := by
  have hlater : s.clock ≤ s'.clock := by
    rcases step_cases h with ⟨now, htime, rfl, -⟩ | ⟨i, outcome, now, k, rfl, -, rfl⟩ | rfl
    · exact hclock _ htime
    · exact hclock now rfl
    · exact absurd rfl hreset
  refine ⟨hs.1.trans hlater, ?_⟩
  -- Once the cooldown is over there is nothing left to keep.
  by_cases hover : t + o.openDurationMs ≤ s'.clock
  · exact .inr hover
  have hpos : 0 < o.openDurationMs := by linarith [hs.1]
  obtain ⟨hopen, hat⟩ : s.breaker.state = .opened ∧ s.breaker.openedAt = t := by
    rcases hs.2 with hstands | hover'
    · exact hstands
    · exact absurd (hover'.trans hlater) hover
  refine .inl ?_
  rcases step_cases h with ⟨now, htime, rfl, -, hasked⟩ | ⟨i, outcome, now, k, rfl, -, rfl⟩ | rfl
  · rcases hasked with ⟨-, hdone, -⟩ | ⟨hstate, hopenedAt⟩
    · exact absurd (hat ▸ hdone) hover
    · exact ⟨hstate.trans hopen, hopenedAt.trans hat⟩
  · -- A result in between is timely: a success comes when the cooldown is over, and
    -- a failure in the moment the breaker opened.
    obtain ⟨hsuccess, hfailure, -⟩ := htimely hpos i outcome now rfl
    rcases s.breaker.settle_cases o now outcome with ⟨hverdict, -⟩ |
      ⟨hverdict, hstate, hopenedAt⟩ | ⟨-, hstate, hopenedAt⟩
    · exact absurd (hat ▸ hsuccess hopen hverdict) hover
    · have hnow : now = t := le_antisymm (hat ▸ hfailure hopen hverdict) (hs.1.trans hlater)
      exact ⟨hstate, hopenedAt.trans hnow⟩
    · exact ⟨hstate.trans hopen, hopenedAt.trans hat⟩
  · exact absurd rfl hreset

/-- Whatever opening stands is the one at `t`. With no cooldown, when it was
    makes no difference. -/
def NotExtended (o : CircuitBreakerOptions) (t : ℚ) (n : Nat) (s : Overlap) : Prop :=
  n ≤ s.openings ∧ (s.breaker.state = .opened →
    s.breaker.openedAt ≤ s.clock ∧ (0 < o.openDurationMs → s.breaker.openedAt = t))

/-- A failure of an older call does not open the breaker later than it did. -/
theorem openedAt_of_older {i k : Nat} {outcome : Outcome} {now : ℚ} (hs : NotExtended o t n s)
    (hclock : s.clock ≤ now) (htimely : Timely o s (.settle i outcome now))
    (hclosed : s.breaker.state ≠ .closed) (hcall : s.inFlight[i]? = some k) (hk : k < n)
    (hverdict : o.verdict outcome = some true) (hpos : 0 < o.openDurationMs) : now = t := by
  obtain ⟨-, hopened, hhalf⟩ := htimely hpos i outcome now rfl
  cases hstate : s.breaker.state with
  | closed => exact absurd hstate hclosed
  | halfOpen => exact absurd (hk.trans_le hs.1) (hhalf hstate hverdict k hcall)
  | opened =>
      obtain ⟨hle, hat⟩ := hs.2 hstate
      rw [← hat hpos]
      exact le_antisymm (hopened hstate hverdict) (hle.trans hclock)

theorem notExtended_step (hs : NotExtended o t n s) (hclock : NonDecreasing s a)
    (htimely : Timely o s a) (hreset : a ≠ .reset) (holder : OnlyOlderFail o n s a)
    (h : (overlapping o).step s a = some s') : NotExtended o t n s' := by
  rcases step_cases h with ⟨now, htime, rfl, hopenings, hasked⟩ |
    ⟨i, outcome, now, k, rfl, hcall, rfl⟩ | rfl
  · refine ⟨hopenings ▸ hs.1, fun hopen => ?_⟩
    rcases hasked with ⟨-, -, hhalf⟩ | ⟨hstate, hopenedAt⟩
    · rw [hhalf] at hopen
      exact absurd hopen (by simp only [reduceCtorEq, not_false_eq_true])
    · obtain ⟨hle, hat⟩ := hs.2 (hstate ▸ hopen)
      rw [hopenedAt]
      exact ⟨hle.trans (hclock _ htime), hat⟩
  · -- An end of a call: only a failure opens the breaker again.
    have hnow : s.clock ≤ now := hclock now rfl
    have hopenings : s.openings ≤ (s.settle o i outcome now).openings := by
      simp only [Overlap.settle]
      split <;> omega
    refine ⟨hs.1.trans hopenings, ?_⟩
    show (s.breaker.settle o now outcome).state = .opened →
      (s.breaker.settle o now outcome).openedAt ≤ now ∧
        (0 < o.openDurationMs → (s.breaker.settle o now outcome).openedAt = t)
    intro hopen
    rcases s.breaker.settle_cases o now outcome with ⟨-, hstate⟩ | ⟨hverdict, -, hopenedAt⟩ |
      ⟨-, hstate, hopenedAt⟩
    · rw [hstate] at hopen
      exact absurd hopen (by simp only [reduceCtorEq, not_false_eq_true])
    · -- The failure is that of an older call, which leaves the opening where it was.
      have hk : k < n := by
        by_contra hge
        exact holder.2 i outcome now k rfl hcall (not_lt.mp hge) hverdict
      rw [hopenedAt]
      exact ⟨le_refl now, openedAt_of_older hs hnow htimely holder.1 hcall hk hverdict⟩
    · obtain ⟨hle, hat⟩ := hs.2 (hstate ▸ hopen)
      rw [hopenedAt]
      exact ⟨hle.trans hnow, hat⟩
  · exact absurd rfl hreset

theorem refused_of_opened {now : ℚ} (hopen : s.breaker.state = .opened)
    (h : now < s.breaker.openedAt + o.openDurationMs) : s.Refused o now := by
  have hread : (s.breaker.readState o now).state = .opened := by
    rcases s.breaker.readState_cases o now with ⟨-, hover, -⟩ | ⟨-, heq⟩
    · exact absurd h (not_lt.mpr hover)
    · rw [heq, hopen]
  rcases s.breaker.execute_cases o now with ⟨-, heq⟩ | ⟨hstate, -⟩ | ⟨hstate, -⟩ | ⟨hstate, -⟩
  · exact ⟨by rw [heq], by simp only [Overlap.execute, heq]⟩
  all_goals
    rw [hread] at hstate
    exact absurd hstate (by simp only [reduceCtorEq, not_false_eq_true])

/-- A breaker refuses a call as open only during the cooldown. -/
theorem opened_of_refused {now : ℚ} (h : s.Refused o now) :
    s.breaker.state = .opened ∧ now < s.breaker.openedAt + o.openDurationMs := by
  obtain ⟨herror, -⟩ := h
  have hread : (s.breaker.readState o now).state = .opened := by
    rcases s.breaker.execute_cases o now with ⟨hstate, -⟩ | ⟨-, -, heq⟩ | ⟨-, -, heq⟩ | ⟨-, heq⟩
    · exact hstate
    · rw [heq] at herror
      exact absurd (Except.error.inj herror) (by decide)
    all_goals
      rw [heq] at herror
      exact absurd herror (by simp only [reduceCtorEq, not_false_eq_true])
  rcases s.breaker.readState_cases o now with ⟨-, -, heq⟩ | ⟨hearly, heq⟩
  · rw [heq] at hread
    exact absurd hread (by
      simp only [CircuitBreaker.halfOpen, reduceCtorEq, not_false_eq_true])
  · rw [heq] at hread
    exact ⟨hread, hearly hread⟩

/-- The breaker opens at the reading of the clock, and counts it. -/
theorem openedAt_of_opens {i : Nat} {outcome : Outcome}
    (hclosed : s.breaker.state ≠ .opened) (hopen : s'.breaker.state = .opened)
    (h : (overlapping o).step s (.settle i outcome t) = some s') :
    s'.breaker.openedAt = t ∧ s'.clock = t := by
  obtain ⟨k, -, rfl⟩ := settle_step h
  refine ⟨?_, rfl⟩
  rcases s.breaker.settle_cases o t outcome with ⟨-, hstate⟩ | ⟨-, -, hopenedAt⟩ | ⟨-, hstate, -⟩
  · rw [Overlap.settle, hstate] at hopen
    exact absurd hopen (by simp only [reduceCtorEq, not_false_eq_true])
  · exact hopenedAt
  · exact absurd (hstate.symm.trans hopen) hclosed

/-- Overlapping calls keep every cooldown as long as none that is older than an
    opening moves it. -/
theorem cooldown_kept (o : CircuitBreakerOptions) (clock : ℚ) (actions : List BreakerAction)
    (hclock : (overlapping o).RunWhere NonDecreasing { clock := clock } actions)
    (htimely : (overlapping o).RunWhere (Timely o) { clock := clock } actions) :
    CooldownKept o clock actions := by
  intro before i outcome t since s₀ s₁ s hactions hbefore hfirst hclosed hopen hsince hreset now hnow
  subst hactions
  obtain ⟨hat, hclock₁⟩ := openedAt_of_opens hclosed hopen hfirst
  -- Everything since the opening keeps to the conditions, so both invariants run on.
  have hnoReset : (overlapping o).RunWhere (fun _ a => a ≠ .reset) s₁ since :=
    Machine.runWhere_of_forall_mem (fun a ha _ heq => hreset (heq ▸ ha))
  have hkept : (overlapping o).RunWhere (fun s a => NonDecreasing s a ∧ Timely o s a) s₁ since :=
    (Machine.runWhere_append (Machine.runWhere_and hclock htimely) hbefore).2.2 s₁ hfirst
  have hwhere := Machine.runWhere_and hkept hnoReset
  refine ⟨fun hearly => ?_, fun holder hover hrefused => ?_⟩
  · have hunder : UnderWay o t s :=
      Machine.run_invariant (fun _ _ _ hs hc h => underWay_step hs hc.1.1 hc.1.2 hc.2 h)
        ⟨hclock₁.ge, .inl ⟨hopen, hat⟩⟩ hwhere hsince
    -- Too early: the breaker still stands as it opened, and refuses.
    rcases hunder.2 with ⟨hstill, hat'⟩ | hdone
    · exact refused_of_opened hstill (hat'.symm ▸ hearly)
    · exact absurd (hdone.trans hnow) (not_le.mpr hearly)
  · have hsame : NotExtended o t s₁.openings s :=
      Machine.run_invariant
        (fun _ _ _ hs hc h => notExtended_step hs hc.1.1.1 hc.1.1.2 hc.1.2 hc.2 h)
        ⟨le_refl _, fun _ => ⟨hat.trans hclock₁.symm |>.le, fun _ => hat⟩⟩
        (Machine.runWhere_and hwhere holder) hsince
    obtain ⟨hstill, hearly⟩ := opened_of_refused hrefused
    obtain ⟨hle, hat'⟩ := hsame.2 hstill
    -- Refused though the cooldown is over: it must have opened again since.
    by_cases hpos : 0 < o.openDurationMs
    · rw [hat' hpos] at hearly
      exact absurd hover (not_le.mpr hearly)
    · linarith [not_lt.mp hpos, hle.trans hnow]

/-- A breaker that opens at the first failure, for ten seconds. -/
def oneFailure : CircuitBreakerOptions where
  failureThreshold := 1
  openDurationMs := 10000

theorem nonDecreasing_of_le {now : ℚ} (htime : a.time = some now) (h : s.clock ≤ now) :
    NonDecreasing s a := by
  intro now' htime'
  rw [htime, Option.some.injEq] at htime'
  exact htime' ▸ h

/-- Two calls are let through and one fails; a third is made during the
    cooldown. -/
def failedThenCalled : List BreakerAction :=
  [.execute 0, .execute 0, .settle 0 (.rejected .null) 1, .execute 500]

theorem cooldown_kept_failedThenCalled : CooldownKept oneFailure 0 failedThenCalled := by
  refine cooldown_kept oneFailure 0 failedThenCalled ?_ ?_
  · refine Machine.runWhere_cons rfl (nonDecreasing_of_le rfl (by decide)) ?_
    refine Machine.runWhere_cons rfl (nonDecreasing_of_le rfl (by decide)) ?_
    refine Machine.runWhere_cons rfl (nonDecreasing_of_le rfl (by decide)) ?_
    exact Machine.runWhere_cons rfl (nonDecreasing_of_le rfl (by decide)) trivial
  · refine Machine.runWhere_cons rfl (fun _ => nofun) ?_
    refine Machine.runWhere_cons rfl (fun _ => nofun) ?_
    refine Machine.runWhere_cons rfl (fun _ i outcome now _ => ⟨nofun, nofun, nofun⟩) ?_
    exact Machine.runWhere_cons rfl (fun _ => nofun) trivial

/-- The other of two calls succeeds while the breaker is open. -/
theorem late_success_ends_cooldown : ¬ ∀ o clock actions,
    (overlapping o).RunWhere NonDecreasing { clock := clock } actions →
      CooldownKept o clock actions := by
  intro h
  have hclock : (overlapping oneFailure).RunWhere NonDecreasing { clock := 0 }
      ([.execute 0, .execute 0, .settle 0 (.rejected .null) 1, .settle 0 .resolved 2]) := by
    refine Machine.runWhere_cons rfl (nonDecreasing_of_le rfl (by decide)) ?_
    refine Machine.runWhere_cons rfl (nonDecreasing_of_le rfl (by decide)) ?_
    refine Machine.runWhere_cons rfl (nonDecreasing_of_le rfl (by decide)) ?_
    exact Machine.runWhere_cons rfl (nonDecreasing_of_le rfl (by decide)) trivial
  have hkept := h oneFailure 0 _ hclock [.execute 0, .execute 0] 0 (.rejected .null) 1
    [.settle 0 .resolved 2] _ _ _ rfl rfl rfl (by decide) rfl rfl
    (by simp only [List.mem_singleton, reduceCtorEq, not_false_eq_true]) 3 (by decide)
  exact absurd (hkept.1 (by norm_num [oneFailure])).1 (by decide)

/-- The trials of a half-open episode are at most as many as allowed, and all
    under way. -/
def TrialsUnderWay (o : CircuitBreakerOptions) (s : Overlap) : Prop :=
  s.breaker.state = .halfOpen →
    s.breaker.halfOpenUsed ≤ o.halfOpenMaxCalls ∧ s.breaker.halfOpenUsed ≤ s.inFlight.length

/-- Asking for the state uses no trial. -/
theorem trialsUnderWay_readState (hs : TrialsUnderWay o s) (now : ℚ)
    (h : (s.breaker.readState o now).state = .halfOpen) :
    (s.breaker.readState o now).halfOpenUsed ≤ o.halfOpenMaxCalls ∧
      (s.breaker.readState o now).halfOpenUsed ≤ s.inFlight.length := by
  rcases s.breaker.readState_cases o now with ⟨-, -, heq⟩ | ⟨-, heq⟩
  · rw [heq]
    exact ⟨Nat.zero_le _, Nat.zero_le _⟩
  · rw [heq] at h ⊢
    exact hs h

/-- A result ends the half-open episode it arrives in. -/
theorem settle_state_ne_halfOpen (htotal : o.Total) (b : CircuitBreaker) (outcome : Outcome)
    (now : ℚ) (h : (b.settle o now outcome).state = .halfOpen) : False := by
  obtain ⟨failed, hverdict⟩ := htotal.verdict outcome
  rcases b.settle_cases o now outcome with ⟨-, hstate⟩ | ⟨-, hstate, -⟩ | ⟨hopen, hstate, -⟩
  · rw [hstate] at h
    exact absurd h (by simp only [reduceCtorEq, not_false_eq_true])
  · rw [hstate] at h
    exact absurd h (by simp only [reduceCtorEq, not_false_eq_true])
  · rw [hverdict] at hopen
    rcases hopen with hnone | hhalf
    · exact absurd hnone (by simp only [reduceCtorEq, not_false_eq_true])
    · exact hhalf (hstate ▸ h)

theorem trialsUnderWay_step (htotal : o.Total) (hs : TrialsUnderWay o s)
    (h : (overlapping o).step s a = some s') : TrialsUnderWay o s' := by
  intro hhalf
  cases a with
  | reset =>
      simp only [overlapping, Option.some.injEq] at h
      subst h
      exact absurd hhalf (by
        simp only [CircuitBreaker.reset, CircuitBreaker.close, reduceCtorEq, not_false_eq_true])
  | readState now =>
      simp only [overlapping, Option.some.injEq] at h
      subst h
      exact trialsUnderWay_readState hs now hhalf
  | settle i outcome now =>
      obtain ⟨k, -, rfl⟩ := settle_step h
      exact absurd hhalf (settle_state_ne_halfOpen htotal s.breaker outcome now)
  | execute now =>
      simp only [overlapping, Option.some.injEq] at h
      subst h
      unfold Overlap.execute at hhalf ⊢
      have hread := trialsUnderWay_readState hs now
      rcases s.breaker.execute_cases o now with ⟨hstate, heq⟩ | ⟨hstate, -, heq⟩ |
        ⟨hstate, hroom, heq⟩ | ⟨hstate, heq⟩ <;> simp only [heq] at hhalf ⊢
      · rw [hstate] at hhalf
        exact absurd hhalf (by simp only [reduceCtorEq, not_false_eq_true])
      · exact hread hstate
      · -- The trial that was used is the call that was put under way.
        rw [List.length_append, List.length_singleton]
        exact ⟨hroom, Nat.add_le_add_right (hread hstate).2 1⟩
      · rw [hstate] at hhalf
        exact absurd hhalf (by simp only [reduceCtorEq, not_false_eq_true])

/-- With nothing under way, a half-open episode has all its trials left. -/
theorem execute_of_quiet (hmax : 1 ≤ o.halfOpenMaxCalls) (hs : TrialsUnderWay o s)
    (hquiet : s.inFlight = []) {now : ℚ}
    (hover : s.breaker.state = .opened → o.openDurationMs ≤ now - s.breaker.openedAt) :
    (s.breaker.execute o now).2 = .ok () := by
  have hread := trialsUnderWay_readState hs now
  rw [hquiet, List.length_nil] at hread
  rcases s.breaker.execute_cases o now with ⟨hstate, -⟩ | ⟨hstate, hfull, -⟩ |
    ⟨-, -, heq⟩ | ⟨-, heq⟩
  · rcases s.breaker.readState_cases o now with ⟨-, -, heq⟩ | ⟨hearly, heq⟩
    · rw [heq] at hstate
      exact absurd hstate (by
        simp only [CircuitBreaker.halfOpen, reduceCtorEq, not_false_eq_true])
    · rw [heq] at hstate
      linarith [hearly hstate, hover hstate]
  · have hnone := (hread hstate).2
    omega
  · rw [heq]
  · rw [heq]

/-- The breaker never wedges: a half-open episode uses at most the trials it has,
    each of them a call under way, and with nothing under way and the cooldown
    over, the next call is let through. -/
theorem never_wedges (o : CircuitBreakerOptions) (hmax : 1 ≤ o.halfOpenMaxCalls)
    (htotal : o.Total) (clock : ℚ) (actions : List BreakerAction) (s : Overlap)
    (hrun : (overlapping o).run { clock := clock } actions = some s) :
    (s.breaker.state = .halfOpen → s.breaker.halfOpenUsed ≤ o.halfOpenMaxCalls ∧
      s.breaker.halfOpenUsed ≤ s.inFlight.length) ∧
    (s.inFlight = [] → ∀ now,
      (s.breaker.state = .opened → o.openDurationMs ≤ now - s.breaker.openedAt) →
      (s.breaker.execute o now).2 = .ok ()) := by
  have hinv : TrialsUnderWay o s :=
    Machine.run_invariant (P := fun _ _ => True)
      (fun _ _ _ hs _ h => trialsUnderWay_step htotal hs h)
      (fun hhalf => absurd hhalf (by simp only [reduceCtorEq, not_false_eq_true]))
      (Machine.runWhere_of_forall_mem (fun _ _ _ => trivial)) hrun
  exact ⟨hinv, fun hquiet now hover => execute_of_quiet hmax hinv hquiet hover⟩

/-- A breaker whose only call failed. -/
def openAlone : Overlap where
  breaker := { state := .opened, failures := 1, openedAt := 1 }
  clock := 1
  openings := 1

theorem never_wedges_openAlone : (openAlone.breaker.execute oneFailure 10001).2 = .ok () :=
  (never_wedges oneFailure (by decide) nofun 0 [.execute 0, .settle 0 (.rejected .null) 1] openAlone
    rfl).2 rfl 10001 (fun _ => by norm_num [oneFailure, openAlone])

end Breaker

end VellarSdk
