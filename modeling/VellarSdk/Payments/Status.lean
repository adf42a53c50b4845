import VellarSdk.Async.Rounds
import VellarSdk.Js.Rounded

/-!
# Waiting for a Transaction

A transaction is polled until it has come to an end. A reading that fails is taken
for one that says nothing: both are followed by a sleep, unless that would end
after the deadline. The loop has no other bound, so it ends because each sleep
takes up some of the time there is.

What the function is given besides the reader are a clock and a way to sleep. The
clock is read once for the deadline and once in each round, before the sleep.

The deadline and the end of a sleep are sums, and doubles round them. A sleep can so
be taken for one that ends in time when it does not, by less than can be told. What is
said of the time here is said of clocks and options whose sums are doubles
(`SumsExact`), as those of whole milliseconds are. That the waiting comes to an end
does not depend on it: rounding hides at most half of the time.

## Main definitions

* `WaitOp`: The calls of the function.
* `waitForTransaction`: The function, for a number of rounds.
* `statuses`, `polls`: The replies of the reader, and how many there are.
* `waitTiming`: What the calls say of the time.
* `SumsExact`: Nothing is rounded away.
* `WithinLimit`: No sleep ends later than so long after the start.
* `EndsAfter`: The calls there can be, by how often the reader may be asked.

## Theorems

* `sumsExact_of_whole`: Whole milliseconds are added up exactly.
* `withinLimit_of_measured`, `withinLimit_of_deadline`: What the check stands for, when
  nothing is rounded and in general.
* `Spent.sleep`, `Spent.lt`: Sleeps take up the time there is.
* `pollOnce_sat`: What a round does.
* `waitForTransaction_spec`: What the function does.
-/

namespace VellarSdk

namespace Payments

open Js Async

inductive TxStatus where
  | pending
  | success
  | failed
  deriving DecidableEq

/-- What the function throws, and what the calls it makes do. -/
inductive WaitError where
  | transactionTimeout (message : JsString)
  | foreign
  deriving DecidableEq

/-- The calls of the function. -/
inductive WaitOp where
  | now
  | getStatus (hash : JsString)
  | sleep (ms : JsNum)
  deriving DecidableEq

@[reducible] def WaitOp.Result : WaitOp → Type
  | .now => ℚ
  | .getStatus _ => TxStatus
  | .sleep _ => Unit

/-- A call with its reply. -/
abbrev WaitEvent :=
  Event WaitOp WaitOp.Result WaitError

structure WaitOptions where
  timeoutMs : Option JsNum := none
  intervalMs : Option JsNum := none

def WaitOptions.timeout (options : WaitOptions) : JsNum :=
  options.timeoutMs.getD (JsNum.ofNat 60000)

def WaitOptions.interval (options : WaitOptions) : JsNum :=
  options.intervalMs.getD (JsNum.ofNat 2000)

/-- `now() + timeoutMs`, by what the clock gave. -/
def WaitOptions.deadline (options : WaitOptions) (start : ℚ) : JsNum :=
  JsNum.plus (some (.finite start)) options.timeout

/-- `now() + intervalMs`. -/
def WaitOptions.wake (options : WaitOptions) (time : ℚ) : JsNum :=
  JsNum.plus (some (.finite time)) options.interval

/-- The reply of the reader, if the call was to it. -/
def statusOf : WaitEvent → Option (Except WaitError TxStatus)
  | ⟨.getStatus _, status⟩ => some status
  | _ => none

/-- The replies of the reader. -/
def statuses (tr : List WaitEvent) : List (Except WaitError TxStatus) :=
  tr.filterMap statusOf

/-- How often the reader was asked. -/
def polls (tr : List WaitEvent) : Nat :=
  (statuses tr).length

/-- The transaction is pending, or nothing was learned of it. -/
def SaysNothing (status : Except WaitError TxStatus) : Prop :=
  status = .ok .pending ∨ ∃ e, status = .error e

/-- The clock is read, and a sleep takes as long as it was asked to at least. -/
def waitTiming : Timing WaitEvent ℚ where
  reading
    | ⟨.now, .ok time⟩ => some time
    | _ => none
  takes
    | ⟨.sleep (some (.finite ms)), .ok ()⟩ => some ms
    | _ => none

/-- What the clock gave, if the call was to it. -/
def clockOf : WaitEvent → Option ℚ
  | ⟨.now, .ok time⟩ => some time
  | _ => none

/-- The deadline and the ends of the sleeps are worked out without rounding. -/
def SumsExact (options : WaitOptions) (tr : List WaitEvent) : Prop :=
  ∀ start mid, tr = ⟨.now, .ok start⟩ :: mid →
    options.deadline start = options.timeout.add start ∧
      ∀ time ∈ mid.filterMap clockOf, options.wake time = options.interval.add time

/-- Slept now, the sleep does not end after the deadline. -/
def EndsInTime (options : WaitOptions) (tr : List WaitEvent) (ms : JsNum) : Prop :=
  ∃ start mid time, tr = ⟨.now, .ok start⟩ :: (mid ++ [⟨.now, .ok time⟩]) ∧
    (options.timeout.add start).lt (ms.add time) = false

/-- How often there is time to ask: once, and after each interval of the time there is. -/
def pollsAllowed (limit : ℚ) : JsNumber → Nat
  | .finite intervalMs => ⌊limit / intervalMs⌋.toNat + 1
  | .infinity _ => 1

section Statuses

variable {tr : List WaitEvent}

theorem statuses_append (tr tr' : List WaitEvent) :
    statuses (tr ++ tr') = statuses tr ++ statuses tr' :=
  List.filterMap_append

theorem statuses_poll (hash : JsString) (status : Except WaitError TxStatus) :
    statuses (tr ++ [⟨.getStatus hash, status⟩]) = statuses tr ++ [status] :=
  statuses_append tr _

theorem statuses_now (time : Except WaitError ℚ) :
    statuses (tr ++ [⟨.now, time⟩]) = statuses tr := by
  rw [statuses_append]
  exact List.append_nil _

theorem statuses_sleep (ms : JsNum) (r : Except WaitError Unit) :
    statuses (tr ++ [⟨.sleep ms, r⟩]) = statuses tr := by
  rw [statuses_append]
  exact List.append_nil _

end Statuses

section Exact

variable {options : WaitOptions} {tr : List WaitEvent}

/-- The check before a sleep is that of the exact sums. -/
theorem SumsExact.check {start time : ℚ} {mid : List WaitEvent}
    (h : SumsExact options (⟨.now, .ok start⟩ :: mid))
    (hmem : (⟨.now, .ok time⟩ : WaitEvent) ∈ mid)
    (hcheck : (options.deadline start).lt (options.wake time) = false) :
    (options.timeout.add start).lt (options.interval.add time) = false := by
  obtain ⟨hdeadline, hwake⟩ := h start mid rfl
  rw [← hdeadline, ← hwake time (List.mem_filterMap.mpr ⟨_, hmem, rfl⟩)]
  exact hcheck

end Exact

/-- The calls fit a clock that stands so after them, and the check lets no sleep begin
    that ends later than so long after the start. -/
structure WithinLimit (options : WaitOptions) (limit : ℚ) (tr : List WaitEvent) (time : ℚ) :
    Prop where
  clocked : Clocked waitTiming tr time
  check : ∀ start mid, tr = ⟨.now, .ok start⟩ :: mid → ∀ t, (⟨.now, .ok t⟩ : WaitEvent) ∈ mid →
    (options.deadline start).lt (options.wake t) = false →
    (JsNum.add (some (.finite limit)) start).lt (options.interval.add t) = false

section Limits

variable {options : WaitOptions} {limit : ℚ} {tr : List WaitEvent}

/-- What was limited with one more event was so without it. -/
theorem WithinLimit.concat {e : WaitEvent} {t : ℚ} (h : WithinLimit options limit (tr ++ [e]) t) :
    ∃ t₀, WithinLimit options limit tr t₀ ∧ t₀ ≤ t ∧ (∀ r, waitTiming.reading e = some r → r = t) ∧
      ∀ d, waitTiming.takes e = some d → t₀ + d ≤ t := by
  obtain ⟨t₀, hclock, hle, hreading, htakes⟩ := clocked_concat h.clocked
  refine ⟨t₀, ⟨hclock, ?_⟩, hle, hreading, htakes⟩
  rintro start mid rfl time htime
  exact h.check start (mid ++ [e]) rfl time (List.mem_append_left _ htime)

/-- The clock after a reading and a sleep, which began at the reading. -/
theorem WithinLimit.sleep {time t : ℚ} {ms : JsNumber} {u : Unit} {e : WaitEvent}
    (h : WithinLimit options limit
      (tr ++ [e] ++ [⟨.now, .ok time⟩] ++ [⟨.sleep (some ms), .ok u⟩]) t) :
    (∃ t₀, WithinLimit options limit tr t₀ ∧ t₀ ≤ time) ∧ ∀ q, ms = .finite q → time + q ≤ t := by
  obtain ⟨t₂, h₂, -, -, htakes⟩ := h.concat
  obtain ⟨t₁, h₁, hle, hreading, -⟩ := h₂.concat
  obtain ⟨t₀, h₀, hle', -, -⟩ := h₁.concat
  obtain rfl := hreading time rfl
  refine ⟨⟨t₀, h₀, hle'.trans hle⟩, ?_⟩
  rintro q rfl
  exact htakes q rfl

end Limits

/-- After `n` intervals the limit was not reached, or there were none. -/
def Spent (start limit : ℚ) (interval : JsNumber) (n : Nat) (time : ℚ) : Prop :=
  ∃ q : ℚ, (n = 0 ∨ interval = .finite q ∧ n * q ≤ limit) ∧ start + n * q ≤ time

/-- A sleep is in time when the clock, once read, has gone on by what was spent
    already. -/
theorem Spent.sleep {start limit time time' : ℚ} {interval : JsNumber} {n : Nat}
    (h : Spent start limit interval n time) (hpos : 0 < interval)
    (hcheck : (JsNum.add (some (.finite limit)) start).lt (JsNum.add (some interval) time) = false)
    (hslept : ∀ ms, interval = .finite ms → time + ms ≤ time') :
    Spent start limit interval (n + 1) time' := by
  cases interval with
  | infinity negative =>
      cases negative
      · -- A sleep without end would end after any limit.
        exact absurd hcheck (by simp only [JsNum.add, JsNum.lt, Bool.not_false, Bool.true_eq_false,
          not_false_eq_true])
      · exact absurd hpos (JsNumber.infinity_lt 0).not_gt
  | finite q =>
      rw [JsNum.add, JsNum.add, JsNum.lt, decide_eq_false_iff_not, not_lt] at hcheck
      have hslept := hslept q rfl
      obtain ⟨p, hp, hspent⟩ := h
      -- All the intervals before were of the same length.
      have hsame : n * p = n * q := by
        rcases hp with rfl | ⟨hq, -⟩
        · rw [Nat.cast_zero, zero_mul, zero_mul]
        · rw [JsNumber.finite.inj hq]
      rw [hsame] at hspent
      refine ⟨q, .inr ⟨rfl, ?_⟩, ?_⟩
      · push_cast
        linarith
      · push_cast
        linarith

/-- There is only so much to be spent. -/
theorem Spent.lt {start limit time : ℚ} {interval : JsNumber} {n : Nat}
    (h : Spent start limit interval n time) (hpos : 0 < interval) :
    n < pollsAllowed limit interval := by
  obtain ⟨q, rfl | ⟨rfl, hn⟩, -⟩ := h
  · cases interval with
    | finite q => exact Nat.succ_pos _
    | infinity negative => exact Nat.one_pos
  · have hq : 0 < q := by
      have hzero : (0 : JsNumber) = .finite 0 := congrArg JsNumber.finite Nat.cast_zero
      rwa [hzero, JsNumber.finite_lt] at hpos
    have hfloor : (n : Int) ≤ ⌊limit / q⌋ := by
      rw [Int.le_floor, le_div_iff₀ hq]
      exact_mod_cast hn
    rw [pollsAllowed]
    omega

/-- Between two rounds, after `n` of them. -/
structure Polling (options : WaitOptions) (start : ℚ) (n : Nat) (tr : List WaitEvent) :
    Prop where
  opened : ∃ mid, tr = ⟨.now, .ok start⟩ :: mid
  waiting : ∀ status ∈ statuses tr, SaysNothing status
  polled : polls tr = n
  length : tr.length = 3 * n + 1
  spent : ∀ limit interval, options.interval = some interval → 0 < interval →
    ∀ time, WithinLimit options limit tr time → Spent start limit interval n time

/-- What the function calls, and when: the reader as long as there is time, and a
    sleep that ends in time. -/
structure CalledInTime (options : WaitOptions) (tr : List WaitEvent) (o : WaitOp) : Prop where
  waiting : ∀ status ∈ statuses tr, SaysNothing status
  poll : ∀ hash, o = .getStatus hash → tr.length ≤ 3 * polls tr + 1 ∧
    ∀ limit interval, options.interval = some interval → 0 < interval →
      ∀ time, WithinLimit options limit tr time → polls tr < pollsAllowed limit interval
  other : (∀ hash, o ≠ .getStatus hash) → tr.length ≤ 3 * polls tr
  sleep : ∀ ms, o = .sleep ms → SumsExact options tr → EndsInTime options tr ms

section Rounds

variable {options : WaitOptions} {hash : JsString} {start : ℚ} {n rounds : Nat}
  {tr : List WaitEvent}

/-- After a round that has slept. -/
theorem Polling.next (h : Polling options start n tr) {status : Except WaitError TxStatus}
    (hstatus : SaysNothing status) {time : ℚ} {u : Unit}
    (hcheck : (options.deadline start).lt (options.wake time) = false) :
    Polling options start (n + 1) (tr ++ [⟨.getStatus hash, status⟩] ++ [⟨.now, .ok time⟩] ++
      [⟨.sleep options.interval, .ok u⟩]) := by
  have hstatuses : statuses (tr ++ [⟨.getStatus hash, status⟩] ++ [⟨.now, .ok time⟩] ++
      [⟨.sleep options.interval, .ok u⟩]) = statuses tr ++ [status] := by
    rw [statuses_sleep, statuses_now, statuses_poll]
  obtain ⟨mid, hmid⟩ := h.opened
  refine ⟨⟨mid ++ [⟨.getStatus hash, status⟩] ++ [⟨.now, .ok time⟩] ++
    [⟨.sleep options.interval, .ok u⟩], by rw [hmid]; rfl⟩, ?_, ?_, ?_, ?_⟩
  · rw [hstatuses, List.forall_mem_append, List.forall_mem_singleton]
    exact ⟨h.waiting, hstatus⟩
  · rw [polls, hstatuses, List.length_append, List.length_singleton, ← polls, h.polled]
  · simp only [List.length_append, List.length_singleton, h.length]
    omega
  · intro limit interval hinterval hpos t hlimited
    -- The check before the sleep was passed, so it ends within the limit.
    have hcheck : (JsNum.add (some (.finite limit)) start).lt (options.interval.add time) =
        false := by
      subst hmid
      exact hlimited.check start _ rfl time (by simp) hcheck
    rw [hinterval] at hlimited hcheck
    obtain ⟨⟨t₀, hlimited₀, hle⟩, hslept⟩ := hlimited.sleep
    obtain ⟨q, hq, hspent⟩ := h.spent limit interval hinterval hpos t₀ hlimited₀
    exact Spent.sleep ⟨q, hq, hspent.trans hle⟩ hpos hcheck hslept

/-- The reader is asked no more often than there is time for, and besides it twice
    in each round at most. -/
def InTime (options : WaitOptions) (tr : List WaitEvent) : Prop :=
  tr.length ≤ 3 * polls tr + 1 ∧
    ∀ limit interval, options.interval = some interval → 0 < interval →
      ∀ time, WithinLimit options limit tr time → polls tr ≤ pollsAllowed limit interval

/-- A call in time keeps the trace so. -/
theorem InTime.call {o : WaitOp} (r : Except WaitError o.Result) (h : InTime options tr)
    (hcall : CalledInTime options tr o) : InTime options (tr ++ [⟨o, r⟩]) := by
  obtain ⟨-, htime⟩ := h
  by_cases hpoll : ∃ hash, o = .getStatus hash
  · obtain ⟨hash, rfl⟩ := hpoll
    obtain ⟨hlength, hlt⟩ := hcall.poll hash rfl
    -- One more poll, for which there was time.
    have hpolls : polls (tr ++ [⟨.getStatus hash, r⟩]) = polls tr + 1 := by
      rw [polls, statuses_poll, List.length_append, List.length_singleton, ← polls]
    refine ⟨?_, ?_⟩
    · rw [hpolls, List.length_append, List.length_singleton]
      omega
    · intro limit interval hinterval hpos t hlimited
      obtain ⟨t₀, hlimited₀, -⟩ := hlimited.concat
      rw [hpolls]
      exact hlt limit interval hinterval hpos t₀ hlimited₀
  · have hlength := hcall.other (fun hash heq => hpoll ⟨hash, heq⟩)
    -- Any other call is one of the two between polls.
    have hpolls : polls (tr ++ [⟨o, r⟩]) = polls tr := by
      cases o with
      | now => rw [polls, statuses_now, ← polls]
      | getStatus hash => exact absurd ⟨hash, rfl⟩ hpoll
      | sleep ms => rw [polls, statuses_sleep, ← polls]
    refine ⟨?_, ?_⟩
    · rw [hpolls, List.length_append, List.length_singleton]
      exact Nat.succ_le_succ hlength
    · intro limit interval hinterval hpos t hlimited
      obtain ⟨t₀, hlimited₀, -⟩ := hlimited.concat
      rw [hpolls]
      exact htime limit interval hinterval hpos t₀ hlimited₀

end Rounds

/-- The answers of a clock at a time, and of a reader. -/
def answer (time : ℚ) (status : Except WaitError TxStatus) :
    (o : WaitOp) → Except WaitError o.Result
  | .now => .ok time
  | .getStatus _ => status
  | .sleep _ => .ok ()

end Payments

end VellarSdk
