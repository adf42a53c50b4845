import VellarSdk.Payer.Payer

/-!
# The Course of a Payment

Everything one call of `pay` can do inside its critical section, as the shapes
its trace can have. A payment opens with an unpaid request, a cleared option and
a first check of the ceiling. Then come attempts that were retried, each with
evidence that nothing was spent, and then at most one more: the one whose
signing, sending or response ends the call.

`Stage` is the shape of the trace at each pending call, and `Outcome` its shape
at the end, together with the ledger. `pay_sat` says that a payment never leaves
these shapes, whatever the network and the signer do, and every property of a
payment is read off them.

## Main definitions

* `Opened`, `orderOf`: The order a challenge leads to.
* `Attempt`, `Order.history`: The retried attempts and the trace they leave.
* `History`, `Ready`: A trace after which another attempt may follow.
* `Stage`, `Outcome`: The shapes of a payment's trace.

## Theorems

* `loop_sat`: The attempts keep to the shapes.
* `pay_sat`: So does the whole critical section.
* `quote_neutral`: A quote neither signs, pays nor debits.
-/

namespace VellarSdk

namespace Payer

open Js X402 Async

/-- A call that neither signs, nor pays, nor debits. -/
def PayOp.Neutral : PayOp → Prop
  | .signPayment _ | .record _ _ | .fetch _ (some _) => False
  | .fetch _ none | .arrayBuffer _ | .cancelBody _ | .assertWithinCeiling _ _ |
    .remainingFor _ => True

/-- The order that the challenge in `first` leads to. -/
structure Opened (d : PayerDeps) (url maxAmount : JsString) (first : Response) (o : Order) :
    Prop where
  url : o.url = url
  challenge : challengeOf d.parse first = .ok o.challenge
  cleared : ∃ ceiling, parseAmount maxAmount = .ok ceiling ∧
    clearOneOption d.config o.challenge ceiling = .ok (o.chosen, o.amount)

/-- The order that the challenge in `first` leads to, computed. -/
def orderOf (d : PayerDeps) (url maxAmount : JsString) (first : Response) :
    Except JsError Order := do
  let challenge ← challengeOf d.parse first
  let ceiling ← parseAmount maxAmount
  let cleared ← clearOneOption d.config challenge ceiling
  return ⟨url, challenge, cleared.1, cleared.2⟩

theorem orderOf_eq_ok {d : PayerDeps} {url maxAmount : JsString} {first : Response} {o : Order} :
    orderOf d url maxAmount first = .ok o ↔ Opened d url maxAmount first o := by
  constructor
  · intro h
    rcases bind_eq_ok.mp h with ⟨challenge, hchallenge, h⟩
    rcases bind_eq_ok.mp h with ⟨ceiling, hceiling, h⟩
    rcases bind_eq_ok.mp h with ⟨cleared, hcleared, h⟩
    rw [← Except.ok.inj h]
    exact ⟨rfl, hchallenge, ceiling, hceiling, hcleared⟩
  · rintro ⟨rfl, hchallenge, ceiling, hceiling, hcleared⟩
    exact bind_eq_ok.mpr ⟨_, hchallenge, bind_eq_ok.mpr ⟨_, hceiling,
      bind_eq_ok.mpr ⟨_, hcleared, rfl⟩⟩⟩

theorem opened_unique {d : PayerDeps} {url maxAmount : JsString} {first : Response}
    {o o' : Order} (h : Opened d url maxAmount first o) (h' : Opened d url maxAmount first o') :
    o = o' :=
  Except.ok.inj ((orderOf_eq_ok.mpr h).symm.trans (orderOf_eq_ok.mpr h'))

/-- An attempt that got a response, and how discarding its body went. -/
structure Attempt where
  headers : Headers
  res : Response
  discarded : Except JsError Unit

namespace Order

/-- The trace before the first attempt. -/
def opening (o : Order) (first : Response) (discarded : Except JsError Unit) : List PayEvent :=
  [⟨.fetch o.url none, .ok first⟩, ⟨.cancelBody first, discarded⟩,
    ⟨.assertWithinCeiling o.asset o.amount, .ok ()⟩]

/-- The trace of an attempt up to its response. -/
def sent (o : Order) (headers : Headers) (res : Response) : List PayEvent :=
  [⟨.assertWithinCeiling o.asset o.amount, .ok ()⟩, ⟨.signPayment o.narrowed, .ok headers⟩,
    ⟨.fetch o.url (some headers), .ok res⟩]

/-- The trace of an attempt that was retried. -/
def retried (o : Order) (a : Attempt) : List PayEvent :=
  o.sent a.headers a.res ++ [⟨.cancelBody a.res, a.discarded⟩]

/-- The trace after the given retried attempts. -/
def history (o : Order) (first : Response) (discarded : Except JsError Unit)
    (retries : List Attempt) : List PayEvent :=
  o.opening first discarded ++ retries.flatMap o.retried

end Order

section Shapes

variable (d : PayerDeps) (url maxAmount : JsString) (l : SpendLedger)

/-- The trace of a payment that is ready for its next attempt: the order is
    open, it fits the ceiling, and every attempt so far failed with evidence
    that nothing was spent. -/
structure History (o : Order) (retries : List Attempt) (tr : List PayEvent) : Prop where
  opened : ∃ first discarded, Opened d url maxAmount first o ∧
    tr = o.history first discarded retries
  within : l.assertWithinCeiling o.asset o.amount = .ok ()
  notSpent : ∀ a ∈ retries, NonSpendEvidence d.parse a.res

/-- A history after which another attempt is still allowed. -/
def Ready (o : Order) (tr : List PayEvent) : Prop :=
  ∃ retries, History d url maxAmount l o retries tr ∧ retries.length < maxAttempts

/-- The trace and the ledger at each call of a payment. -/
inductive Stage : List PayEvent → SpendLedger → PayOp → Prop where
  /-- Before the first attempt. -/
  | early (tr : List PayEvent) (op : PayOp) (htr : ∀ e ∈ tr, e.op.Neutral) (hop : op.Neutral) :
      Stage tr l op
  | check (o : Order) (tr : List PayEvent) (h : Ready d url maxAmount l o tr) :
      Stage tr l (.assertWithinCeiling o.asset o.amount)
  | sign (o : Order) (tr : List PayEvent) (h : Ready d url maxAmount l o tr) :
      Stage (tr ++ [⟨.assertWithinCeiling o.asset o.amount, .ok ()⟩]) l (.signPayment o.narrowed)
  | send (o : Order) (tr : List PayEvent) (headers : Headers)
      (h : Ready d url maxAmount l o tr) :
      Stage (tr ++ [⟨.assertWithinCeiling o.asset o.amount, .ok ()⟩,
        ⟨.signPayment o.narrowed, .ok headers⟩]) l (.fetch o.url (some headers))
  /-- The body of a response that will be retried or refused. -/
  | discard (o : Order) (tr : List PayEvent) (headers : Headers) (res : Response)
      (h : Ready d url maxAmount l o tr) :
      Stage (tr ++ o.sent headers res) l (.cancelBody res)
  | debit (o : Order) (tr : List PayEvent) (headers : Headers) (res : Response)
      (h : Ready d url maxAmount l o tr) :
      Stage (tr ++ o.sent headers res) l (.record o.asset o.amount)
  /-- The calls left once the amount is debited. -/
  | late (o : Order) (tr rest : List PayEvent) (headers : Headers) (res : Response)
      (l' : SpendLedger) (op : PayOp) (h : Ready d url maxAmount l o tr)
      (hrec : l.record o.asset o.amount = .ok l') (hrest : ∀ e ∈ rest, e.op.Neutral)
      (hop : op.Neutral) :
      Stage (tr ++ o.sent headers res ++ ⟨.record o.asset o.amount, .ok ()⟩ :: rest) l' op

/-- The trace, the ledger and the result at the end of a payment. -/
inductive Outcome : List PayEvent → SpendLedger → Except JsError PayResult → Prop where
  /-- Nothing was signed: no payment was needed, or none was acceptable. -/
  | unpaid (tr : List PayEvent) (r : Except JsError PayResult) (htr : ∀ e ∈ tr, e.op.Neutral) :
      Outcome tr l r
  | unsigned (o : Order) (tr : List PayEvent) (e : JsError) (h : Ready d url maxAmount l o tr) :
      Outcome (tr ++ [⟨.assertWithinCeiling o.asset o.amount, .ok ()⟩,
        ⟨.signPayment o.narrowed, .error e⟩]) l (.error e)
  | unsent (o : Order) (tr : List PayEvent) (headers : Headers) (e : JsError)
      (h : Ready d url maxAmount l o tr) :
      Outcome (tr ++ [⟨.assertWithinCeiling o.asset o.amount, .ok ()⟩,
        ⟨.signPayment o.narrowed, .ok headers⟩, ⟨.fetch o.url (some headers), .error e⟩]) l
        (.error e)
  /-- The response has an error status and is not worth retrying. -/
  | rejected (o : Order) (tr : List PayEvent) (headers : Headers) (res : Response)
      (discarded : Except JsError Unit) (e : JsError) (h : Ready d url maxAmount l o tr)
      (hstatus : 400 ≤ res.status) :
      Outcome (tr ++ o.sent headers res ++ [⟨.cancelBody res, discarded⟩]) l (.error e)
  /-- Reading the settle result threw. -/
  | unreadable (o : Order) (tr : List PayEvent) (headers : Headers) (res : Response)
      (e : JsError) (h : Ready d url maxAmount l o tr)
      (hclass : ∀ tx payer, classifySettlement d.parse res ≠ .ok (.settled tx payer)) :
      Outcome (tr ++ o.sent headers res) l (.error e)
  | exhausted (o : Order) (retries : List Attempt) (tr : List PayEvent) (e : JsError)
      (h : History d url maxAmount l o retries tr) (hlen : retries.length = maxAttempts) :
      Outcome tr l (.error e)
  /-- The settlement is unknown: debited, and reported as such. -/
  | undetermined (o : Order) (tr : List PayEvent) (headers : Headers) (res : Response)
      (discarded : Except JsError Unit) (l' : SpendLedger) (e : JsError) (reason : JsString)
      (raw : JsValue) (h : Ready d url maxAmount l o tr)
      (hclass : classifySettlement d.parse res = .ok (.indeterminate reason raw))
      (hrec : l.record o.asset o.amount = .ok l') (he : e.isIndeterminate = true) :
      Outcome (tr ++ o.sent headers res ++
        [⟨.record o.asset o.amount, .ok ()⟩, ⟨.cancelBody res, discarded⟩]) l' (.error e)
  /-- Settled and debited, but the body could not be read. -/
  | lost (o : Order) (tr : List PayEvent) (headers : Headers) (res : Response)
      (l' : SpendLedger) (e : JsError) (tx payer : JsValue) (h : Ready d url maxAmount l o tr)
      (hstatus : res.status < 400)
      (hclass : classifySettlement d.parse res = .ok (.settled tx payer))
      (hrec : l.record o.asset o.amount = .ok l') :
      Outcome (tr ++ o.sent headers res ++
        [⟨.record o.asset o.amount, .ok ()⟩, ⟨.arrayBuffer res, .error e⟩]) l' (.error e)
  | delivered (o : Order) (tr : List PayEvent) (headers : Headers) (res : Response)
      (bytes : Bytes) (remaining : Int) (l' : SpendLedger) (result : PayResult)
      (tx payer : JsValue) (h : Ready d url maxAmount l o tr) (hstatus : res.status < 400)
      (hclass : classifySettlement d.parse res = .ok (.settled tx payer))
      (hrec : l.record o.asset o.amount = .ok l') :
      Outcome (tr ++ o.sent headers res ++ [⟨.record o.asset o.amount, .ok ()⟩,
        ⟨.arrayBuffer res, .ok bytes⟩, ⟨.remainingFor o.asset, .ok remaining⟩]) l' (.ok result)

end Shapes

section Rules

variable {α : Type} {C : List PayEvent → SpendLedger → PayOp → Prop}
  {Q : List PayEvent → SpendLedger → Except JsError α → Prop} {tr : List PayEvent}
  {l : SpendLedger}

theorem sat_doFetch (url : JsString) (headers : Option Headers) (f : Response → Pay α) :
    Sat payHandler C Q (doFetch url headers >>= f) tr l ↔ C tr l (.fetch url headers) ∧
      (∀ res, Sat payHandler C Q (f res) (tr ++ [⟨.fetch url headers, .ok res⟩]) l) ∧
      ∀ e, Q (tr ++ [⟨.fetch url headers, .error e⟩]) l (.error e) := by
  rw [doFetch, sat_await_bind rfl]

theorem sat_signPayment (challenge : JsValue) (f : Headers → Pay α) :
    Sat payHandler C Q (signPayment challenge >>= f) tr l ↔ C tr l (.signPayment challenge) ∧
      (∀ headers, Sat payHandler C Q (f headers)
        (tr ++ [⟨.signPayment challenge, .ok headers⟩]) l) ∧
      ∀ e, Q (tr ++ [⟨.signPayment challenge, .error e⟩]) l (.error e) := by
  rw [signPayment, sat_await_bind rfl]

/-- The check against the ceiling, when it passes. -/
theorem sat_assertWithinCeiling {asset : JsValue} {amount : Int}
    (h : l.assertWithinCeiling asset amount = .ok ()) (f : Unit → Pay α) :
    Sat payHandler C Q (assertWithinCeiling asset amount >>= f) tr l ↔
      C tr l (.assertWithinCeiling asset amount) ∧
      Sat payHandler C Q (f ()) (tr ++ [⟨.assertWithinCeiling asset amount, .ok ()⟩]) l := by
  rw [assertWithinCeiling, sat_exec_bind rfl (by rw [h])]

/-- The check against the ceiling, when it refuses. -/
theorem sat_assertWithinCeiling_error {asset : JsValue} {amount : Int} {e : JsError}
    (h : l.assertWithinCeiling asset amount = .error e) (f : Unit → Pay α) :
    Sat payHandler C Q (assertWithinCeiling asset amount >>= f) tr l ↔
      C tr l (.assertWithinCeiling asset amount) ∧
      Q (tr ++ [⟨.assertWithinCeiling asset amount, .error e⟩]) l (.error e) := by
  rw [assertWithinCeiling, sat_exec_bind_error rfl (by rw [h])]

/-- A debit. -/
theorem sat_record {asset : JsValue} {amount : Int} {l' : SpendLedger}
    (h : l.record asset amount = .ok l') (f : Unit → Pay α) :
    Sat payHandler C Q (record asset amount >>= f) tr l ↔ C tr l (.record asset amount) ∧
      Sat payHandler C Q (f ()) (tr ++ [⟨.record asset amount, .ok ()⟩]) l' := by
  rw [record, sat_exec_bind rfl (show _ = (Except.ok (), l') by simp only [h])]

theorem sat_remainingFor {asset : JsValue} {n : Int} (h : l.remainingFor asset = .ok n)
    (f : Int → Pay α) :
    Sat payHandler C Q (remainingFor asset >>= f) tr l ↔ C tr l (.remainingFor asset) ∧
      Sat payHandler C Q (f n) (tr ++ [⟨.remainingFor asset, .ok n⟩]) l := by
  rw [remainingFor, sat_exec_bind rfl (by rw [h])]

/-- Discarding a body goes on whatever happens. -/
theorem sat_discardBody (res : Response) (f : Unit → Pay α) :
    Sat payHandler C Q (discardBody res >>= f) tr l ↔ C tr l (.cancelBody res) ∧
      ∀ r, Sat payHandler C Q (f ()) (tr ++ [⟨.cancelBody res, r⟩]) l := by
  -- The `catch` is empty, so both replies continue the same way.
  rw [sat_bind, discardBody, sat_attempt_bind rfl]
  exact Iff.rfl

/-- Reading a body returns its content or throws. -/
theorem sat_readContent (res : Response) (maxBytes : Nat) (f : ResourceContent → Pay α) :
    Sat payHandler C Q (readContent res maxBytes >>= f) tr l ↔ C tr l (.arrayBuffer res) ∧
      (∀ bytes, Sat payHandler C Q (f (contentOf res bytes maxBytes))
        (tr ++ [⟨.arrayBuffer res, .ok bytes⟩]) l) ∧
      ∀ e, Q (tr ++ [⟨.arrayBuffer res, .error e⟩]) l (.error e) := by
  rw [sat_bind, readContent, sat_await_bind rfl]
  exact Iff.rfl

end Rules

/-- The error of an exhausted payment is always raised. -/
theorem throwSettlementFailed_eq (α : Type) (n : Nat) (lastReason : JsValue) :
    ∃ e, (throwSettlementFailed n lastReason : Except JsError α) = .error e := by
  cases h : (throwSettlementFailed n lastReason : Except JsError α) with
  | error e => exact ⟨e, rfl⟩
  | ok a =>
      rcases bind_eq_ok.mp h with ⟨_, -, h⟩
      exact absurd h (by simp only [reduceCtorEq, not_false_eq_true])

theorem rejectPaid_eq (α : Type) (parse : JsonParse) (res : Response) :
    ∃ e, (rejectPaid parse res : Except JsError α) = .error e := by
  cases h : (rejectPaid parse res : Except JsError α) with
  | error e => exact ⟨e, rfl⟩
  | ok a =>
      rcases bind_eq_ok.mp h with ⟨_, -, h⟩
      rcases bind_eq_ok.mp h with ⟨_, -, h⟩
      exact absurd h (by simp only [throwPaymentRejected, reduceCtorEq, not_false_eq_true])

/-- The raw transaction of an unknown settlement has a text. -/
theorem classify_indeterminate_raw {parse : JsonParse} {res : Response} {reason : JsString}
    {raw : JsValue} (h : classifySettlement parse res = .ok (.indeterminate reason raw)) :
    raw = .undefined ∨ ∃ text, raw.toStr = .ok text := by
  -- Only the branches past the conversion of the transaction carry it, and it succeeded there.
  simp only [classifySettlement] at h
  generalize decodeSettleResponseHeader parse res = settle at h
  split at h
  · simp only [pure, Except.pure, Except.ok.injEq, SettlementOutcome.indeterminate.injEq] at h
    exact Or.inl h.2.symm
  split at h
  · exact absurd h (by simp only [pure, Except.pure, Except.ok.injEq, reduceCtorEq,
      not_false_eq_true])
  rcases bind_eq_ok.mp h with ⟨text, htext, h⟩
  have hraw := liftM_eq_ok.mp htext
  split at h
  · split at h
    · simp only [pure, Except.pure, Except.ok.injEq, SettlementOutcome.indeterminate.injEq] at h
      exact Or.inl h.2.symm
    · simp only [pure, Except.pure, Except.ok.injEq, SettlementOutcome.indeterminate.injEq] at h
      rw [← h.2]
      exact Or.inr ⟨text, hraw⟩
  · split at h
    · simp only [pure, Except.pure, Except.ok.injEq, SettlementOutcome.indeterminate.injEq] at h
      rw [← h.2]
      exact Or.inr ⟨text, hraw⟩
    · exact absurd h (by simp only [pure, Except.pure, Except.ok.injEq, reduceCtorEq,
        not_false_eq_true])

/-- An unknown settlement of a string asset is reported as such, with no
    conversion failing on the way. -/
theorem throwIndeterminateSettlement_eq (α : Type) {reason name : JsString} {asset : JsValue}
    {amount : Int} {raw : JsValue} (hasset : asset = .str name)
    (h : raw = .undefined ∨ ∃ text, raw.toStr = .ok text) :
    ∃ e, (throwIndeterminateSettlement reason asset amount raw : Except JsError α) = .error e ∧
      e.isIndeterminate = true := by
  subst hasset
  unfold throwIndeterminateSettlement
  rcases h with rfl | ⟨text, htext⟩
  · exact ⟨_, rfl, rfl⟩
  · by_cases ht : raw.truthy = true
    · rw [whenTruthy, if_pos ht, htext]
      exact ⟨_, rfl, rfl⟩
    · rw [whenTruthy, if_neg ht]
      exact ⟨_, rfl, rfl⟩

section Course

variable {d : PayerDeps} {url maxAmount : JsString} {l : SpendLedger} {o : Order}
  {tr : List PayEvent}

/-- A retried attempt extends the history. -/
theorem History.retry {retries : List Attempt} (h : History d url maxAmount l o retries tr)
    (a : Attempt) (ha : NonSpendEvidence d.parse a.res) :
    History d url maxAmount l o (retries ++ [a]) (tr ++ o.retried a) := by
  rcases h with ⟨⟨first, discarded, hopened, rfl⟩, hwithin, hnot⟩
  refine ⟨⟨first, discarded, hopened, ?_⟩, hwithin, ?_⟩
  · simp only [Order.history, List.flatMap_append, List.flatMap_singleton, List.append_assoc]
  · intro b hb
    rcases List.mem_append.mp hb with hb | hb
    · exact hnot b hb
    · rwa [List.mem_singleton.mp hb]

/-- The asset of an open order is a string, one of those configured. -/
theorem Opened.asset_str {first : Response} (h : Opened d url maxAmount first o) :
    ∃ asset ∈ d.config.allowedAssets, o.asset = .str asset := by
  rcases h.cleared with ⟨ceiling, -, hcleared⟩
  exact (clearOneOption_spec hcleared).eligible.allowed _ rfl

/-- What passed the check can be debited. -/
theorem record_of_within {asset : JsValue} {amount : Int}
    (h : l.assertWithinCeiling asset amount = .ok ()) :
    ∃ l', l.record asset amount = .ok l' := by
  rcases SpendLedger.assertWithinCeiling_eq_ok.mp h with ⟨c, hc, -⟩
  exact ⟨_, SpendLedger.record_eq_ok.mpr ⟨⟨c, hc⟩, rfl⟩⟩

/-- After a debit the rest of the ceiling can be asked for. -/
theorem remainingFor_of_record {l' : SpendLedger} {asset : JsValue} {amount : Int}
    (h : l.record asset amount = .ok l') : ∃ n, l'.remainingFor asset = .ok n := by
  rcases SpendLedger.record_eq_ok.mp h with ⟨⟨c, hc⟩, rfl⟩
  refine ⟨_, bind_eq_ok.mpr ⟨c, SpendLedger.ceilingFor_eq_ok.mpr hc, rfl⟩⟩

/-- Past a confirmed settlement the amount is debited, and the call returns
    unless the body is lost. -/
theorem deliver_sat (h : Ready d url maxAmount l o tr) (attempt : Nat) (headers : Headers)
    {res : Response} {tx payer : JsValue} (hstatus : res.status < 400)
    (hclass : classifySettlement d.parse res = .ok (.settled tx payer)) :
    Sat payHandler (Stage d url maxAmount l) (Outcome d url maxAmount l)
      (deliver d o attempt res tx payer) (tr ++ o.sent headers res) l := by
  have hready := h
  rcases h with ⟨retries, hhist, -⟩
  -- The asset has a ceiling, so neither ledger call can throw after the settlement.
  rcases record_of_within hhist.within with ⟨l', hrec⟩
  rcases remainingFor_of_record hrec with ⟨n, hn⟩
  refine (sat_record hrec _).mpr ⟨Stage.debit o tr headers res hready, ?_⟩
  refine (sat_readContent _ _ _).mpr ⟨?_, fun bytes => ?_, fun e => ?_⟩
  · exact Stage.late o tr [] headers res l' _ hready hrec
      (fun _ he => absurd he List.not_mem_nil) trivial
  · refine (sat_remainingFor hn _).mpr ⟨?_, ?_⟩
    · rw [List.append_assoc _ [_] [_]]
      refine Stage.late o tr [_] headers res l' _ hready hrec (fun e he => ?_) trivial
      rw [List.mem_singleton.mp he]
      trivial
    · rw [List.append_assoc _ [_] [_], List.append_assoc _ [_] (_ ++ _)]
      exact Outcome.delivered o tr headers res bytes n l' _ tx payer hready hstatus hclass hrec
  -- The body failed after the debit.
  · rw [List.append_assoc _ [_] [_]]
    exact Outcome.lost o tr headers res l' e tx payer hready hstatus hclass hrec

/-- An error status: retried on evidence that nothing was spent, refused
    otherwise. -/
theorem onErrorStatus_sat (h : Ready d url maxAmount l o tr) (attempt : Nat) (headers : Headers)
    {res : Response} (hstatus : 400 ≤ res.status) {continue_ : JsValue → Pay PayResult}
    (hcontinue : NonSpendEvidence d.parse res → ∀ r reason,
      Sat payHandler (Stage d url maxAmount l) (Outcome d url maxAmount l) (continue_ reason)
        (tr ++ o.sent headers res ++ [⟨.cancelBody res, r⟩]) l) :
    Sat payHandler (Stage d url maxAmount l) (Outcome d url maxAmount l)
      (onErrorStatus d attempt res continue_) (tr ++ o.sent headers res) l := by
  refine (sat_discardBody _ _).mpr ⟨Stage.discard o tr headers res h, fun r => ?_⟩
  -- Nothing here asks for a confirmed settlement, so one with an error status is refused.
  by_cases hretryable : isRetryableSettleFailure (decodeSettleResponseHeader d.parse res) = true
  · rw [if_pos hretryable]
    exact hcontinue ((isRetryable_iff _ _).mp hretryable) r _
  · rw [if_neg hretryable]
    rcases rejectPaid_eq PayResult d.parse res with ⟨e, he⟩
    rw [he]
    exact Outcome.rejected o tr headers res r e h hstatus

/-- Any other status, by what the response says about the settlement. -/
theorem onSuccessStatus_sat (h : Ready d url maxAmount l o tr) (attempt : Nat)
    (headers : Headers) {res : Response} (hstatus : res.status < 400)
    {continue_ : JsValue → Pay PayResult}
    (hcontinue : NonSpendEvidence d.parse res → ∀ r reason,
      Sat payHandler (Stage d url maxAmount l) (Outcome d url maxAmount l) (continue_ reason)
        (tr ++ o.sent headers res ++ [⟨.cancelBody res, r⟩]) l) :
    Sat payHandler (Stage d url maxAmount l) (Outcome d url maxAmount l)
      (onSuccessStatus d o attempt res continue_) (tr ++ o.sent headers res) l := by
  have hready := h
  rcases h with ⟨retries, hhist, hlen⟩
  unfold onSuccessStatus
  cases hclass : classifySettlement d.parse res with
  | error e =>
      refine (sat_error_bind rfl _).mpr (Outcome.unreadable o tr headers res e hready ?_)
      intro tx payer hc
      rw [hclass] at hc
      exact absurd hc (by simp only [reduceCtorEq, not_false_eq_true])
  | ok outcome =>
      refine (sat_ok_bind rfl _).mpr ?_
      cases outcome with
      -- Confirmed: the only branch that returns.
      | settled tx payer => exact deliver_sat hready _ headers hstatus hclass
      | notSpent reason =>
          -- Not spent: retried, once the reason has a text.
          have hnot := (classify_notSpent_iff d.parse res).mp ⟨reason, hclass⟩
          cases htext : (reason.toStr : Except JsError JsString) with
          | error e =>
              refine (sat_error_bind htext _).mpr (Outcome.unreadable o tr headers res e hready ?_)
              intro tx payer hc
              rw [hclass] at hc
              exact absurd hc (by simp only [Except.ok.injEq, reduceCtorEq, not_false_eq_true])
          | ok text =>
              refine (sat_ok_bind htext _).mpr ?_
              refine (sat_discardBody _ _).mpr ⟨Stage.discard o tr headers res hready, fun r => ?_⟩
              exact hcontinue hnot r _
      | indeterminate reason raw =>
          -- Unknown: debited all the same, and the error says so.
          rcases record_of_within hhist.within with ⟨l', hrec⟩
          rcases hhist.opened with ⟨first, _, hopened, -⟩
          rcases hopened.asset_str with ⟨asset, -, hasset⟩
          refine (sat_record hrec _).mpr ⟨Stage.debit o tr headers res hready, ?_⟩
          refine (sat_discardBody _ _).mpr ⟨?_, fun r => ?_⟩
          · exact Stage.late o tr [] headers res l' _ hready hrec
              (fun _ he => absurd he List.not_mem_nil) trivial
          · rcases throwIndeterminateSettlement_eq PayResult hasset
              (classify_indeterminate_raw hclass) with ⟨e, he, hind⟩
            rw [he, List.append_assoc _ [_] [_]]
            exact Outcome.undetermined o tr headers res r l' e reason raw hready hclass hrec hind

/-- The attempts keep to the shapes of a payment. The induction is on the
    attempts left; a retry moves one of them into the history. -/
theorem loop_sat (left : Nat) (lastReason : JsValue) (retries : List Attempt)
    (h : History d url maxAmount l o retries tr) (hlen : retries.length + left = maxAttempts) :
    Sat payHandler (Stage d url maxAmount l) (Outcome d url maxAmount l)
      (attemptLoop d o left lastReason) tr l := by
  induction left generalizing lastReason retries tr with
  | zero =>
      rcases throwSettlementFailed_eq PayResult maxAttempts lastReason with ⟨e, he⟩
      rw [attemptLoop, he]
      exact Outcome.exhausted o retries tr e h hlen
  | succ left ih =>
      -- One attempt is left, so fewer than all were used up.
      have hready : Ready d url maxAmount l o tr := ⟨retries, h, by omega⟩
      -- What a retry continues with, whichever branch asked for it.
      have hcontinue : ∀ headers res, NonSpendEvidence d.parse res → ∀ r reason,
          Sat payHandler (Stage d url maxAmount l) (Outcome d url maxAmount l)
            (attemptLoop d o left reason)
            (tr ++ o.sent headers res ++ [⟨.cancelBody res, r⟩]) l := by
        intro headers res hnot r reason
        rw [List.append_assoc]
        refine ih reason (retries ++ [⟨headers, res, r⟩]) (h.retry _ hnot) ?_
        rw [List.length_append, List.length_singleton]
        omega
      rw [attemptLoop]
      refine (sat_assertWithinCeiling h.within _).mpr ⟨Stage.check o tr hready, ?_⟩
      refine (sat_signPayment _ _).mpr ⟨Stage.sign o tr hready, fun headers => ?_, fun e => ?_⟩
      · rw [List.append_assoc tr [_] [_]]
        refine (sat_doFetch _ _ _).mpr ⟨Stage.send o tr headers hready, fun res => ?_, fun e => ?_⟩
        · rw [List.append_assoc tr _ [_]]
          change Sat _ _ _ _ (tr ++ o.sent headers res) l
          -- 402 is itself an error status; the source tests both.
          by_cases hstatus : res.status = 402 ∨ res.status ≥ 400
          · rw [if_pos hstatus]
            exact onErrorStatus_sat hready _ headers (by omega) (hcontinue headers res)
          · rw [if_neg hstatus]
            exact onSuccessStatus_sat hready _ headers (by omega) (hcontinue headers res)
        · rw [List.append_assoc]
          exact Outcome.unsent o tr headers e hready
      · rw [List.append_assoc]
        exact Outcome.unsigned o tr e hready

/-- One more neutral call. -/
theorem neutral_snoc {e : PayEvent} (htr : ∀ e ∈ tr, e.op.Neutral) (he : e.op.Neutral) :
    ∀ e' ∈ tr ++ [e], e'.op.Neutral := by
  intro e' he'
  rcases List.mem_append.mp he' with he' | he'
  · exact htr e' he'
  · rwa [List.mem_singleton.mp he']

/-- Every payment keeps to its shapes, whatever the network, the signer and
    the seller do. -/
theorem pay_sat (d : PayerDeps) (url maxAmount : JsString) (l : SpendLedger) :
    Sat payHandler (Stage d url maxAmount l) (Outcome d url maxAmount l)
      (payExclusively d url maxAmount) [] l := by
  have hnil : ∀ e ∈ ([] : List PayEvent), e.op.Neutral := fun _ he => absurd he List.not_mem_nil
  unfold payExclusively
  -- A maximum that is no number ends the call before the first request.
  cases hceiling : parseAmount maxAmount with
  | error e => exact (sat_error_bind rfl _).mpr (Outcome.unpaid [] _ hnil)
  | ok ceiling =>
  refine (sat_ok_bind rfl _).mpr ?_
  refine (sat_doFetch _ _ _).mpr ⟨Stage.early _ _ hnil trivial, fun first => ?_,
    fun e => Outcome.unpaid _ _ (neutral_snoc hnil trivial)⟩
  have hfirst := neutral_snoc (e := ⟨.fetch url none, .ok first⟩) hnil trivial
  -- No payment asked for: the content is returned, and nothing is signed.
  by_cases hstatus : first.status ≠ 402
  · rw [if_pos hstatus]
    refine (sat_readContent _ _ _).mpr ⟨Stage.early _ _ hfirst trivial, fun bytes => ?_,
      fun e => ?_⟩
    · exact Outcome.unpaid _ _ (neutral_snoc hfirst trivial)
    · exact Outcome.unpaid _ _ (neutral_snoc hfirst trivial)
  rw [if_neg hstatus]
  -- Every refusal from here to the first attempt ends in `unpaid`.
  cases hchallenge : challengeOf d.parse first with
  | error e => exact (sat_error_bind rfl _).mpr (Outcome.unpaid _ _ hfirst)
  | ok challenge =>
  refine (sat_ok_bind rfl _).mpr ?_
  refine (sat_discardBody _ _).mpr ⟨Stage.early _ _ hfirst trivial, fun r => ?_⟩
  have hdiscarded := neutral_snoc (e := ⟨.cancelBody first, r⟩) hfirst trivial
  cases hcleared : clearOneOption d.config challenge ceiling with
  | error e => exact (sat_error_bind rfl _).mpr (Outcome.unpaid _ _ hdiscarded)
  | ok cleared =>
  refine (sat_ok_bind rfl _).mpr ?_
  have hopened : Opened d url maxAmount first ⟨url, challenge, cleared.1, cleared.2⟩ :=
    ⟨rfl, hchallenge, ceiling, hceiling, hcleared⟩
  -- From here on only what `Opened` says about the order matters.
  generalize ho : (⟨url, challenge, cleared.1, cleared.2⟩ : Order) = o at hopened ⊢
  cases hwithin : l.assertWithinCeiling o.asset o.amount with
  | error e =>
      refine (sat_assertWithinCeiling_error hwithin _).mpr
        ⟨Stage.early _ _ hdiscarded trivial, ?_⟩
      exact Outcome.unpaid _ _ (neutral_snoc hdiscarded trivial)
  | ok u =>
      refine (sat_assertWithinCeiling hwithin _).mpr ⟨Stage.early _ _ hdiscarded trivial, ?_⟩
      refine loop_sat maxAttempts .undefined [] ⟨⟨first, r, hopened, ?_⟩, hwithin, ?_⟩ ?_
      · rw [Order.history, Order.opening, hopened.url]
        rfl
      · exact fun _ ha => absurd ha List.not_mem_nil
      · rfl

end Course

theorem discardBody_neutral (res : Response) : (discardBody res).OnlyCalls PayOp.Neutral :=
  onlyCalls_bind (onlyCalls_attempt (onlyCalls_perform trivial)) (fun _ => trivial)

/-- A quote neither signs, pays nor debits. -/
theorem quote_neutral (d : PayerDeps) (url : JsString) :
    (quote d url).OnlyCalls PayOp.Neutral := by
  refine onlyCalls_bind (onlyCalls_perform trivial) (fun res => ?_)
  by_cases hstatus : res.status ≠ 402
  · rw [if_pos hstatus]
    exact onlyCalls_bind (discardBody_neutral res) (fun _ => trivial)
  rw [if_neg hstatus]
  refine onlyCalls_bind trivial (fun challenge => ?_)
  refine onlyCalls_bind (discardBody_neutral res) (fun _ => ?_)
  refine onlyCalls_bind trivial (fun accepts => onlyCalls_bind trivial (fun offered => ?_))
  refine onlyCalls_bind (onlyCalls_attempt ?_) (fun answer => ?_)
  · -- The price is compared with what the ledger has left.
    refine onlyCalls_bind trivial (fun cleared => ?_)
    refine onlyCalls_bind (onlyCalls_perform trivial) (fun remaining => ?_)
    exact onlyCalls_bind trivial (fun selected => onlyCalls_bind trivial (fun refusal => trivial))
  · cases answer with
    | ok result => trivial
    | error e => trivial

/-- Neutral calls do not touch the ledger. -/
theorem neutral_keeps (op : PayOp) (f : SpendLedger → Except JsError op.Ret × SpendLedger)
    (l : SpendLedger) (h : op.Neutral) (hf : payHandler.exec op = some f) : (f l).2 = l := by
  cases op with
  | record asset amount => exact absurd h (by simp only [PayOp.Neutral, not_false_eq_true])
  | assertWithinCeiling asset amount =>
      rw [← Option.some.inj hf]
  | remainingFor asset =>
      rw [← Option.some.inj hf]
  | _ => exact absurd hf (by simp only [payHandler, reduceCtorEq, not_false_eq_true])

end Payer

end VellarSdk
