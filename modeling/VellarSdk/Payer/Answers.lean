import VellarSdk.Payer.Guarantees

/-!
# What the Payer Answers

The answers of `quote` and `pay`, by the responses on the trace of the call. A
quote is a function of the first response and of the ledger. A payment returns
exactly when a body was read: that of a resource that asked for nothing, or the
one behind a confirmed settlement.

## Main definitions

* `Challenged`: A response that a quote can price.
* `pricedOption`: The option a quote would pay, or why there is none.
* `QuoteAnswer`: The answers of a quote.
* `thrown`: The errors that the environment threw.
* `bodiesRead`: The bodies that were read, with their responses.
* `PayAnswer`: The answers of a payment.

## Theorems

* `quote_answers`: Every quote gives one of its answers.
* `pay_answers`: So does every payment.
-/

namespace VellarSdk

namespace Payer

open Js X402 Async

/-- A response with a challenge that a quote can price: every option it lists
    can be described. -/
structure Challenged (d : PayerDeps) (first : Response) (challenge : JsValue) : Prop where
  status : first.status = 402
  decoded : challengeOf d.parse first = .ok challenge
  offered : ∃ accepts offered, acceptsOf challenge = .ok accepts ∧
    accepts.mapM describeOption = .ok offered

/-- The option a quote would pay, its price, and what is left of the ceiling of
    its asset. -/
def pricedOption (d : PayerDeps) (l : SpendLedger) (challenge : JsValue) :
    Except JsError (JsValue × Int × Int) := do
  let cleared ← clearOneOption d.config challenge noPriceLimit
  let remaining ← l.remainingFor (cleared.1.field "asset")
  return (cleared.1, cleared.2, remaining)

/-- The answers of a quote, by the first response of its trace. -/
inductive QuoteAnswer (d : PayerDeps) (l : SpendLedger) (tr : List PayEvent) :
    Except JsError QuoteResult → Prop where
  /-- There is nothing to price. -/
  | failed (err : JsError)
      (h : ∀ first challenge, firstResponse tr = some first → ¬ Challenged d first challenge) :
      QuoteAnswer d l tr (.error err)
  | free (first : Response) (result : QuoteResult) (hfirst : firstResponse tr = some first)
      (hstatus : first.status ≠ 402) (hpay : result.requiresPayment = false)
      (hresource : result.resource = none) : QuoteAnswer d l tr (.ok result)
  /-- No option can be paid, and the answer says why. -/
  | refused (first : Response) (challenge : JsValue) (err : JsError) (result : QuoteResult)
      (hfirst : firstResponse tr = some first) (h : Challenged d first challenge)
      (hpriced : pricedOption d l challenge = .error err) (hpay : result.requiresPayment = true)
      (hresource : result.resource = resourceOf challenge) (hselected : result.selected = none)
      (hremaining : result.sessionRemaining = none) (hrefusal : result.refusal = some err.message) :
      QuoteAnswer d l tr (.ok result)
  | priced (first : Response) (challenge chosen : JsValue) (amount remaining : Int)
      (selected : QuotedOption) (result : QuoteResult) (hfirst : firstResponse tr = some first)
      (h : Challenged d first challenge)
      (hpriced : pricedOption d l challenge = .ok (chosen, amount, remaining))
      (hpay : result.requiresPayment = true) (hresource : result.resource = resourceOf challenge)
      (hdescribed : describeOption chosen = .ok selected)
      (hselected : result.selected = some selected)
      (hremaining : result.sessionRemaining = some (intToString remaining))
      (hrefusal : overCeilingRefusal amount remaining (chosen.field "asset") = .ok result.refusal) :
      QuoteAnswer d l tr (.ok result)

/-- What a call of the environment threw. Discarding a body is no such call: what it
    throws is ignored. -/
def thrownBy : PayEvent → Option JsError
  | ⟨.fetch _ _, .error err⟩ | ⟨.signPayment _, .error err⟩ | ⟨.arrayBuffer _, .error err⟩ =>
      some err
  | _ => none

/-- The errors that the environment threw on a trace. -/
def thrown (tr : List PayEvent) : List JsError :=
  tr.filterMap thrownBy

@[simp] theorem thrown_append (tr tr' : List PayEvent) :
    thrown (tr ++ tr') = thrown tr ++ thrown tr' :=
  List.filterMap_append

/-- No condition on the calls. -/
abbrev AnyCall : List PayEvent → SpendLedger → PayOp → Prop :=
  fun _ _ _ => True

section Quotes

variable {d : PayerDeps} {l : SpendLedger}

/-- An option that passes the filters can be described. -/
theorem describeOption_of_eligible {allowedAssets : Option (List JsString)} {ourCaip2 : JsString}
    {a : JsValue} (h : Eligible allowedAssets ourCaip2 a) :
    ∃ selected, describeOption a = .ok selected := by
  refine ⟨_, if_neg ?_⟩
  rw [h.readable]
  exact Bool.false_ne_true

/-- Options can be described when they can be read. -/
theorem describeOptions_isOk {accepts : List JsValue} :
    (∃ offered, (accepts.mapM describeOption : Except JsError _) = .ok offered) ↔
      ∀ a ∈ accepts, a.nullish = false := by
  induction accepts with
  | nil => exact iff_of_true ⟨[], rfl⟩ (fun a ha => absurd ha List.not_mem_nil)
  | cons a rest ih =>
      rw [List.forall_mem_cons, ← ih, List.mapM_cons]
      by_cases hnullish : a.nullish = true
      · rw [describeOption, if_pos hnullish, hnullish]
        refine iff_of_false ?_ (fun h => absurd h.1 (by simp only [Bool.true_eq_false,
          not_false_eq_true]))
        rintro ⟨offered, h⟩
        exact absurd h (by simp only [throwTypeError, bind, Except.bind, reduceCtorEq,
          not_false_eq_true])
      · rw [describeOption, if_neg hnullish]
        constructor
        · rintro ⟨offered, h⟩
          obtain ⟨described, -, h⟩ := bind_eq_ok.mp h
          obtain ⟨rest', hrest, -⟩ := bind_eq_ok.mp h
          exact ⟨Bool.eq_false_iff.mpr hnullish, rest', hrest⟩
        · rintro ⟨-, offered, hoffered⟩
          exact ⟨_, bind_eq_ok.mpr ⟨_, rfl, bind_eq_ok.mpr ⟨offered, hoffered, rfl⟩⟩⟩

/-- The price of a cleared option, or why it has none. -/
theorem quoteCleared_sat {Q : List PayEvent → SpendLedger → Except JsError QuoteResult → Prop}
    {base : QuoteResult} {challenge : JsValue} {tr : List PayEvent}
    (herror : ∀ rest err, thrown rest = [] → pricedOption d l challenge = .error err →
      Q (tr ++ rest) l (.error err))
    (hok : ∀ rest chosen amount remaining selected refusal, thrown rest = [] →
      pricedOption d l challenge = .ok (chosen, amount, remaining) →
      describeOption chosen = .ok selected →
      overCeilingRefusal amount remaining (chosen.field "asset") = .ok refusal →
      Q (tr ++ rest) l (.ok { base with
        selected := some selected
        payable := amount ≤ remaining
        refusal := refusal
        sessionRemaining := some (intToString remaining) })) :
    Sat payHandler AnyCall Q (quoteCleared d base challenge) tr l := by
  unfold quoteCleared
  cases hcleared : clearOneOption d.config challenge noPriceLimit with
  | error err =>
      refine (sat_error_bind rfl _).mpr ?_
      rw [← List.append_nil tr]
      exact herror [] err rfl (by rw [pricedOption, hcleared]; rfl)
  | ok cleared =>
      refine (sat_ok_bind rfl _).mpr ?_
      have heligible := (clearOneOption_spec hcleared).eligible
      cases hremaining : l.remainingFor (cleared.1.field "asset") with
      | error err =>
          refine (sat_exec_bind_error rfl (by rw [hremaining]) _).mpr ⟨trivial, ?_⟩
          refine herror _ err rfl ?_
          simp only [pricedOption, hcleared, hremaining, bind, Except.bind]
      | ok remaining =>
          have hpriced : pricedOption d l challenge = .ok (cleared.1, cleared.2, remaining) := by
            simp only [pricedOption, hcleared, hremaining, bind, Except.bind, pure, Except.pure]
          refine (sat_remainingFor hremaining _).mpr ⟨trivial, ?_⟩
          -- Neither the description nor the refusal of an eligible option can throw.
          rcases describeOption_of_eligible heligible with ⟨selected, hselected⟩
          refine (sat_ok_bind hselected _).mpr ?_
          have hrefusal : ∃ refusal, overCeilingRefusal cleared.2 remaining
              (cleared.1.field "asset") = .ok refusal := by
            rcases heligible.allowed _ rfl with ⟨asset, -, hasset⟩
            rw [overCeilingRefusal, hasset]
            split
            · exact ⟨_, rfl⟩
            · exact ⟨_, rfl⟩
          rcases hrefusal with ⟨refusal, hrefusal⟩
          refine (sat_ok_bind hrefusal _).mpr ?_
          exact hok _ cleared.1 cleared.2 remaining selected refusal rfl hpriced hselected hrefusal

/-- Every quote gives one of its answers. -/
theorem quote_sat (d : PayerDeps) (url : JsString) (l : SpendLedger) :
    Sat payHandler AnyCall (fun tr _ r => QuoteAnswer d l tr r) (quote d url) [] l := by
  unfold quote
  refine (sat_doFetch _ _ _).mpr ⟨trivial, fun first => ?_, fun err => ?_⟩
  · by_cases hstatus : first.status ≠ 402
    · rw [if_pos hstatus]
      refine (sat_discardBody _ _).mpr ⟨trivial, fun r => ?_⟩
      exact QuoteAnswer.free first _ rfl hstatus rfl rfl
    rw [if_neg hstatus]
    have hstatus : first.status = 402 := by omega
    -- The first response is the one that was just received.
    have honly : ∀ challenge, challengeOf d.parse first = .ok challenge →
        ¬ (∃ accepts offered, acceptsOf challenge = .ok accepts ∧
          accepts.mapM describeOption = .ok offered) →
        ∀ first' challenge', some first = some first' → ¬ Challenged d first' challenge' := by
      rintro challenge hchallenge hnot first' challenge' h hc
      rw [← Option.some.inj h] at hc
      have heq := hc.decoded
      rw [hchallenge, Except.ok.injEq] at heq
      rw [heq] at hnot
      exact hnot hc.offered
    cases hchallenge : challengeOf d.parse first with
    | error err =>
        refine (sat_error_bind rfl _).mpr (QuoteAnswer.failed err ?_)
        rintro first' challenge' h hc
        have heq := hc.decoded
        rw [← Option.some.inj h, hchallenge] at heq
        exact absurd heq (by simp only [reduceCtorEq, not_false_eq_true])
    | ok challenge =>
    refine (sat_ok_bind rfl _).mpr ?_
    refine (sat_discardBody _ _).mpr ⟨trivial, fun r => ?_⟩
    cases haccepts : acceptsOf challenge with
    | error err =>
        refine (sat_error_bind rfl _).mpr (QuoteAnswer.failed err (honly _ hchallenge ?_))
        rintro ⟨accepts, offered, haccepts', -⟩
        rw [haccepts] at haccepts'
        exact absurd haccepts' (by simp only [reduceCtorEq, not_false_eq_true])
    | ok accepts =>
    refine (sat_ok_bind rfl _).mpr ?_
    cases hoffered : accepts.mapM describeOption with
    | error err =>
        refine (sat_error_bind rfl _).mpr (QuoteAnswer.failed err (honly _ hchallenge ?_))
        rintro ⟨accepts', offered, haccepts', hoffered'⟩
        rw [haccepts, Except.ok.injEq] at haccepts'
        rw [← haccepts', hoffered] at hoffered'
        exact absurd hoffered' (by simp only [reduceCtorEq, not_false_eq_true])
    | ok offered =>
    refine (sat_ok_bind rfl _).mpr ?_
    have hc : Challenged d first challenge :=
      ⟨hstatus, hchallenge, accepts, offered, haccepts, hoffered⟩
    -- A refusal of the guards or of the ledger is an answer like any other.
    refine (sat_bind _ _ _ _).mpr ((sat_attempt _ _ _).mpr (quoteCleared_sat ?_ ?_))
    · intro rest err _ hpriced
      exact QuoteAnswer.refused first challenge err _ rfl hc hpriced rfl rfl rfl rfl rfl
    · intro rest chosen amount remaining selected refusal _ hpriced hselected hrefusal
      exact QuoteAnswer.priced first challenge chosen amount remaining selected _ rfl hc hpriced
        rfl rfl hselected rfl rfl hrefusal
  · refine QuoteAnswer.failed err (fun _ _ h => ?_)
    exact absurd h (by simp only [firstResponse, List.nil_append, reduceCtorEq, not_false_eq_true])

theorem quote_answers {url : JsString} {l' : SpendLedger} {tr : List PayEvent}
    {r : Except JsError QuoteResult} (h : Run payHandler (quote d url) l tr (.done r) l') :
    QuoteAnswer d l tr r :=
  (quote_sat d url l).at_done h

end Quotes

/-- The body that was read from a response. -/
def bodyRead : PayEvent → Option (Response × Bytes)
  | ⟨.arrayBuffer res, .ok bytes⟩ => some (res, bytes)
  | _ => none

/-- The bodies read on a trace. -/
def bodiesRead (tr : List PayEvent) : List (Response × Bytes) :=
  tr.filterMap bodyRead

/-- The answers of a payment, by the first response of its trace and the body
    that was read. -/
inductive PayAnswer (d : PayerDeps) (url maxAmount : JsString) (tr : List PayEvent) :
    Except JsError PayResult → Prop where
  | failed (err : JsError) (hread : bodiesRead tr = []) : PayAnswer d url maxAmount tr (.error err)
  | free (first : Response) (bytes : Bytes) (result : PayResult)
      (hfirst : firstResponse tr = some first) (hstatus : first.status ≠ 402)
      (hread : bodiesRead tr = [(first, bytes)]) (hpaid : result.paid = false)
      (hresource : result.resource = none)
      (hcontent : result.content = contentOf first bytes d.config.maxResponseBytes) :
      PayAnswer d url maxAmount tr (.ok result)
  /-- The settlement is confirmed, and its transaction is reported. -/
  | delivered (first res : Response) (o : Order) (bytes : Bytes) (tx payer : JsValue)
      (remaining : Int) (settlement : Settlement) (result : PayResult)
      (hfirst : firstResponse tr = some first) (hstatus : first.status = 402)
      (hopened : Opened d url maxAmount first o) (hread : bodiesRead tr = [(res, bytes)])
      (hclass : classifySettlement d.parse res = .ok (.settled tx payer))
      (hpaid : result.paid = true) (hsettlement : result.settlement = some settlement)
      (htransaction : settlement.transaction = tx) (hasset : settlement.asset = o.asset)
      (hamount : settlement.amount = intToString o.amount)
      (hnetwork : settlement.network = d.config.network)
      (hremaining : result.sessionRemaining = some (intToString remaining))
      (hresource : result.resource = resourceOf o.challenge)
      (hcontent : result.content = contentOf res bytes d.config.maxResponseBytes) :
      PayAnswer d url maxAmount tr (.ok result)

section Payments

variable {d : PayerDeps} {url maxAmount : JsString} {l : SpendLedger} {o : Order}
  {tr : List PayEvent}

theorem firstResponse_append {first : Response} (h : firstResponse tr = some first)
    (rest : List PayEvent) : firstResponse (tr ++ rest) = some first := by
  unfold firstResponse at h
  split at h
  · rw [← h]
    rfl
  · exact absurd h (by simp only [reduceCtorEq, not_false_eq_true])

/-- The transaction of a confirmed settlement reads as a hash. -/
theorem classify_settled_transaction {parse : JsonParse} {res : Response} {tx payer : JsValue}
    (h : classifySettlement parse res = .ok (.settled tx payer)) :
    ∃ text, tx.toStr = .ok text ∧ isTransactionHash text = true := by
  simp only [classifySettlement] at h
  generalize decodeSettleResponseHeader parse res = settle at h
  split at h
  · exact absurd h (by simp only [pure, Except.pure, Except.ok.injEq, reduceCtorEq,
      not_false_eq_true])
  split at h
  · exact absurd h (by simp only [pure, Except.pure, Except.ok.injEq, reduceCtorEq,
      not_false_eq_true])
  -- The transaction is written as a text and looked at, and only a hash is settled.
  rcases bind_eq_ok.mp h with ⟨text, htext, h⟩
  by_cases hhash : (!isTransactionHash text) = true
  · rw [if_pos hhash] at h
    split at h
    · exact absurd h (by simp only [pure, Except.pure, Except.ok.injEq, reduceCtorEq,
        not_false_eq_true])
    · exact absurd h (by simp only [pure, Except.pure, Except.ok.injEq, reduceCtorEq,
        not_false_eq_true])
  rw [if_neg hhash] at h
  split at h
  · exact absurd h (by simp only [pure, Except.pure, Except.ok.injEq, reduceCtorEq,
      not_false_eq_true])
  · simp only [pure, Except.pure, Except.ok.injEq, SettlementOutcome.settled.injEq] at h
    rw [← h.1]
    rw [Bool.not_eq_true', Bool.not_eq_false] at hhash
    exact ⟨text, liftM_eq_ok.mp htext, hhash⟩

/-- A trace in the middle of a payment: the order is open and within the
    ceiling, and no body was read yet. -/
structure Paying (d : PayerDeps) (url maxAmount : JsString) (l : SpendLedger) (o : Order)
    (tr : List PayEvent) : Prop where
  opened : ∃ first, firstResponse tr = some first ∧ first.status = 402 ∧
    Opened d url maxAmount first o
  unread : bodiesRead tr = []
  within : l.assertWithinCeiling o.asset o.amount = .ok ()

/-- Any call but the reading of a body leaves the payment where it is. -/
theorem Paying.snoc (h : Paying d url maxAmount l o tr) {e : PayEvent} (he : bodyRead e = none) :
    Paying d url maxAmount l o (tr ++ [e]) := by
  rcases h.opened with ⟨first, hfirst, hstatus, hopened⟩
  refine ⟨⟨first, firstResponse_append hfirst _, hstatus, hopened⟩, ?_, h.within⟩
  rw [bodiesRead, List.filterMap_append, ← bodiesRead, h.unread, List.filterMap_cons_none he]
  rfl

/-- Past a confirmed settlement the payment returns once the body is read. -/
theorem deliver_answers (h : Paying d url maxAmount l o tr) (attempt : Nat) {res : Response}
    {tx payer : JsValue} (hclass : classifySettlement d.parse res = .ok (.settled tx payer)) :
    Sat payHandler AnyCall (fun tr _ r => PayAnswer d url maxAmount tr r)
      (deliver d o attempt res tx payer) tr l := by
  rcases record_of_within h.within with ⟨l', hrec⟩
  rcases remainingFor_of_record hrec with ⟨n, hn⟩
  refine (sat_record hrec _).mpr ⟨trivial, ?_⟩
  have h := h.snoc (e := ⟨.record o.asset o.amount, .ok ()⟩) rfl
  refine (sat_readContent _ _ _).mpr ⟨trivial, fun bytes => ?_, fun err => ?_⟩
  · refine (sat_remainingFor hn _).mpr ⟨trivial, ?_⟩
    rcases h.opened with ⟨first, hfirst, hstatus, hopened⟩
    refine PayAnswer.delivered first res o bytes tx payer n _ _
      (firstResponse_append (firstResponse_append hfirst _) _) hstatus hopened ?_ hclass rfl rfl rfl
      rfl rfl rfl rfl rfl rfl
    rw [bodiesRead, List.filterMap_append, List.filterMap_append, ← bodiesRead, h.unread]
    rfl
  · exact PayAnswer.failed err (h.snoc rfl).unread

/-- The attempts end in an answer. The induction is on the attempts left; no
    body is read before the last of them. -/
theorem attemptLoop_answers (left : Nat) (lastReason : JsValue)
    (h : Paying d url maxAmount l o tr) :
    Sat payHandler AnyCall (fun tr _ r => PayAnswer d url maxAmount tr r)
      (attemptLoop d o left lastReason) tr l := by
  induction left generalizing lastReason tr with
  | zero =>
      -- No attempt is left.
      rcases throwSettlementFailed_eq PayResult maxAttempts lastReason with ⟨err, herr⟩
      rw [attemptLoop, herr]
      exact PayAnswer.failed err h.unread
  | succ left ih =>
      rw [attemptLoop]
      refine (sat_assertWithinCeiling h.within _).mpr ⟨trivial, ?_⟩
      have h := h.snoc (e := ⟨.assertWithinCeiling o.asset o.amount, .ok ()⟩) rfl
      refine (sat_signPayment _ _).mpr ⟨trivial, fun headers => ?_,
        fun err => PayAnswer.failed err (h.snoc rfl).unread⟩
      have h := h.snoc (e := ⟨.signPayment o.narrowed, .ok headers⟩) rfl
      refine (sat_doFetch _ _ _).mpr ⟨trivial, fun res => ?_,
        fun err => PayAnswer.failed err (h.snoc rfl).unread⟩
      have h := h.snoc (e := ⟨.fetch o.url (some headers), .ok res⟩) rfl
      -- Each way out of an attempt fails, goes on with one less, or delivers.
      by_cases hstatus : res.status = 402 ∨ res.status ≥ 400
      · rw [if_pos hstatus]
        refine (sat_discardBody _ _).mpr ⟨trivial, fun r => ?_⟩
        have h := h.snoc (e := ⟨.cancelBody res, r⟩) rfl
        by_cases hretry : isRetryableSettleFailure (decodeSettleResponseHeader d.parse res) = true
        · rw [if_pos hretry]
          exact ih _ h
        · rw [if_neg hretry]
          rcases rejectPaid_eq PayResult d.parse res with ⟨err, herr⟩
          rw [herr]
          exact PayAnswer.failed err h.unread
      · rw [if_neg hstatus, onSuccessStatus]
        cases hclass : classifySettlement d.parse res with
        | error err => exact (sat_error_bind rfl _).mpr (PayAnswer.failed err h.unread)
        | ok outcome =>
            refine (sat_ok_bind rfl _).mpr ?_
            cases outcome with
            | settled tx payer => exact deliver_answers h _ hclass
            | notSpent reason =>
                refine sat_lift_bind (fun text _ => ?_)
                  (fun err _ => PayAnswer.failed err h.unread)
                refine (sat_discardBody _ _).mpr ⟨trivial, fun r => ?_⟩
                exact ih _ (h.snoc rfl)
            | indeterminate reason raw =>
                -- The payment is debited although it may not have settled, and then fails.
                rcases record_of_within h.within with ⟨l', hrec⟩
                refine (sat_record hrec _).mpr ⟨trivial, ?_⟩
                have h := h.snoc (e := ⟨.record o.asset o.amount, .ok ()⟩) rfl
                refine (sat_discardBody _ _).mpr ⟨trivial, fun r => ?_⟩
                have h := h.snoc (e := ⟨.cancelBody res, r⟩) rfl
                rcases h.opened with ⟨first, -, -, hopened⟩
                rcases hopened.asset_str with ⟨asset, -, hasset⟩
                rcases throwIndeterminateSettlement_eq PayResult hasset
                  (classify_indeterminate_raw hclass) with ⟨err, herr, -⟩
                rw [herr]
                exact PayAnswer.failed err h.unread

/-- Every payment gives one of its answers. -/
theorem pay_answers_sat (d : PayerDeps) (url maxAmount : JsString) (l : SpendLedger) :
    Sat payHandler AnyCall (fun tr _ r => PayAnswer d url maxAmount tr r)
      (payExclusively d url maxAmount) [] l := by
  unfold payExclusively
  cases hceiling : parseAmount maxAmount with
  | error err => exact (sat_error_bind rfl _).mpr (PayAnswer.failed err rfl)
  | ok ceiling =>
  refine (sat_ok_bind rfl _).mpr ?_
  refine (sat_doFetch _ _ _).mpr ⟨trivial, fun first => ?_, fun err => PayAnswer.failed err rfl⟩
  by_cases hstatus : first.status ≠ 402
  · rw [if_pos hstatus]
    refine (sat_readContent _ _ _).mpr ⟨trivial, fun bytes => ?_, fun err => ?_⟩
    · exact PayAnswer.free first bytes _ rfl hstatus rfl rfl rfl rfl
    · exact PayAnswer.failed err rfl
  rw [if_neg hstatus]
  cases hchallenge : challengeOf d.parse first with
  | error err => exact (sat_error_bind rfl _).mpr (PayAnswer.failed err rfl)
  | ok challenge =>
  refine (sat_ok_bind rfl _).mpr ?_
  refine (sat_discardBody _ _).mpr ⟨trivial, fun r => ?_⟩
  cases hcleared : clearOneOption d.config challenge ceiling with
  | error err => exact (sat_error_bind rfl _).mpr (PayAnswer.failed err rfl)
  | ok cleared =>
  refine (sat_ok_bind rfl _).mpr ?_
  -- From here on an order is open, and the ledger has room for it or the payment fails.
  have hopened : Opened d url maxAmount first ⟨url, challenge, cleared.1, cleared.2⟩ :=
    ⟨rfl, hchallenge, ceiling, hceiling, hcleared⟩
  generalize ho : (⟨url, challenge, cleared.1, cleared.2⟩ : Order) = o at hopened ⊢
  cases hwithin : l.assertWithinCeiling o.asset o.amount with
  | error err =>
      exact (sat_assertWithinCeiling_error hwithin _).mpr ⟨trivial, PayAnswer.failed err rfl⟩
  | ok u =>
      refine (sat_assertWithinCeiling hwithin _).mpr ⟨trivial, ?_⟩
      exact attemptLoop_answers maxAttempts .undefined
        ⟨⟨first, rfl, by omega, hopened⟩, rfl, hwithin⟩

theorem pay_answers {l' : SpendLedger} {r : Except JsError PayResult}
    (h : Run payHandler (payExclusively d url maxAmount) l tr (.done r) l') :
    PayAnswer d url maxAmount tr r :=
  (pay_answers_sat d url maxAmount l).at_done h

end Payments

end Payer

end VellarSdk
