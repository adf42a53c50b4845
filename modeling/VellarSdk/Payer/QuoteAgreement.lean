import VellarSdk.Payer.Answers
import VellarSdk.Payer.Clearing
import VellarSdk.Payer.Concurrent

/-!
# Quotes and Payments

What a quote says about a payment. Both clear an option of the same challenge,
a quote with the price check switched off and a payment with the caller's maximum,
and both hold its price against the ledger, a quote against what is left of the
ceiling and a payment against the ceiling itself. On a ledger that is within its
ceilings these are one check, so what is quoted as payable is what is signed.

A quote speaks of the option the guards would choose. The guards compare base
units across assets, and give up when one amount does not parse, so a quote can
refuse a challenge that holds an option the payer could pay if it came alone.

## Main definitions

* `Asks`: A response with a challenge.
* `Quotes`, `Signs`: What a quote returns, and what a payment signs, after it.
* `PayableAlone`: An option that passes every check by itself.
* `ChoicePayable`: The option that the guards choose passes them.

## Theorems

* `quote_returns`, `quote_runs`: The quotes of a challenge.
* `signs_cleared`, `pay_runs`: The signatures after one.
* `quote_agrees_with_pay`: What is quoted as payable is what is signed.
* `quote_payable_iff`: What is quoted as payable is the choice of the guards.
* `quote_refuses_unpayable_iff`: When a refusal means that nothing is payable.
-/

namespace VellarSdk

namespace Payer

open Js X402 Async

/-- The response asks for a payment with this challenge. -/
structure Asks (d : PayerDeps) (first : Response) (challenge : JsValue) : Prop where
  status : first.status = 402
  decoded : challengeOf d.parse first = .ok challenge

/-- After this response a quote returns the result. -/
def Quotes (d : PayerDeps) (url : JsString) (l : SpendLedger) (first : Response)
    (result : QuoteResult) : Prop :=
  ∃ tr l', firstResponse tr = some first ∧ Run payHandler (quote d url) l tr (.done (.ok result)) l'

/-- After this response a payment has the signer sign the challenge, and what was
    checked last is that the amount is within its ceiling. -/
def Signs (d : PayerDeps) (url maxAmount : JsString) (l : SpendLedger) (first : Response)
    (c : JsValue) (amount : Int) : Prop :=
  ∃ tr asset k l', firstResponse tr = some first ∧
    Run payHandler (payExclusively d url maxAmount) l
      (tr ++ [⟨.assertWithinCeiling asset amount, .ok ()⟩]) (.call (.signPayment c) k) l'

section Composed

variable {α : Type} {l l' : SpendLedger} {tr : List PayEvent} {t : Pay α}

/-- A request that gets a response. -/
theorem run_doFetch {url : JsString} {headers : Option Headers} {f : Response → Pay α}
    (res : Response) (h : Run payHandler (f res) l tr t l') :
    Run payHandler (doFetch url headers >>= f) l (⟨.fetch url headers, .ok res⟩ :: tr) t l' :=
  run_await_bind (H := payHandler) (o := PayOp.fetch url headers) rfl res h

/-- A body that is discarded. -/
theorem run_discardBody {res : Response} {f : Unit → Pay α}
    (h : Run payHandler (f ()) l tr t l') :
    Run payHandler (discardBody res >>= f) l (⟨.cancelBody res, .ok ()⟩ :: tr) t l' := by
  have hcancel : Run payHandler (Task.perform (PayOp.cancelBody res)) l
      [⟨.cancelBody res, .ok ()⟩] (.done (.ok ())) l := by
    rw [Task.perform]
    exact Run.reply _ _ _ _ _ _ _ rfl (Run.refl _ l)
  have hdiscard : Run payHandler (discardBody res) l [⟨.cancelBody res, .ok ()⟩] (.done (.ok ())) l :=
    run_bind (run_attempt hcancel) (Run.refl _ l)
  exact run_bind hdiscard h

/-- A check of the ceiling that passes. -/
theorem run_assertWithinCeiling {asset : JsValue} {amount : Int} {f : Unit → Pay α}
    (hwithin : l.assertWithinCeiling asset amount = .ok ()) (h : Run payHandler (f ()) l tr t l') :
    Run payHandler (assertWithinCeiling asset amount >>= f) l
      (⟨.assertWithinCeiling asset amount, .ok ()⟩ :: tr) t l' :=
  run_exec_bind (H := payHandler) (o := PayOp.assertWithinCeiling asset amount) rfl (by rw [hwithin]) h

end Composed

section Quoted

variable {d : PayerDeps} {url : JsString} {l l' : SpendLedger} {first : Response}
  {challenge o : JsValue} {accepts : List JsValue} {result : QuoteResult} {tr : List PayEvent}
  {amount remaining : Int}

theorem pricedOption_ok_iff : pricedOption d l challenge = .ok (o, amount, remaining) ↔
    clearOneOption d.config challenge noPriceLimit = .ok (o, amount) ∧
      l.remainingFor (o.field "asset") = .ok remaining := by
  constructor
  · intro h
    obtain ⟨⟨chosen, price⟩, hcleared, h⟩ := bind_eq_ok.mp h
    obtain ⟨left, hleft, h⟩ := bind_eq_ok.mp h
    simp only [pure, Except.pure, Except.ok.injEq, Prod.mk.injEq] at h
    obtain ⟨rfl, rfl, rfl⟩ := h
    exact ⟨hcleared, hleft⟩
  · rintro ⟨hcleared, hremaining⟩
    simp only [pricedOption, hcleared, hremaining, bind, Except.bind, pure, Except.pure]

theorem describeOption_amount {selected : QuotedOption} (h : describeOption o = .ok selected) :
    selected.amount = o.field "amount" := by
  by_cases hnullish : o.nullish = true
  · rw [describeOption, if_pos hnullish] at h
    exact absurd h (by simp only [throwTypeError, reduceCtorEq, not_false_eq_true])
  · rw [describeOption, if_neg hnullish] at h
    rw [← Except.ok.inj h]

/-- What pricing a challenge comes to: the option the guards choose, with its price
    held against what is left, or a refusal. -/
def PricedAnswer (d : PayerDeps) (l : SpendLedger) (challenge : JsValue) :
    Except JsError QuoteResult → Prop
  | .ok result => ∃ chosen amount remaining selected,
      pricedOption d l challenge = .ok (chosen, amount, remaining) ∧
      describeOption chosen = .ok selected ∧ result.selected = some selected ∧
      (result.payable = true ↔ amount ≤ remaining)
  | .error err => pricedOption d l challenge = .error err

/-- What a quote returns for a challenge: the option the guards choose, with its
    price held against what is left, or a refusal. -/
theorem quote_returns (hasks : Asks d first challenge) (hquotes : Quotes d url l first result) :
    (∃ accepts, acceptsOf challenge = .ok accepts ∧ ∀ a ∈ accepts, a.nullish = false) ∧
    ((∃ chosen amount remaining selected,
      pricedOption d l challenge = .ok (chosen, amount, remaining) ∧
      describeOption chosen = .ok selected ∧ result.selected = some selected ∧
      (result.payable = true ↔ amount ≤ remaining)) ∨
    ((∃ err, pricedOption d l challenge = .error err) ∧ result.selected = none ∧
      result.payable = false)) := by
  obtain ⟨tr, l', hfirst, hquote⟩ := hquotes
  obtain ⟨first', tr', rfl, hrun⟩ := run_await_bind_ok rfl hquote
  obtain rfl : first' = first := Option.some.inj hfirst
  rw [if_neg (fun hne => hne hasks.status)] at hrun
  obtain ⟨challenge', hchallenge, hdecoded⟩ := run_lift_bind_ok hrun
  obtain rfl : challenge' = challenge := Except.ok.inj (hchallenge.symm.trans hasks.decoded)
  obtain ⟨_, l₁, tr₁, tr₂, hdiscard, hrest, rfl⟩ := run_bind_ok hdecoded
  obtain rfl : l₁ = l := onlyCalls_state neutral_keeps (discardBody_neutral first') hdiscard
  obtain ⟨accepts, haccepts, haccepted⟩ := run_lift_bind_ok hrest
  obtain ⟨offered, hdescribed, hoffered⟩ := run_lift_bind_ok haccepted
  obtain ⟨answer, l₂, tr₃, tr₄, hpriced, hlast, rfl⟩ := run_bind_ok hoffered
  refine ⟨⟨accepts, haccepts, describeOptions_isOk.mp ⟨offered, hdescribed⟩⟩, ?_⟩
  -- What the quote comes to is decided by the price.
  have hsat : ∀ base, Sat payHandler AnyCall (fun _ _ => PricedAnswer d l₁ challenge')
      (quoteCleared d base challenge') [] l₁ := fun base =>
    quoteCleared_sat (fun _ err _ h => h)
      (fun _ chosen amount remaining selected _ _ h hselected _ =>
        ⟨chosen, amount, remaining, selected, h, hselected, rfl, decide_eq_true_iff⟩)
  have hanswer := (hsat _).at_done (run_attempt_ok hpriced)
  cases answer with
  | ok answer =>
      obtain ⟨hresult, -⟩ := run_pure_ok hlast
      rw [hresult]
      exact .inl hanswer
  | error err =>
      obtain ⟨hresult, -⟩ := run_pure_ok hlast
      rw [hresult]
      exact .inr ⟨⟨err, hanswer⟩, rfl, rfl⟩

/-- There is a quote of a challenge that has a price. -/
theorem quote_runs (url : JsString) (hasks : Asks d first challenge)
    (hpriced : pricedOption d l challenge = .ok (o, amount, remaining)) :
    ∃ result, Quotes d url l first result := by
  obtain ⟨hcleared, hremaining⟩ := pricedOption_ok_iff.mp hpriced
  obtain ⟨accepts, i, haccepts, hread, hselects, rfl⟩ := clearOneOption_ok_iff.mp hcleared
  obtain ⟨offered, hoffered⟩ := describeOptions_isOk.mpr hread
  have heligible := (mem_payerOptions.mp hselects.cheapest.mem).2
  obtain ⟨selected, hselected⟩ := describeOption_of_eligible heligible
  -- Whether the session has room or not, the quote has something to say of it.
  obtain ⟨refusal, hrefusal⟩ : ∃ refusal, overCeilingRefusal (amountIn (o, i)) remaining
      (o.field "asset") = .ok refusal := by
    obtain ⟨asset, -, hasset⟩ := heligible.allowed _ rfl
    rw [overCeilingRefusal, hasset]
    split
    · exact ⟨_, rfl⟩
    · exact ⟨_, rfl⟩
  let quoted : QuoteResult :=
    { url := url, requiresPayment := true, offered := some offered, selected := some selected
      payable := amountIn (o, i) ≤ remaining, refusal := refusal
      sessionRemaining := some (intToString remaining), resource := resourceOf challenge
      status := first.status }
  have hpriced : Run payHandler (quoteCleared d { quoted with
        selected := none, payable := false, refusal := none, sessionRemaining := none } challenge)
      l [⟨.remainingFor (o.field "asset"), .ok remaining⟩] (.done (.ok quoted)) l := by
    rw [quoteCleared]
    refine run_lift_bind hcleared (run_exec_bind rfl (by rw [hremaining]) ?_)
    exact run_lift_bind hselected (run_lift_bind hrefusal (Run.refl _ l))
  -- The run: the request, the challenge, and what is left of the session.
  refine ⟨quoted, ⟨.fetch url none, .ok first⟩ :: ⟨.cancelBody first, .ok ()⟩ ::
    [⟨.remainingFor (o.field "asset"), .ok remaining⟩], l, rfl, ?_⟩
  refine run_doFetch first ?_
  rw [if_neg (fun hne => hne hasks.status)]
  refine run_lift_bind hasks.decoded (run_discardBody ?_)
  refine run_lift_bind haccepts (run_lift_bind hoffered ?_)
  exact run_bind (run_attempt hpriced) (Run.refl _ l)

end Quoted

/-- A challenge that came as a text. -/
theorem challengeOf_of_text {parse : JsonParse} {header text : JsString} {challenge : JsValue}
    (hheader : header.isEmpty = false) (htext : base64ToUtf8 header = .ok text)
    (hparse : parse text = .ok challenge) (hv2 : assertV2Challenge challenge = .ok challenge) :
    challengeOf parse { status := 402, headers := [(js "payment-required", header)] } =
      .ok challenge := by
  rw [challengeOf, decodePaymentRequired_of_text hheader htext hparse]
  exact hv2

section Signed

variable {d : PayerDeps} {url maxAmount : JsString} {l : SpendLedger} {first : Response}
  {challenge c o : JsValue} {amount ceiling : Int}

/-- A payment of an option that is cleared and within its ceiling gets to the
    signer. -/
theorem pay_runs (hasks : Asks d first challenge) (hmax : parseAmount maxAmount = .ok ceiling)
    (hcleared : clearOneOption d.config challenge ceiling = .ok (o, amount))
    (hwithin : l.assertWithinCeiling (o.field "asset") amount = .ok ()) :
    Signs d url maxAmount l first (narrowTo challenge o) amount := by
  let order : Order := ⟨url, challenge, o, amount⟩
  have hloop : ∃ k, Run payHandler (attemptLoop d order maxAttempts .undefined) l
      [⟨.assertWithinCeiling order.asset amount, .ok ()⟩]
      (.call (.signPayment order.narrowed) k) l := by
    rw [maxAttempts, attemptLoop]
    exact ⟨_, run_assertWithinCeiling hwithin (Run.refl _ l)⟩
  obtain ⟨k, hloop⟩ := hloop
  refine ⟨[⟨.fetch url none, .ok first⟩, ⟨.cancelBody first, .ok ()⟩,
    ⟨.assertWithinCeiling order.asset amount, .ok ()⟩], order.asset, k, l, rfl, ?_⟩
  refine run_lift_bind hmax (run_doFetch first ?_)
  rw [if_neg (fun hne => hne hasks.status)]
  refine run_lift_bind hasks.decoded (run_discardBody (run_lift_bind hcleared ?_))
  exact run_assertWithinCeiling hwithin hloop

/-- And no other option does. -/
theorem signs_cleared (hasks : Asks d first challenge) (hmax : parseAmount maxAmount = .ok ceiling)
    (h : Signs d url maxAmount l first c amount) :
    ∃ o, c = narrowTo challenge o ∧
      clearOneOption d.config challenge ceiling = .ok (o, amount) ∧
      l.assertWithinCeiling (o.field "asset") amount = .ok () := by
  obtain ⟨tr, asset, k, l', hfirst, hrun⟩ := h
  obtain ⟨o, tr', -, rfl, ⟨retries, hhist, -⟩, htrace⟩ :=
    stage_sign ((pay_sat d url maxAmount l).at_call hrun)
  obtain ⟨rfl, hchecked⟩ := List.append_inj' htrace rfl
  obtain ⟨first', discarded, hopened, rfl⟩ := hhist.opened
  obtain rfl : first' = first := Option.some.inj hfirst
  have hamount : amount = o.amount := by
    simp only [List.cons.injEq, Event.mk.injEq, PayOp.assertWithinCeiling.injEq, and_true] at hchecked
    exact hchecked.1.2
  have hchallenge : o.challenge = challenge :=
    Except.ok.inj (hopened.challenge.symm.trans hasks.decoded)
  obtain ⟨ceiling', hmax', hcleared⟩ := hopened.cleared
  obtain rfl : ceiling' = ceiling := Except.ok.inj (hmax'.symm.trans hmax)
  rw [hchallenge] at hcleared
  rw [hamount]
  exact ⟨o.chosen, by rw [Order.narrowed, hchallenge], hcleared, hhist.within⟩

end Signed

section Agreement

variable {d : PayerDeps} {ceilings : JsMap Int} {url maxAmount : JsString} {l : SpendLedger}
  {first firstPaid : Response} {challenge : JsValue}

/-- On a ledger that is within its ceilings the check of a payment is the check of
    a quote. What is left is never less than nothing, and what was spent is never
    more than the ceiling. -/
theorem within_iff_remaining (hwithin : WithinCeilings l)
    (hceilings : ∀ asset cap, l.ceilings.get asset = some cap → 0 ≤ cap) {asset : JsValue}
    {amount : Int} : l.assertWithinCeiling asset amount = .ok () ↔
      ∃ remaining, l.remainingFor asset = .ok remaining ∧ amount ≤ remaining := by
  rw [SpendLedger.assertWithinCeiling_eq_ok]
  constructor
  · rintro ⟨cap, hcap, hle⟩
    refine ⟨_, bind_eq_ok.mpr ⟨cap, SpendLedger.ceilingFor_eq_ok.mpr hcap, rfl⟩, ?_⟩
    split <;> omega
  · rintro ⟨remaining, hremaining, hle⟩
    obtain ⟨cap, hcap, hremaining⟩ := bind_eq_ok.mp hremaining
    have hcap := SpendLedger.ceilingFor_eq_ok.mp hcap
    have hspent := (within_spentFor hwithin asset).2 cap hcap (hceilings asset cap hcap)
    have hremaining := Except.ok.inj hremaining
    refine ⟨cap, hcap, ?_⟩
    split at hremaining <;> omega

/-- The payer's ledger, whatever happened to it. -/
theorem ledger_good {es : List PayerEvent} {p : PayerState}
    (h : (createPayer (createSpendLedger ceilings)).run d es = some p) :
    p.ledger.ceilings = ceilings ∧ WithinCeilings p.ledger :=
  (invariant_run (invariant_create d ceilings) h).guarded.good

/-- On any ledger the payer can have come to, a quote says that a resource is payable
    with an option whose price is within the maximum exactly when a payment gets to
    the signer, and then what is signed is that option, for that price. -/
theorem quote_agrees_with_pay (d : PayerDeps) (ceilings : JsMap Int)
    (hceilings : ∀ asset cap, ceilings.get asset = some cap → 0 ≤ cap) (es : List PayerEvent)
    (p : PayerState) (hreached : (createPayer (createSpendLedger ceilings)).run d es = some p)
    (url maxAmount : JsString) (ceiling : Int) (hmax : parseAmount maxAmount = .ok ceiling)
    (first firstPaid : Response) (challenge : JsValue) (hquoted : Asks d first challenge)
    (hpaid : Asks d firstPaid challenge) (hrange : ∀ accepts, acceptsOf challenge = .ok accepts →
      ∀ a ∈ accepts, ∀ amount, parseAmount (a.field "amount") = .ok amount →
        amount ≤ noPriceLimit) :
    ((∃ result selected amount, Quotes d url p.ledger first result ∧ result.payable = true ∧
        result.selected = some selected ∧ parseAmount selected.amount = .ok amount ∧
        amount ≤ ceiling) ↔
      ∃ c amount, Signs d url maxAmount p.ledger firstPaid c amount) ∧
    ∀ result c amount, Quotes d url p.ledger first result →
      Signs d url maxAmount p.ledger firstPaid c amount →
      ∃ o selected, clearOneOption d.config challenge noPriceLimit = .ok (o, amount) ∧
        describeOption o = .ok selected ∧ result.selected = some selected ∧
        result.payable = true ∧ c = narrowTo challenge o := by
  obtain ⟨hledger, hwithin⟩ := ledger_good hreached
  have hfits : ∀ asset amount, p.ledger.assertWithinCeiling asset amount = .ok () ↔
      ∃ remaining, p.ledger.remainingFor asset = .ok remaining ∧ amount ≤ remaining :=
    fun asset amount => within_iff_remaining hwithin (hledger ▸ hceilings)
  -- What is signed has a price, and the quote holds it against what is left.
  have hpriced : ∀ c amount, Signs d url maxAmount p.ledger firstPaid c amount →
      ∃ o remaining, c = narrowTo challenge o ∧
        pricedOption d p.ledger challenge = .ok (o, amount, remaining) ∧ amount ≤ remaining := by
    intro c amount hsigns
    obtain ⟨o, rfl, hcleared, hchecked⟩ := signs_cleared hpaid hmax hsigns
    obtain ⟨remaining, hremaining, hle⟩ := (hfits _ _).mp hchecked
    have hspec := clearOneOption_spec hcleared
    obtain ⟨accepts, haccepts, hmem⟩ := hspec.offered
    have hlimit := hrange accepts (acceptsOf_of_arr haccepts) o hmem amount hspec.parsed
    exact ⟨o, remaining, rfl,
      pricedOption_ok_iff.mpr ⟨clearOneOption_within hcleared hlimit, hremaining⟩, hle⟩
  have hsame : ∀ result c amount, Quotes d url p.ledger first result →
      Signs d url maxAmount p.ledger firstPaid c amount →
      ∃ o selected, clearOneOption d.config challenge noPriceLimit = .ok (o, amount) ∧
        describeOption o = .ok selected ∧ result.selected = some selected ∧
        result.payable = true ∧ c = narrowTo challenge o := by
    intro result c amount hquotes hsigns
    obtain ⟨o, remaining, hc, hpriced, hle⟩ := hpriced c amount hsigns
    rcases (quote_returns hquoted hquotes).2 with
      ⟨chosen, amount', remaining', selected, hpriced', hselected, hresult, hpayable⟩ |
        ⟨⟨err, hrefused⟩, -, -⟩
    · rw [hpriced, Except.ok.injEq, Prod.mk.injEq, Prod.mk.injEq] at hpriced'
      obtain ⟨rfl, rfl, rfl⟩ := hpriced'
      exact ⟨o, selected, (pricedOption_ok_iff.mp hpriced).1, hselected, hresult,
        hpayable.mpr hle, hc⟩
    · rw [hpriced] at hrefused
      exact absurd hrefused (by simp only [reduceCtorEq, not_false_eq_true])
  refine ⟨⟨?_, ?_⟩, hsame⟩
  · rintro ⟨result, selected, amount, hquotes, hpayable, hselected, hamount, hle⟩
    rcases (quote_returns hquoted hquotes).2 with
      ⟨chosen, amount', remaining, selected', hpriced, hdescribed, hresult, hiff⟩ | ⟨-, hnone, -⟩
    · obtain ⟨hcleared, hremaining⟩ := pricedOption_ok_iff.mp hpriced
      obtain rfl : selected' = selected := Option.some.inj (hresult.symm.trans hselected)
      rw [describeOption_amount hdescribed, (clearOneOption_spec hcleared).parsed, Except.ok.injEq] at hamount
      subst hamount
      exact ⟨_, amount', pay_runs hpaid hmax (clearOneOption_within hcleared hle)
        ((hfits _ _).mpr ⟨remaining, hremaining, hiff.mp hpayable⟩)⟩
    · rw [hnone] at hselected
      exact absurd hselected (by simp only [reduceCtorEq, not_false_eq_true])
  · rintro ⟨c, amount, hsigns⟩
    obtain ⟨o, remaining, -, hpriced, -⟩ := hpriced c amount hsigns
    obtain ⟨result, hquotes⟩ := quote_runs url hquoted hpriced
    obtain ⟨o', selected, hcleared, hdescribed, hselected, hpayable, -⟩ :=
      hsame result c amount hquotes hsigns
    obtain ⟨_, -, hpayable', -⟩ := signs_cleared hpaid hmax hsigns
    refine ⟨result, selected, amount, hquotes, hpayable, hselected, ?_,
      (clearOneOption_spec hpayable').affordable⟩
    rw [describeOption_amount hdescribed, (clearOneOption_spec hcleared).parsed]

/-- The sample challenge, as it is decoded. -/
theorem sample_asks : Asks sampleDeps sampleFirst sampleChallenge := by
  have htext : (base64ToUtf8 (btoa (TextEncoder.encode sampleChallengeText))).toOption.map id =
      some sampleChallengeText := by decide +kernel
  obtain ⟨text, htext, rfl⟩ := ok_of_toOption_map htext
  have hparse : sampleDeps.parse sampleChallengeText = .ok sampleChallenge := by
    simp only [sampleDeps, sampleParse, if_true]
  exact ⟨rfl, challengeOf_of_text rfl htext hparse rfl⟩

/-- A quote of the sample challenge by a new payer, and what is signed then. -/
theorem quote_agrees_with_pay_sample : ∃ result selected amount,
    Quotes sampleDeps "https://a" sampleLedger sampleFirst result ∧ result.payable = true ∧
      result.selected = some selected ∧ parseAmount selected.amount = .ok amount ∧
      amount ≤ 500 := by
  have hmax : parseAmount (js "500") = .ok 500 :=
    parseAmount_eq_ok.mpr ⟨js "500", rfl, by decide, by decide⟩
  -- There is one option, so it is the cheapest, and it can be paid.
  have hcleared : clearOneOption sampleDeps.config sampleChallenge 500 =
      .ok (offeredOption "CUSDC" "100", 100) := by
    refine clearOneOption_ok_iff.mpr ⟨[offeredOption "CUSDC" "100"], 0, rfl, ?_,
      ⟨?_, ⟨[], [], rfl, ?_, ?_⟩, by decide⟩, by decide⟩
    · intro a ha
      rw [List.mem_singleton.mp ha]
      rfl
    · intro a ha
      have hoptions : payerOptions sampleDeps.config [offeredOption "CUSDC" "100"] =
          [(offeredOption "CUSDC" "100", 0)] := rfl
      rw [hoptions] at ha
      rw [List.mem_singleton.mp ha]
      exact ⟨_, rfl, by decide⟩
    · exact fun a ha => absurd ha List.not_mem_nil
    · exact fun a ha => absurd ha List.not_mem_nil
  refine (quote_agrees_with_pay sampleDeps [(.str "CUSDC", 1000)] ?_ [] _ rfl "https://a" "500" 500
    hmax sampleFirst sampleFirst sampleChallenge sample_asks sample_asks ?_).1.mpr
      ⟨_, 100, pay_runs sample_asks hmax hcleared
        (SpendLedger.assertWithinCeiling_eq_ok.mpr ⟨1000, rfl, by decide⟩)⟩
  · intro asset cap hcap
    simp only [JsMap.get] at hcap
    split at hcap
    · rw [← Option.some.inj hcap]
      omega
    · exact absurd hcap (by simp only [reduceCtorEq, not_false_eq_true])
  · intro accepts haccepts a ha amount hamount
    obtain rfl : [offeredOption "CUSDC" "100"] = accepts := Except.ok.inj haccepts
    rw [List.mem_singleton.mp ha] at hamount
    have hparsed : parseAmount (js "100") = .ok 100 :=
      parseAmount_eq_ok.mpr ⟨js "100", rfl, by decide, by decide⟩
    rw [← Except.ok.inj (hparsed.symm.trans hamount), noPriceLimit]
    omega

end Agreement

section Choice

variable {d : PayerDeps} {url : JsString} {l : SpendLedger} {first : Response} {challenge : JsValue}
  {accepts : List JsValue} {result : QuoteResult}

/-- The option passes every filter, and its price fits what is left of the ceiling
    of its own asset. -/
structure PayableAlone (config : PayerConfig) (l : SpendLedger) (a : JsValue) : Prop where
  eligible : Eligible (some config.allowedAssets) config.caip2 a
  fits : ∃ amount remaining, parseAmount (a.field "amount") = .ok amount ∧
    l.remainingFor (a.field "asset") = .ok remaining ∧ amount ≤ remaining

/-- Every option that passes the filters has a price, and the first of the cheapest
    fits what is left of the ceiling of its asset. -/
structure ChoicePayable (config : PayerConfig) (l : SpendLedger) (accepts : List JsValue) :
    Prop where
  priced : ∀ a ∈ payerOptions config accepts, Priced a
  fits : ∃ o remaining, FirstLeast amountIn (payerOptions config accepts) o ∧
    amountIn o ≤ noPriceLimit ∧ l.remainingFor (o.1.field "asset") = .ok remaining ∧
    amountIn o ≤ remaining

/-- What a quote calls payable is the choice of the guards, and nothing else. -/
theorem quote_payable_iff (hasks : Asks d first challenge)
    (haccepts : acceptsOf challenge = .ok accepts) (hquotes : Quotes d url l first result) :
    result.payable = true ↔ ChoicePayable d.config l accepts := by
  obtain ⟨⟨accepts', haccepts', hread⟩, hreturns⟩ := quote_returns hasks hquotes
  obtain rfl : accepts' = accepts := Except.ok.inj (haccepts'.symm.trans haccepts)
  -- The price of the choice is the one the quote found, if it found one.
  have hpriced : ∀ o i remaining, FirstLeast amountIn (payerOptions d.config accepts') (o, i) →
      (∀ a ∈ payerOptions d.config accepts', Priced a) → amountIn (o, i) ≤ noPriceLimit →
      l.remainingFor (o.field "asset") = .ok remaining →
      pricedOption d l challenge = .ok (o, amountIn (o, i), remaining) := by
    intro o i remaining hleast hpriced hlimit hremaining
    exact pricedOption_ok_iff.mpr ⟨clearOneOption_ok_iff.mpr
      ⟨accepts', i, haccepts', hread, ⟨hpriced, hleast, hlimit⟩, rfl⟩, hremaining⟩
  rcases hreturns with
    ⟨chosen, amount, remaining, selected, hchosen, -, -, hiff⟩ | ⟨⟨err, hrefused⟩, -, hpayable⟩
  · rw [hiff]
    obtain ⟨hcleared, hremaining⟩ := pricedOption_ok_iff.mp hchosen
    constructor
    · intro hle
      obtain ⟨accepts'', i, haccepts'', -, hselects, rfl⟩ := clearOneOption_ok_iff.mp hcleared
      obtain rfl : accepts'' = accepts' := Except.ok.inj (haccepts''.symm.trans haccepts')
      exact ⟨hselects.priced, (chosen, i), remaining, hselects.cheapest, hselects.affordable,
        hremaining, hle⟩
    · rintro ⟨hall, ⟨o, i⟩, remaining', hleast, hlimit, hremaining', hle⟩
      have hsame := hpriced o i remaining' hleast hall hlimit hremaining'
      rw [hchosen, Except.ok.injEq, Prod.mk.injEq, Prod.mk.injEq] at hsame
      rw [hsame.2.1, hsame.2.2]
      exact hle
  · rw [hpayable]
    refine iff_of_false Bool.false_ne_true ?_
    rintro ⟨hall, ⟨o, i⟩, remaining, hleast, hlimit, hremaining, -⟩
    rw [hpriced o i remaining hleast hall hlimit hremaining] at hrefused
    exact absurd hrefused (by simp only [reduceCtorEq, not_false_eq_true])

/-- A quote that refuses a challenge speaks for all of its options exactly when, if
    one of them could be paid alone, the choice of the guards could be. -/
theorem quote_refuses_unpayable_iff (d : PayerDeps) (url : JsString) (l : SpendLedger)
    (first : Response) (challenge : JsValue) (accepts : List JsValue) (result : QuoteResult)
    (hasks : Asks d first challenge) (haccepts : acceptsOf challenge = .ok accepts)
    (hquotes : Quotes d url l first result) :
    (result.payable = false → ∀ a ∈ accepts, ¬ PayableAlone d.config l a) ↔
      ((∃ a ∈ accepts, PayableAlone d.config l a) → ChoicePayable d.config l accepts) := by
  rw [← quote_payable_iff hasks haccepts hquotes]
  constructor
  · rintro h ⟨a, ha, halone⟩
    by_contra hpayable
    exact h (Bool.eq_false_iff.mpr hpayable) a ha halone
  · intro h hpayable a ha halone
    rw [h ⟨a, ha, halone⟩] at hpayable
    exact absurd hpayable (by simp only [Bool.true_eq_false, not_false_eq_true])

/-- The JSON text of an option. -/
def optionText (asset amount : JsString) : JsString :=
  js "\x7b\"scheme\":\"exact\"," ++ js "\"network\":\"stellar:testnet\"," ++ js "\"asset\":\"" ++
    asset ++ js "\",\"amount\":\"" ++ amount ++ js "\",\"extra\":\x7b" ++
    js "\"areFeesSponsored\":true\x7d\x7d"

/-- Two options, the cheaper of them in an asset with hardly anything left. -/
def shadowedText : JsString :=
  js "\x7b\"x402Version\":2,\"accepts\":[" ++ optionText "CUSDC" "5" ++ js "," ++
    optionText "CEURC" "10" ++ js "]\x7d"

/-- The value it parses to. -/
def shadowedChallenge : JsValue :=
  .obj [(js "x402Version", .num 2), (js "accepts", .arr [offeredOption "CUSDC" "5",
    offeredOption "CEURC" "10"])]

/-- A payer of both assets. -/
def twoAssets : PayerDeps :=
  { sampleDeps with
    parse := fun text => if text = shadowedText then .ok shadowedChallenge else
      .error "Unexpected token"
    config := { sampleDeps.config with allowedAssets := [js "CUSDC", js "CEURC"] } }

/-- Its ledger. -/
def twoCeilings : SpendLedger :=
  createSpendLedger [(.str "CUSDC", 3), (.str "CEURC", 1000)]

/-- The challenge as a response. -/
def shadowedFirst : Response :=
  { status := 402, headers := [(js "payment-required", btoa (TextEncoder.encode shadowedText))] }

theorem shadowed_asks : Asks twoAssets shadowedFirst shadowedChallenge := by
  have htext : (base64ToUtf8 (btoa (TextEncoder.encode shadowedText))).toOption.map id =
      some shadowedText := by decide +kernel
  obtain ⟨text, htext, rfl⟩ := ok_of_toOption_map htext
  have hparse : twoAssets.parse shadowedText = .ok shadowedChallenge := by
    simp only [twoAssets, if_true]
  exact ⟨rfl, challengeOf_of_text rfl htext hparse rfl⟩

theorem shadowed_options : payerOptions twoAssets.config [offeredOption "CUSDC" "5",
    offeredOption "CEURC" "10"] = [(offeredOption "CUSDC" "5", 0), (offeredOption "CEURC" "10", 1)] :=
  rfl

/-- The guards choose the cheaper one. -/
theorem shadowed_priced : pricedOption twoAssets twoCeilings shadowedChallenge =
    .ok (offeredOption "CUSDC" "5", 5, 3) := by
  have hread : ∀ a ∈ [offeredOption "CUSDC" "5", offeredOption "CEURC" "10"], a.nullish = false := by
    intro a ha
    simp only [List.mem_cons, List.not_mem_nil, or_false] at ha
    rcases ha with rfl | rfl <;> rfl
  have hpriced : ∀ a ∈ payerOptions twoAssets.config [offeredOption "CUSDC" "5",
      offeredOption "CEURC" "10"], Priced a := by
    intro a ha
    simp only [shadowed_options, List.mem_cons, List.not_mem_nil, or_false] at ha
    rcases ha with rfl | rfl <;> exact ⟨_, rfl, by decide⟩
  have hleast : FirstLeast amountIn (payerOptions twoAssets.config [offeredOption "CUSDC" "5",
      offeredOption "CEURC" "10"]) (offeredOption "CUSDC" "5", 0) := by
    refine ⟨[], [(offeredOption "CEURC" "10", 1)], rfl, fun a ha => absurd ha List.not_mem_nil, ?_⟩
    intro a ha
    rw [List.mem_singleton.mp ha]
    decide
  exact pricedOption_ok_iff.mpr ⟨clearOneOption_ok_iff.mpr ⟨_, 0, rfl, hread,
    ⟨hpriced, hleast, by decide⟩, by decide⟩, rfl⟩

/-- It is over its ceiling, and the other one would not be. -/
theorem quote_shadows_payable : ¬ ∀ (d : PayerDeps) (url : JsString) (l : SpendLedger)
    (first : Response) (challenge : JsValue) (accepts : List JsValue) (result : QuoteResult),
    Asks d first challenge → acceptsOf challenge = .ok accepts → Quotes d url l first result →
      result.payable = false → ∀ a ∈ accepts, ¬ PayableAlone d.config l a := by
  intro h
  obtain ⟨result, hquotes⟩ := quote_runs "https://a" shadowed_asks shadowed_priced
  have hpayable : result.payable = false := by
    rcases (quote_returns shadowed_asks hquotes).2 with
      ⟨chosen, amount, remaining, selected, hpriced, -, -, hiff⟩ | ⟨-, -, hpayable⟩
    · rw [shadowed_priced, Except.ok.injEq, Prod.mk.injEq, Prod.mk.injEq] at hpriced
      rw [← hpriced.2.1, ← hpriced.2.2] at hiff
      exact Bool.eq_false_iff.mpr (fun htrue => absurd (hiff.mp htrue) (by omega))
    · exact hpayable
  refine h _ _ _ _ _ _ _ shadowed_asks rfl hquotes hpayable (offeredOption "CEURC" "10")
    (List.mem_cons_of_mem _ List.mem_cons_self) ⟨⟨rfl, rfl, rfl, ?_⟩, 10, 1000, ?_, rfl, by omega⟩
  · intro assets hassets
    rw [← Option.some.inj hassets]
    exact ⟨js "CEURC", List.mem_cons_of_mem _ List.mem_cons_self, rfl⟩
  · exact parseAmount_eq_ok.mpr ⟨js "10", rfl, by decide, by decide⟩

/-- What the condition says of that quote. -/
theorem quote_refuses_unpayable_iff_shadowed : ∃ result,
    Quotes twoAssets "https://a" twoCeilings shadowedFirst result ∧
      ((result.payable = false → ∀ a ∈ [offeredOption "CUSDC" "5", offeredOption "CEURC" "10"],
          ¬ PayableAlone twoAssets.config twoCeilings a) ↔
        ((∃ a ∈ [offeredOption "CUSDC" "5", offeredOption "CEURC" "10"],
          PayableAlone twoAssets.config twoCeilings a) →
            ChoicePayable twoAssets.config twoCeilings
              [offeredOption "CUSDC" "5", offeredOption "CEURC" "10"])) := by
  obtain ⟨result, hquotes⟩ := quote_runs "https://a" shadowed_asks shadowed_priced
  exact ⟨result, hquotes, quote_refuses_unpayable_iff twoAssets "https://a" twoCeilings
    shadowedFirst shadowedChallenge _ result shadowed_asks rfl hquotes⟩

end Choice

end Payer

end VellarSdk
