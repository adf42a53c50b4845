import VellarSdk.Async.Task
import VellarSdk.Payer.Content
import VellarSdk.Payer.Ledger
import VellarSdk.Payer.Protocol

/-!
# The Payer Core

Quote a resource, or pay for one and return the unlocked content. Both are async
functions, written here as the tree of the calls they make: the network, the
signer and the body of a response are awaited and may answer anything or throw,
while the session ledger answers at once.

`payExclusively` is the critical section of `pay`. It clears one option of the
challenge, checks it against the session ceiling, and then makes up to
`maxAttempts` attempts. An attempt signs afresh, sends the payment, and ends
the call unless the response carries evidence that nothing was spent.

## Main definitions

* `PayOp`, `payHandler`: The calls the payer makes, and those its ledger
  answers.
* `clearOneOption`: The guards, and the way back to the original option.
* `quote`: What a resource would cost.
* `onErrorStatus`, `onSuccessStatus`: The two branches of an attempt.
* `attemptLoop`, `payExclusively`: Paying for it.

## Theorems

* `clearOneOption_spec`: What a cleared option satisfies.
-/

namespace VellarSdk

namespace Payer

open Js X402 Async

/-- The calls the payer makes. -/
inductive PayOp where
  | fetch (url : JsString) (headers : Option Headers)
  | signPayment (challenge : JsValue)
  | arrayBuffer (res : Response)
  | cancelBody (res : Response)
  | assertWithinCeiling (asset : JsValue) (amount : Int)
  | record (asset : JsValue) (amount : Int)
  | remainingFor (asset : JsValue)

/-- What each call returns. -/
@[reducible] def PayOp.Ret : PayOp → Type
  | .fetch _ _ => Response
  | .signPayment _ => Headers
  | .arrayBuffer _ => Bytes
  | .cancelBody _ | .assertWithinCeiling _ _ | .record _ _ => Unit
  | .remainingFor _ => Int

/-- An async body of the payer. -/
abbrev Pay := Task PayOp PayOp.Ret JsError

/-- A call of the payer with its reply. -/
abbrev PayEvent := Event PayOp PayOp.Ret JsError

/-- The ledger answers its own methods; everything else is awaited. -/
def payHandler : Handler PayOp PayOp.Ret JsError SpendLedger where
  exec
    | .assertWithinCeiling asset amount => some (fun l => (l.assertWithinCeiling asset amount, l))
    -- A debit that throws leaves the ledger as it was.
    | .record asset amount => some (fun l => match l.record asset amount with
        | .ok l' => (.ok (), l')
        | .error e => (.error e, l))
    | .remainingFor asset => some (fun l => (l.remainingFor asset, l))
    | .fetch _ _ | .signPayment _ | .arrayBuffer _ | .cancelBody _ => none

/-- The configuration the payer reads. -/
structure PayerConfig where
  network : JsString
  caip2 : JsString
  allowedAssets : List JsString
  maxResponseBytes : Nat

/-- What a payer is created with, apart from its ledger. -/
structure PayerDeps where
  parse : JsonParse
  config : PayerConfig
  signerAddress : JsString

/-- Bounded retries for the empty-transaction settle failure. -/
def maxAttempts : Nat := 3

/-- The largest `i128`, at which the price check of a quote is a no-op. -/
def noPriceLimit : Int := 2 ^ 127 - 1

/-- A payment option as a quote reports it. -/
structure QuotedOption where
  asset : JsValue
  amount : JsValue
  payTo : JsValue
  network : JsValue
  scheme : JsValue
  maxTimeoutSeconds : JsValue
  feesSponsored : Bool

/-- The answer of `quote`. -/
structure QuoteResult where
  url : JsString
  requiresPayment : Bool
  offered : Option (List QuotedOption)
  selected : Option QuotedOption
  payable : Bool
  refusal : Option JsString
  sessionRemaining : Option JsString
  resource : Option JsValue
  status : Nat

/-- The settlement a payment ended in. -/
structure Settlement where
  transaction : JsValue
  payer : JsValue
  asset : JsValue
  amount : JsString
  network : JsString

/-- The answer of `pay`. -/
structure PayResult where
  url : JsString
  paid : Bool
  content : ResourceContent
  settlement : Option Settlement
  attempts : Option Nat
  sessionRemaining : Option JsString
  resource : Option JsValue
  status : Nat

/-- Reading a missing option throws. -/
def describeOption (r : JsValue) : Except JsError QuotedOption :=
  if r.nullish then throwTypeError
  else .ok
    { asset := r.field "asset"
      amount := r.field "amount"
      payTo := r.field "payTo"
      network := r.field "network"
      scheme := r.field "scheme"
      maxTimeoutSeconds := r.field "maxTimeoutSeconds"
      feesSponsored := declaresSponsorship true r }

/-- The metadata of the challenge, when it carries any. -/
def resourceOf (challenge : JsValue) : Option JsValue :=
  if (challenge.field "resource").truthy then some (challenge.field "resource") else none

/-- `doFetch`, with the payment headers of a paid request. -/
def doFetch (url : JsString) (headers : Option Headers) : Pay Response :=
  Task.perform (PayOp.fetch url headers)

/-- `signer.signPayment`. -/
def signPayment (challenge : JsValue) : Pay Headers :=
  Task.perform (PayOp.signPayment challenge)

/-- `ledger.assertWithinCeiling`. -/
def assertWithinCeiling (asset : JsValue) (amount : Int) : Pay Unit :=
  Task.perform (PayOp.assertWithinCeiling asset amount)

/-- `ledger.record`. -/
def record (asset : JsValue) (amount : Int) : Pay Unit :=
  Task.perform (PayOp.record asset amount)

/-- `ledger.remainingFor`. -/
def remainingFor (asset : JsValue) : Pay Int :=
  Task.perform (PayOp.remainingFor asset)

/-- Read the body of a response. -/
def readContent (res : Response) (maxBytes : Nat) : Pay ResourceContent := do
  let bytes : Bytes ← Task.perform (PayOp.arrayBuffer res)
  return contentOf res bytes maxBytes

/-- Release an unused response body. A failure to do so is ignored. -/
def discardBody (res : Response) : Pay Unit := do
  let _ ← (Task.perform (PayOp.cancelBody res)).attempt
  return ()

/-- Run the guards and return the single option worth paying, with its amount.
    The guards return an element of their widened copy, which is matched back
    to the challenge by its position. -/
def clearOneOption (config : PayerConfig) (challenge : JsValue) (maxAmount : Int) :
    Except JsError (JsValue × Int) := do
  let view ← toGuardView challenge
  let chosenView ← selectRequirements view maxAmount (some config.allowedAssets) config.caip2
  let views ← acceptsOf view
  let accepts ← acceptsOf challenge
  -- `indexOf` is by identity, and gives -1, hence `undefined`, where nothing matches.
  let chosen := ((indexOf views.zipIdx chosenView).bind (fun index => accepts[index]?)).getD
    .undefined
  if !chosen.truthy then
    throwPaymentRejected ("Internal error: the cleared payment option could not be matched " ++
      "back to the challenge.") .undefined
  else do return (chosen, ← parseAmount (chosen.field "amount"))

/-- The challenge of a 402 response. -/
def challengeOf (parse : JsonParse) (res : Response) : Except JsError JsValue := do
  assertV2Challenge (← decodePaymentRequired parse res)

/-- Why a quoted price is over what is left of the session ceiling. -/
def overCeilingRefusal (amount remaining : Int) (asset : JsValue) :
    Except JsError (Option JsString) :=
  if amount > remaining then do
    let text ← asset.toStr
    return some (js "The price " ++ intToString amount ++
      js " exceeds this session's remaining ceiling (" ++ intToString remaining ++
      js ") for asset " ++ text ++ js ".")
  else return none

/-- The price against what is left of the session ceiling, as a quote reports
    it. -/
def quoteCleared (d : PayerDeps) (base : QuoteResult) (challenge : JsValue) :
    Pay QuoteResult := do
  -- The price check is switched off here; the ceiling decides what is payable.
  let cleared ← clearOneOption d.config challenge noPriceLimit
  let remaining ← remainingFor (cleared.1.field "asset")
  let selected ← describeOption cleared.1
  let refusal ← overCeilingRefusal cleared.2 remaining (cleared.1.field "asset")
  return { base with
    selected := some selected
    payable := cleared.2 ≤ remaining
    refusal := refusal
    sessionRemaining := some (intToString remaining) }

/-- What a resource costs and whether it is payable. -/
def quote (d : PayerDeps) (url : JsString) : Pay QuoteResult := do
  let res ← doFetch url none
  if res.status ≠ 402 then do
    discardBody res
    return { url := url, requiresPayment := false, offered := none, selected := none
             payable := true, refusal := none, sessionRemaining := none, resource := none
             status := res.status }
  else do
    -- A challenge that does not decode throws, also from a quote.
    let challenge ← challengeOf d.parse res
    discardBody res
    let accepts ← acceptsOf challenge
    let offered ← (accepts.mapM describeOption : Except JsError _)
    let base : QuoteResult :=
      { url := url, requiresPayment := true, offered := some offered, selected := none
        payable := false, refusal := none, sessionRemaining := none
        resource := resourceOf challenge, status := res.status }
    -- A quote reports refusals instead of throwing them.
    match ← (quoteCleared d base challenge).attempt with
    | .ok result => return result
    | .error err => return { base with refusal := some err.message }

/-- The refusal of a paid response that is neither a success nor a settle
    failure worth retrying. -/
def rejectPaid {α : Type} (parse : JsonParse) (res : Response) : Except JsError α := do
  let settle := decodeSettleResponseHeader parse res
  let reason := (settle.optProp "errorReason").orElse (extractRejectionReason parse res)
  let detail ← whenTruthy reason (js ": ") [] []
  let submitted ← whenTruthy (settle.optProp "transaction")
    (js " The transaction was submitted (")
    (js ") and fees were charged, so it was not retried.") []
  throwPaymentRejected (js "The x402 payment was not accepted (HTTP " ++ natToString res.status ++
    detail ++ js ")." ++ submitted) reason

/-- What the payer is paying for in one call of `pay`: the challenge, the
    option cleared and its price. -/
structure Order where
  url : JsString
  challenge : JsValue
  chosen : JsValue
  amount : Int

/-- The asset of the option being paid. -/
def Order.asset (o : Order) : JsValue :=
  o.chosen.field "asset"

/-- The challenge handed to the signer. -/
def Order.narrowed (o : Order) : JsValue :=
  narrowTo o.challenge o.chosen

/-- Past a confirmed settlement: debit, read the body, report. -/
def deliver (d : PayerDeps) (o : Order) (attempt : Nat) (res : Response)
    (transaction payer : JsValue) : Pay PayResult := do
  -- The debit comes first: from here on a failing read cannot undo it.
  record o.asset o.amount
  let content ← readContent res d.config.maxResponseBytes
  let remaining ← remainingFor o.asset
  let settlement : Settlement :=
    { transaction := transaction, payer := payer.orElse d.signerAddress, asset := o.asset
      amount := intToString o.amount, network := d.config.network }
  return { url := o.url, paid := true, content := content, settlement := some settlement
           attempts := some attempt, sessionRemaining := some (intToString remaining)
           resource := resourceOf o.challenge, status := res.status }

/-- The branch of an attempt for an error status. `continue` is the rest of the
    loop, given the reason to report if no attempt succeeds. -/
def onErrorStatus (d : PayerDeps) (attempt : Nat) (res : Response)
    (continue_ : JsValue → Pay PayResult) : Pay PayResult := do
  -- Read before the branch, but only asked whether the failure is worth retrying.
  let settle := decodeSettleResponseHeader d.parse res
  discardBody res
  if isRetryableSettleFailure settle then
    continue_ ((settle.optProp "errorReason").orElse
      (js "attempt " ++ natToString attempt ++ js " failed before submission"))
  else rejectPaid d.parse res

/-- The branch of an attempt for any other status. -/
def onSuccessStatus (d : PayerDeps) (o : Order) (attempt : Nat) (res : Response)
    (continue_ : JsValue → Pay PayResult) : Pay PayResult := do
  match ← classifySettlement d.parse res with
  | .notSpent reason => do
      let text ← (reason.toStr : Except JsError JsString)
      discardBody res
      continue_ (js "attempt " ++ natToString attempt ++ js ": " ++ text)
  | .indeterminate reason raw => do
      -- Whether money moved is unknown, so the amount is debited.
      record o.asset o.amount
      discardBody res
      throwIndeterminateSettlement reason o.asset o.amount raw
  | .settled transaction payer => deliver d o attempt res transaction payer

/-- The attempts of a payment, `left` of them still allowed. Each signs afresh;
    only evidence that nothing was spent leads to the next one. -/
def attemptLoop (d : PayerDeps) (o : Order) : Nat → JsValue → Pay PayResult
  -- Past the last attempt only the reason of the last failure is reported.
  | 0, lastReason => Task.ofExcept (throwSettlementFailed maxAttempts lastReason)
  | left + 1, _ => do
      -- Checked again before every signature, not only before the first.
      assertWithinCeiling o.asset o.amount
      let headers ← signPayment o.narrowed
      let res ← doFetch o.url (some headers)
      if res.status = 402 ∨ res.status ≥ 400 then
        onErrorStatus d (maxAttempts - left) res (attemptLoop d o left)
      else onSuccessStatus d o (maxAttempts - left) res (attemptLoop d o left)

/-- The critical section of `pay`. -/
def payExclusively (d : PayerDeps) (url maxAmount : JsString) : Pay PayResult := do
  -- The caller's maximum is parsed before anything is sent.
  let ceiling ← parseAmount maxAmount
  let first ← doFetch url none
  if first.status ≠ 402 then do
    let content ← readContent first d.config.maxResponseBytes
    return { url := url, paid := false, content := content, settlement := none, attempts := none
             sessionRemaining := none, resource := none, status := first.status }
  else do
    let challenge ← challengeOf d.parse first
    discardBody first
    -- The filters and the price come before the session ceiling is asked.
    let cleared ← clearOneOption d.config challenge ceiling
    let order : Order := ⟨url, challenge, cleared.1, cleared.2⟩
    assertWithinCeiling order.asset order.amount
    attemptLoop d order maxAttempts .undefined

/-- The guards see the same option through the copy. -/
theorem eligible_guardViewOf {allowedAssets : Option (List JsString)} {ourCaip2 : JsString}
    {a : JsValue} :
    Eligible allowedAssets ourCaip2 (guardViewOf a) ↔ Eligible allowedAssets ourCaip2 a := by
  have hscheme : (guardViewOf a).field "scheme" = a.field "scheme" :=
    guardViewOf_field a (by decide)
  have hnetwork : (guardViewOf a).field "network" = a.field "network" :=
    guardViewOf_field a (by decide)
  have hasset : (guardViewOf a).field "asset" = a.field "asset" :=
    guardViewOf_field a (by decide)
  constructor
  · rintro ⟨hs, hn, hf, ha⟩
    rw [hscheme] at hs
    rw [hnetwork] at hn
    rw [guardViewOf_sponsored] at hf
    rw [hasset] at ha
    exact ⟨hs, hn, hf, ha⟩
  · rintro ⟨hs, hn, hf, ha⟩
    rw [← hscheme] at hs
    rw [← hnetwork] at hn
    rw [← guardViewOf_sponsored] at hf
    rw [← hasset] at ha
    exact ⟨hs, hn, hf, ha⟩

/-- What the guards promise about an option of a challenge: it is one of those
    offered, it passes every filter, its amount is digits within the maximum,
    and no eligible option is cheaper. -/
structure ClearedOption (config : PayerConfig) (challenge : JsValue) (maxAmount : Int)
    (chosen : JsValue) (amount : Int) : Prop where
  offered : ∃ accepts, challenge.field "accepts" = .arr accepts ∧ chosen ∈ accepts
  eligible : Eligible (some config.allowedAssets) config.caip2 chosen
  parsed : parseAmount (chosen.field "amount") = .ok amount
  affordable : amount ≤ maxAmount
  minimal : ∀ accepts, challenge.field "accepts" = .arr accepts → ∀ a ∈ accepts,
    Eligible (some config.allowedAssets) config.caip2 a →
      ∃ m, parseAmount (a.field "amount") = .ok m ∧ amount ≤ m

/-- What a cleared option satisfies. The guards ran on the copy; position and
    fields carry their verdict back to the original. -/
theorem clearOneOption_spec {config : PayerConfig} {challenge : JsValue} {maxAmount : Int}
    {chosen : JsValue} {amount : Int}
    (h : clearOneOption config challenge maxAmount = .ok (chosen, amount)) :
    ClearedOption config challenge maxAmount chosen amount := by
  rcases bind_eq_ok.mp h with ⟨view, hview, h⟩
  rcases bind_eq_ok.mp h with ⟨chosenView, hselect, h⟩
  rcases bind_eq_ok.mp h with ⟨views, hviews, h⟩
  rcases bind_eq_ok.mp h with ⟨accepts, haccepts, h⟩
  -- Both lists are read again after the guards: they are the ones the guards saw.
  rcases toGuardView_accepts hview with ⟨accepts', haccepts', hviews'⟩
  rw [haccepts, Except.ok.injEq] at haccepts'
  subst haccepts'
  rw [hviews, Except.ok.injEq] at hviews'
  subst hviews'
  rcases selectRequirements_spec hselect with
    ⟨options, n, hoptions, hmem, heligible, hparsed, hmax, hmin⟩
  rw [hviews, Except.ok.injEq] at hoptions
  subst hoptions
  -- The selected copy is an element of the copies, so its position is found.
  rw [indexOf_zipIdx _ _ hmem, Option.bind_some] at h
  -- The copy at the chosen position is the copy of the option at that position.
  have hget := (mem_zipIdx_iff _ _).mp hmem
  rw [List.getElem?_map, Option.map_eq_some_iff] at hget
  rcases hget with ⟨option, hoption, hcopy⟩
  rw [hoption, Option.getD_some] at h
  have hamount : ∀ a : JsValue, (guardViewOf a).field "amount" = a.field "amount" :=
    fun a => guardViewOf_field a (by decide)
  rw [← hcopy, hamount] at hparsed
  rw [← hcopy, eligible_guardViewOf] at heligible
  by_cases htruthy : (!option.truthy) = true
  · rw [if_pos htruthy] at h
    exact absurd h (by simp only [throwPaymentRejected, reduceCtorEq, not_false_eq_true])
  rw [if_neg htruthy, hparsed] at h
  have hpair : (option, n) = (chosen, amount) := Except.ok.inj h
  rw [Prod.mk.injEq] at hpair
  rcases hpair with ⟨rfl, rfl⟩
  have hmemOption : option ∈ accepts := List.mem_of_getElem? hoption
  have harr := acceptsOf_eq_ok haccepts hmemOption
  -- The minimum among the copies is the minimum among the originals, field by field.
  refine ⟨⟨accepts, harr, hmemOption⟩, heligible, hparsed, hmax, ?_⟩
  intro accepts' harr' a ha hel
  rw [harr, JsValue.arr.injEq] at harr'
  subst harr'
  rcases hmin _ (List.mem_map_of_mem ha) (eligible_guardViewOf.mpr hel) with ⟨m, hm, hle⟩
  rw [hamount] at hm
  exact ⟨m, hm, hle⟩

end Payer

end VellarSdk
