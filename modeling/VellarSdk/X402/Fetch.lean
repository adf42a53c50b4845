import VellarSdk.X402.Client

/-!
# The Client's Entry Points

The two ways into the payment builder. `createPayment` signs for requirements
its caller already holds, after the caller's own limits. `x402Fetch` makes a
request, and where that is answered with a challenge it picks an option, signs
for it, sends the request again with the payment and records what was spent.

The builder reads the network passphrase from the requirement. On the way
through `x402Fetch` the requirement was selected for the client's own network;
on the way through `createPayment` nothing compares the two.

A run of `x402Fetch` has one shape, and stops anywhere along it: a request, the
calls of the builder, the paid request, a look at the clock, the record.
`FetchStage` says for each call where along that shape it stands, and
`x402Fetch_sat` that every call of every run stands there.

## Main definitions

* `X402ClientDeps`, `X402PayOptions`, `X402FetchInit`: What the client and its
  callers are given.
* `createPayment`, `x402Fetch`: The entry points.
* `BudgetAdmits`, `Admission`: What the budget rules let through.
* `BuildStage`, `FetchStage`: Where a call stands in a run.

## Theorems

* `buildSignedPayment_sat`: Where the calls of the builder stand.
* `x402Fetch_sat`: Where the calls of a fetch stand.
-/

namespace VellarSdk

namespace X402

open Js Stellar Async

/-- The networks a wallet can be on. -/
inductive Network where
  | testnet
  | mainnet
  deriving DecidableEq

/-- `CAIP2_BY_NETWORK`. -/
def caip2ByNetwork : Network → JsString
  | .testnet => "stellar:testnet"
  | .mainnet => "stellar:pubnet"

/-- What `createX402Client` is given. -/
structure X402ClientDeps extends ClientDeps where
  network : Network
  parse : JsonParse

/-- The limits of one payment. -/
structure X402PayOptions where
  maxAmount : Int
  /-- An empty list allows nothing, a missing one everything. -/
  allowedAssets : Option (List JsString)

/-- A request body. -/
inductive BodyInit where
  /-- A `ReadableStream`, which can be read once. -/
  | readableStream
  | buffered (content : Bytes)

/-- The headers of a request, as the record they are given as. -/
abbrev HeaderRecord := List (JsString × JsString)

/-- What a fetch is given. What else is passed through to the request is left
    out. -/
structure X402FetchInit extends X402PayOptions where
  method : Option JsString
  headers : Option HeaderRecord
  body : Option BodyInit

/-- A request as it is sent. -/
structure RequestInit where
  method : JsString
  headers : Option HeaderRecord
  body : Option BodyInit

/-- The spread `{ ...headers, [name]: value }`. -/
def setHeader : HeaderRecord → JsString → JsString → HeaderRecord
  | [], name, value => [(name, value)]
  | (k, v) :: rest, name, value =>
      if name == k then (k, value) :: rest else (k, v) :: setHeader rest name value

/-- Does the request carry a `PAYMENT-SIGNATURE`? The names of headers are
    compared without regard to case. -/
def RequestInit.carriesPayment (init : RequestInit) : Bool :=
  (init.headers.getD []).any (fun h => toAsciiLower h.1 == js "payment-signature")

/-- The calls a fetch makes: those of the builder, its requests, and
    `tracker.record(rule, amount)`. -/
inductive FetchOp where
  | client (op : ClientOp)
  | request (url : JsString) (init : RequestInit)
  | trackerRecord (rule : Ref BudgetAttributeRule) (amount : Int)

/-- What each call returns. -/
@[reducible] def FetchOp.Ret : FetchOp → Type
  | .client op => op.Ret
  | .request _ _ => Response
  | .trackerRecord _ _ => Unit

/-- The body of a fetch. -/
abbrev Fetch := Task FetchOp FetchOp.Ret JsError

/-- A call of a fetch with its reply. -/
abbrev FetchEvent := Event FetchOp FetchOp.Ret JsError

/-- Nothing is answered by the fetch itself. -/
def fetchHandler : Handler FetchOp FetchOp.Ret JsError Unit where
  exec _ := none

/-- The builder's calls as calls of a fetch. -/
def ofBuild {α : Type} : Build α → Fetch α
  | .done r => .done r
  | .call o k => .call (.client o) (fun r => ofBuild (k r))

/-- The builder's events as events of a fetch. -/
def ofBuildEvent (e : BuildEvent) : FetchEvent :=
  ⟨.client e.op, e.reply⟩

/-- `doFetch(url, init)`. -/
def request (url : JsString) (init : RequestInit) : Fetch Response :=
  Task.perform (FetchOp.request url init)

/-- `tracker.record(rule, amount)`. -/
def trackerRecord (rule : Ref BudgetAttributeRule) (amount : Int) : Fetch Unit :=
  Task.perform (FetchOp.trackerRecord rule amount)

/-- A signed payment, ready to be sent. -/
structure SignedPayment where
  header : JsString
  requirements : JsValue
  amount : Int

/-- The settlement of a paid response. -/
structure X402Settlement where
  transaction : JsValue
  payer : JsValue
  asset : JsValue
  amount : Int
  network : Network

/-- What a fetch returns. -/
structure X402Response where
  response : Response
  paid : Bool
  settlement : Option X402Settlement

/-- The caller's limits, applied to a requirement the caller supplied. -/
def assertPayOptions (requirements : JsValue) (opts : X402PayOptions) : Except JsError Unit := do
  match opts.allowedAssets with
  | some assets =>
      let asset ← requirements.prop "asset"
      if !assetIn assets requirements then throwDisallowedAsset asset assets
  | none => pure ()
  let required ← parseAmount (← requirements.prop "amount")
  if required > opts.maxAmount then
    throwMaxAmountExceeded required opts.maxAmount (requirements.field "asset")

/-- Sign a payment for requirements that were decoded elsewhere. -/
def createPayment (d : ClientDeps) (requirements : JsValue) (opts : X402PayOptions) :
    Build SignedPayment := do
  assertPayOptions requirements opts
  let (header, amount) ← buildSignedPayment d requirements
  return { header := header, requirements := requirements, amount := amount }

/-- The request as the caller asked for it. -/
def baseInit (init : X402FetchInit) : RequestInit :=
  { method := init.method.getD "GET", headers := init.headers, body := init.body }

/-- The request with the payment. -/
def paidInit (init : X402FetchInit) (header : JsString) : RequestInit :=
  { baseInit init with
    headers := some (setHeader (init.headers.getD []) "PAYMENT-SIGNATURE" header) }

/-- `decodeSettlementHeader`: a settlement that names a transaction. -/
def decodeSettlementHeader (parse : JsonParse) (res : Response) : Option (JsValue × JsValue) :=
  let decoded := decodeSettleResponseHeader parse res
  if (decoded.optProp "transaction").truthy then
    some (decoded.field "transaction", decoded.field "payer")
  else none

/-- What the paid response says about the settlement. -/
def readSettlement (d : X402ClientDeps) (res : Response) (requirements : JsValue) (amount : Int) :
    Option X402Settlement :=
  (decodeSettlementHeader d.parse res).map (fun decoded =>
    { transaction := decoded.1, payer := decoded.2.orElse (requirements.field "payTo")
      asset := requirements.field "asset", amount := amount, network := d.network })

/-- The error for a payment that was not accepted. -/
def throwNotAccepted {α : Type} (d : X402ClientDeps) (paid : Response) : Except JsError α := do
  let reason := extractRejectionReason d.parse paid
  let detail ← (whenTruthy reason (js ": ") [] [] : Except NativeError JsString)
  throwPaymentRejected (js "x402 payment was not accepted (HTTP " ++ natToString paid.status ++
    detail ++ js ("). If this was over-budget, the on-chain policy rejected it at facilitator " ++
      "verify.")) reason

/-- A payment that was not accepted is never returned from. -/
theorem throwNotAccepted_ne_ok {α : Type} (d : X402ClientDeps) (paid : Response) (a : α) :
    (throwNotAccepted d paid : Except JsError α) ≠ .ok a := by
  intro h
  unfold throwNotAccepted at h
  rcases bind_eq_ok.mp h with ⟨_, -, hthrow⟩
  exact absurd hthrow (by simp only [throwPaymentRejected, reduceCtorEq, not_false_eq_true])

/-- Record what was spent. The rule is looked up again, by the clock of now. -/
def recordSpend (d : ClientDeps) (requirements : JsValue) (amount : Int) : Fetch Unit :=
  if d.hasTracker && !d.budgetAttributes.isEmpty then do
    let request ← ofBuild (budgetRequestFor requirements)
    match matchingBudgetRule d.budgetAttributes request with
    | some rule =>
        if rule.1.periodMaxAmount.isSome then trackerRecord rule amount else return ()
    | none => return ()
  else return ()

/-- The option of a challenge that is paid for. -/
def challengedFor (d : X402ClientDeps) (opts : X402PayOptions) (first : Response) :
    Except JsError JsValue := do
  let decoded ← decodePaymentRequired d.parse first
  let requirements ← selectRequirements decoded opts.maxAmount opts.allowedAssets
    (caip2ByNetwork d.network)
  return requirements.1

/-- Fetch a resource, and pay for it where it is asked. -/
def x402Fetch (d : X402ClientDeps) (url : JsString) (init : X402FetchInit) :
    Fetch X402Response := do
  if let some .readableStream := init.body then
    throwPlain ("x402: a ReadableStream body cannot be replayed on the payment retry. " ++
      "Pass a buffered body (string, Uint8Array, Blob, FormData) instead.")
  else do
    let first ← request url (baseInit init)
    if first.status ≠ 402 then return { response := first, paid := false, settlement := none }
    else do
      let requirements ← challengedFor d init.toX402PayOptions first
      let (header, amount) ← ofBuild (buildSignedPayment d.toClientDeps requirements)
      let paid ← request url (paidInit init header)
      if paid.status = 402 ∨ 400 ≤ paid.status then throwNotAccepted d paid
      else do
        let settlement := readSettlement d paid requirements amount
        -- What was refused above is not recorded.
        recordSpend d.toClientDeps requirements amount
        return { response := paid, paid := true, settlement := settlement }

/-- A reading of the clock. -/
def clockEvent (time : Int) : BuildEvent :=
  ⟨.now, .ok time⟩

/-- A reading of what was spent under a rule. -/
def readEvent (read : Ref BudgetAttributeRule × Int) : BuildEvent :=
  ⟨.trackerSpent read.1, .ok read.2⟩

/-- A payment as the rules see it at a time. -/
def budgetRequest (requirements : JsValue) (amount time : Int) : BudgetAttributeRequest :=
  { merchant := requirements.field "payTo"
    category := match (requirements.field "extra").optProp "category" with
      | .str c => some c
      | _ => none
    amount := amount
    time := time }

/-- The rules let a payment through, by what was read of the spend so far. -/
inductive BudgetAdmits (rules : List BudgetAttributeRule) (hasTracker : Bool)
    (request : BudgetAttributeRequest) : List (Ref BudgetAttributeRule × Int) → Prop where
  | unscoped (hrules : rules = []) : BudgetAdmits rules hasTracker request []
  | untracked (rule : Ref BudgetAttributeRule)
      (hrule : matchingBudgetRule rules request = some rule)
      (hmax : request.amount ≤ rule.1.maxAmount)
      (hperiod : rule.1.periodMaxAmount = none ∨ hasTracker = false) :
      BudgetAdmits rules hasTracker request []
  | tracked (rule : Ref BudgetAttributeRule) (periodMaxAmount spent : Int)
      (hrule : matchingBudgetRule rules request = some rule)
      (hmax : request.amount ≤ rule.1.maxAmount)
      (hperiod : rule.1.periodMaxAmount = some periodMaxAmount) (htracker : hasTracker = true)
      (hspent : spent + request.amount ≤ periodMaxAmount) :
      BudgetAdmits rules hasTracker request [(rule, spent)]

/-- The calls of the builder once the budget rules have let it through. -/
def ClientOp.Building : ClientOp → Prop
  | .build _ | .getLatestLedger | .signAuthEntry _ _ _ => True
  | _ => False

/-- The builder got past the budget rules: its amount, the time it read, what
    it read of the spend, and its calls so far. -/
structure Admission (d : ClientDeps) (requirements : JsValue) (amount time : Int)
    (reads : List (Ref BudgetAttributeRule × Int)) (tr : List BuildEvent) : Prop where
  parsed : parseAmount (requirements.field "amount") = .ok amount
  admits : BudgetAdmits d.budgetAttributes d.hasTracker (budgetRequest requirements amount time)
    reads
  trace : ∃ rest, tr = clockEvent time :: (reads.map readEvent ++ rest) ∧
    ∀ e ∈ rest, e.op.Building

/-- What the wallet is asked to sign, and on which terms. -/
structure SignsFor (d : ClientDeps) (requirements : JsValue) (amount : Int)
    (tr : List BuildEvent) (entryXdr : JsString) (networkPassphrase : JsValue)
    (expirationLedger : JsNum) : Prop where
  passphrase : ∃ net, tableLookup networks (requirements.field "network") = .ok net ∧
    net.truthy = true ∧ networkPassphrase = net.field "passphrase"
  entry : ∃ args built entry, (⟨.build args, .ok (some built)⟩ : BuildEvent) ∈ tr ∧
    entry ∈ built.auth.getD [] ∧
    SignsChecked d.sdk (transferOf requirements d.signerAddress amount) entry entryXdr
  expiration : ∃ sequence offset, (⟨.getLatestLedger, .ok sequence⟩ : BuildEvent) ∈ tr ∧
    expirationOffsetFor (requirements.field "maxTimeoutSeconds") d.expirationCeiling =
      .ok offset ∧ expirationLedger = offset.add sequence

/-- Where a call of the builder stands. -/
def BuildStage (d : ClientDeps) (requirements : JsValue) (tr : List BuildEvent) : ClientOp → Prop
  | .now => tr = []
  | .trackerSpent rule => ∃ amount time, tr = [clockEvent time] ∧
      parseAmount (requirements.field "amount") = .ok amount ∧
      matchingBudgetRule d.budgetAttributes (budgetRequest requirements amount time) = some rule ∧
      rule.1.periodMaxAmount.isSome = true ∧ d.hasTracker = true
  | .build _ | .getLatestLedger => ∃ amount time reads,
      Admission d requirements amount time reads tr
  | .signAuthEntry entryXdr networkPassphrase expirationLedger => ∃ amount time reads,
      Admission d requirements amount time reads tr ∧
      SignsFor d requirements amount tr entryXdr networkPassphrase expirationLedger
  | .simulate _ => False

section Building

variable {d : ClientDeps} {requirements : JsValue} {amount time : Int}
  {reads : List (Ref BudgetAttributeRule × Int)} {tr : List BuildEvent}

theorem Admission.append (h : Admission d requirements amount time reads tr) {e : BuildEvent}
    (he : e.op.Building) : Admission d requirements amount time reads (tr ++ [e]) := by
  rcases h.trace with ⟨rest, rfl, hrest⟩
  refine ⟨h.parsed, h.admits, rest ++ [e], ?_, fun e' he' => ?_⟩
  · rw [List.cons_append, List.append_assoc]
  · rcases List.mem_append.mp he' with he' | he'
    · exact hrest e' he'
    · rw [List.mem_singleton.mp he']
      exact he

theorem SignsFor.append {entryXdr : JsString} {networkPassphrase : JsValue}
    {expirationLedger : JsNum}
    (h : SignsFor d requirements amount tr entryXdr networkPassphrase expirationLedger)
    (tr' : List BuildEvent) :
    SignsFor d requirements amount (tr ++ tr') entryXdr networkPassphrase expirationLedger := by
  rcases h.entry with ⟨args, built, entry, hbuilt, hentry⟩
  rcases h.expiration with ⟨sequence, offset, hledger, hoffset⟩
  exact ⟨h.passphrase, ⟨args, built, entry, List.mem_append_left _ hbuilt, hentry⟩,
    ⟨sequence, offset, List.mem_append_left _ hledger, hoffset⟩⟩

variable {C : List BuildEvent → Unit → ClientOp → Prop}

/-- The rule for the budget check. -/
theorem assertBudgetAttributes_sat {rules : List BudgetAttributeRule}
    {request : BudgetAttributeRequest} {hasTracker : Bool}
    {Q : List BuildEvent → Unit → Except JsError Unit → Prop}
    (hread : ∀ rule, matchingBudgetRule rules request = some rule →
      rule.1.periodMaxAmount.isSome = true → hasTracker = true → C tr () (.trackerSpent rule))
    (hok : ∀ reads, BudgetAdmits rules hasTracker request reads →
      Q (tr ++ reads.map readEvent) () (.ok ()))
    (herror : ∀ tr e, Q tr () (.error e)) :
    Sat buildHandler C Q (assertBudgetAttributes rules request hasTracker) tr () := by
  have hnone := hok []
  rw [List.map_nil, List.append_nil] at hnone
  refine sat_lift_bind (fun rule hrule => ?_) (fun e _ => herror _ e)
  unfold assertRuleCeiling at hrule
  by_cases hempty : rules.isEmpty = true
  · rw [if_pos hempty] at hrule
    rw [← Except.ok.inj hrule]
    exact hnone (.unscoped (List.isEmpty_iff.mp hempty))
  rw [if_neg hempty] at hrule
  cases hmatch : matchingBudgetRule rules request with
  | none =>
      rw [hmatch] at hrule
      rcases bind_eq_ok.mp hrule with ⟨_, -, hthrow⟩
      exact absurd hthrow (by simp only [reduceCtorEq, not_false_eq_true])
  | some matched =>
      rw [hmatch] at hrule
      by_cases hmax : request.amount > matched.1.maxAmount
      · simp only [if_pos hmax] at hrule
        rcases bind_eq_ok.mp hrule with ⟨_, -, hthrow⟩
        exact absurd hthrow (by simp only [reduceCtorEq, not_false_eq_true])
      simp only [if_neg hmax] at hrule
      rw [← Except.ok.inj hrule]
      have hle : request.amount ≤ matched.1.maxAmount := by omega
      -- Only a rule with a period ceiling is looked up, and only where there is a tracker.
      cases hperiod : matched.1.periodMaxAmount with
      | none =>
          simp only [Option.bind_some, hperiod, Option.map_none]
          exact hnone (.untracked matched hmatch hle (.inl hperiod))
      | some periodMaxAmount =>
          simp only [Option.bind_some, hperiod, Option.map_some]
          cases hasTracker with
          | false =>
              rw [if_neg Bool.false_ne_true]
              exact hnone (.untracked matched hmatch hle (.inr rfl))
          | true =>
              rw [if_pos rfl]
              refine (sat_await_bind rfl _).mpr ⟨hread matched hmatch (by rw [hperiod]; rfl) rfl,
                fun spent => ?_, fun e => herror _ e⟩
              unfold assertPeriodCeiling
              by_cases hspent : spent + request.amount > periodMaxAmount
              · rw [if_pos hspent]
                unfold throwBudgetAttributeDenied
                cases request.merchant.toStr with
                | error e => exact herror _ _
                | ok merchant => exact herror _ _
              rw [if_neg hspent]
              exact hok [(matched, spent)]
                (.tracked matched periodMaxAmount spent hmatch hle hperiod rfl (not_lt.mp hspent))

/-- The rule for signing: only checked entries of the list are signed, on the
    terms given, and whatever else holds is kept by signing. -/
theorem signEntries_sat {terms : SigningTerms} {entries : List SorobanAuthorizationEntry}
    {noneSigned : JsString} {I : List BuildEvent → Prop}
    {Q : List BuildEvent → Unit → Except JsError (List SorobanAuthorizationEntry) → Prop}
    (hkeep : ∀ tr e, I tr → e.op.Building → I (tr ++ [e]))
    (hsign : ∀ tr entry entryXdr, I tr → entry ∈ entries →
      SignsChecked terms.sdk terms.expected entry entryXdr →
      C tr () (.signAuthEntry entryXdr terms.networkPassphrase terms.expirationLedger))
    (hok : ∀ tr r, I tr → Q tr () (.ok r)) (herror : ∀ tr e, Q tr () (.error e)) (h : I tr) :
    Sat buildHandler C Q (signEntries terms entries noneSigned) tr () := by
  -- The loop keeps the invariant, whatever the rest of the list does.
  have hloop : ∀ rest, (∀ entry ∈ rest, entry ∈ entries) → ∀ tr, I tr →
      Sat buildHandler C (fun tr _ r => (∃ out, r = .ok out ∧ I tr) ∨ ∃ e, r = .error e)
        (signLoop terms rest) tr () := by
    intro rest
    induction rest with
    | nil =>
        intro _ tr htr
        exact .inl ⟨_, rfl, htr⟩
    | cons entry rest ih =>
        intro hsub tr htr
        have hrest := ih (fun e he => hsub e (List.mem_cons_of_mem entry he))
        refine sat_lift_bind (fun own _ => ?_) (fun e _ => .inr ⟨e, rfl⟩)
        cases own with
        | false =>
            rw [if_neg Bool.false_ne_true, sat_bind]
            refine (hrest tr htr).imp (fun _ _ _ hC => hC) (fun tr s r hr => ?_)
            rcases hr with ⟨out, rfl, hI⟩ | ⟨e, rfl⟩
            · exact .inl ⟨_, rfl, hI⟩
            · exact .inr ⟨e, rfl⟩
        | true =>
            rw [if_pos rfl]
            refine sat_lift_bind (fun _ hassert => ?_) (fun e _ => .inr ⟨e, rfl⟩)
            refine sat_lift_bind (fun entryXdr hxdr => ?_) (fun e _ => .inr ⟨e, rfl⟩)
            refine (sat_await_bind rfl _).mpr ⟨hsign tr entry entryXdr htr
              (hsub entry List.mem_cons_self) ⟨hassert, hxdr⟩, fun signedXdr => ?_,
              fun e => .inr ⟨e, rfl⟩⟩
            refine sat_lift_bind (fun signed _ => ?_) (fun e _ => .inr ⟨e, rfl⟩)
            have hkept := hkeep tr ⟨.signAuthEntry entryXdr terms.networkPassphrase
              terms.expirationLedger, .ok signedXdr⟩ htr trivial
            rw [sat_bind]
            refine (hrest _ hkept).imp (fun _ _ _ hC => hC) (fun tr s r hr => ?_)
            rcases hr with ⟨out, rfl, hI⟩ | ⟨e, rfl⟩
            · exact .inl ⟨_, rfl, hI⟩
            · exact .inr ⟨e, rfl⟩
  refine (sat_bind _ _ _ _).mpr ?_
  refine (hloop entries (fun _ he => he) tr h).imp (fun _ _ _ hC => hC) (fun tr s r hr => ?_)
  rcases hr with ⟨out, rfl, hI⟩ | ⟨e, rfl⟩
  · by_cases hzero : out.2 = 0
    · simp only [if_pos hzero]
      exact herror tr _
    · simp only [if_neg hzero]
      exact hok tr _ hI
  · exact herror tr e

/-- Where the calls of the builder stand, and what it returned after. -/
theorem buildSignedPayment_sat (d : ClientDeps) (requirements : JsValue) :
    Sat buildHandler (fun tr _ o => BuildStage d requirements tr o)
      (fun tr _ r => ∀ out, r = .ok out → ∃ time reads,
        Admission d requirements out.2 time reads tr)
      (buildSignedPayment d requirements) [] () := by
  have herror : ∀ (tr : List BuildEvent) (e : JsError) (out : JsString × Int),
      (.error e : Except JsError (JsString × Int)) = .ok out → ∃ time reads,
        Admission d requirements out.2 time reads tr := by
    intro tr e out h
    exact absurd h (by simp only [reduceCtorEq, not_false_eq_true])
  refine sat_lift_bind (fun network hnetwork => ?_) (fun e _ => herror _ e)
  refine sat_lift_bind (fun net hnet => ?_) (fun e _ => herror _ e)
  rcases JsValue.prop_eq_ok (liftM_eq_ok.mp hnetwork) with ⟨-, rfl⟩
  by_cases hknown : (!net.truthy) = true
  · rw [if_pos hknown]
    refine sat_lift_bind (fun name _ => ?_) (fun e _ => herror _ e)
    exact herror _ _
  rw [if_neg hknown]
  have htruthy : net.truthy = true := by simpa using hknown
  -- The budget rules: the amount, the clock, and what was spent.
  refine (sat_bind _ _ _ _).mpr ?_
  refine sat_lift_bind (fun amount hamount => ?_) (fun e _ => herror _ e)
  refine (sat_await_bind rfl _).mpr ⟨rfl, fun time => ?_, fun e => herror _ e⟩
  refine (sat_bind _ _ _ _).mpr ?_
  refine assertBudgetAttributes_sat ?_ ?_ (fun tr e => herror tr e)
  · intro rule hrule hperiod htracker
    exact ⟨amount, time, rfl, hamount, hrule, hperiod, htracker⟩
  intro reads hadmits
  have hstart : Admission d requirements amount time reads
      ([] ++ [⟨.now, .ok time⟩] ++ reads.map readEvent) := by
    refine ⟨hamount, hadmits, [], ?_, fun e he => absurd he List.not_mem_nil⟩
    rw [List.append_nil]
    rfl
  -- The transfer: its arguments, its simulation, and the current ledger.
  refine sat_lift_bind (fun args hargs => ?_) (fun e _ => herror _ e)
  rcases args with ⟨args, amount'⟩
  have hsame : amount' = amount := by
    have hparsed := transferArgs_amount hargs
    rw [hamount] at hparsed
    exact (Except.ok.inj hparsed).symm
  subst hsame
  refine (sat_await_bind rfl _).mpr ⟨⟨amount', time, reads, hstart⟩, fun tx => ?_,
    fun e => herror _ e⟩
  have hbuilt := hstart.append
    (e := ⟨.build ⟨requirements.field "asset", args, net.field "passphrase"⟩, .ok tx⟩) trivial
  refine (sat_await_bind rfl _).mpr ⟨⟨amount', time, reads, hbuilt⟩, fun sequence => ?_,
    fun e => herror _ e⟩
  have hledger := hbuilt.append (e := ⟨.getLatestLedger, .ok sequence⟩) trivial
  refine sat_lift_bind (fun offset hoffset => ?_) (fun e _ => herror _ e)
  cases tx with
  | none => exact herror _ _
  | some built =>
      refine (sat_bind _ _ _ _).mpr ?_
      -- Signing adds events, and what was read before them stays read.
      refine signEntries_sat
        (I := fun tr => Admission d requirements amount' time reads tr ∧
          ∀ entry entryXdr, entry ∈ built.auth.getD [] →
            SignsChecked d.sdk (transferOf requirements d.signerAddress amount') entry entryXdr →
            SignsFor d requirements amount' tr entryXdr (net.field "passphrase")
              (offset.add sequence)) ?_ ?_ ?_ (fun tr e => herror tr e) ?_
      · intro tr e hI he
        exact ⟨hI.1.append he, fun entry entryXdr hentry hchecked =>
          (hI.2 entry entryXdr hentry hchecked).append _⟩
      · intro tr entry entryXdr hI hentry hchecked
        exact ⟨amount', time, reads, hI.1, hI.2 entry entryXdr hentry hchecked⟩
      · intro tr auth hI
        refine sat_lift_bind (fun header _ => ?_) (fun e _ => herror _ e)
        intro out hout
        rw [← Except.ok.inj hout]
        exact ⟨time, reads, hI.1⟩
      · refine ⟨hledger, fun entry entryXdr hentry hchecked => ?_⟩
        refine ⟨⟨net, liftM_eq_ok.mp hnet, htruthy, rfl⟩,
          ⟨⟨requirements.field "asset", args, net.field "passphrase"⟩, built, entry, ?_, hentry,
            hchecked⟩, ⟨sequence, offset, ?_, liftM_eq_ok.mp hoffset, rfl⟩⟩
        · exact List.mem_append_left _ (List.mem_append_right _ (List.mem_singleton_self _))
        · exact List.mem_append_right _ (List.mem_singleton_self _)

end Building

/-- What a fetch that was challenged pays for: the response, the option it
    chose, its amount, what the budget rules were asked, and the builder's
    calls. -/
structure Order where
  first : Response
  requirements : JsValue
  amount : Int
  time : Int
  reads : List (Ref BudgetAttributeRule × Int)
  building : List BuildEvent

/-- The response is a challenge, the option was chosen from it, and the budget
    rules let it through. -/
structure Order.Placed (d : X402ClientDeps) (init : X402FetchInit) (o : Order) : Prop where
  status : o.first.status = 402
  chosen : challengedFor d init.toX402PayOptions o.first = .ok o.requirements
  admission : Admission d.toClientDeps o.requirements o.amount o.time o.reads o.building

/-- The calls of a fetch up to the end of the builder's. -/
def openedTrace (url : JsString) (init : X402FetchInit) (first : Response)
    (building : List BuildEvent) : List FetchEvent :=
  ⟨.request url (baseInit init), .ok first⟩ :: building.map ofBuildEvent

/-- The calls of a fetch up to the paid response. -/
def Order.paidTrace (o : Order) (url : JsString) (init : X402FetchInit) (header : JsString)
    (paid : Response) : List FetchEvent :=
  openedTrace url init o.first o.building ++ [⟨.request url (paidInit init header), .ok paid⟩]

/-- The calls of a fetch after the paid response. -/
inductive Recording (d : ClientDeps) (o : Order) : List FetchEvent → Prop where
  | untracked (htracked : d.hasTracker = false ∨ d.budgetAttributes = []) : Recording d o []
  | unmatched (time : Int) (htracked : d.hasTracker = true ∧ d.budgetAttributes ≠ [])
      (hnone : ∀ rule, matchingBudgetRule d.budgetAttributes
        (budgetRequest o.requirements o.amount time) = some rule →
        rule.1.periodMaxAmount = none) :
      Recording d o [⟨.client .now, .ok time⟩]
  | recorded (time : Int) (rule : Ref BudgetAttributeRule)
      (htracked : d.hasTracker = true ∧ d.budgetAttributes ≠ [])
      (hrule : matchingBudgetRule d.budgetAttributes
        (budgetRequest o.requirements o.amount time) = some rule)
      (hperiod : rule.1.periodMaxAmount.isSome = true) :
      Recording d o [⟨.client .now, .ok time⟩, ⟨.trackerRecord rule o.amount, .ok ()⟩]

/-- Where a call of a fetch stands. -/
def FetchStage (d : X402ClientDeps) (url : JsString) (init : X402FetchInit)
    (tr : List FetchEvent) : FetchOp → Prop
  | .request url' sent => url' = url ∧ ((tr = [] ∧ sent = baseInit init) ∨
      ∃ o header, Order.Placed d init o ∧ tr = openedTrace url init o.first o.building ∧
        sent = paidInit init header)
  | .client op =>
      (∃ first requirements building, first.status = 402 ∧
        challengedFor d init.toX402PayOptions first = .ok requirements ∧
        tr = openedTrace url init first building ∧
        BuildStage d.toClientDeps requirements building op) ∨
      (op = .now ∧ ∃ o header paid, Order.Placed d init o ∧ tr = o.paidTrace url init header paid)
  | .trackerRecord rule amount => ∃ o header paid time, Order.Placed d init o ∧
      tr = o.paidTrace url init header paid ++ [⟨.client .now, .ok time⟩] ∧ amount = o.amount ∧
      (d.hasTracker = true ∧ d.budgetAttributes ≠ []) ∧
      matchingBudgetRule d.budgetAttributes (budgetRequest o.requirements o.amount time) =
        some rule ∧ rule.1.periodMaxAmount.isSome = true

/-- How a fetch that returned went. -/
def FetchReturned (d : X402ClientDeps) (url : JsString) (init : X402FetchInit)
    (tr : List FetchEvent) (out : X402Response) : Prop :=
  (out.paid = false ∧ ∃ first, first.status ≠ 402 ∧
    tr = [⟨.request url (baseInit init), .ok first⟩]) ∨
  (out.paid = true ∧ ∃ o header paid recording, Order.Placed d init o ∧
    Recording d.toClientDeps o recording ∧
    tr = o.paidTrace url init header paid ++ recording)

/-- The rule for the builder within a fetch. -/
theorem sat_ofBuild {α : Type} {C : List BuildEvent → Unit → ClientOp → Prop}
    {Q : List BuildEvent → Unit → Except JsError α → Prop}
    {C' : List FetchEvent → Unit → FetchOp → Prop}
    {Q' : List FetchEvent → Unit → Except JsError α → Prop} (before : List FetchEvent)
    (hC : ∀ tr o, C tr () o → C' (before ++ tr.map ofBuildEvent) () (.client o))
    (hQ : ∀ tr r, Q tr () r → Q' (before ++ tr.map ofBuildEvent) () r) {t : Build α}
    {tr : List BuildEvent} (h : Sat buildHandler C Q t tr ()) :
    Sat fetchHandler C' Q' (ofBuild t) (before ++ tr.map ofBuildEvent) () := by
  induction t generalizing tr with
  | done r => exact hQ tr r h
  | call o k ih =>
      rw [sat_await rfl] at h
      refine (sat_await rfl _).mpr ⟨hC tr o h.1, fun r => ?_⟩
      have hrest := ih r (h.2 r)
      rw [List.map_append, ← List.append_assoc] at hrest
      exact hrest

section Fetching

variable {d : X402ClientDeps} {url : JsString} {init : X402FetchInit}

/-- Recording stands after the paid response. -/
theorem recordSpend_sat {o : Order} (ho : Order.Placed d init o) (header : JsString)
    (paid : Response) {C : List FetchEvent → Unit → FetchOp → Prop}
    {Q : List FetchEvent → Unit → Except JsError Unit → Prop}
    (hC : ∀ tr op, FetchStage d url init tr op → C tr () op)
    (hok : ∀ recording, Recording d.toClientDeps o recording →
      Q (o.paidTrace url init header paid ++ recording) () (.ok ()))
    (herror : ∀ tr e, Q tr () (.error e)) :
    Sat fetchHandler C Q (recordSpend d.toClientDeps o.requirements o.amount)
      (o.paidTrace url init header paid) () := by
  unfold recordSpend
  by_cases htracked : (d.hasTracker && !d.budgetAttributes.isEmpty) = true
  swap
  · rw [if_neg htracked]
    have hnone := hok [] (.untracked (by
      rw [Bool.not_eq_true, Bool.and_eq_false_iff, Bool.not_eq_false', List.isEmpty_iff]
        at htracked
      exact htracked))
    rw [List.append_nil] at hnone
    exact hnone
  rw [if_pos htracked]
  rw [Bool.and_eq_true, Bool.not_eq_true', ← Bool.not_eq_true, List.isEmpty_iff] at htracked
  refine (sat_bind _ _ _ _).mpr ?_
  -- The request is made again, with the amount it had and the clock of now.
  have hrequest : Sat buildHandler (fun tr _ o => tr = [] ∧ o = .now)
      (fun tr _ r => ∀ request, r = .ok request → ∃ time, tr = [clockEvent time] ∧
        request = budgetRequest o.requirements o.amount time)
      (budgetRequestFor o.requirements) [] () := by
    refine sat_lift_bind (fun amount hamount => ?_) (fun e _ request h =>
      absurd h (by simp only [reduceCtorEq, not_false_eq_true]))
    rw [ho.admission.parsed] at hamount
    rw [← Except.ok.inj hamount]
    refine (sat_await_bind rfl _).mpr ⟨⟨rfl, rfl⟩, fun time request h => ?_,
      fun e request h => absurd h (by simp only [reduceCtorEq, not_false_eq_true])⟩
    exact ⟨time, rfl, (Except.ok.inj h).symm⟩
  rw [← List.append_nil (o.paidTrace url init header paid)]
  refine sat_ofBuild (o.paidTrace url init header paid) ?_ ?_ hrequest
  · rintro tr op ⟨rfl, rfl⟩
    refine hC _ _ (.inr ⟨rfl, o, header, paid, ho, ?_⟩)
    rw [List.map_nil, List.append_nil]
  · intro tr r hr
    cases r with
    | error e => exact herror _ e
    | ok request =>
        rcases hr request rfl with ⟨time, rfl, rfl⟩
        cases hrule : matchingBudgetRule d.budgetAttributes
            (budgetRequest o.requirements o.amount time) with
        | none =>
            simp only [hrule]
            refine hok _ (.unmatched time htracked (fun rule h => ?_))
            rw [hrule] at h
            exact absurd h (by simp only [reduceCtorEq, not_false_eq_true])
        | some rule =>
            by_cases hperiod : rule.1.periodMaxAmount.isSome = true
            · simp only [hrule, if_pos hperiod]
              refine (sat_await rfl _).mpr ⟨hC _ _ ⟨o, header, paid, time, ho, rfl, rfl, htracked,
                hrule, hperiod⟩, fun r => ?_⟩
              cases r with
              | ok u =>
                  have hdone := hok _ (.recorded time rule htracked hrule hperiod)
                  rw [List.append_assoc]
                  exact hdone
              | error e => exact herror _ e
            · simp only [hrule, if_neg hperiod]
              refine hok _ (.unmatched time htracked (fun rule' h => ?_))
              rw [hrule] at h
              rw [← Option.some.inj h]
              simpa using hperiod

/-- Where the calls of a fetch stand, and how it returned. -/
theorem x402Fetch_sat (d : X402ClientDeps) (url : JsString) (init : X402FetchInit) :
    Sat fetchHandler (fun tr _ op => FetchStage d url init tr op)
      (fun tr _ r => ∀ out, r = .ok out → FetchReturned d url init tr out)
      (x402Fetch d url init) [] () := by
  have herror : ∀ (tr : List FetchEvent) (e : JsError) (out : X402Response),
      (.error e : Except JsError X402Response) = .ok out → FetchReturned d url init tr out := by
    intro tr e out h
    exact absurd h (by simp only [reduceCtorEq, not_false_eq_true])
  unfold x402Fetch
  split
  · exact herror _ _
  refine (sat_await_bind rfl _).mpr ⟨⟨rfl, .inl ⟨rfl, rfl⟩⟩, fun first => ?_, fun e => herror _ e⟩
  by_cases hstatus : first.status ≠ 402
  · rw [if_pos hstatus]
    intro out hout
    rw [← Except.ok.inj hout]
    exact .inl ⟨rfl, first, hstatus, rfl⟩
  rw [if_neg hstatus]
  have hstatus : first.status = 402 := not_not.mp hstatus
  refine sat_lift_bind (fun requirements hchosen => ?_) (fun e _ => herror _ e)
  refine (sat_bind _ _ _ _).mpr ?_
  refine sat_ofBuild [⟨.request url (baseInit init), .ok first⟩] ?_ ?_
    (buildSignedPayment_sat d.toClientDeps requirements)
  · intro tr op hop
    exact .inl ⟨first, requirements, tr, hstatus, hchosen, rfl, hop⟩
  · intro tr r hr
    cases r with
    | error e => exact herror _ e
    | ok out =>
        rcases out with ⟨header, amount⟩
        rcases hr _ rfl with ⟨time, reads, hadmission⟩
        -- From here on the order is fixed.
        have ho : Order.Placed d init ⟨first, requirements, amount, time, reads, tr⟩ :=
          ⟨hstatus, hchosen, hadmission⟩
        refine (sat_await_bind rfl _).mpr ⟨⟨rfl, .inr ⟨_, header, ho, rfl, rfl⟩⟩, fun paid => ?_,
          fun e => herror _ e⟩
        by_cases hrefused : paid.status = 402 ∨ 400 ≤ paid.status
        · rw [if_pos hrefused]
          intro out hout
          exact absurd hout (throwNotAccepted_ne_ok d paid out)
        rw [if_neg hrefused]
        refine (sat_bind _ _ _ _).mpr ?_
        refine recordSpend_sat ho header paid (fun _ _ h => h) ?_ (fun _ e => herror _ e)
        intro recording hrecording out hout
        rw [← Except.ok.inj hout]
        exact .inr ⟨rfl, _, header, paid, recording, ho, hrecording, rfl⟩

end Fetching

end X402

end VellarSdk
