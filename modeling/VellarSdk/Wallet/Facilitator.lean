import VellarSdk.Breaker.Backend
import VellarSdk.Breaker.Overlap
import VellarSdk.Async.Implement
import VellarSdk.Js.JsonRoundTrip
import VellarSdk.Wallet.Client
import VellarSdk.X402.HeaderText

/-!
# A Wallet over Its Facilitator

The backend that comes with the SDK speaks to a facilitator over HTTP, and the wallet puts
a circuit breaker before it. Each of the three methods of the backend is one request, and
each call of one goes through the breaker, which may refuse it and is told how it ended.
Here those programs are put in the place of the calls that a wallet makes on its backend.

The clock that the breaker reads is a part of the shared state. Time passes by a call of
its own, so that a reading of the clock and what is made of it are one step, as they are
in the source.

A success of the facilitator is taken to have the type of its interface, which the source
asserts and does not check. That is a field of the response.

What was proved of the methods carries over: whatever overlaps and whatever was answered,
each request is one that the method had to make, and none is made that the breaker has not
let through.

## Main definitions

* `Endpoint`, `GatewayResponse`: The requests of the backend and their answers.
* `FacilitatorOp`, `facilitatorHandler`: What a wallet over a facilitator calls.
* `submitWalletCreation`, `lookupContractId`, `submitTransaction`: The backend.
* `throughBreaker`, `backendCall`: The backend behind the breaker.
* `FacilitatedWallet`, `facilitatedWallet`: Any number of calls of such a wallet.
* `underWay`: Has a call been let through that has not ended?
* `Hosted`: Where a call stands.

## Theorems

* `throughBreaker_sat`: The rule for a request behind the breaker.
* `backendCall_sat`: The rule for each call of a wallet.
* `facilitated_sat`: Where the calls of each method stand.
-/

namespace VellarSdk

namespace Wallet

open Js Async X402 Breaker

/-- The endpoints of the facilitator. -/
inductive Endpoint where
  | create
  | connect
  | submit
  deriving DecidableEq

def Endpoint.path : Endpoint → JsString
  | .create => js "/wallet/create"
  | .connect => js "/wallet/connect"
  | .submit => js "/wallet/submit"

/-- What the interface says of a success: the `sessionId`, the contract with it, or the
    `hash`. -/
@[reducible] def Endpoint.Payload : Endpoint → Type
  | .create => JsString
  | .connect => WalletLookup
  | .submit => JsString

/-- A field that is a text. -/
def textField (v : JsValue) (name : String) : Option JsString :=
  match v.field (js name) with
  | .str s => some s
  | _ => none

/-- A payload, if it has the type of the interface. -/
def Endpoint.read (v : JsValue) : (endpoint : Endpoint) → Option endpoint.Payload
  | .create => textField v "sessionId"
  | .connect => do
      let contractId ← textField v "contractId"
      let sessionId ← textField v "sessionId"
      return { contractId := contractId, sessionId := sessionId }
  | .submit => textField v "hash"

/-- `res.ok`, by the status. -/
def isSuccess (status : Nat) : Bool :=
  200 ≤ status && status < 300

/-- A response of the facilitator, with the JSON of its body where it has one. That a
    success has the fields its endpoint is typed to answer with is assumed: the backend
    casts what it parsed and does not look. -/
structure GatewayResponse (endpoint : Endpoint) where
  status : Nat
  json : Option JsValue
  typed : isSuccess status = true → ∀ v, json = some v → (endpoint.read v).isSome = true

/-- What a wallet over a facilitator calls: what it calls otherwise, the two parts of the
    breaker, and the facilitator. -/
inductive FacilitatorOp where
  | wallet (op : WalletOp)
  | execute
  | settle (outcome : Outcome)
  | setClock (now : ℚ)
  | post (endpoint : Endpoint) (url : JsString) (init : PolicyRequest)

@[reducible] def FacilitatorOp.Ret : FacilitatorOp → Type
  | .wallet op => op.Ret
  | .execute | .settle _ | .setClock _ => Unit
  | .post endpoint _ _ => GatewayResponse endpoint

abbrev Facilitated := Task FacilitatorOp FacilitatorOp.Ret WalletError

abbrev FacilitatorEvent := Event FacilitatorOp FacilitatorOp.Ret WalletError

/-- What the calls share. -/
structure FacilitatorState where
  session : Option WalletSession := none
  breaker : CircuitBreaker := {}
  clock : ℚ

/-- What a wallet over a facilitator is created with. The predicate of the breaker is shown
    of an error what `shown` says. -/
structure FacilitatorConfig where
  apiUrl : JsString
  /-- `null` opts out of the breaker. -/
  circuitBreaker : Option CircuitBreakerOptions
  shown : WalletError → JsValue

def FacilitatorConfig.options (f : FacilitatorConfig) : CircuitBreakerOptions :=
  f.circuitBreaker.getD {}

/-- What a call ends with whose outcome was told: as it did, unless the predicate throws. -/
def settled (o : CircuitBreakerOptions) : Outcome → Except WalletError Unit
  | .resolved => ((passOn o (.ok .undefined)).map (fun _ => ())).mapError .value
  | .rejected error => ((o.counts ⟨false, error⟩).map (fun _ => ())).mapError .value

/-- The session, the breaker and the clock answer for themselves. -/
def facilitatorHandler (f : FacilitatorConfig) :
    Handler FacilitatorOp FacilitatorOp.Ret WalletError FacilitatorState where
  exec
    | .wallet op => (walletHandler.exec op).map (fun g s =>
        ((g s.session).1, { s with session := (g s.session).2 }))
    | .execute => some (fun s =>
        ((s.breaker.execute f.options s.clock).2.mapError (fun e => .circuitOpen (js e.message)),
          { s with breaker := (s.breaker.execute f.options s.clock).1 }))
    | .settle outcome => some (fun s =>
        (settled f.options outcome,
          { s with breaker := s.breaker.settle f.options s.clock outcome }))
    | .setClock now => some (fun s => (.ok (), { s with clock := now }))
    | .post _ _ _ => none

/-! ## The backend -/

/-- An object of texts. -/
def textObject (fields : List (JsString × JsString)) : JsValue :=
  .obj (fields.map (fun e => (e.1, .str e.2)))

/-- `{ method: "POST", headers, body }`. -/
def jsonPost (body : Option JsString) : PolicyRequest where
  method := some (js "POST")
  contentType := some (js "application/json")
  body := body

/-- `post(path, body)`, up to its response. -/
def post (f : FacilitatorConfig) (endpoint : Endpoint) (fields : List (JsString × JsString)) :
    Facilitated (GatewayResponse endpoint) := do
  let body ← ofNative (textObject fields).stringify
  Task.perform
    (FacilitatorOp.post endpoint (stripSlashes f.apiUrl ++ endpoint.path) (jsonPost body))

/-- `throw await toApiError(res)`. -/
def throwApiError {α : Type} (status : Nat) (json : Option JsValue) : Except WalletError α := do
  let payload := json.getD .undefined
  let message := (payload.optProp (js "message")).orElse ((payload.optProp (js "error")).orElse
    (.str (js "Wallet API request failed (" ++ natToString status ++ js ")")))
  let text ← ofNative message.toStr
  .error (.walletApi text status (payload.optProp (js "error")))

/-- What a response is to the caller. -/
def GatewayResponse.payload {endpoint : Endpoint} (res : GatewayResponse endpoint) :
    Except WalletError endpoint.Payload :=
  if hok : isSuccess res.status = true then match hjson : res.json with
    | some v => .ok ((endpoint.read v).get (res.typed hok v hjson))
    | none => .error (.thrown ⟨.native .syntaxError, []⟩)
  else throwApiError res.status res.json

def submitWalletCreation (f : FacilitatorConfig) (keyId contractId : JsString) (network : Network)
    (signedTx : Signable) : Facilitated JsString := do
  let xdr ← defaultSignedToXdr signedTx
  let res ← post f .create [(js "keyId", keyId), (js "contractId", contractId),
    (js "network", networkName network), (js "signedTx", xdr)]
  res.payload

def lookupContractId (f : FacilitatorConfig) (keyId : JsString) (network : Network) :
    Facilitated (Option WalletLookup) := do
  let res ← post f .connect [(js "keyId", keyId), (js "network", networkName network)]
  if res.status = 404 then return none
  else do
    let found ← res.payload
    return some found

def submitTransaction (f : FacilitatorConfig) (signedXdr : JsString) (network : Network) :
    Facilitated JsString := do
  let res ← post f .submit [(js "signedXdr", signedXdr), (js "network", networkName network)]
  res.payload

/-- `breaker.execute(fn)`, if there is a breaker. -/
def throughBreaker (f : FacilitatorConfig) {α : Type} (fn : Facilitated α) : Facilitated α :=
  match f.circuitBreaker with
  | none => fn
  | some _ => do
      let _ : Unit ← Task.perform FacilitatorOp.execute
      let result ← fn.attempt
      match result with
      | .ok a => do
          let _ : Unit ← Task.perform (FacilitatorOp.settle .resolved)
          return a
      | .error e => do
          let _ : Unit ← Task.perform (FacilitatorOp.settle (.rejected (f.shown e)))
          throw e

/-- The calls of a wallet, those on its backend by the backend. -/
def backendCall (f : FacilitatorConfig) : (o : WalletOp) → Facilitated o.Ret
  | .submitWalletCreation keyId contractId network signedTx =>
      throughBreaker f (submitWalletCreation f keyId contractId network signedTx)
  | .lookupContractId keyId network => throughBreaker f (lookupContractId f keyId network)
  | .submitTransaction signedXdr network => throughBreaker f (submitTransaction f signedXdr network)
  | o => Task.perform (FacilitatorOp.wallet o)

/-- What can be called: a method, and that it gets later. -/
inductive HostCall where
  | method (c : WalletCall)
  | clock (now : ℚ)

def hostBody (d : VellarWalletConfig) (f : FacilitatorConfig) :
    HostCall → Facilitated (Option WalletResult)
  | .method c => do
      let result ← (method d c).implement (backendCall f)
      return some result
  | .clock now => do
      let _ : Unit ← Task.perform (FacilitatorOp.setClock now)
      return none

abbrev FacilitatedWallet := Pool HostCall FacilitatorOp FacilitatorOp.Ret WalletError
  FacilitatorState (Option WalletResult)

abbrev FacilitatedAction := PoolEvent HostCall FacilitatorOp FacilitatorOp.Ret WalletError

/-- A wallet over its facilitator. -/
def facilitatedWallet (d : VellarWalletConfig) (f : FacilitatorConfig) :
    Machine FacilitatedWallet FacilitatedAction :=
  pool (facilitatorHandler f) (hostBody d f)

/-- As it is created, at a reading of the clock. -/
def createFacilitated (clock : ℚ) : FacilitatedWallet where
  shared := { clock := clock }

/-! ## What the calls of a method are -/

/-- What a wallet did that is no call of its backend. -/
def walletPart : FacilitatorEvent → Option WalletEvent
  | ⟨.wallet o, r⟩ => some ⟨o, r⟩
  | _ => none

/-- A call of the backend. -/
def WalletOp.onBackend : WalletOp → Bool
  | .submitWalletCreation _ _ _ _ | .lookupContractId _ _ | .submitTransaction _ _ => true
  | _ => false

/-- A trace over a facilitator, and that of the wallet by itself. -/
def Mirrors (tr : List WalletEvent) (tr' : List FacilitatorEvent) : Prop :=
  tr'.filterMap walletPart = tr.filter (fun e => !e.op.onBackend)

/-- Has a call been let through that has not ended? -/
def underWay (tr : List FacilitatorEvent) : Bool :=
  tr.foldl (fun waiting e => match e with
    | ⟨.execute, .ok _⟩ => true
    | ⟨.settle _, _⟩ => false
    | _ => waiting) false

/-- What a call of the backend has to send. -/
def Posts : WalletOp → Endpoint → List (JsString × JsString) → Prop
  | .submitWalletCreation keyId contractId network signedTx, .create, fields => ∃ xdr,
      defaultSignedToXdr signedTx = .ok xdr ∧
      fields = [(js "keyId", keyId), (js "contractId", contractId),
        (js "network", networkName network), (js "signedTx", xdr)]
  | .lookupContractId keyId network, .connect, fields =>
      fields = [(js "keyId", keyId), (js "network", networkName network)]
  | .submitTransaction signedXdr network, .submit, fields =>
      fields = [(js "signedXdr", signedXdr), (js "network", networkName network)]
  | _, _, _ => False

/-- A request with these fields. -/
def IsPost (f : FacilitatorConfig) (endpoint : Endpoint) (fields : List (JsString × JsString))
    (url : JsString) (init : PolicyRequest) : Prop :=
  url = stripSlashes f.apiUrl ++ endpoint.path ∧
    ∃ text, (textObject fields).stringify = .ok (some text) ∧ init = jsonPost (some text)

/-- What a call of the backend makes of a response. -/
def Reads : (o : WalletOp) → o.Ret → (endpoint : Endpoint) → GatewayResponse endpoint → Prop
  | .submitWalletCreation _ _ _ _, sessionId, .create, res => res.payload = .ok sessionId
  | .lookupContractId _ _, found, .connect, res => (res.status = 404 ∧ found = none) ∨
      ∃ lookup, res.payload = .ok lookup ∧ found = some lookup
  | .submitTransaction _ _, hash, .submit, res => res.payload = .ok hash
  | _, _, _, _ => False

/-- A call of the backend returned what the facilitator had answered to its request. -/
def Confirmed (f : FacilitatorConfig) (o : WalletOp) (a : o.Ret) (tr' : List FacilitatorEvent) :
    Prop :=
  ∃ endpoint fields url init res, Posts o endpoint fields ∧ IsPost f endpoint fields url init ∧
    ⟨.post endpoint url init, .ok res⟩ ∈ tr' ∧ Reads o a endpoint res

/-- How the two traces of a method stand to each other between its calls. -/
structure InStep (f : FacilitatorConfig) (tr : List WalletEvent) (tr' : List FacilitatorEvent) :
    Prop where
  mirrors : Mirrors tr tr'
  idle : underWay tr' = false
  confirmed : ∀ o a, (⟨o, .ok a⟩ : WalletEvent) ∈ tr → o.onBackend = true → Confirmed f o a tr'

/-- Where a call of a method stands. -/
def Facilitating (d : VellarWalletConfig) (f : FacilitatorConfig) (c : WalletCall)
    (tr' : List FacilitatorEvent) : FacilitatorOp → Prop
  | .wallet o => ∃ tr, InStep f tr tr' ∧ Stage d c tr o
  | .execute => underWay tr' = false
  | .settle _ => underWay tr' = true
  | .setClock _ => False
  | .post endpoint url init => underWay tr' = f.circuitBreaker.isSome ∧ ∃ tr o fields,
      Mirrors tr tr' ∧
      (∀ o a, (⟨o, .ok a⟩ : WalletEvent) ∈ tr → o.onBackend = true → Confirmed f o a tr') ∧
      Stage d c tr o ∧ Posts o endpoint fields ∧ IsPost f endpoint fields url init

section Rules

variable {f : FacilitatorConfig} {α : Type} {tr tr' : List FacilitatorEvent}
  {C : List FacilitatorEvent → Unit → FacilitatorOp → Prop}
  {Q : List FacilitatorEvent → Unit → Except WalletError α → Prop}

theorem underWay_append (tr : List FacilitatorEvent) (e : FacilitatorEvent) :
    underWay (tr ++ [e]) = match e with
      | ⟨.execute, .ok _⟩ => true
      | ⟨.settle _, _⟩ => false
      | _ => underWay tr := by
  rw [underWay, List.foldl_append]
  rfl

/-- Nothing that a wallet would see was done since. -/
def Aside (tr tr' : List FacilitatorEvent) : Prop :=
  tr'.filterMap walletPart = tr.filterMap walletPart

theorem aside_append (h : Aside tr tr') {e : FacilitatorEvent} (he : walletPart e = none) :
    Aside tr (tr' ++ [e]) := by
  unfold Aside at h ⊢
  rw [List.filterMap_append, List.filterMap_cons, he, List.filterMap_nil, List.append_nil, h]

/-- The rule for a request. What the response is read as holds of it by `K`. -/
theorem post_sat {endpoint : Endpoint} {fields : List (JsString × JsString)}
    {g : GatewayResponse endpoint → Facilitated α} {K : α → GatewayResponse endpoint → Prop}
    (hC : ∀ url init, IsPost f endpoint fields url init → C tr () (.post endpoint url init))
    (hg : ∀ res, ∃ r : Except WalletError α, g res = .done r ∧ ∀ a, r = .ok a → K a res)
    (hsilent : ∀ e, Q tr () (.error e))
    (herror : ∀ url init reply e, Q (tr ++ [⟨.post endpoint url init, reply⟩]) () (.error e))
    (hok : ∀ url init res a, IsPost f endpoint fields url init → K a res →
      Q (tr ++ [⟨.post endpoint url init, .ok res⟩]) () (.ok a)) :
    Sat awaitAll C Q (post f endpoint fields >>= g) tr () := by
  refine (sat_bind _ _ _ _).mpr (sat_lift_bind (fun body hbody => ?_) (fun e _ => hsilent e))
  have hpost : IsPost f endpoint fields (stripSlashes f.apiUrl ++ endpoint.path)
      (jsonPost body) := by
    unfold ofNative at hbody
    cases htext : (textObject fields).stringify with
    | error e =>
        rw [htext] at hbody
        exact absurd hbody (by simp [Except.mapError])
    | ok text =>
        obtain ⟨rest, rfl⟩ := stringify_obj htext
        rw [htext] at hbody
        rw [← Except.ok.inj hbody]
        exact ⟨rfl, _, htext, rfl⟩
  refine (sat_await rfl _).mpr ⟨hC _ _ hpost, fun reply => ?_⟩
  cases reply with
  | error e => exact herror _ _ _ e
  | ok res =>
      -- What is left is to read the response.
      obtain ⟨r, hr, hread⟩ := hg res
      have hrest : Sat awaitAll C Q (g res) (tr ++ [⟨.post endpoint _ (jsonPost body), .ok res⟩])
          () := by
        rw [hr]
        cases r with
        | ok a => exact hok _ _ res a hpost (hread a rfl)
        | error e => exact herror _ _ _ e
      exact hrest

/-- The rule for a call behind the breaker: it is made only when it was let through, and
    afterwards nothing is under way. What holds of a result that it returned, by `P`, is
    kept. -/
theorem throughBreaker_sat {fn : Facilitated α} {P : List FacilitatorEvent → α → Prop}
    (hidle : underWay tr = false) (hexecute : C tr () .execute)
    (hsettle : ∀ tr' outcome, underWay tr' = true → C tr' () (.settle outcome))
    (hP : ∀ tr' e a, P tr' a → P (tr' ++ [e]) a)
    (hfn : ∀ tr₁, Aside tr tr₁ → tr <+: tr₁ → underWay tr₁ = f.circuitBreaker.isSome →
      Sat awaitAll C (fun tr₂ _ r => Aside tr tr₂ ∧ tr <+: tr₂ ∧ underWay tr₂ = underWay tr₁ ∧
        ∀ a, r = .ok a → P tr₂ a) fn tr₁ ())
    (hQ : ∀ tr' r, Aside tr tr' → tr <+: tr' → underWay tr' = false →
      (∀ a, r = .ok a → P tr' a) → Q tr' () r) :
    Sat awaitAll C Q (throughBreaker f fn) tr () := by
  unfold throughBreaker
  cases hbreaker : f.circuitBreaker with
  | none =>
      rw [hbreaker] at hfn
      refine (hfn tr rfl List.prefix_rfl hidle).imp (fun _ _ _ h => h) (fun tr' _ r h => ?_)
      exact hQ tr' r h.1 h.2.1 (h.2.2.1.trans hidle) h.2.2.2
  | some o =>
      rw [hbreaker] at hfn
      have herror : ∀ (tr' : List FacilitatorEvent) (e : WalletError), Aside tr tr' → tr <+: tr' →
          underWay tr' = false → Q tr' () (.error e) :=
        fun tr' e haside hgrown hclosed => hQ tr' _ haside hgrown hclosed
          (fun a h => absurd h (by simp only [reduceCtorEq, not_false_eq_true]))
      refine (sat_await_bind rfl _).mpr ⟨hexecute, fun _ => ?_, fun e => ?_⟩
      swap
      · -- A call that was refused.
        refine herror _ _ (aside_append rfl rfl) (List.prefix_append _ _) ?_
        rw [underWay_append]
        exact hidle
      refine (sat_bind _ _ _ _).mpr ((sat_attempt _ _ _).mpr ?_)
      have hthrough : underWay (tr ++ [⟨.execute, .ok ()⟩]) = true := by rw [underWay_append]
      refine (hfn _ (aside_append rfl rfl) (List.prefix_append _ _) hthrough).imp
        (fun _ _ _ h => h) (fun tr₂ _ r h => ?_)
      obtain ⟨haside, hgrown, hopen, hread⟩ := h
      have hclosed : ∀ outcome reply, underWay (tr₂ ++ [⟨.settle outcome, reply⟩]) = false :=
        fun outcome reply => by rw [underWay_append]
      have hlonger : ∀ e, tr <+: tr₂ ++ [e] := fun e => hgrown.trans (List.prefix_append _ _)
      cases r with
      | ok a =>
          refine (sat_await_bind rfl _).mpr
            ⟨hsettle _ _ (hopen.trans hthrough), fun _ => ?_, fun e => ?_⟩
          · refine hQ _ _ (aside_append haside rfl) (hlonger _) (hclosed _ _) (fun a' ha' => ?_)
            rw [← Except.ok.inj ha']
            exact hP _ _ _ (hread a rfl)
          · exact herror _ _ (aside_append haside rfl) (hlonger _) (hclosed _ _)
      | error e =>
          refine (sat_await_bind rfl _).mpr
            ⟨hsettle _ _ (hopen.trans hthrough), fun _ => ?_, fun e => ?_⟩
          · exact herror _ _ (aside_append haside rfl) (hlonger _) (hclosed _ _)
          · exact herror _ _ (aside_append haside rfl) (hlonger _) (hclosed _ _)

end Rules

section Methods

variable {d : VellarWalletConfig} {f : FacilitatorConfig} {c : WalletCall}
  {tr : List WalletEvent} {tr' tr'' : List FacilitatorEvent}

/-- A call of the backend leaves no trace but its own. -/
theorem mirrors_backend (h : Mirrors tr tr') {o : WalletOp} (ho : o.onBackend = true)
    (r : Except WalletError o.Ret) (haside : Aside tr' tr'') : Mirrors (tr ++ [⟨o, r⟩]) tr'' := by
  unfold Mirrors Aside at *
  rw [haside, h, List.filter_append]
  simp [ho]

/-- Any other call is the same call. -/
theorem mirrors_wallet (h : Mirrors tr tr') {o : WalletOp} (ho : o.onBackend = false)
    (r : Except WalletError o.Ret) :
    Mirrors (tr ++ [⟨o, r⟩]) (tr' ++ [⟨.wallet o, r⟩]) := by
  unfold Mirrors at *
  rw [List.filterMap_append, h, List.filter_append]
  simp [ho, walletPart]

theorem Confirmed.mono {o : WalletOp} {a : o.Ret} (h : Confirmed f o a tr') (hsub : tr' <+: tr'') :
    Confirmed f o a tr'' := by
  obtain ⟨endpoint, fields, url, init, res, hposts, hpost, hmem, hreads⟩ := h
  exact ⟨endpoint, fields, url, init, res, hposts, hpost, hsub.subset hmem, hreads⟩

/-- The request of a method of the backend, once it was let through. -/
theorem request_sat {o : WalletOp} {endpoint : Endpoint} {fields : List (JsString × JsString)}
    {g : GatewayResponse endpoint → Facilitated o.Ret} {tr₁ : List FacilitatorEvent}
    (hstep : InStep f tr tr') (haside : Aside tr' tr₁) (hgrown : tr' <+: tr₁)
    (hunder : underWay tr₁ = f.circuitBreaker.isSome) (hstage : Stage d c tr o)
    (hposts : Posts o endpoint fields)
    (hg : ∀ res, ∃ r : Except WalletError o.Ret, g res = .done r ∧
      ∀ a, r = .ok a → Reads o a endpoint res) :
    Sat awaitAll (fun tr' _ o' => Facilitating d f c tr' o')
      (fun tr₂ _ r => Aside tr' tr₂ ∧ tr' <+: tr₂ ∧ underWay tr₂ = underWay tr₁ ∧
        ∀ a, r = .ok a → Confirmed f o a tr₂) (post f endpoint fields >>= g) tr₁ () := by
  -- The call to the facilitator stands aside of what the wallet does, and the breaker
  -- is told nothing by it.
  have hmirrors : Mirrors tr tr₁ := haside.trans hstep.mirrors
  have hconfirmed : ∀ o a, (⟨o, .ok a⟩ : WalletEvent) ∈ tr → o.onBackend = true →
      Confirmed f o a tr₁ := fun o a hmem ho => (hstep.confirmed o a hmem ho).mono hgrown
  have hsent : ∀ url init (reply : Except WalletError (GatewayResponse endpoint)),
      Aside tr' (tr₁ ++ [⟨.post endpoint url init, reply⟩]) ∧
      tr' <+: tr₁ ++ [⟨.post endpoint url init, reply⟩] ∧
      underWay (tr₁ ++ [⟨.post endpoint url init, reply⟩]) = underWay tr₁ :=
    fun url init reply => ⟨aside_append haside rfl, hgrown.trans (List.prefix_append _ _), by
      rw [underWay_append]⟩
  -- Where the call fails, nothing was confirmed.
  have hnone : ∀ (e : WalletError) (a : o.Ret), (.error e : Except WalletError o.Ret) ≠ .ok a :=
    fun e a => by simp only [ne_eq, reduceCtorEq, not_false_eq_true]
  refine post_sat (K := fun a res => Reads o a endpoint res)
    (fun _ _ hpost => ⟨hunder, tr, o, fields, hmirrors, hconfirmed, hstage, hposts, hpost⟩) hg
    ?_ ?_ ?_
  · exact fun e => ⟨haside, hgrown, rfl, fun a h => absurd h (hnone e a)⟩
  · intro url init reply e
    obtain ⟨h₁, h₂, h₃⟩ := hsent url init reply
    exact ⟨h₁, h₂, h₃, fun a h => absurd h (hnone e a)⟩
  · intro url init res a hpost hreads
    obtain ⟨h₁, h₂, h₃⟩ := hsent url init (.ok res)
    refine ⟨h₁, h₂, h₃, fun a' ha' => ?_⟩
    rw [← Except.ok.inj ha']
    exact ⟨endpoint, fields, url, init, res, hposts, hpost,
      List.mem_append_right _ List.mem_cons_self, hreads⟩

/-- What a longer trace of both keeps. -/
theorem InStep.confirmed_append (hstep : InStep f tr tr') (hgrown : tr' <+: tr'') {o : WalletOp}
    {r : Except WalletError o.Ret}
    (hr : ∀ a, r = .ok a → o.onBackend = true → Confirmed f o a tr'') :
    ∀ o' a, (⟨o', .ok a⟩ : WalletEvent) ∈ tr ++ [⟨o, r⟩] → o'.onBackend = true →
      Confirmed f o' a tr'' := by
  intro o' a hmem ho'
  rcases List.mem_append.mp hmem with hold | hnew
  · exact (hstep.confirmed o' a hold ho').mono hgrown
  · have heq := List.mem_singleton.mp hnew
    injection heq with hop hreply
    subst hop
    exact hr a (eq_of_heq hreply).symm ho'

/-- A call of the backend, behind the breaker. -/
theorem backend_sat {o : WalletOp} (ho : o.onBackend = true) {fn : Facilitated o.Ret}
    (hstep : InStep f tr tr')
    (hfn : ∀ tr₁, Aside tr' tr₁ → tr' <+: tr₁ → underWay tr₁ = f.circuitBreaker.isSome →
      Sat awaitAll (fun tr' _ o' => Facilitating d f c tr' o')
        (fun tr₂ _ r => Aside tr' tr₂ ∧ tr' <+: tr₂ ∧ underWay tr₂ = underWay tr₁ ∧
          ∀ a, r = .ok a → Confirmed f o a tr₂) fn tr₁ ()) :
    Sat awaitAll (fun tr' _ o' => Facilitating d f c tr' o')
      (fun tr'' _ r => InStep f (tr ++ [⟨o, r⟩]) tr'') (throughBreaker f fn) tr' () := by
  refine throughBreaker_sat (P := fun tr' a => Confirmed f o a tr') hstep.idle hstep.idle
    (fun _ _ h => h) (fun _ _ _ h => h.mono (List.prefix_append _ _)) hfn ?_
  intro tr'' r haside hgrown hidle hread
  exact ⟨mirrors_backend hstep.mirrors ho r haside, hidle,
    hstep.confirmed_append hgrown (fun a ha _ => hread a ha)⟩

/-- Any other call, which is what it was. -/
theorem wallet_sat {o : WalletOp} (ho : o.onBackend = false) (hstep : InStep f tr tr')
    (hstage : Stage d c tr o) :
    Sat awaitAll (fun tr' _ o' => Facilitating d f c tr' o')
      (fun tr'' _ r => InStep f (tr ++ [⟨o, r⟩]) tr'') (Task.perform (FacilitatorOp.wallet o)) tr'
      () := by
  refine (sat_await rfl _).mpr ⟨⟨tr, hstep, hstage⟩, fun r => ⟨mirrors_wallet hstep.mirrors ho r,
    ?_, hstep.confirmed_append (List.prefix_append _ _) (fun a _ hback => ?_)⟩⟩
  · rw [underWay_append]
    exact hstep.idle
  · rw [ho] at hback
    exact absurd hback Bool.false_ne_true

/-- Each call of a wallet by what is put in its place. -/
theorem backendCall_sat (o : WalletOp) (hstep : InStep f tr tr') (hstage : Stage d c tr o) :
    Sat awaitAll (fun tr' _ o' => Facilitating d f c tr' o')
      (fun tr'' _ r => InStep f (tr ++ [⟨o, r⟩]) tr'') (backendCall f o) tr' () := by
  cases o with
  | submitWalletCreation keyId contractId network signedTx =>
      refine backend_sat rfl hstep (fun tr₁ haside hgrown hunder => ?_)
      refine sat_lift_bind (fun xdr hxdr => ?_) (fun e _ => ?_)
      · have hposts : Posts (.submitWalletCreation keyId contractId network signedTx) .create
            [(js "keyId", keyId), (js "contractId", contractId),
              (js "network", networkName network), (js "signedTx", xdr)] := ⟨xdr, hxdr, rfl⟩
        exact request_sat hstep haside hgrown hunder hstage hposts
          (fun res => ⟨res.payload, rfl, fun _ h => h⟩)
      · -- There was nothing to send.
        exact ⟨haside, hgrown, rfl, fun a h => absurd h (by
          simp only [reduceCtorEq, not_false_eq_true])⟩
  | lookupContractId keyId network =>
      refine backend_sat rfl hstep (fun tr₁ haside hgrown hunder => ?_)
      have hposts : Posts (.lookupContractId keyId network) .connect
          [(js "keyId", keyId), (js "network", networkName network)] := rfl
      refine request_sat hstep haside hgrown hunder hstage hposts (fun res => ?_)
      by_cases hmissing : res.status = 404
      · exact ⟨.ok none, if_pos hmissing, fun a ha => .inl ⟨hmissing, (Except.ok.inj ha).symm⟩⟩
      · cases hpayload : res.payload with
        | error e =>
            exact ⟨.error e, (if_neg hmissing).trans rfl, fun a ha => absurd ha (by
              simp only [reduceCtorEq, not_false_eq_true])⟩
        | ok found =>
            exact ⟨.ok (some found), (if_neg hmissing).trans rfl,
              fun a ha => .inr ⟨found, hpayload, (Except.ok.inj ha).symm⟩⟩
  | submitTransaction signedXdr network =>
      refine backend_sat rfl hstep (fun tr₁ haside hgrown hunder => ?_)
      have hposts : Posts (.submitTransaction signedXdr network) .submit
          [(js "signedXdr", signedXdr), (js "network", networkName network)] := rfl
      exact request_sat hstep haside hgrown hunder hstage hposts
        (fun res => ⟨res.payload, rfl, fun _ h => h⟩)
  | _ => exact wallet_sat rfl hstep hstage

/-- Every call that a method makes over a facilitator stands where it should, and the method
    ends as it would by itself, with nothing under way. -/
theorem facilitated_sat (d : VellarWalletConfig) (f : FacilitatorConfig) (c : WalletCall) :
    Sat awaitAll (fun tr' _ o' => Facilitating d f c tr' o')
      (fun tr' _ r => ∃ tr r', InStep f tr tr' ∧ Ended d tr r' c ∧ r = r'.map some)
      (hostBody d f (.method c)) [] () := by
  refine (sat_bind _ _ _ _).mpr ?_
  refine sat_implement (S := fun tr _ tr' _ => InStep f tr tr') ?_ ?_ (method_sat d c)
    ⟨rfl, rfl, fun _ _ hmem => absurd hmem List.not_mem_nil⟩
  · intro tr s tr' s' o hstep hstage
    exact (backendCall_sat o hstep hstage).imp (fun _ _ _ h => h) (fun _ _ r h => ⟨(), rfl, h⟩)
  · intro tr s tr' s' r hstep hended
    cases r with
    | ok result => exact ⟨tr, _, hstep, hended, rfl⟩
    | error e => exact ⟨tr, _, hstep, hended, rfl⟩

/-- Where a call stands, of a method or of the clock. -/
def Hosted (d : VellarWalletConfig) (f : FacilitatorConfig) :
    HostCall → List FacilitatorEvent → FacilitatorOp → Prop
  | .method c, tr, o => Facilitating d f c tr o
  | .clock now, _, o => o = .setClock now

theorem hostBody_sat (d : VellarWalletConfig) (f : FacilitatorConfig) (h : HostCall) :
    Sat awaitAll (fun tr _ o => Hosted d f h tr o) (fun _ _ _ => True) (hostBody d f h) [] () := by
  cases h with
  | method c => exact (facilitated_sat d f c).imp (fun _ _ _ h => h) (fun _ _ _ _ => trivial)
  | clock now => exact (sat_await_bind rfl _).mpr ⟨rfl, fun _ => trivial, fun _ => trivial⟩

/-- All but the setting of the clock is done by a method. -/
theorem Hosted.method {h : HostCall} {o : FacilitatorOp} (hhosted : Hosted d f h tr' o)
    (ho : ∀ now, o ≠ .setClock now) : ∃ c, h = .method c ∧ Facilitating d f c tr' o := by
  cases h with
  | method c => exact ⟨c, rfl, hhosted⟩
  | clock now => exact absurd hhosted (ho now)

end Methods

end Wallet

end VellarSdk
