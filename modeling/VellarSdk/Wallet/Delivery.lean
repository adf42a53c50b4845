import VellarSdk.Wallet.Facilitator

/-!
# What a Facilitator Is Sent

A wallet over its facilitator, in any run: calls of its methods that overlap, a breaker
that refuses some of them, and any answers of the facilitator. What it is sent is a text,
and what matters is what it reads of it. What a method reports is what the facilitator had
confirmed: a hash that a payment returns was answered to the transaction that the passkey
had signed, and the session of a wallet that was created names the contract that the
facilitator was sent to deploy, and the record that it answered with.

## Main definitions

* `ReadAs`: What is read of a request.
* `Exchanged`, `Delivered`: What the facilitator was sent, and what it confirmed by it.
* `Requested`: What a method has to send.
* `ConfirmedSession`: A session of which all that it names was confirmed.

## Theorems

* `jsonParse_textObject`: An object of texts is read as it was written.
* `facilitator_reads_posts`: What the facilitator is sent.
* `payment_confirmed`: What a payment returns.
* `session_confirmed`: What the session names.
-/

namespace VellarSdk

namespace Wallet

open Js Async X402 Breaker

/-- The receiver of a request reads these texts. -/
def ReadAs (r : Rounding) (init : PolicyRequest) (fields : List (JsString × JsString)) : Prop :=
  ∃ text, init = jsonPost (some text) ∧ jsonParse r text = some (textObject fields)

/-- The facilitator read these fields of a request, and this is what it answered. -/
def Exchanged (f : FacilitatorConfig) (r : Rounding) (tr' : List FacilitatorEvent)
    (endpoint : Endpoint) (fields : List (JsString × JsString)) (res : GatewayResponse endpoint) :
    Prop :=
  ∃ init, ⟨.post endpoint (stripSlashes f.apiUrl ++ endpoint.path) init, .ok res⟩ ∈ tr' ∧
    ReadAs r init fields

/-- A success with this payload. -/
def GatewayResponse.Carries {endpoint : Endpoint} (res : GatewayResponse endpoint)
    (a : endpoint.Payload) : Prop :=
  isSuccess res.status = true ∧ ∃ v, res.json = some v ∧ endpoint.read v = some a

/-- What the facilitator confirmed of a call of the backend. -/
def Delivered (f : FacilitatorConfig) (r : Rounding) (tr' : List FacilitatorEvent) :
    (o : WalletOp) → o.Ret → Prop
  | .submitWalletCreation keyId contractId network signedTx, sessionId => ∃ xdr res,
      defaultSignedToXdr signedTx = .ok xdr ∧
      Exchanged f r tr' .create [(js "keyId", keyId), (js "contractId", contractId),
        (js "network", networkName network), (js "signedTx", xdr)] res ∧ res.Carries sessionId
  | .lookupContractId keyId network, found => ∃ res,
      Exchanged f r tr' .connect [(js "keyId", keyId), (js "network", networkName network)] res ∧
      ((res.status = 404 ∧ found = none) ∨ ∃ lookup, res.Carries lookup ∧ found = some lookup)
  | .submitTransaction signedXdr network, hash => ∃ res,
      Exchanged f r tr' .submit
        [(js "signedXdr", signedXdr), (js "network", networkName network)] res ∧ res.Carries hash
  | _, _ => True

/-- The answers that the kit was given to its lookups were those of the facilitator. -/
def LookupsDelivered (f : FacilitatorConfig) (r : Rounding) (tr' : List FacilitatorEvent)
    (calls : List WalletEvent) : Prop :=
  ∀ keyId network found, (⟨.lookupContractId keyId network, .ok found⟩ : WalletEvent) ∈ calls →
    Delivered f r tr' (.lookupContractId keyId network) found

/-- What a method has to send, after what it has done: what the kit created, what the kit
    looks up next, or what the passkey signed. -/
def Requested (d : VellarWalletConfig) (f : FacilitatorConfig) (r : Rounding) (c : WalletCall)
    (tr' : List FacilitatorEvent) : Endpoint → List (JsString × JsString) → Prop
  | .create, fields => ∃ username created xdr, c = .create username ∧
      tr'.filterMap walletPart = [⟨.webAuthn, .ok true⟩,
        ⟨.kitCreateWallet d.appName (displayName username), .ok created⟩] ∧
      defaultSignedToXdr created.signedTx = .ok xdr ∧
      fields = [(js "keyId", created.keyIdBase64), (js "contractId", created.contractId),
        (js "network", networkName d.network), (js "signedTx", xdr)]
  | .connect, fields => ∃ keyId calls, c = .connect ∧
      tr'.filterMap walletPart =
        ⟨.webAuthn, .ok true⟩ :: calls.filter (fun e => !e.op.onBackend) ∧
      KitReached d.kitConnectWallet d.network calls (.getContractId keyId) ∧
      LookupsDelivered f r tr' calls ∧
      fields = [(js "keyId", keyId), (js "network", networkName d.network)]
  | .submit, fields => ∃ input session tx signed xdr, c = .pay input ∧
      Payable d session.accountId input ∧
      tr'.filterMap walletPart = payTrace input session tx signed ∧
      signedToXdr d (signed.orElse tx) = .ok xdr ∧
      fields = [(js "signedXdr", xdr), (js "network", networkName d.network)]

section Reading

variable {d : VellarWalletConfig} {f : FacilitatorConfig} {c : WalletCall} {r : Rounding}
  {o : WalletOp} {endpoint : Endpoint} {fields : List (JsString × JsString)}

/-- An object of texts is read as it was written. -/
theorem jsonParse_textObject {text : JsString} (henum : (fields.map Prod.fst).Pairwise Precedes)
    (htext : (textObject fields).stringify = .ok (some text)) :
    jsonParse r text = some (textObject fields) := by
  have hstorable : Storable r (textObject fields) := by
    refine .obj _ ?_ (fun e he => ?_)
    · unfold Enumerated
      rw [List.map_map]
      exact henum
    · obtain ⟨field, -, rfl⟩ := List.mem_map.mp he
      exact .str _
  have hlossless : Lossless (textObject fields) := by
    refine .obj _ (fun e he => ?_)
    obtain ⟨field, -, rfl⟩ := List.mem_map.mp he
    exact .str _
  rw [jsonParse_stringify hstorable htext, jsonView_of_lossless _ hlossless]

/-- The fields of each request are enumerated as they are written. -/
theorem posts_enumerated (h : Posts o endpoint fields) :
    (fields.map Prod.fst).Pairwise Precedes := by
  cases o <;> cases endpoint <;> try exact absurd h not_false
  · obtain ⟨xdr, -, rfl⟩ := h
    have hkeys : [js "keyId", js "contractId", js "network", js "signedTx"].Pairwise Precedes := by
      decide +kernel
    exact hkeys
  · rw [show fields = _ from h]
    have hkeys : [js "keyId", js "network"].Pairwise Precedes := by decide +kernel
    exact hkeys
  · rw [show fields = _ from h]
    have hkeys : [js "signedXdr", js "network"].Pairwise Precedes := by decide +kernel
    exact hkeys

theorem readAs_of_isPost {url : JsString} {init : PolicyRequest} (hposts : Posts o endpoint fields)
    (h : IsPost f endpoint fields url init) : ReadAs r init fields := by
  obtain ⟨-, text, htext, hinit⟩ := h
  exact ⟨text, hinit, jsonParse_textObject (posts_enumerated hposts) htext⟩

/-- Where the wallet had called nothing on its backend, the traces agree. -/
theorem mirrors_eq {tr : List WalletEvent} {tr' : List FacilitatorEvent} (h : Mirrors tr tr')
    (hnone : ∀ e ∈ tr, e.op.onBackend = false) : tr'.filterMap walletPart = tr := by
  rw [h, List.filter_eq_self]
  intro e he
  rw [hnone e he]
  rfl

theorem payTrace_quiet (input : PayInput) (session : WalletSession) (tx signed : Signable) :
    ∀ e ∈ payTrace input session tx signed, e.op.onBackend = false := by
  simp [payTrace, readEvent, PayInput.transfer, WalletOp.onBackend]

end Reading

section Confirmations

variable {f : FacilitatorConfig} {r : Rounding} {tr' : List FacilitatorEvent}

/-- A payload is that of a success. -/
theorem carries_of_payload {endpoint : Endpoint} {res : GatewayResponse endpoint}
    {a : endpoint.Payload} (h : res.payload = .ok a) : res.Carries a := by
  unfold GatewayResponse.payload at h
  by_cases hok : isSuccess res.status = true
  · rw [dif_pos hok] at h
    split at h
    · next v hjson =>
        refine ⟨hok, v, hjson, ?_⟩
        rw [← Except.ok.inj h, Option.some_get]
    · exact absurd h (by simp only [reduceCtorEq, not_false_eq_true])
  · rw [dif_neg hok] at h
    -- An error is made of any other response.
    unfold throwApiError at h
    simp only [bind, Except.bind] at h
    split at h
    · exact absurd h (by simp only [reduceCtorEq, not_false_eq_true])
    · exact absurd h (by simp only [reduceCtorEq, not_false_eq_true])

/-- What a call of the backend returned was confirmed. -/
theorem delivered_of_confirmed {o : WalletOp} {a : o.Ret} (h : Confirmed f o a tr') :
    Delivered f r tr' o a := by
  obtain ⟨endpoint, fields, url, init, res, hposts, hpost, hmem, hreads⟩ := h
  have hexchanged : Exchanged f r tr' endpoint fields res :=
    ⟨init, hpost.1 ▸ hmem, readAs_of_isPost hposts hpost⟩
  cases o with
  | submitWalletCreation keyId contractId network signedTx =>
      cases endpoint <;> try exact absurd hposts not_false
      obtain ⟨xdr, hxdr, rfl⟩ := hposts
      exact ⟨xdr, res, hxdr, hexchanged, carries_of_payload hreads⟩
  | lookupContractId keyId network =>
      cases endpoint <;> try exact absurd hposts not_false
      rw [show fields = _ from hposts] at hexchanged
      refine ⟨res, hexchanged, ?_⟩
      rcases hreads with hmissing | ⟨lookup, hpayload, hfound⟩
      · exact .inl hmissing
      · exact .inr ⟨lookup, carries_of_payload hpayload, hfound⟩
  | submitTransaction signedXdr network =>
      cases endpoint <;> try exact absurd hposts not_false
      rw [show fields = _ from hposts] at hexchanged
      exact ⟨res, hexchanged, carries_of_payload hreads⟩
  | _ => trivial

/-- What is sent where a call of a method stands. -/
theorem requested_of_stage {d : VellarWalletConfig} {c : WalletCall} {o : WalletOp}
    {tr : List WalletEvent} {endpoint : Endpoint} {fields : List (JsString × JsString)}
    (hmirrors : Mirrors tr tr')
    (hconfirmed : ∀ o a, (⟨o, .ok a⟩ : WalletEvent) ∈ tr → o.onBackend = true →
      Confirmed f o a tr')
    (hstage : Stage d c tr o) (hposts : Posts o endpoint fields) :
    Requested d f r c tr' endpoint fields := by
  cases c with
  | create username =>
      cases o <;> cases endpoint <;> try exact absurd hposts not_false
      · obtain ⟨created, rfl, rfl, rfl, rfl, rfl⟩ := hstage
        obtain ⟨xdr, hxdr, rfl⟩ := hposts
        refine ⟨username, created, xdr, rfl, mirrors_eq hmirrors ?_, hxdr, rfl⟩
        simp [WalletOp.onBackend]
      · exact absurd hstage not_false
      · exact absurd hstage not_false
  | connect =>
      cases o <;> cases endpoint <;> try exact absurd hposts not_false
      · exact absurd hstage not_false
      · obtain ⟨rfl, calls, rfl, hreached⟩ := hstage
        -- What the kit was answered before was confirmed.
        refine ⟨_, calls, rfl, ?_, hreached, fun keyId network found hmem => ?_, hposts⟩
        · rw [hmirrors]
          rfl
        · exact delivered_of_confirmed (hconfirmed _ _ (List.mem_cons_of_mem _ hmem) rfl)
      · exact absurd hstage not_false
  | pay input =>
      cases o <;> cases endpoint <;> try exact absurd hposts not_false
      · exact absurd hstage not_false
      · exact absurd hstage not_false
      · obtain ⟨session, tx, signed, hpayable, rfl, hxdr, rfl⟩ := hstage
        exact ⟨input, session, tx, signed, _, rfl, hpayable,
          mirrors_eq hmirrors (payTrace_quiet input session tx signed), hxdr, hposts⟩
  | x402Fetch url init | x402CreatePayment requirements opts =>
      unfold Stage at hstage
      rcases hstage.cases with rfl | ⟨op, rfl⟩ <;> cases endpoint <;> exact absurd hposts not_false
  | _ =>
      cases o <;> cases endpoint <;> first
        | exact absurd hposts not_false
        | exact absurd hstage not_false

end Confirmations

/-- What the facilitator confirmed of a session that was set: of the deployment of a wallet
    that the kit had created, and of every lookup of one that the kit connected. -/
def ConfirmedSession (d : VellarWalletConfig) (f : FacilitatorConfig) (r : Rounding)
    (tr' : List FacilitatorEvent) (session : WalletSession) : Prop :=
  (∃ (user : JsString) (created : CreatedWallet) (sessionId timestamp : JsString),
    tr'.filterMap walletPart = [⟨.webAuthn, .ok true⟩,
      ⟨.kitCreateWallet d.appName user, .ok created⟩, ⟨.nowIso, .ok timestamp⟩] ∧
    Delivered f r tr' (.submitWalletCreation created.keyIdBase64 created.contractId d.network
      created.signedTx) sessionId ∧
    session = sessionAt d created.contractId (some created.keyIdBase64) (some sessionId)
      timestamp) ∨
  ∃ (calls : List WalletEvent) (connected : ConnectedWallet) (timestamp : JsString),
    tr'.filterMap walletPart = ⟨.webAuthn, .ok true⟩ ::
      (calls.filter (fun e => !e.op.onBackend) ++ [⟨.nowIso, .ok timestamp⟩]) ∧
    (∀ e ∈ calls, ForKit d.network e.op) ∧
    Run awaitAll d.kitConnectWallet () (calls.filterMap kitEvent) (.done (.ok connected)) () ∧
    LookupsDelivered f r tr' calls ∧
    session = sessionAt d connected.contractId (some connected.keyIdBase64) (serverSession calls)
      timestamp

section Runs

variable {d : VellarWalletConfig} {f : FacilitatorConfig} {r : Rounding}

/-- A session that was set was confirmed. -/
theorem confirmedSession_of_write {c : WalletCall} {tr' : List FacilitatorEvent}
    {session : WalletSession} (h : Facilitating d f c tr' (.wallet (.writeSession session))) :
    ConfirmedSession d f r tr' session := by
  obtain ⟨tr, hstep, hstage⟩ := h
  -- By then every call of the backend has ended, and what it returned was confirmed.
  have hmirrors := hstep.mirrors
  rcases stage_write hstage with hcreated | hconnected
  · obtain ⟨user, created, sessionId, timestamp, rfl, rfl⟩ := hcreated
    refine Or.inl ⟨user, created, sessionId, timestamp, ?_, delivered_of_confirmed ?_, rfl⟩
    · rw [hmirrors]
      rfl
    · exact hstep.confirmed _ _ (by simp) rfl
  · obtain ⟨calls, connected, timestamp, rfl, hcalls, hruns, rfl⟩ := hconnected
    refine Or.inr ⟨calls, connected, timestamp, ?_, hcalls, hruns, fun keyId network found hmem => ?_,
      rfl⟩
    · rw [hmirrors, List.filter_cons_of_pos rfl, List.filter_append]
      rfl
    · refine delivered_of_confirmed (hstep.confirmed _ _ ?_ rfl)
      exact List.mem_cons_of_mem _ (List.mem_append_left _ hmem)

/-- Only a write sets the session. -/
theorem session_changed {s s' : FacilitatorState} {o : FacilitatorOp}
    {reply : Except WalletError o.Ret} {session : WalletSession}
    (h : Answered (facilitatorHandler f) s o reply s')
    (hbefore : s.session ≠ some session) (hafter : s'.session = some session) :
    o = .wallet (.writeSession session) := by
  -- Only a write to the store changes the session.
  cases o with
  | wallet op =>
      cases op with
      | readSession =>
          injection h with _ hstate
          rw [← hstate] at hafter
          exact absurd hafter hbefore
      | writeSession session' =>
          injection h with _ hstate
          rw [← hstate, Option.some.injEq] at hafter
          rw [hafter]
      | _ =>
          rw [show s' = s from h] at hafter
          exact absurd hafter hbefore
  | execute | settle outcome | setClock now =>
      injection h with _ hstate
      rw [← hstate] at hafter
      exact absurd hafter hbefore
  | post endpoint url init =>
      rw [show s' = s from h] at hafter
      exact absurd hafter hbefore

/-- Whatever a wallet sends its facilitator: it goes to the right endpoint, the facilitator
    reads exactly what the method had to send, and the breaker had let the call through. -/
theorem facilitator_reads_posts (d : VellarWalletConfig) (f : FacilitatorConfig) (clock : ℚ)
    (r : Rounding) (es : List FacilitatedAction) (p : FacilitatedWallet)
    (hrun : (facilitatedWallet d f).run (createFacilitated clock) es = some p) (i : Nat)
    (h : HostCall) (rest : Facilitated (Option WalletResult))
    (hcall : p.calls[i]? = some (h, rest)) (endpoint : Endpoint) (url : JsString)
    (init : PolicyRequest) (hpending : rest.pending = some (.post endpoint url init)) :
    ∃ c fields, h = .method c ∧ url = stripSlashes f.apiUrl ++ endpoint.path ∧
      ReadAs r init fields ∧
      Requested d f r c (own i p.log) endpoint fields ∧
      underWay (own i p.log) = f.circuitBreaker.isSome := by
  have hhosted := (inProgress_run hrun).at_call (hostBody_sat d f h) hcall hpending
  obtain ⟨c, rfl, hunder, tr, o, fields, hmirrors, hconfirmed, hstage, hposts, hpost⟩ :=
    hhosted.method (fun _ => by simp)
  exact ⟨c, fields, rfl, hpost.1, readAs_of_isPost hposts hpost,
    requested_of_stage hmirrors hconfirmed hstage hposts, hunder⟩

/-- What a payment returns is the hash that the facilitator had answered to the transaction
    that the passkey had signed for it. -/
theorem payment_confirmed (d : VellarWalletConfig) (f : FacilitatorConfig) (clock : ℚ)
    (r : Rounding) (es : List FacilitatedAction) (p : FacilitatedWallet)
    (hrun : (facilitatedWallet d f).run (createFacilitated clock) es = some p) (i : Nat)
    (input : PayInput) (result : Option WalletResult)
    (hcall : p.calls[i]? = some (.method (.pay input), .done (.ok result))) :
    ∃ session tx signed signedXdr hash res, result = some (.hash hash) ∧
      Payable d session.accountId input ∧
      (own i p.log).filterMap walletPart = payTrace input session tx signed ∧
      signedToXdr d (signed.orElse tx) = .ok signedXdr ∧
      Exchanged f r (own i p.log) .submit
        [(js "signedXdr", signedXdr), (js "network", networkName d.network)] res ∧
      res.Carries hash := by
  have hruns := (inProgress_run hrun).runs i _ _ hcall
  obtain ⟨tr, r', hstep, hended, hr⟩ := (facilitated_sat d f (.pay input)).at_done hruns
  cases r' with
  | error e => exact absurd hr (by simp only [Except.map, reduceCtorEq, not_false_eq_true])
  | ok out =>
      -- The hash is the answer to the submission, which was confirmed.
      obtain ⟨session, tx, signed, signedXdr, hash, hpayable, hxdr, htr, hout⟩ := hended.1 out rfl
      have hsubmitted : Delivered f r (own i p.log) (.submitTransaction signedXdr d.network) hash :=
        delivered_of_confirmed (hstep.confirmed _ _ (htr ▸ List.mem_append_right _
          List.mem_cons_self) rfl)
      obtain ⟨res, hexchanged, hcarries⟩ := hsubmitted
      refine ⟨session, tx, signed, signedXdr, hash, res, ?_, hpayable, ?_, hxdr, hexchanged,
        hcarries⟩
      · rw [← hout]
        exact Except.ok.inj hr
      · -- The submission is the only call of the backend.
        have hquiet : (payTrace input session tx signed).filter (fun e => !e.op.onBackend) =
            payTrace input session tx signed := by
          rw [List.filter_eq_self]
          intro e he
          rw [payTrace_quiet input session tx signed e he]
          rfl
        have hmirrors := hstep.mirrors
        rw [Mirrors, htr, List.filter_append, hquiet] at hmirrors
        simpa [WalletOp.onBackend] using hmirrors

/-- The session of a wallet names the contract that the facilitator was sent to deploy and
    the record it answered with, or what the kit made of the answers of the facilitator. -/
theorem session_confirmed (d : VellarWalletConfig) (f : FacilitatorConfig) (clock : ℚ)
    (r : Rounding) (es : List FacilitatedAction) (p : FacilitatedWallet) (session : WalletSession)
    (hrun : (facilitatedWallet d f).run (createFacilitated clock) es = some p)
    (hsession : p.shared.session = some session) :
    ∃ before j reply after,
      p.log = before ++ (j, ⟨.wallet (.writeSession session), reply⟩) :: after ∧
      ConfirmedSession d f r (own j before) session := by
  obtain ⟨before, j, o, reply, after, s₁, s₂, hlog, -, hnot, hanswered, hnow⟩ :=
    (logged_run hrun).changed (P := fun s => s.session = some session)
      (by simp only [reduceCtorEq, not_false_eq_true]) hsession
  -- What set it is a write, and the call that writes stands where it should.
  have ho := session_changed hanswered hnot hnow
  subst ho
  obtain ⟨h, rest, hcall, hhosted⟩ := (inProgress_run hrun).at_event (hostBody_sat d f) hlog
  obtain ⟨c, -, hwrites⟩ := hhosted.method (fun _ => by simp)
  exact ⟨before, j, reply, after, hlog, confirmedSession_of_write hwrites⟩

end Runs

section Sample

/-- A facilitator with a breaker before it. -/
def sampleFacilitator : FacilitatorConfig where
  apiUrl := js "https://g/"
  circuitBreaker := some {}
  shown _ := .undefined

/-- What it answers: a success that holds everything that is asked for. -/
def samplePayload : JsValue :=
  .obj [(js "sessionId", .str (js "s1")), (js "contractId", .str (js "CA")),
    (js "hash", .str (js "h1"))]

def sampleResponse : (endpoint : Endpoint) → GatewayResponse endpoint
  | .create => ⟨200, some samplePayload, fun _ v h => Option.some.inj h ▸ by decide⟩
  | .connect => ⟨200, some samplePayload, fun _ v h => Option.some.inj h ▸ by decide⟩
  | .submit => ⟨200, some samplePayload, fun _ v h => Option.some.inj h ▸ by decide⟩

def sampleReply : (o : FacilitatorOp) → Except WalletError o.Ret
  | .wallet o => sampleAnswer o
  | .execute | .settle _ | .setClock _ => .ok ()
  | .post endpoint _ _ => .ok (sampleResponse endpoint)

/-- A wallet is created over it. -/
def sampleCreation : List FacilitatedAction :=
  [.call (.method (.create none)), .reply 0 sampleReply, .reply 0 sampleReply, .exec 0,
    .reply 0 sampleReply, .exec 0, .reply 0 sampleReply, .exec 0]

/-- And a payment is made with it, up to its request. -/
def sampleOrder : List FacilitatedAction :=
  sampleCreation ++ [.call (.method (.pay samplePay)), .exec 1, .reply 1 sampleReply,
    .reply 1 sampleReply, .exec 1]

/-- The payment is submitted. -/
def sampleSubmission : List FacilitatedAction :=
  sampleOrder ++ [.reply 1 sampleReply, .exec 1]

/-- A wallet whose kit looks up a credential before it connects. -/
def lookingConfig : VellarWalletConfig :=
  { sampleConfig with
    kitConnectWallet := .call (.getContractId (js "k")) (fun _ =>
      .done (.ok { keyIdBase64 := js "k", contractId := js "CA" })) }

/-- It is connected, up to the request of its lookup. -/
def sampleLookup : List FacilitatedAction :=
  [.call (.method .connect), .reply 0 sampleReply, .exec 0]

/-- Does a connection wait for the answer to its lookup? -/
def looksUp (p : Option FacilitatedWallet) : Bool :=
  match p with
  | some p => match (p.calls[0]? : Option (HostCall × Facilitated (Option WalletResult))) with
    | some (.method .connect, .call (.post .connect _ _) _) => true
    | _ => false
  | none => false

theorem facilitator_reads_posts_sample :
    (∃ p rest endpoint url init c fields,
      (facilitatedWallet sampleConfig sampleFacilitator).run (createFacilitated 0) sampleOrder =
        some p ∧
      p.calls[1]? = some (.method c, rest) ∧ rest.pending = some (.post endpoint url init) ∧
      url = js "https://g/wallet/submit" ∧ ReadAs exactRounding init fields ∧
      Requested sampleConfig sampleFacilitator exactRounding c (own 1 p.log) endpoint fields ∧
      underWay (own 1 p.log) = true) ∧
    ∃ p rest endpoint url init c fields,
      (facilitatedWallet lookingConfig sampleFacilitator).run (createFacilitated 0) sampleLookup =
        some p ∧
      p.calls[0]? = some (.method c, rest) ∧ rest.pending = some (.post endpoint url init) ∧
      url = js "https://g/wallet/connect" ∧ ReadAs exactRounding init fields ∧
      Requested lookingConfig sampleFacilitator exactRounding c (own 0 p.log) endpoint fields ∧
      underWay (own 0 p.log) = true := by
  constructor
  · have hrun : ∃ p rest init,
        (facilitatedWallet sampleConfig sampleFacilitator).run (createFacilitated 0) sampleOrder =
          some p ∧
        p.calls[1]? = some (.method (.pay samplePay), rest) ∧
        rest.pending = some (.post .submit (js "https://g/wallet/submit") init) :=
      ⟨_, _, _, rfl, rfl, rfl⟩
    obtain ⟨p, rest, init, hrun, hcall, hpending⟩ := hrun
    obtain ⟨c, fields, hc, -, hread, hrequested, hunder⟩ :=
      facilitator_reads_posts sampleConfig sampleFacilitator 0 exactRounding _ p hrun 1 _ rest hcall
        _ _ _ hpending
    exact ⟨p, rest, _, _, init, c, fields, hrun, hc ▸ hcall, hpending, rfl, hread, hrequested,
      hunder⟩
  · -- The connect call posts the key that the kit reported.
    have hlooks : looksUp ((facilitatedWallet lookingConfig sampleFacilitator).run
        (createFacilitated 0) sampleLookup) = true := by decide +kernel
    cases hrun : (facilitatedWallet lookingConfig sampleFacilitator).run (createFacilitated 0)
        sampleLookup with
    | none =>
        rw [hrun] at hlooks
        exact absurd hlooks Bool.false_ne_true
    | some p =>
        rw [hrun] at hlooks
        simp only [looksUp] at hlooks
        split at hlooks
        · next url init k hcall =>
          obtain ⟨c, fields, hc, hurl, hread, hrequested, hunder⟩ :=
            facilitator_reads_posts lookingConfig sampleFacilitator 0 exactRounding _ p hrun 0 _ _
              hcall _ _ _ rfl
          have hpath : stripSlashes sampleFacilitator.apiUrl ++ Endpoint.connect.path =
              js "https://g/wallet/connect" := by decide +kernel
          exact ⟨p, _, _, url, init, c, fields, rfl, hc ▸ hcall, rfl, hurl.trans hpath, hread,
            hrequested, hunder⟩
        · exact absurd hlooks Bool.false_ne_true

theorem payment_confirmed_sample : ∃ p session tx signed signedXdr res,
    (facilitatedWallet sampleConfig sampleFacilitator).run (createFacilitated 0)
      sampleSubmission = some p ∧
    p.calls[1]? = some (.method (.pay samplePay), .done (.ok (some (.hash (js "h1"))))) ∧
    (own 1 p.log).filterMap walletPart = payTrace samplePay session tx signed ∧
    signedToXdr sampleConfig (signed.orElse tx) = .ok signedXdr ∧
    Exchanged sampleFacilitator exactRounding (own 1 p.log) .submit
      [(js "signedXdr", signedXdr), (js "network", js "testnet")] res ∧
    res.Carries (js "h1") := by
  have hrun : ∃ p, (facilitatedWallet sampleConfig sampleFacilitator).run (createFacilitated 0)
        sampleSubmission = some p ∧
      p.calls[1]? = some (.method (.pay samplePay), .done (.ok (some (.hash (js "h1"))))) :=
    ⟨_, rfl, rfl⟩
  obtain ⟨p, hrun, hcall⟩ := hrun
  obtain ⟨session, tx, signed, signedXdr, hash, res, hresult, -, hown, hxdr, hsent, hcarries⟩ :=
    payment_confirmed sampleConfig sampleFacilitator 0 exactRounding _ p hrun 1 samplePay _ hcall
  simp only [Option.some.injEq, WalletResult.hash.injEq] at hresult
  exact ⟨p, session, tx, signed, signedXdr, res, hrun, hcall, hown, hxdr, hsent, hresult ▸ hcarries⟩

theorem session_confirmed_sample : ∃ p session before j reply after,
    (facilitatedWallet sampleConfig sampleFacilitator).run (createFacilitated 0)
      sampleCreation = some p ∧ p.shared.session = some session ∧
    p.log = before ++ (j, ⟨.wallet (.writeSession session), reply⟩) :: after ∧
    ConfirmedSession sampleConfig sampleFacilitator exactRounding (own j before) session := by
  have hrun : ∃ p session, (facilitatedWallet sampleConfig sampleFacilitator).run
      (createFacilitated 0) sampleCreation = some p ∧ p.shared.session = some session :=
    ⟨_, _, rfl, rfl⟩
  obtain ⟨p, session, hrun, hsession⟩ := hrun
  obtain ⟨before, j, reply, after, hlog, hconfirmed⟩ :=
    session_confirmed sampleConfig sampleFacilitator 0 exactRounding _ p session hrun hsession
  exact ⟨p, session, before, j, reply, after, hrun, hsession, hlog, hconfirmed⟩

end Sample

end Wallet

end VellarSdk
