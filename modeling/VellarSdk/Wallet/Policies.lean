import VellarSdk.Wallet.Agents

/-!
# Policies of a Wallet

A policy is put on a wallet in three parts. The gateway deploys an instance of its
contract for the account, the passkey signs that the wallet is to heed it, and the
gateway is told. What is signed for is the contract that the gateway named for this
account and this policy, and what the gateway is told is what was signed.

An error of the gateway says whether asking again can help: when nothing was decided, as
when it could not be reached, and not when it refused.

## Main definitions

* `req`: A request to the gateway.
* `deploy`, `simulate`: The methods of the facade that need a session.
* `isRetryableStatus`: When asking again can help.
* `Deploying`: Where the calls of a deployment stand.
* `Deployed`: What they were when it returned.

## Theorems

* `req_sat`: A request makes one call.
* `deploy_sat`: What is signed is the instance that was deployed for the account.
-/

namespace VellarSdk

namespace Wallet

open Js Async X402

/-- A native error, thrown by a method. -/
def ofNative {α : Type} (x : Except NativeError α) : Except WalletError α :=
  x.mapError (fun e => .thrown ⟨.native e, []⟩)

/-- When asking the gateway again can help. -/
def isRetryableStatus (status : Nat) : Bool :=
  -- The request that reached nobody has the status zero.
  if status = 0 then true
  else if status = 408 ∨ status = 429 then true
  else 500 ≤ status

/-- `PolicyApiError.retryable`. -/
def WalletError.retryable : WalletError → Bool
  | .policyApi _ status _ => isRetryableStatus status
  | _ => false

/-- `apiUrl.replace(/\/+$/, "")`. -/
def stripSlashes (apiUrl : JsString) : JsString :=
  (apiUrl.reverse.dropWhile (fun u => u == 47)).reverse

/-- A place of the gateway. -/
def policiesUrl (d : VellarWalletConfig) (path : JsString) : JsString :=
  stripSlashes (d.apiUrl.getD []) ++ js "/policies" ++ path

/-- `{ method: "POST", body }`, with the header that `req` adds for a body. -/
def postRequest (body : Option JsString) : PolicyRequest where
  method := some (js "POST")
  contentType := if body.any (fun text => !text.isEmpty) then some (js "application/json") else none
  body := body

def getRequest : PolicyRequest where
  method := none
  contentType := none
  body := none

/-- The error for a response that is not a success. -/
def throwPolicyApi {α : Type} (res : PolicyResponse) (payload : JsValue) :
    Except WalletError α := do
  let message ← ofNative (payload.prop (js "message"))
  let error ← ofNative (payload.prop (js "error"))
  let text ← ofNative ((message.orElse (error.orElse
    (.str (js "Request failed (" ++ natToString res.status ++ js ")")))).toStr)
  .error (.policyApi text res.status (payload.field (js "errors")))

/-- What a request returns of its response. A body that is no JSON is an empty object. -/
def payloadOf (res : PolicyResponse) : Except WalletError JsValue :=
  let payload := res.json.getD (.obj [])
  if res.ok then .ok payload else throwPolicyApi res payload

/-- A request without a response has no status. -/
def req (d : VellarWalletConfig) (path : JsString) (init : PolicyRequest) : WalletTask JsValue := do
  let res : PolicyResponse ← tryCatch (Task.perform (WalletOp.fetch (policiesUrl d path) init))
    (fun e =>
      throw (.policyApi (if e.isError then e.message else js "network request failed") 0 .undefined))
  payloadOf res

/-- `res.field` of what a request returned. -/
def member (name : String) (payload : JsValue) : Except WalletError JsValue :=
  ofNative (payload.prop (js name))

def listTemplates (d : VellarWalletConfig) : WalletTask JsValue :=
  req d (js "/templates") getRequest

def validate (d : VellarWalletConfig) (definition : JsValue) : WalletTask JsValue := do
  let body ← ofNative definition.stringify
  req d (js "/validate") (postRequest body)

def generate (d : VellarWalletConfig) (definition : JsValue) : WalletTask JsValue := do
  let body ← ofNative (JsValue.obj [(js "definition", definition),
    (js "network", .str (networkName d.network))]).stringify
  let payload ← req d (js "/generate") (postRequest body)
  member "policy" payload

/-- The body that names a wallet. -/
def walletBody (wallet : JsString) : Except WalletError (Option JsString) :=
  ofNative (JsValue.obj [(js "wallet", .str wallet)]).stringify

def clientSimulate (d : VellarWalletConfig) (policyId wallet : JsString) : WalletTask JsValue := do
  let body ← walletBody wallet
  req d (js "/" ++ policyId ++ js "/simulate") (postRequest body)

def deployInstance (d : VellarWalletConfig) (policyId wallet : JsString) : WalletTask JsValue := do
  let body ← walletBody wallet
  let payload ← req d (js "/" ++ policyId ++ js "/deploy-instance") (postRequest body)
  member "contractId" payload

/-- The body that names a completed attach. -/
def recordBody (policyId txHash : JsString) (contractId : JsValue) :
    Except WalletError (Option JsString) :=
  ofNative (JsValue.obj [(js "policyId", .str policyId), (js "txHash", .str txHash),
    (js "contractId", contractId)]).stringify

def recordDeployment (d : VellarWalletConfig) (policyId txHash : JsString) (contractId : JsValue) :
    WalletTask JsValue := do
  let body ← recordBody policyId txHash contractId
  let payload ← req d (js "/deploy") (postRequest body)
  member "policy" payload

structure DeployPolicyResult where
  policy : JsValue
  contractId : JsValue
  attachTxHash : JsString

/-- The getter `wallet.policies`. -/
def assertPolicies (d : VellarWalletConfig) : Except WalletError Unit :=
  if (d.apiUrl.getD []).isEmpty then
    .error (.walletNotReady (js ("wallet.policies requires `apiUrl` in createVellarWallet " ++
      "config (the policy API gateway).")))
  else .ok ()

def simulate (d : VellarWalletConfig) (policyId : JsString) : WalletTask JsValue := do
  assertPolicies d
  let session ← requireSession (js "Call create() or connect() before using policies")
  clientSimulate d policyId session.accountId

def deploy (d : VellarWalletConfig) (policyId : JsString) : WalletTask DeployPolicyResult := do
  assertPolicies d
  let session ← requireSession (js "Call create() or connect() before using policies")
  match d.policyAttach with
  | none => throw .policyNotDeployable
  | some attach =>
      let contractId ← deployInstance d policyId session.accountId
      resumeKey .policyAttach attach session
      let hash : JsString ← Task.perform (WalletOp.attachPolicy contractId)
      let policy ← recordDeployment d policyId hash contractId
      return { policy := policy, contractId := contractId, attachTxHash := hash }

/-- The call that deploys an instance for an account, and the contract it named. -/
def InstanceFor (d : VellarWalletConfig) (policyId wallet : JsString) (contractId : JsValue)
    (e : WalletEvent) : Prop :=
  ∃ body res, walletBody wallet = .ok body ∧
    e = ⟨.fetch (policiesUrl d (js "/" ++ policyId ++ js "/deploy-instance")) (postRequest body),
      .ok res⟩ ∧
    payloadOf res >>= member "contractId" = .ok contractId

/-- The call that tells of an attach. -/
def IsRecord (d : VellarWalletConfig) (policyId hash : JsString) (contractId : JsValue)
    (url : JsString) (init : PolicyRequest) : Prop :=
  ∃ body, recordBody policyId hash contractId = .ok body ∧ url = policiesUrl d (js "/deploy") ∧
    init = postRequest body

/-- Where a call of a deployment stands. -/
def Deploying (d : VellarWalletConfig) (policyId : JsString) (tr : List WalletEvent) :
    WalletOp → Prop
  | .readSession => tr = []
  | .fetch url init =>
      (∃ session body, walletBody session.accountId = .ok body ∧
        tr = [readEvent (some session)] ∧
        url = policiesUrl d (js "/" ++ policyId ++ js "/deploy-instance") ∧
        init = postRequest body) ∨
      (∃ session contractId named resumed hash,
        InstanceFor d policyId session.accountId contractId named ∧
        Resumed d .policyAttach session resumed ∧
        tr = readEvent (some session) :: named ::
          (resumed ++ [⟨.attachPolicy contractId, .ok hash⟩]) ∧
        IsRecord d policyId hash contractId url init)
  | .resume kind keyId => ∃ session contractId named, kind = .policyAttach ∧
      InstanceFor d policyId session.accountId contractId named ∧ session.keyId = some keyId ∧
      tr = [readEvent (some session), named]
  | .attachPolicy contractId => ∃ session named resumed,
      InstanceFor d policyId session.accountId contractId named ∧
      Resumed d .policyAttach session resumed ∧
      tr = readEvent (some session) :: named :: resumed
  | _ => False

/-- The calls of a deployment that returned. -/
def Deployed (d : VellarWalletConfig) (policyId : JsString) (tr : List WalletEvent)
    (out : DeployPolicyResult) : Prop :=
  ∃ session named resumed url init res,
    InstanceFor d policyId session.accountId out.contractId named ∧
    Resumed d .policyAttach session resumed ∧
    IsRecord d policyId out.attachTxHash out.contractId url init ∧
    payloadOf res >>= member "policy" = .ok out.policy ∧
    tr = readEvent (some session) :: named ::
      (resumed ++ [⟨.attachPolicy out.contractId, .ok out.attachTxHash⟩,
        ⟨.fetch url init, .ok res⟩])

/-- Where a request of a simulation stands. -/
def Simulating (d : VellarWalletConfig) (policyId : JsString) (tr : List WalletEvent) :
    WalletOp → Prop
  | .readSession => tr = []
  | .fetch url init => ∃ session body, walletBody session.accountId = .ok body ∧
      tr = [readEvent (some session)] ∧
      url = policiesUrl d (js "/" ++ policyId ++ js "/simulate") ∧ init = postRequest body
  | _ => False

section Specs

variable {d : VellarWalletConfig} {α : Type} {C : List WalletEvent → Unit → WalletOp → Prop}
  {Q : List WalletEvent → Unit → Except WalletError α → Prop} {tr : List WalletEvent}

/-- A request makes one call and returns what it was answered, if that is a success. -/
theorem req_sat {path : JsString} {init : PolicyRequest}
    {Q : List WalletEvent → Unit → Except WalletError JsValue → Prop}
    (hcall : C tr () (.fetch (policiesUrl d path) init))
    (hok : ∀ res payload, payloadOf res = .ok payload →
      Q (tr ++ [⟨.fetch (policiesUrl d path) init, .ok res⟩]) () (.ok payload))
    (herror : ∀ tr e, Q tr () (.error e)) : Sat awaitAll C Q (req d path init) tr () := by
  refine (sat_bind _ _ _ _).mpr ((sat_bind _ _ _ _).mpr ?_)
  refine (sat_attempt _ _ _).mpr ((sat_await rfl _).mpr ⟨hcall, fun r => ?_⟩)
  cases r with
  | ok res =>
      have hread : Q (tr ++ [⟨.fetch (policiesUrl d path) init, .ok res⟩]) () (payloadOf res) := by
        cases hpayload : payloadOf res with
        | ok payload => exact hok res payload hpayload
        | error e => exact herror _ e
      exact hread
  | error e => exact herror _ _

/-- The member that is read of what a request returned. -/
theorem member_sat {path : JsString} {init : PolicyRequest} {name : String}
    {Q : List WalletEvent → Unit → Except WalletError JsValue → Prop}
    (hcall : C tr () (.fetch (policiesUrl d path) init))
    (hok : ∀ res v, payloadOf res >>= member name = .ok v →
      Q (tr ++ [⟨.fetch (policiesUrl d path) init, .ok res⟩]) () (.ok v))
    (herror : ∀ tr e, Q tr () (.error e)) :
    Sat awaitAll C Q (req d path init >>= fun payload => liftM (member name payload)) tr () := by
  refine (sat_bind _ _ _ _).mpr (req_sat hcall (fun res payload hpayload => ?_)
    (fun tr e => herror tr e))
  have hread : Q (tr ++ [⟨.fetch (policiesUrl d path) init, .ok res⟩]) ()
      (member name payload) := by
    cases hmember : member name payload with
    | error e => exact herror _ e
    | ok v => exact hok res v (by rw [hpayload]; exact hmember)
  exact hread

theorem simulate_sat {policyId : JsString}
    {Q : List WalletEvent → Unit → Except WalletError JsValue → Prop}
    (hC : ∀ tr o, Simulating d policyId tr o → C tr () o) (hok : ∀ tr v, Q tr () (.ok v))
    (herror : ∀ tr e, Q tr () (.error e)) : Sat awaitAll C Q (simulate d policyId) [] () := by
  refine sat_lift_bind (fun u _ => ?_) (fun e _ => herror _ e)
  refine requireSession_sat (hC _ _ rfl) (fun session => ?_) (fun _ e => herror _ e)
  refine sat_lift_bind (fun body hbody => ?_) (fun e _ => herror _ e)
  exact req_sat (hC _ _ ⟨session, body, hbody, rfl, rfl, rfl⟩) (fun res payload _ => hok _ payload)
    herror

/-- What is signed is the instance that was deployed for the account, and what is told is
    what was signed. -/
theorem deploy_sat {policyId : JsString}
    {Q : List WalletEvent → Unit → Except WalletError DeployPolicyResult → Prop}
    (hC : ∀ tr o, Deploying d policyId tr o → C tr () o)
    (hok : ∀ tr out, Deployed d policyId tr out → Q tr () (.ok out))
    (herror : ∀ tr e, Q tr () (.error e)) : Sat awaitAll C Q (deploy d policyId) [] () := by
  refine sat_lift_bind (fun u _ => ?_) (fun e _ => herror _ e)
  refine requireSession_sat (hC _ _ rfl) (fun session => ?_) (fun _ e => herror _ e)
  cases hattach : d.policyAttach with
  | none => exact herror _ _
  | some attach =>
      refine (sat_bind _ _ _ _).mpr (sat_lift_bind (fun body hbody => ?_) (fun e _ => herror _ e))
      refine member_sat (hC _ _ (.inl ⟨session, body, hbody, rfl, rfl, rfl⟩))
        (fun res contractId hcontract => ?_) (fun tr e => herror tr e)
      have hinstance : InstanceFor d policyId session.accountId contractId
          ⟨.fetch (policiesUrl d (js "/" ++ policyId ++ js "/deploy-instance")) (postRequest body),
            .ok res⟩ := ⟨body, res, hbody, rfl, hcontract⟩
      refine resumeKey_sat hattach (fun keyId hkey => hC _ _ ⟨session, contractId, _, rfl, hinstance,
        hkey, rfl⟩) (fun resumed hresumed => ?_) (fun _ _ e => herror _ e)
      refine (sat_await_bind rfl _).mpr ⟨hC _ _ ⟨session, _, resumed, hinstance, hresumed, rfl⟩,
        fun hash => ?_, fun e => herror _ e⟩
      -- The policy is attached by now.
      refine (sat_bind _ _ _ _).mpr (sat_lift_bind (fun body' hbody' => ?_) (fun e _ => herror _ e))
      have hrecord : IsRecord d policyId hash contractId (policiesUrl d (js "/deploy"))
          (postRequest body') := ⟨body', hbody', rfl, rfl⟩
      refine member_sat (hC _ _ (.inr ⟨session, contractId, _, resumed, hash, hinstance, hresumed,
        ?_, hrecord⟩)) (fun res' policy hpolicy => hok _ _ ?_) (fun tr e => herror tr e)
      · rw [List.append_assoc]
        rfl
      · refine ⟨session, _, resumed, _, _, res', hinstance, hresumed, hrecord, hpolicy, ?_⟩
        rw [List.append_assoc, List.append_assoc]
        rfl

end Specs

end Wallet

end VellarSdk
