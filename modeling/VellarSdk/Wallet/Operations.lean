import VellarSdk.Async.Pool
import VellarSdk.X402.Fetch

/-!
# What a Wallet Calls

A wallet client is put together from parts that are given to it: the passkey kit, the
backend, the token client, the policy gateway, and the host's own code for what the
passkey has to sign. What it calls on them are its operations, and each is answered by
the environment. The one thing of its own is the session, a variable that every method
reads or writes.

The kit connects a wallet by a program of its own, in the middle of which it calls back
into the SDK. That program is a part of the configuration, and its calls are of two
kinds, the callback and everything else.

## Main definitions

* `WalletError`: What the methods throw.
* `Signable`: What there is to sign, and what was signed.
* `WalletSession`: The session a connector hands out.
* `KitOp`: What the kit calls while it connects.
* `WalletOp`, `walletHandler`: What a wallet calls, and what it answers itself.
* `VellarWalletConfig`: What a wallet is created with.
* `ofFetch`: A fetch that pays, as a part of a method.

## Theorems

* `sat_ofFetch`: What is proved of a fetch holds of it within a method.
-/

namespace VellarSdk

namespace Wallet

open Js Async X402

/-- `network` as a text. -/
def networkName : Network → JsString
  | .testnet => js "testnet"
  | .mainnet => js "mainnet"

/-- What the methods of a wallet throw. -/
inductive WalletError where
  /-- By the language, by the x402 client, or by code that was passed in. -/
  | thrown (e : JsError)
  | walletNotReady (message : JsString)
  | walletNetworkMismatch (expected actual : Network)
  | passkeyBrowserRequired (operation : JsString)
  | invalidRecipient (message : JsString)
  | invalidAmount (message : JsString)
  | agentsNotConfigured
  | invalidAgentInput (message : JsString)
  | policyNotDeployable
  | policyApi (message : JsString) (status : Nat) (errors : JsValue)
  | policyListFilter (message : JsString)
  | walletApi (message : JsString) (status : Nat) (code : JsValue)
  | circuitOpen (message : JsString)
  /-- Thrown by code that was passed in, and no `Error`. -/
  | value (v : JsValue)
  | x402NotConfigured (message : JsString)

/-- `err instanceof Error`. -/
def WalletError.isError : WalletError → Bool
  | .value _ => false
  | _ => true

/-- `err.message`. -/
def WalletError.message : WalletError → JsString
  | .thrown e => e.message
  | .walletNotReady message | .invalidRecipient message | .invalidAmount message
  | .invalidAgentInput message | .x402NotConfigured message => message
  | .policyListFilter message | .policyApi message _ _ | .walletApi message _ _
  | .circuitOpen message => message
  | .value v => match v.field (js "message") with
    | .str message => message
    | _ => []
  | .walletNetworkMismatch expected actual =>
      js "Connector is configured for " ++ networkName expected ++
        js " but was asked to operate on " ++ networkName actual
  | .passkeyBrowserRequired operation =>
      operation ++ js (" runs a passkey (WebAuthn) ceremony, which needs a browser — this " ++
        "environment has no WebAuthn credentials API (typical for a Node script or SSR). " ++
        "For headless, CLI, or agent flows: mint an agent session key from a browser " ++
        "session (wallet.agents.mint), then sign with createSessionKeySigner and pay " ++
        "via wallet.x402.")
  | .agentsNotConfigured =>
      js ("wallet.agents requires `agentKeys` in createVellarWallet config " ++
        "(the passkey-signed wallet-admin runtime).")
  | .policyNotDeployable =>
      js ("Policy deploy needs a passkey-attach runtime. This wallet was created without one " ++
        "— provide `policyAttach` in the config (or use the web app runtime).")

/-- An error as the x402 client catches it, which looks no further than its message. -/
def WalletError.toJsError : WalletError → JsError
  | .thrown e => e
  | e => ⟨.foreign, e.message⟩

/-- What is signed, which is `unknown` to the SDK: nothing, a text, an object, whose
    `toXDR` if it is a function returns or throws, or anything else. -/
inductive Signable where
  /-- `undefined` or `null`. -/
  | missing
  | text (xdr : JsString)
  | object (id : Nat) (toXDR : Option (Except JsError JsString))
  | other

/-- `signed ?? tx`. -/
def Signable.orElse : Signable → Signable → Signable
  | .missing, tx => tx
  | signed, _ => signed

def defaultSignedToXdr : Signable → Except WalletError JsString
  | .text xdr => .ok xdr
  | .object _ (some toXDR) => toXDR.mapError .thrown
  | _ => .error (.thrown ⟨.native .typeError, js "Cannot convert signed transaction to XDR"⟩)

/-- The session of a connected wallet. Its `connected` is `true` and its `authMethod` is
    `"passkey"`. -/
structure WalletSession where
  accountId : JsString
  network : Network
  createdAt : JsString
  lastActiveAt : JsString
  keyId : Option JsString
  serverSessionId : Option JsString
  deriving DecidableEq

/-- What the kit returns of a wallet it has connected. -/
structure ConnectedWallet where
  keyIdBase64 : JsString
  contractId : JsString

/-- What it returns of one it has created. -/
structure CreatedWallet extends ConnectedWallet where
  signedTx : Signable

/-- What the kit calls while it connects a wallet: `getContractId`, and whatever it does
    by itself. -/
inductive KitOp where
  | getContractId (keyId : JsString)
  | ceremony (request : JsValue)

/-- What each call returns. -/
@[reducible] def KitOp.Ret : KitOp → Type
  | .getContractId _ => Option JsString
  | .ceremony _ => JsValue

/-- A program of the kit. -/
abbrev Kit := Task KitOp KitOp.Ret WalletError

/-- What the kit is given for a credential, and what it opens on the server. -/
structure WalletLookup where
  contractId : JsString
  sessionId : JsString

/-- What a mint may use of one token. -/
structure AgentPolicyGrant where
  token : JsString
  policies : Option (List JsString)

inductive AgentStore where
  | persistent
  | temporary

/-- What an agent key is added with. -/
structure AgentKeyInput where
  publicKey : JsString
  grants : List AgentPolicyGrant
  expirationSeconds : Option Int
  store : AgentStore

/-- A request to the policy gateway. -/
structure PolicyRequest where
  method : Option JsString
  contentType : Option JsString
  body : Option JsString

/-- Its response, with the JSON of its body where it has one. -/
structure PolicyResponse where
  status : Nat
  json : Option JsValue

/-- `res.ok`. -/
def PolicyResponse.ok (res : PolicyResponse) : Bool :=
  200 ≤ res.status && res.status < 300

/-- The two runtimes a host can pass in for what the passkey signs. -/
inductive RuntimeKind where
  | policyAttach
  | agentKeys

/-- What the methods of a wallet call. -/
inductive WalletOp where
  /-- The variable `session`. -/
  | readSession
  | writeSession (session : WalletSession)
  /-- Are there `window` and `navigator.credentials`? -/
  | webAuthn
  /-- `now().toISOString()`. -/
  | nowIso
  /-- `Date.now()`. -/
  | dateNow
  | kitCreateWallet (app user : JsString)
  | ceremony (request : JsValue)
  | submitWalletCreation (keyId contractId : JsString) (network : Network) (signedTx : Signable)
  | lookupContractId (keyId : JsString) (network : Network)
  | transfer (token sender recipient : JsString) (amount : Int) (timeoutInSeconds : Nat)
  | sign (tx : Signable)
  | submitTransaction (signedXdr : JsString) (network : Network)
  | fetch (url : JsString) (init : PolicyRequest)
  | resume (runtime : RuntimeKind) (keyId : JsString)
  | attachPolicy (policyContractId : JsValue)
  | addAgentKey (input : AgentKeyInput)
  | removeAgentKey (publicKey : JsString)
  | x402 (op : FetchOp)

/-- What each call returns. -/
@[reducible] def WalletOp.Ret : WalletOp → Type
  | .readSession => Option WalletSession
  | .writeSession _ => Unit
  | .webAuthn => Bool
  | .nowIso => JsString
  | .dateNow => Int
  | .kitCreateWallet _ _ => CreatedWallet
  | .ceremony _ => JsValue
  | .submitWalletCreation _ _ _ _ => JsString
  | .lookupContractId _ _ => Option WalletLookup
  | .transfer _ _ _ _ _ => Signable
  | .sign _ => Signable
  | .submitTransaction _ _ => JsString
  | .fetch _ _ => PolicyResponse
  | .resume _ _ => Unit
  | .attachPolicy _ => JsString
  | .addAgentKey _ => JsString
  | .removeAgentKey _ => JsString
  | .x402 op => op.Ret

/-- A method of a wallet. -/
abbrev WalletTask := Task WalletOp WalletOp.Ret WalletError

/-- A call of a wallet with its reply. -/
abbrev WalletEvent := Event WalletOp WalletOp.Ret WalletError

/-- The wallet answers for its session, and nothing else. -/
def walletHandler : Handler WalletOp WalletOp.Ret WalletError (Option WalletSession) where
  exec
    | .readSession => some (fun session => (.ok session, session))
    | .writeSession session => some (fun _ => (.ok (), some session))
    | _ => none

/-- A runtime of the host, which may know how to resume a passkey. -/
structure Runtime where
  resume : Bool

/-- The x402 part of a configuration. -/
structure X402Config where
  signerAddress : JsString
  budgetAttributes : Option (List BudgetAttributeRule)
  hasTracker : Bool
  expirationLedgerOffset : Option JsNum

/-- What `createVellarWallet` is given, with the code of others that it uses. -/
structure VellarWalletConfig where
  network : Network
  appName : JsString
  /-- `kit.connectWallet`. -/
  kitConnectWallet : Kit ConnectedWallet
  isValidAddress : JsString → Bool
  signedToXdr : Option (Signable → Except WalletError JsString)
  apiUrl : Option JsString
  policyAttach : Option Runtime
  agentKeys : Option Runtime
  x402 : Option X402Config
  sdk : Stellar.StellarSdk
  parse : JsonParse

section Fetching

/-- A fetch as a part of a method. -/
def ofFetch {α : Type} : Fetch α → WalletTask α
  | .done r => .done (r.mapError .thrown)
  | .call o k => .call (.x402 o) (fun r => ofFetch (k (r.mapError WalletError.toJsError)))

/-- The part of a trace that is a fetch's. -/
def fetchPart (tr : List WalletEvent) : List FetchEvent :=
  tr.filterMap (fun
    | ⟨.x402 op, reply⟩ => some ⟨op, reply.mapError WalletError.toJsError⟩
    | _ => none)

theorem fetchPart_append (tr tr' : List WalletEvent) :
    fetchPart (tr ++ tr') = fetchPart tr ++ fetchPart tr' :=
  List.filterMap_append

/-- The rule for a fetch within a method. -/
theorem sat_ofFetch {α : Type} {C : List FetchEvent → Unit → FetchOp → Prop}
    {Q : List FetchEvent → Unit → Except JsError α → Prop}
    {C' : List WalletEvent → Unit → WalletOp → Prop}
    {Q' : List WalletEvent → Unit → Except WalletError α → Prop} (before : List WalletEvent)
    (hC : ∀ tr o, C (fetchPart tr) () o → C' (before ++ tr) () (.x402 o))
    (hQ : ∀ tr r, Q (fetchPart tr) () r → Q' (before ++ tr) () (r.mapError .thrown)) {t : Fetch α}
    {tr : List WalletEvent} (h : Sat fetchHandler C Q t (fetchPart tr) ()) :
    Sat awaitAll C' Q' (ofFetch t) (before ++ tr) () := by
  induction t generalizing tr with
  | done r => exact hQ tr r h
  | call o k ih =>
      rw [sat_await rfl] at h
      refine (sat_await rfl _).mpr ⟨hC tr o h.1, fun r => ?_⟩
      have hrest := h.2 (r.mapError WalletError.toJsError)
      have hpart : fetchPart (tr ++ [⟨.x402 o, r⟩]) =
          fetchPart tr ++ [⟨o, r.mapError WalletError.toJsError⟩] := by
        rw [fetchPart_append]
        rfl
      rw [← hpart] at hrest
      rw [List.append_assoc]
      exact ih _ hrest

end Fetching

end Wallet

end VellarSdk
