import VellarSdk.Wallet.Operations

/-!
# Creating and Connecting a Wallet

The connector over the passkey kit. A wallet is created by the kit and reported only
when the backend has taken its deployment. A wallet is connected by a program of the
kit, which asks the connector for the contract of a credential as often as it likes; the
connector asks the backend, and remembers the session record that the last answer named.

## Main definitions

* `createWallet`, `connectWallet`: The methods of the connector.
* `Created`, `Connected`: What a call did that returned a session.
* `Creating`, `Connecting`: Where a call stands that will return one.

## Theorems

* `createWallet_sat`: A created wallet was taken by the backend.
* `connectWallet_sat`: A connected one is the kit's.
-/

namespace VellarSdk

namespace Wallet

open Js Async X402

def assertBrowserWebAuthnContext (operation : JsString) : WalletTask Unit := do
  let present : Bool ← Task.perform WalletOp.webAuthn
  if present then return () else throw (.passkeyBrowserRequired operation)

def assertNetwork (d : VellarWalletConfig) (requested : Network) : Except WalletError Unit :=
  if requested ≠ d.network then .error (.walletNetworkMismatch d.network requested) else .ok ()

/-- The session of a wallet at a time. -/
def sessionAt (d : VellarWalletConfig) (contractId : JsString)
    (keyId serverSessionId : Option JsString) (timestamp : JsString) : WalletSession where
  accountId := contractId
  network := d.network
  createdAt := timestamp
  lastActiveAt := timestamp
  keyId := keyId
  serverSessionId := serverSessionId

def sessionFor (d : VellarWalletConfig) (contractId : JsString)
    (keyId serverSessionId : Option JsString) : WalletTask WalletSession := do
  let timestamp : JsString ← Task.perform WalletOp.nowIso
  return sessionAt d contractId keyId serverSessionId timestamp

/-- `input.username?.trim() || "Vellar user"`. -/
def displayName (username : Option JsString) : JsString :=
  match username.map trim with
  | none | some [] => js "Vellar user"
  | some name => name

def createWallet (d : VellarWalletConfig) (requested : Network) (username : Option JsString) :
    WalletTask WalletSession := do
  assertBrowserWebAuthnContext "createWallet() (vellar.create())"
  assertNetwork d requested
  let created : CreatedWallet ←
    Task.perform (WalletOp.kitCreateWallet d.appName (displayName username))
  -- The backend has to take the wallet before it is reported as created.
  let sessionId : JsString ← Task.perform (WalletOp.submitWalletCreation created.keyIdBase64
    created.contractId d.network created.signedTx)
  sessionFor d created.contractId (some created.keyIdBase64) (some sessionId)

/-- A program of the kit with the callback it was given, which keeps the session record of
    the last lookup. -/
def withLookups (network : Network) {α : Type} :
    Kit α → Option JsString → WalletTask (α × Option JsString)
  | .done r, serverSessionId => .done (r.map (fun a => (a, serverSessionId)))
  | .call (.getContractId keyId) k, serverSessionId =>
      .call (.lookupContractId keyId network) (fun
        | .ok found => withLookups network (k (.ok (found.map WalletLookup.contractId)))
            (found.map WalletLookup.sessionId)
        | .error e => withLookups network (k (.error e)) serverSessionId)
  | .call (.ceremony request) k, serverSessionId =>
      .call (.ceremony request) (fun r => withLookups network (k r) serverSessionId)

def connectWallet (d : VellarWalletConfig) (requested : Network) : WalletTask WalletSession := do
  assertBrowserWebAuthnContext "connectWallet() (vellar.connect())"
  assertNetwork d requested
  let (connected, serverSessionId) ← withLookups d.network d.kitConnectWallet none
  sessionFor d connected.contractId (some connected.keyIdBase64) serverSessionId

/-- What the kit made of a call of the wallet. -/
def kitEvent : WalletEvent → Option (Event KitOp KitOp.Ret WalletError)
  | ⟨.lookupContractId keyId _, reply⟩ =>
      some ⟨.getContractId keyId, reply.map (Option.map WalletLookup.contractId)⟩
  | ⟨.ceremony request, reply⟩ => some ⟨.ceremony request, reply⟩
  | _ => none

/-- The session record that the last lookup named, if it named one. -/
def serverSession (tr : List WalletEvent) : Option JsString :=
  tr.foldl (fun serverSessionId e => match e with
    | ⟨.lookupContractId _ _, .ok found⟩ => found.map WalletLookup.sessionId
    | _ => serverSessionId) none

/-- A call that is made for the kit while it connects a wallet. -/
def ForKit (network : Network) : WalletOp → Prop
  | .lookupContractId _ asked => asked = network
  | .ceremony _ => True
  | _ => False

/-- The calls of a creation that returned a session. -/
def Created (d : VellarWalletConfig) (tr : List WalletEvent) (session : WalletSession) : Prop :=
  ∃ user created sessionId timestamp,
    tr = [⟨.webAuthn, .ok true⟩, ⟨.kitCreateWallet d.appName user, .ok created⟩,
      ⟨.submitWalletCreation created.keyIdBase64 created.contractId d.network created.signedTx,
        .ok sessionId⟩, ⟨.nowIso, .ok timestamp⟩] ∧
    session = sessionAt d created.contractId (some created.keyIdBase64) (some sessionId) timestamp

/-- The calls of a connection that returned a session. -/
def Connected (d : VellarWalletConfig) (tr : List WalletEvent) (session : WalletSession) : Prop :=
  ∃ kit connected timestamp,
    tr = ⟨.webAuthn, .ok true⟩ :: (kit ++ [⟨.nowIso, .ok timestamp⟩]) ∧
    (∀ e ∈ kit, ForKit d.network e.op) ∧
    Run awaitAll d.kitConnectWallet () (kit.filterMap kitEvent) (.done (.ok connected)) () ∧
    session = sessionAt d connected.contractId (some connected.keyIdBase64) (serverSession kit)
      timestamp

/-- Where a call of a creation stands. -/
def Creating (d : VellarWalletConfig) (username : Option JsString) (tr : List WalletEvent) :
    WalletOp → Prop
  | .webAuthn => tr = []
  | .kitCreateWallet app user => app = d.appName ∧ user = displayName username ∧
      tr = [⟨.webAuthn, .ok true⟩]
  | .submitWalletCreation keyId contractId network signedTx => ∃ created,
      tr = [⟨.webAuthn, .ok true⟩,
        ⟨.kitCreateWallet d.appName (displayName username), .ok created⟩] ∧
      network = d.network ∧ keyId = created.keyIdBase64 ∧ contractId = created.contractId ∧
      signedTx = created.signedTx
  | .nowIso => True
  | _ => False

/-- The calls for a program of the kit have brought it to a call of its own. -/
def KitReached {α : Type} (kit : Kit α) (network : Network) (calls : List WalletEvent)
    (o : KitOp) : Prop :=
  (∀ e ∈ calls, ForKit network e.op) ∧
    ∃ k, Run awaitAll kit () (calls.filterMap kitEvent) (.call o k) ()

/-- Where a call of a connection stands. -/
def Connecting (d : VellarWalletConfig) (tr : List WalletEvent) : WalletOp → Prop
  | .webAuthn => tr = []
  | .ceremony request => ∃ calls, tr = ⟨.webAuthn, .ok true⟩ :: calls ∧
      KitReached d.kitConnectWallet d.network calls (.ceremony request)
  | .lookupContractId keyId network => network = d.network ∧ ∃ calls,
      tr = ⟨.webAuthn, .ok true⟩ :: calls ∧
      KitReached d.kitConnectWallet d.network calls (.getContractId keyId)
  | .nowIso => True
  | _ => False

section Specs

variable {d : VellarWalletConfig} {C : List WalletEvent → Unit → WalletOp → Prop}
  {Q : List WalletEvent → Unit → Except WalletError WalletSession → Prop}

/-- A ceremony is begun in a browser only. -/
theorem assertBrowserWebAuthnContext_sat {α : Type} {operation : JsString}
    {Q : List WalletEvent → Unit → Except WalletError α → Prop} {f : Unit → WalletTask α}
    (hcall : C [] () .webAuthn) (hf : Sat awaitAll C Q (f ()) [⟨.webAuthn, .ok true⟩] ())
    (herror : ∀ tr e, Q tr () (.error e)) :
    Sat awaitAll C Q (assertBrowserWebAuthnContext operation >>= f) [] () := by
  refine (sat_bind _ _ _ _).mpr ((sat_await_bind rfl _).mpr ⟨hcall, fun present => ?_, ?_⟩)
  · cases present with
    | true => exact hf
    | false => exact herror _ _
  · exact fun e => herror _ e

theorem assertNetwork_sat {α : Type} {requested : Network} {tr : List WalletEvent}
    {Q : List WalletEvent → Unit → Except WalletError α → Prop} {f : Unit → WalletTask α}
    (hf : Sat awaitAll C Q (f ()) tr ()) (herror : ∀ tr e, Q tr () (.error e)) :
    Sat awaitAll C Q (liftM (assertNetwork d requested) >>= f) tr () :=
  sat_lift_bind (fun _ _ => hf) (fun e _ => herror _ e)

theorem sessionFor_sat {contractId : JsString} {keyId serverSessionId : Option JsString}
    {tr : List WalletEvent} (hcall : C tr () .nowIso)
    (hok : ∀ timestamp, Q (tr ++ [⟨.nowIso, .ok timestamp⟩]) ()
      (.ok (sessionAt d contractId keyId serverSessionId timestamp)))
    (herror : ∀ tr e, Q tr () (.error e)) :
    Sat awaitAll C Q (sessionFor d contractId keyId serverSessionId) tr () :=
  (sat_await_bind rfl _).mpr ⟨hcall, hok, fun e => herror _ e⟩

/-- A wallet is reported as created when the backend has taken it. -/
theorem createWallet_sat (username : Option JsString)
    (hC : ∀ tr o, Creating d username tr o → C tr () o)
    (hok : ∀ tr session, Created d tr session → Q tr () (.ok session))
    (herror : ∀ tr e, Q tr () (.error e)) (requested : Network) :
    Sat awaitAll C Q (createWallet d requested username) [] () := by
  refine assertBrowserWebAuthnContext_sat (hC _ _ rfl) (assertNetwork_sat ?_ herror) herror
  refine (sat_await_bind rfl _).mpr ⟨hC _ _ ⟨rfl, rfl, rfl⟩, fun created => ?_, fun e => herror _ e⟩
  refine (sat_await_bind rfl _).mpr ⟨hC _ _ ?_, fun sessionId => ?_, fun e => herror _ e⟩
  · exact ⟨created, rfl, rfl, rfl, rfl, rfl⟩
  · refine sessionFor_sat (hC _ _ trivial) (fun timestamp => hok _ _ ?_) herror
    exact ⟨displayName username, created, sessionId, timestamp, rfl, rfl⟩

/-- A program of the kit, from any point it has come to. -/
theorem withLookups_sat {α : Type} {network : Network} (kit : Kit α) {t : Kit α}
    {Q : List WalletEvent → Unit → Except WalletError (α × Option JsString) → Prop}
    (before calls : List WalletEvent)
    (hlookup : ∀ calls keyId, KitReached kit network calls (.getContractId keyId) →
      C (before ++ calls) () (.lookupContractId keyId network))
    (hceremony : ∀ calls request, KitReached kit network calls (.ceremony request) →
      C (before ++ calls) () (.ceremony request))
    (hok : ∀ calls a, (∀ e ∈ calls, ForKit network e.op) →
      Run awaitAll kit () (calls.filterMap kitEvent) (.done (.ok a)) () →
      Q (before ++ calls) () (.ok (a, serverSession calls)))
    (herror : ∀ tr e, Q tr () (.error e)) (hcalls : ∀ e ∈ calls, ForKit network e.op)
    (hrun : Run awaitAll kit () (calls.filterMap kitEvent) t ()) :
    Sat awaitAll C Q (withLookups network t (serverSession calls)) (before ++ calls) () := by
  -- One more call for the kit.
  have hmore : ∀ {calls : List WalletEvent} {o : WalletOp} {r : Except WalletError o.Ret},
      (∀ e ∈ calls, ForKit network e.op) → ForKit network o →
      ∀ e ∈ calls ++ [⟨o, r⟩], ForKit network e.op := by
    intro calls o r hcalls ho e he
    rcases List.mem_append.mp he with hold | hnew
    · exact hcalls e hold
    · exact List.mem_singleton.mp hnew ▸ ho
  induction t generalizing calls with
  | done r =>
      cases r with
      | ok a => exact hok calls a hcalls hrun
      | error e => exact herror _ e
  | call o k ih =>
      cases o with
      | getContractId keyId =>
          rw [withLookups, sat_await rfl]
          refine ⟨hlookup _ _ ⟨hcalls, k, hrun⟩, fun r => ?_⟩
          have hcall : ForKit network (.lookupContractId keyId network) := rfl
          have hnext := ih (r.map (Option.map WalletLookup.contractId))
            (calls ++ [⟨.lookupContractId keyId network, r⟩]) (hmore hcalls hcall) (by
              rw [List.filterMap_append]
              exact run_trans hrun (Run.reply _ k () _ [] _ () rfl (Run.refl _ _)))
          rw [← List.append_assoc] at hnext
          unfold serverSession at hnext ⊢
          rw [List.foldl_append] at hnext
          cases r with
          | ok found => exact hnext
          | error e => exact hnext
      | ceremony request =>
          rw [withLookups, sat_await rfl]
          refine ⟨hceremony _ _ ⟨hcalls, k, hrun⟩, fun r => ?_⟩
          have hcall : ForKit network (.ceremony request) := trivial
          have hnext := ih r (calls ++ [⟨.ceremony request, r⟩]) (hmore hcalls hcall) (by
            rw [List.filterMap_append]
            exact run_trans hrun (Run.reply _ k () _ [] _ () rfl (Run.refl _ _)))
          rw [← List.append_assoc] at hnext
          unfold serverSession at hnext ⊢
          rwa [List.foldl_append] at hnext

/-- A wallet is connected as the kit says. -/
theorem connectWallet_sat (hC : ∀ tr o, Connecting d tr o → C tr () o)
    (hok : ∀ tr session, Connected d tr session → Q tr () (.ok session))
    (herror : ∀ tr e, Q tr () (.error e)) (requested : Network) :
    Sat awaitAll C Q (connectWallet d requested) [] () := by
  refine assertBrowserWebAuthnContext_sat (hC _ _ rfl) (assertNetwork_sat ?_ herror) herror
  refine (sat_bind _ _ _ _).mpr ?_
  refine withLookups_sat d.kitConnectWallet [⟨.webAuthn, .ok true⟩] []
    (fun calls _ hreached => hC _ _ ⟨rfl, calls, rfl, hreached⟩)
    (fun calls _ hreached => hC _ _ ⟨calls, rfl, hreached⟩)
    (fun calls connected hcalls hrun => ?_) herror (fun e he => absurd he List.not_mem_nil)
    (Run.refl _ _)
  · refine sessionFor_sat (hC _ _ trivial) (fun timestamp => hok _ _ ?_) herror
    exact ⟨calls, connected, timestamp, by rw [List.append_assoc, List.singleton_append], hcalls,
      hrun, rfl⟩

end Specs

end Wallet

end VellarSdk
