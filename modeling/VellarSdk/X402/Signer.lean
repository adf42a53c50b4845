import VellarSdk.Async.Task
import VellarSdk.Stellar.Order
import VellarSdk.X402.AuthEntry
import VellarSdk.X402.Capabilities

/-!
# The Smart-Account Signers

The two signers of a wallet: the session key, which signs at once, and the
passkey, which asks a person. Both set the expiration of an entry, hash its
preimage, sign the hash and write the signature as a map from signer keys to
signatures, with one more entry for each policy the wallet requires.

Both run this sequence inside a `try` that returns, and the source goes on after
it with a second copy of the sequence. That copy is the one that checks the
capability rules. `signAuthEntryWith` has both copies, and `Completion` says how
the `try` completes: it returns or throws, so the second copy is never reached.

## Main definitions

* `SignerOp`: The calls a signer makes.
* `policySignerKey`, `sortPolicies`, `setSignatureMap`: The signature map.
* `payloadHashForEntry`, `assertEntryAddress`: What is signed, and for whom.
* `signUnscoped`, `signScoped`, `signAuthEntryWith`: Signing an entry.
* `createSessionKeySigner`, `createPasskeyX402Signer`: The two signers.

## Theorems

* `signAuthEntryWith_calls`: An entry of the wallet that can be hashed is signed.
* `signAuthEntryWith_refuses`: One that cannot be hashed is not.
* `signers_respect_capabilities_iff`: When the signers keep to their rules.
-/

namespace VellarSdk

namespace X402

open Js Stellar Async

/-- What the audit hook is told about. -/
inductive X402SignerAction where
  | authorize
  | deny
  deriving DecidableEq

/-- Did the action succeed? -/
inductive X402SignerOutcome where
  | success
  | error
  deriving DecidableEq

/-- What the audit hook receives. -/
structure X402SignerActionEvent where
  action : X402SignerAction
  actor : JsString
  outcome : X402SignerOutcome
  networkPassphrase : JsValue
  error : Option JsError

/-- An assertion of a passkey over a hash. -/
structure WebAuthnAssertion where
  authenticatorData : Bytes
  clientDataJSON : Bytes
  signature : Bytes
  keyId : Bytes

/-- The calls a signer makes. -/
inductive SignerOp where
  /-- `keypair.sign`. -/
  | keypairSign (payload : Bytes)
  /-- `webAuthn.sign`. -/
  | webAuthnSign (payloadHash : Bytes)
  | onSignerAction (event : X402SignerActionEvent)

/-- What each call returns. -/
@[reducible] def SignerOp.Ret : SignerOp → Type
  | .keypairSign _ => Bytes
  | .webAuthnSign _ => WebAuthnAssertion
  | .onSignerAction _ => Unit

/-- A call that makes a signature. -/
def SignerOp.Signs : SignerOp → Prop
  | .keypairSign _ | .webAuthnSign _ => True
  | .onSignerAction _ => False

/-- An async body of a signer. -/
abbrev SignerTask := Task SignerOp SignerOp.Ret JsError

/-- Nothing is answered by a signer's own state. -/
def signerHandler : Handler SignerOp SignerOp.Ret JsError Unit where
  exec _ := none

/-- `keypair.sign(payload)`. -/
def keypairSign (payload : Bytes) : SignerTask Bytes :=
  Task.perform (SignerOp.keypairSign payload)

/-- `webAuthn.sign(payloadHash)`. -/
def webAuthnSign (payloadHash : Bytes) : SignerTask WebAuthnAssertion :=
  Task.perform (SignerOp.webAuthnSign payloadHash)

/-- `SignerKey::Ed25519(pk)`. -/
def ed25519SignerKey (rawPk : Bytes) : ScVal :=
  variant "Ed25519" [.bytes rawPk]

/-- `Signature::Ed25519(sig)`. -/
def ed25519Signature (sig : Bytes) : ScVal :=
  variant "Ed25519" [.bytes sig]

/-- `SignerKey::Secp256r1(keyId)`. -/
def secp256r1SignerKey (keyId : Bytes) : ScVal :=
  variant "Secp256r1" [.bytes keyId]

/-- `Signature::Secp256r1(sig)`, the fields of the struct in their order. -/
def secp256r1Signature (a : WebAuthnAssertion) : ScVal :=
  variant "Secp256r1" [.map (some
    [(.symbol (TextEncoder.encode "authenticator_data"), .bytes a.authenticatorData),
      (.symbol (TextEncoder.encode "client_data_json"), .bytes a.clientDataJSON),
      (.symbol (TextEncoder.encode "signature"), .bytes a.signature)])]

/-- `SignerKey::Policy(address)`. -/
def policySignerKey (sdk : StellarSdk) (policyAddress : JsString) : Except JsError ScVal := do
  let address ← sdk.addressFromString policyAddress
  return variant "Policy" [.address address]

/-- `Signature::Policy`. -/
def policySignature : ScVal :=
  variant "Policy" []

/-- Order two policies by the bytes of their addresses. -/
def comparePolicyAddresses : Bytes → Bytes → Int
  | a :: ab, b :: bb =>
      -- The first byte that differs decides, and else the length.
      let diff : Int := a.toNat - b.toNat
      if diff ≠ 0 then diff else comparePolicyAddresses ab bb
  | ab, bb => ab.length - bb.length

/-- `[...policyAddresses].sort(comparePolicyAddresses)`. The comparison decodes
    the addresses, and is not called for fewer than two of them. -/
def sortPolicies (sdk : StellarSdk) (policyAddresses : List JsString) :
    Except JsError (List JsString) :=
  if policyAddresses.length < 2 then .ok policyAddresses
  else do
    let keyed ← policyAddresses.mapM (fun policy => do
      let address ← sdk.addressFromString policy
      return (policy, address.toBuffer))
    return (keyed.mergeSort (fun a b => comparePolicyAddresses a.2 b.2 ≤ 0)).map Prod.fst

/-- Set the entry's signature to the map of the signer's key and the policies'
    keys to their signatures. -/
def setSignatureMap (sdk : StellarSdk) (entry : SorobanAuthorizationEntry)
    (signerKey signature : ScVal) (policyAddresses : List JsString) :
    Except JsError SorobanAuthorizationEntry := do
  let sorted ← sortPolicies sdk policyAddresses
  let policies ← sorted.mapM (fun policy => do
    let key ← policySignerKey sdk policy
    return (key, policySignature))
  match entry.credentials with
  | .address credentials =>
      return { entry with credentials := .address { credentials with
        signature := .vec (some [.map (some ((signerKey, signature) :: policies))]) } }
  -- `credentials.address()` is not set on these.
  | .sourceAccount | .addressV2 _ => throwTypeError

/-- The error for credentials of another version. -/
def throwNotV1 {α : Type} (credentials : SorobanCredentials) : Except JsError α :=
  throwPlain (js "x402 signer expects V1 sorobanCredentialsAddress, got " ++
    credentials.switchName)

/-- Set the expiration of the credentials, and hash what the signer signs. -/
def payloadHashForEntry (sdk : StellarSdk) (entry : SorobanAuthorizationEntry)
    (networkPassphrase : JsValue) (expirationLedger : JsNum) :
    Except JsError (SorobanAuthorizationEntry × Bytes) :=
  match entry.credentials with
  | .address credentials => do
      -- The entry itself is changed: it is this one that is signed and sent.
      let expiring := { entry with
        credentials := .address { credentials with
          signatureExpirationLedger := expirationLedger } }
      let payload ← sdk.preimageHash expiring expirationLedger networkPassphrase
      return (expiring, payload)
  | other => throwNotV1 other

/-- The entry must carry credentials, of the first version, of this signer's
    wallet. -/
def assertEntryAddress (sdk : StellarSdk) (entry : SorobanAuthorizationEntry)
    (expected : JsString) : Except JsError Unit :=
  match entry.credentials with
  | .address credentials => do
      let entryAddr ← sdk.addressToString credentials.address
      if entryAddr ≠ expected then
        throwPlain (js "auth entry credential address " ++ entryAddr ++
          js " does not match signer address " ++ expected)
      else return ()
  | other => throwNotV1 other

/-- `typeof address === "string" && address.startsWith("C") && address.length === 56`. -/
def isContractAddress (address : JsString) : Bool :=
  (js "C").isPrefixOf address && address.length == 56

/-- What a signer signs with: its configuration, and the ceremony that turns a
    hash into the signer's key and signature. -/
structure SignerCore where
  sdk : StellarSdk
  address : JsString
  policies : List JsString
  hasHook : Bool
  capabilities : List CapabilityRule
  ceremony : Bytes → SignerTask (ScVal × ScVal)

/-- `onAction?.({ … })`. -/
def fire (c : SignerCore) (action : X402SignerAction) (outcome : X402SignerOutcome)
    (networkPassphrase : JsValue) (error : Option JsError) : SignerTask Unit :=
  if c.hasHook then
    Task.perform (SignerOp.onSignerAction ⟨action, c.address, outcome, networkPassphrase, error⟩)
  else return ()

/-- The signing sequence, once the entry is known to be the wallet's. -/
def signSequence (c : SignerCore) (entry : SorobanAuthorizationEntry)
    (networkPassphrase : JsValue) (expirationLedger : JsNum) : SignerTask JsString := do
  let hashed ← payloadHashForEntry c.sdk entry networkPassphrase expirationLedger
  let signed ← c.ceremony hashed.2
  let entry ← setSignatureMap c.sdk hashed.1 signed.1 signed.2 c.policies
  c.sdk.entryToXdr entry

/-- How a statement completes when it does not throw. -/
inductive Completion (α : Type) where
  | returns (a : α)
  | normal

/-- What the `try` of `signAuthEntry` holds. -/
def signUnscoped (c : SignerCore) (entryXdr : JsString) (networkPassphrase : JsValue)
    (expirationLedger : JsNum) : SignerTask (Completion JsString) := do
  let entry ← c.sdk.entryFromXdr entryXdr
  assertEntryAddress c.sdk entry c.address
  let signed ← signSequence c entry networkPassphrase expirationLedger
  fire c .authorize .success networkPassphrase none
  return .returns signed

/-- The `catch` of `signAuthEntry`. -/
def denied (c : SignerCore) (networkPassphrase : JsValue) (err : JsError) :
    SignerTask (Completion JsString) := do
  fire c .deny .error networkPassphrase (some err)
  throw err

/-- What the source has after the `try`. -/
def signScoped (c : SignerCore) (entryXdr : JsString) (networkPassphrase : JsValue)
    (expirationLedger : JsNum) : SignerTask JsString := do
  let entry ← c.sdk.entryFromXdr entryXdr
  assertEntryAddress c.sdk entry c.address
  let request ← capabilityRequestFor c.sdk entry
  match request with
  | some request => assertCapability c.capabilities request
  | none => pure ()
  signSequence c entry networkPassphrase expirationLedger

/-- Sign an entry. -/
def signAuthEntryWith (c : SignerCore) (entryXdr : JsString) (networkPassphrase : JsValue)
    (expirationLedger : JsNum) : SignerTask JsString := do
  -- The `try` returns or throws. It never completes normally.
  let completion ← tryCatch (signUnscoped c entryXdr networkPassphrase expirationLedger)
    (denied c networkPassphrase)
  match completion with
  | .returns signed => return signed
  | .normal => signScoped c entryXdr networkPassphrase expirationLedger

/-- A signer. -/
structure SmartAccountX402Signer where
  address : JsString
  signAuthEntry : JsString → JsValue → JsNum → SignerTask JsString

/-- The configuration of a session key. -/
structure SessionKeySignerConfig where
  address : JsString
  secretKey : JsString
  policies : List JsString
  hasHook : Bool
  capabilities : List CapabilityRule

/-- The policies must be contracts. -/
def assertPolicies : List JsString → Except JsError Unit
  | [] => .ok ()
  | policy :: policies =>
      if !isContractAddress policy then
        throwPlain (js "policy address must be a contract (C…): got " ++ policy)
      else assertPolicies policies

/-- A session key signs a hash and is its own key in the map. -/
def sessionKeyCeremony (rawPk payload : Bytes) : SignerTask (ScVal × ScVal) := do
  let signature ← keypairSign payload
  return (ed25519SignerKey rawPk, ed25519Signature signature)

/-- The session-key signer. -/
def createSessionKeySigner (sdk : StellarSdk) (config : SessionKeySignerConfig) :
    Except JsError SmartAccountX402Signer := do
  let rawPk ← sdk.rawPublicKey config.secretKey
  if !isContractAddress config.address then
    throwPlain (js "session-key signer address must be a contract (C…): got " ++ config.address)
  else do
    assertPolicies config.policies
    assertValidCapabilityRules config.capabilities
    return ⟨config.address, signAuthEntryWith
      { sdk := sdk, address := config.address, policies := config.policies
        hasHook := config.hasHook, capabilities := config.capabilities
        ceremony := sessionKeyCeremony rawPk }⟩

/-- The configuration of a passkey. -/
structure PasskeyX402SignerConfig where
  address : JsString
  policies : List JsString
  hasHook : Bool
  capabilities : List CapabilityRule

/-- A passkey names its credential in the assertion it returns. -/
def passkeyCeremony (payload : Bytes) : SignerTask (ScVal × ScVal) := do
  let assertion ← webAuthnSign payload
  return (secp256r1SignerKey assertion.keyId, secp256r1Signature assertion)

/-- The passkey signer. Its policies are not checked. -/
def createPasskeyX402Signer (sdk : StellarSdk) (config : PasskeyX402SignerConfig) :
    Except JsError SmartAccountX402Signer :=
  if !isContractAddress config.address then
    throwPlain (js "passkey signer address must be a contract (C…): got " ++ config.address)
  else do
    assertValidCapabilityRules config.capabilities
    return ⟨config.address, signAuthEntryWith
      { sdk := sdk, address := config.address, policies := config.policies
        hasHook := config.hasHook, capabilities := config.capabilities
        ceremony := passkeyCeremony }⟩

/-- An entry with the wallet's credentials passes. -/
theorem assertEntryAddress_eq_ok {sdk : StellarSdk} {entry : SorobanAuthorizationEntry}
    {wallet : JsString} {credentials : AddressCredentials}
    (hcredentials : entry.credentials = .address credentials)
    (haddress : sdk.addressToString credentials.address = .ok wallet) :
    assertEntryAddress sdk entry wallet = .ok () := by
  simp only [assertEntryAddress, hcredentials]
  exact bind_eq_ok.mpr ⟨wallet, haddress, if_neg (not_not_intro rfl)⟩

section Signing

variable {c : SignerCore} {entryXdr : JsString} {entry : SorobanAuthorizationEntry}
  {networkPassphrase : JsValue} {expirationLedger : JsNum}

/-- An entry of the wallet that can be hashed goes to the ceremony, whatever the
    rules say. -/
theorem signAuthEntryWith_calls {hashed : SorobanAuthorizationEntry × Bytes} {o : SignerOp}
    (hentry : c.sdk.entryFromXdr entryXdr = .ok entry)
    (haddress : assertEntryAddress c.sdk entry c.address = .ok ())
    (hhash : payloadHashForEntry c.sdk entry networkPassphrase expirationLedger = .ok hashed)
    (hceremony : (c.ceremony hashed.2).pending = some o) :
    (signAuthEntryWith c entryXdr networkPassphrase expirationLedger).pending = some o := by
  -- The first call of the `try` is the first call of the whole.
  refine Task.pending_bind (Task.pending_tryCatch ?_ _) _
  rw [signUnscoped, Task.lift_ok_bind hentry, Task.lift_ok_bind haddress, signSequence,
    Task.lift_ok_bind hhash]
  exact Task.pending_bind (Task.pending_bind hceremony _) _

/-- An entry that cannot be hashed is refused without a signature. -/
theorem signAuthEntryWith_refuses {e : JsError}
    (hentry : c.sdk.entryFromXdr entryXdr = .ok entry)
    (haddress : assertEntryAddress c.sdk entry c.address = .ok ())
    (hhash : payloadHashForEntry c.sdk entry networkPassphrase expirationLedger = .error e) :
    Sat signerHandler (fun _ _ o => ¬ o.Signs) (fun _ _ r => ∀ out, r ≠ .ok out)
      (signAuthEntryWith c entryXdr networkPassphrase expirationLedger) [] () := by
  -- The sequence throws before its ceremony, and the handler only tells the hook.
  have hbody : signUnscoped c entryXdr networkPassphrase expirationLedger = .done (.error e) := by
    rw [signUnscoped, Task.lift_ok_bind hentry, Task.lift_ok_bind haddress, signSequence,
      Task.lift_error_bind hhash]
    rfl
  rw [signAuthEntryWith, hbody, sat_bind]
  change Sat _ _ _ (denied c networkPassphrase e) [] ()
  rw [denied, fire]
  by_cases hhook : c.hasHook = true
  · rw [if_pos hhook]
    refine (sat_await_bind rfl _).mpr ⟨id, fun _ out => ?_, fun _ out => ?_⟩ <;>
      simp only [ne_eq, reduceCtorEq, not_false_eq_true]
  · rw [if_neg hhook]
    intro out
    simp only [ne_eq, reduceCtorEq, not_false_eq_true]

/-- A signer keeps to a permission: it asks for a signature only if the
    permission is given, and otherwise it rejects without having asked. -/
def Respects (t : SignerTask JsString) (permitted : Prop) : Prop :=
  (∀ tr t' o, Run signerHandler t () tr t' () → t'.pending = some o → o.Signs → permitted) ∧
  (¬ permitted → ∀ tr t', Run signerHandler t () tr t' () →
    (∀ o, t'.pending = some o → ¬ o.Signs) ∧ ∀ out, t' ≠ .done (.ok out))

/-- A signer whose ceremony begins with a signature keeps to a permission only
    if it is given, or there is nothing to sign. -/
theorem respects_iff {permitted : Prop} (hentry : c.sdk.entryFromXdr entryXdr = .ok entry)
    (haddress : assertEntryAddress c.sdk entry c.address = .ok ())
    (hceremony : ∀ payload, ∃ o, (c.ceremony payload).pending = some o ∧ o.Signs) :
    Respects (signAuthEntryWith c entryXdr networkPassphrase expirationLedger) permitted ↔
      permitted ∨
      ∃ e, payloadHashForEntry c.sdk entry networkPassphrase expirationLedger = .error e := by
  constructor
  · rintro ⟨hsigns, -⟩
    -- A hash leads straight to the ceremony, whatever the permission.
    cases hhash : payloadHashForEntry c.sdk entry networkPassphrase expirationLedger with
    | error e => exact .inr ⟨e, rfl⟩
    | ok hashed =>
        rcases hceremony hashed.2 with ⟨o, hpending, ho⟩
        exact .inl (hsigns [] _ o (Run.refl _ _)
          (signAuthEntryWith_calls hentry haddress hhash hpending) ho)
  · rintro (hpermitted | ⟨e, hhash⟩)
    · exact ⟨fun _ _ _ _ _ _ => hpermitted, fun hnot => absurd hpermitted hnot⟩
    · have hsat := signAuthEntryWith_refuses hentry haddress hhash
      have hnone : ∀ tr t', Run signerHandler
          (signAuthEntryWith c entryXdr networkPassphrase expirationLedger) () tr t' () →
          (∀ o, t'.pending = some o → ¬ o.Signs) ∧ ∀ out, t' ≠ .done (.ok out) := by
        intro tr t' hrun
        cases t' with
        | done r =>
            refine ⟨fun o ho => absurd ho (by simp only [Task.pending, reduceCtorEq,
              not_false_eq_true]), fun out hout => ?_⟩
            injection hout with hout
            exact hsat.at_done hrun out hout
        | call o' k =>
            refine ⟨fun o ho => ?_, fun out hout => absurd hout (by simp only [reduceCtorEq,
              not_false_eq_true])⟩
            injection ho with ho
            exact ho ▸ hsat.at_call hrun
      exact ⟨fun tr t' o hrun ho hsigns => absurd hsigns ((hnone tr t' hrun).1 o ho),
        fun _ => hnone⟩

end Signing

/-- What a session key signs with. -/
theorem createSessionKeySigner_eq_ok {sdk : StellarSdk} {config : SessionKeySignerConfig}
    {signer : SmartAccountX402Signer} (h : createSessionKeySigner sdk config = .ok signer) :
    ∃ rawPk, signer.signAuthEntry = signAuthEntryWith
      { sdk := sdk, address := config.address, policies := config.policies
        hasHook := config.hasHook, capabilities := config.capabilities
        ceremony := sessionKeyCeremony rawPk } := by
  rcases bind_eq_ok.mp h with ⟨rawPk, -, h₁⟩
  split at h₁
  · exact absurd h₁ (by simp only [throwPlain, reduceCtorEq, not_false_eq_true])
  rcases bind_eq_ok.mp h₁ with ⟨_, -, h₂⟩
  rcases bind_eq_ok.mp h₂ with ⟨_, -, hret⟩
  injection hret with hret
  exact ⟨rawPk, by rw [← hret]⟩

/-- What a passkey signs with. -/
theorem createPasskeyX402Signer_eq_ok {sdk : StellarSdk} {config : PasskeyX402SignerConfig}
    {signer : SmartAccountX402Signer} (h : createPasskeyX402Signer sdk config = .ok signer) :
    signer.signAuthEntry = signAuthEntryWith
      { sdk := sdk, address := config.address, policies := config.policies
        hasHook := config.hasHook, capabilities := config.capabilities
        ceremony := passkeyCeremony } := by
  unfold createPasskeyX402Signer at h
  split at h
  · exact absurd h (by simp only [throwPlain, reduceCtorEq, not_false_eq_true])
  rcases bind_eq_ok.mp h with ⟨_, -, hret⟩
  injection hret with hret
  rw [← hret]

section Scoped

variable {sdk : StellarSdk} {entryXdr : JsString} {entry : SorobanAuthorizationEntry}
  {credentials : AddressCredentials} {networkPassphrase : JsValue} {expirationLedger : JsNum}
  {signer : SmartAccountX402Signer} {permitted : Prop}

theorem sessionKey_respects_iff {config : SessionKeySignerConfig}
    (h : createSessionKeySigner sdk config = .ok signer)
    (hentry : sdk.entryFromXdr entryXdr = .ok entry)
    (hcredentials : entry.credentials = .address credentials)
    (hwallet : sdk.addressToString credentials.address = .ok config.address) :
    Respects (signer.signAuthEntry entryXdr networkPassphrase expirationLedger) permitted ↔
      permitted ∨
      ∃ e, payloadHashForEntry sdk entry networkPassphrase expirationLedger = .error e := by
  rcases createSessionKeySigner_eq_ok h with ⟨rawPk, hsign⟩
  rw [hsign]
  exact respects_iff hentry (assertEntryAddress_eq_ok hcredentials hwallet)
    (fun payload => ⟨_, rfl, trivial⟩)

theorem passkey_respects_iff {config : PasskeyX402SignerConfig}
    (h : createPasskeyX402Signer sdk config = .ok signer)
    (hentry : sdk.entryFromXdr entryXdr = .ok entry)
    (hcredentials : entry.credentials = .address credentials)
    (hwallet : sdk.addressToString credentials.address = .ok config.address) :
    Respects (signer.signAuthEntry entryXdr networkPassphrase expirationLedger) permitted ↔
      permitted ∨
      ∃ e, payloadHashForEntry sdk entry networkPassphrase expirationLedger = .error e := by
  rw [createPasskeyX402Signer_eq_ok h]
  exact respects_iff hentry (assertEntryAddress_eq_ok hcredentials hwallet)
    (fun payload => ⟨_, rfl, trivial⟩)

end Scoped

/-- The signers keep to their rules exactly on the entries that a rule names,
    and on those that cannot be hashed: the check of the rules is never
    reached. -/
theorem signers_respect_capabilities_iff (sdk : StellarSdk) (entryXdr : JsString)
    (entry : SorobanAuthorizationEntry) (credentials : AddressCredentials)
    (networkPassphrase : JsValue) (expirationLedger : JsNum) (wallet : JsString)
    (rules : List CapabilityRule) (hentry : sdk.entryFromXdr entryXdr = .ok entry)
    (hcredentials : entry.credentials = .address credentials)
    (hwallet : sdk.addressToString credentials.address = .ok wallet) (hrules : rules ≠ []) :
    (∀ config signer, config.address = wallet → config.capabilities = rules →
      createSessionKeySigner sdk config = .ok signer →
      (Respects (signer.signAuthEntry entryXdr networkPassphrase expirationLedger)
          (Permits sdk rules entry) ↔
        NamedByRule sdk rules entry ∨
        ∃ e, payloadHashForEntry sdk entry networkPassphrase expirationLedger = .error e)) ∧
    (∀ config signer, config.address = wallet → config.capabilities = rules →
      createPasskeyX402Signer sdk config = .ok signer →
      (Respects (signer.signAuthEntry entryXdr networkPassphrase expirationLedger)
          (Permits sdk rules entry) ↔
        NamedByRule sdk rules entry ∨
        ∃ e, payloadHashForEntry sdk entry networkPassphrase expirationLedger = .error e)) := by
  rw [← permits_iff hrules]
  constructor
  · rintro config signer rfl rfl h
    exact sessionKey_respects_iff h hentry hcredentials hwallet
  · rintro config signer rfl rfl h
    exact passkey_respects_iff h hentry hcredentials hwallet

/-- A session key of the sample wallet, scoped to transfers of one contract. -/
def sampleSessionConfig (contract : UInt8) : SessionKeySignerConfig :=
  { address := sampleAddress 1, secretKey := js "S" ++ List.replicate 51 65 ++ js "BSU2"
    policies := [], hasHook := false
    capabilities := [⟨sampleAddress contract, "transfer"⟩] }

/-- A passkey of the same wallet, scoped alike. -/
def samplePasskeyConfig (contract : UInt8) : PasskeyX402SignerConfig :=
  { address := sampleAddress 1, policies := [], hasHook := false
    capabilities := [⟨sampleAddress contract, "transfer"⟩] }

theorem sampleSigners_created : ∀ contract ∈ [(0 : UInt8), 2], ∃ session passkey,
    createSessionKeySigner sampleSdk (sampleSessionConfig contract) = .ok session ∧
    createPasskeyX402Signer sampleSdk (samplePasskeyConfig contract) = .ok passkey := by
  have hsession : ∀ contract ∈ [(0 : UInt8), 2],
      (createSessionKeySigner sampleSdk (sampleSessionConfig contract)).isOk = true := by
    decide +kernel
  have hpasskey : ∀ contract ∈ [(0 : UInt8), 2],
      (createPasskeyX402Signer sampleSdk (samplePasskeyConfig contract)).isOk = true := by
    decide +kernel
  intro contract hcontract
  rcases isOk_iff.mp (hsession contract hcontract) with ⟨session, hs⟩
  rcases isOk_iff.mp (hpasskey contract hcontract) with ⟨passkey, hp⟩
  exact ⟨session, passkey, hs, hp⟩

/-- The sample entry as it reaches a signer, with its network and its last
    ledger. -/
def signSample (signer : SmartAccountX402Signer) : SignerTask JsString :=
  signer.signAuthEntry (btoa (sampleEntryBytes 7)) (.str "Test SDF Network ; September 2015")
    (JsNum.ofNat 1012)

theorem sampleSdk_entryFromXdr :
    sampleSdk.entryFromXdr (btoa (sampleEntryBytes 7)) = .ok (sampleEntryOf 7) := by
  have hfind : [7, 8].find? (fun nonce => btoa (sampleEntryBytes nonce) =
      btoa (sampleEntryBytes 7)) = some 7 := by decide +kernel
  simp only [sampleSdk, hfind]

/-- With rules for the token that the sample entry transfers. -/
theorem signers_respect_capabilities_iff_sample : ∃ session passkey,
    createSessionKeySigner sampleSdk (sampleSessionConfig 0) = .ok session ∧
    createPasskeyX402Signer sampleSdk (samplePasskeyConfig 0) = .ok passkey ∧
    Respects (signSample session)
      (Permits sampleSdk (sampleSessionConfig 0).capabilities (sampleEntryOf 7)) ∧
    Respects (signSample passkey)
      (Permits sampleSdk (sampleSessionConfig 0).capabilities (sampleEntryOf 7)) := by
  rcases sampleSigners_created 0 (by decide) with ⟨session, passkey, hsession, hpasskey⟩
  have hiff := signers_respect_capabilities_iff sampleSdk _ (sampleEntryOf 7) _
    (.str "Test SDF Network ; September 2015") (JsNum.ofNat 1012) (sampleAddress 1)
    (sampleSessionConfig 0).capabilities sampleSdk_entryFromXdr rfl
    (sampleSdk_addressToString 1 (by decide)) (by simp only [sampleSessionConfig, ne_eq,
      reduceCtorEq, not_false_eq_true])
  have hname : bufferToString (TextEncoder.encode "transfer") = js "transfer" := by decide +kernel
  have hnamed : NamedByRule sampleSdk (sampleSessionConfig 0).capabilities (sampleEntryOf 7) :=
    ⟨_, sampleAddress 0, rfl, sampleSdk_addressToString 0 (by decide),
      ⟨sampleAddress 0, js "transfer"⟩, List.mem_singleton_self _, .inr rfl, .inr hname.symm⟩
  exact ⟨session, passkey, hsession, hpasskey,
    (hiff.1 (sampleSessionConfig 0) session rfl rfl hsession).mpr (.inl hnamed),
    (hiff.2 (samplePasskeyConfig 0) passkey rfl rfl hpasskey).mpr (.inl hnamed)⟩

/-- With rules for another contract the signers sign the same entry. -/
theorem signers_ignore_capabilities : ∃ session passkey,
    createSessionKeySigner sampleSdk (sampleSessionConfig 2) = .ok session ∧
    createPasskeyX402Signer sampleSdk (samplePasskeyConfig 2) = .ok passkey ∧
    ¬ Respects (signSample session)
      (Permits sampleSdk (sampleSessionConfig 2).capabilities (sampleEntryOf 7)) ∧
    ¬ Respects (signSample passkey)
      (Permits sampleSdk (samplePasskeyConfig 2).capabilities (sampleEntryOf 7)) := by
  rcases sampleSigners_created 2 (by decide) with ⟨session, passkey, hsession, hpasskey⟩
  have hhash : (payloadHashForEntry sampleSdk (sampleEntryOf 7)
      (.str "Test SDF Network ; September 2015") (JsNum.ofNat 1012)).isOk = true := by
    decide +kernel
  have hname : bufferToString (TextEncoder.encode "transfer") = js "transfer" := by decide +kernel
  have hdenied : evaluateCapability (sampleSessionConfig 2).capabilities
      ⟨sampleAddress 0, js "transfer"⟩ = false := by decide +kernel
  -- The entry asks for a transfer, which no rule names, and has a hash to sign.
  have hrequest : capabilityRequestFor sampleSdk (sampleEntryOf 7) =
      .ok (some ⟨sampleAddress 0, js "transfer"⟩) :=
    bind_eq_ok.mpr ⟨sampleAddress 0, sampleSdk_addressToString 0 (by decide), by rw [hname]; rfl⟩
  have hnot : ¬ (Permits sampleSdk (sampleSessionConfig 2).capabilities (sampleEntryOf 7) ∨
      ∃ e, payloadHashForEntry sampleSdk (sampleEntryOf 7)
        (.str "Test SDF Network ; September 2015") (JsNum.ofNat 1012) = .error e) := by
    rintro (⟨request, hr, hpermits⟩ | ⟨e, he⟩)
    · rw [hrequest, Except.ok.injEq, Option.some.injEq] at hr
      rw [← hr, hdenied] at hpermits
      exact absurd hpermits Bool.false_ne_true
    · rw [he] at hhash
      exact Bool.false_ne_true hhash
  refine ⟨session, passkey, hsession, hpasskey, fun h => hnot ?_, fun h => hnot ?_⟩
  · exact (sessionKey_respects_iff hsession sampleSdk_entryFromXdr rfl
      (sampleSdk_addressToString 1 (by decide))).mp h
  · exact (passkey_respects_iff hpasskey sampleSdk_entryFromXdr rfl
      (sampleSdk_addressToString 1 (by decide))).mp h

end X402

end VellarSdk
