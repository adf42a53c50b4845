import VellarSdk.X402.Client

/-!
# The Smart-Account Scheme

The payer's own payment scheme, which pays from a smart account: assemble the
transfer, have the wallet sign its entries of it, and simulate once more, which
is where the wallet's policy is consulted.

It shares its signing loop with the client of the SDK. Both sign every entry of
the wallet that the RPC's simulation returned, so the number of signatures that
one cleared payment releases is the RPC's choice: each entry is checked on its
own and nothing is checked of the list.

## Main definitions

* `expirationLedgersFor`: How long a signature is valid.
* `policyRejected`: Was it a policy that refused?
* `createPaymentPayload`: The payment payload.

## Theorems

* `createPaymentPayload_signs`: What the scheme has the wallet sign.
* `payments_sign_wallet_entries`: Both payment builders sign the wallet's
  entries, all of them and nothing else.
-/

namespace VellarSdk

namespace Payer

open Js Stellar X402 Async

/-- `NETWORK_PASSPHRASE`. -/
def networkPassphrases : List (JsString × JsValue) :=
  [(js "stellar:testnet", .str "Test SDF Network ; September 2015"),
    (js "stellar:pubnet", .str "Public Global Stellar Network ; September 2015")]

/-- `throw new UnworkableTimeoutError(maxTimeoutSeconds, ledgers)`. -/
def throwUnworkableTimeout {α : Type} (maxTimeoutSeconds : JsValue) (ledgers : JsNum) :
    Except JsError α := do
  let seconds ← maxTimeoutSeconds.toStr
  .error ⟨.unworkableTimeout maxTimeoutSeconds ledgers,
    js "The resource server allows only " ++ seconds ++ js "s to settle, which is about " ++
      ledgers.toStr ++ js (" ledgers — below the ~25s a settlement has been measured to need. " ++
        "Refusing before signing rather than producing a signature that expires mid-payment. " ++
        "Nothing was spent. This is the seller's configuration, not a fault in the payment.")⟩

/-- The validity of a signature in ledgers: the seller's timeout up to five
    minutes, less the safety margin. Below five ledgers it is refused. -/
def expirationLedgersFor (maxTimeoutSeconds : JsValue) : Except JsError JsNum := do
  let seconds ← maxTimeoutSeconds.toNumber
  -- A generous seller is clamped, a stingy one refused.
  let requested := seconds.min (JsNum.ofNat 300)
  let window := (requested.div 5).ceil
  let offset := (window.add (-2)).max (JsNum.ofNat 3)
  if offset.lt (JsNum.ofNat 5) then throwUnworkableTimeout maxTimeoutSeconds offset
  else return offset

/-- `/try_call failed.*policy__|policy__.*Error\(Contract, #1\)/s.test(detail)`. -/
def policyRejected (detail : JsString) : Bool :=
  follows (js "try_call failed") (js "policy__") ||
    follows (js "policy__") (js "Error(Contract, #1)")
where
  follows (first second : JsString) : Bool :=
    match afterFirst first detail with
    | some rest => includes rest second
    | none => false

/-- `throw new SmartAccountAuthError(detail)`. -/
def throwSmartAccountAuth {α : Type} (detail : JsString) : Except JsError α :=
  .error ⟨.smartAccountAuth detail,
    js "The smart account did not authorise this payment. " ++
      (if policyRejected detail then
        js ("A spending policy attached to the signing key REFUSED it — this is the on-chain " ++
          "budget being enforced, not a client error. The payment exceeds what the wallet " ++
          "permits, and no retry or larger max_amount will change that.")
      else
        js ("No policy rejection was found in the diagnostics, so this is more likely a " ++
          "signature-map or signer-configuration problem than a budget decision — check " ++
          "VELLAR_X402_WALLET and VELLAR_X402_POLICIES against the wallet's on-chain signers.")) ++
      js "\n\n" ++ detail⟩

/-- What the scheme is created with. -/
structure SmartAccountSchemeDeps where
  sdk : StellarSdk
  signerAddress : JsString

/-- `BigInt(amount)`, which unlike the client's parser takes what `BigInt`
    takes. -/
def bigIntAmount (amount : JsValue) : Except JsError Int :=
  amount.toBigInt

/-- The transaction as it is after it was simulated with its signatures. -/
def assembled : Simulation → Except JsError BuiltTransaction
  | .missing => throwSmartAccountAuth "unknown simulation failure"
  | .error text => throwSmartAccountAuth text
  | .success built => .ok built

/-- Build and sign the payment for one requirement. Returns the version and the
    transaction of the payload. -/
def createPaymentPayload (d : SmartAccountSchemeDeps) (x402Version requirements : JsValue) :
    Build (JsValue × JsString) := do
  let network ← (requirements.prop "network" : Except JsError JsValue)
  let passphrase ← (tableLookup networkPassphrases network : Except JsError JsValue)
  if !passphrase.truthy then do
    let name ← (network.toStr : Except JsError JsString)
    throwPlain (js "Unsupported Stellar network: " ++ name)
  else if !((requirements.field "extra").optProp "areFeesSponsored").strictEq (.bool true) then
    throwPlain "Exact scheme requires areFeesSponsored to be true"
  else do
    let (args, amount) ← transferArgs d.sdk requirements d.signerAddress bigIntAmount
    -- The transaction's source is the null account, so the wallet pays no fee.
    let tx ← build ⟨requirements.field "asset", args, passphrase⟩
    match tx with
    | none =>
        throwPlain "Failed to assemble the transfer (simulation returned nothing)."
    | some built => do
        let sequence ← getLatestLedger
        let offset ← expirationLedgersFor (requirements.field "maxTimeoutSeconds")
        let terms : SigningTerms :=
          { sdk := d.sdk, wallet := d.signerAddress
            expected := transferOf requirements d.signerAddress amount
            networkPassphrase := passphrase, expirationLedger := offset.add sequence }
        let auth ← signEntries terms (built.auth.getD [])
          (js "No auth entry found for the paying wallet " ++ d.signerAddress ++ js ".")
        -- The policy of the wallet runs here, for the first time.
        let simulation ← simulate auth
        let signed ← assembled simulation
        return (x402Version, signed.toXdr (signed.auth.getD []))

/-- What the scheme has the wallet sign. -/
theorem createPaymentPayload_signs {d : SmartAccountSchemeDeps} {x402Version requirements : JsValue}
    {tr : List BuildEvent} {out : JsValue × JsString}
    (h : Run buildHandler (createPaymentPayload d x402Version requirements) () tr
      (.done (.ok out)) ()) :
    SignsWalletEntries d.sdk d.signerAddress requirements bigIntAmount tr := by
  rcases run_lift_bind_ok h with ⟨network, -, h₁⟩
  rcases run_lift_bind_ok h₁ with ⟨passphrase, -, h₂⟩
  by_cases hpassphrase : (!passphrase.truthy) = true
  · rw [if_pos hpassphrase] at h₂
    rcases run_lift_bind_ok h₂ with ⟨_, -, hthrow⟩
    exact (run_error_ok hthrow).elim
  rw [if_neg hpassphrase] at h₂
  -- Unsponsored fees throw before anything is built.
  split at h₂
  · exact (run_error_ok h₂).elim
  rcases run_lift_bind_ok h₂ with ⟨⟨args, amount⟩, hargs, h₃⟩
  rcases run_await_bind_ok rfl h₃ with ⟨tx, tr₁, rfl, h₄⟩
  cases tx with
  | none => exact (run_error_ok h₄).elim
  | some built =>
      rcases run_await_bind_ok rfl h₄ with ⟨sequence, tr₂, rfl, h₅⟩
      rcases run_lift_bind_ok h₅ with ⟨offset, -, h₆⟩
      rcases run_bind_ok h₆ with ⟨auth, _, tr₃, tr₄, hsigning, h₇, rfl⟩
      rcases signEntries_run hsigning with ⟨hsigned, hbuilt, hsome⟩
      -- The second simulation follows the signatures and adds none.
      rcases run_await_bind_ok rfl h₇ with ⟨simulation, tr₅, rfl, h₈⟩
      rcases run_lift_bind_ok h₈ with ⟨signed, -, hret⟩
      rcases run_pure_ok hret with ⟨-, rfl⟩
      refine ⟨built, amount, ?_, transferArgs_amount hargs, hsome, ?_⟩
      · change built :: builtTransactions (tr₃ ++ _) = _
        rw [builtTransactions_append, hbuilt]
        rfl
      · change List.Forall₂ _ _ (signRequests (tr₃ ++ _))
        rw [signRequests_append]
        exact (List.append_nil (signRequests tr₃)).symm ▸ hsigned

/-- A run that signed the wallet's entries released one signature exactly when
    the RPC returned one of them. -/
theorem SignsWalletEntries.one_iff {sdk : StellarSdk} {wallet : JsString} {requirements : JsValue}
    {parse : JsValue → Except JsError Int} {tr : List BuildEvent}
    (h : SignsWalletEntries sdk wallet requirements parse tr) (built : BuiltTransaction)
    (hbuilt : built ∈ builtTransactions tr) :
    (signRequests tr).length = 1 ↔ (ownEntries sdk wallet (built.auth.getD [])).length = 1 := by
  rcases h with ⟨built', amount, htr, -, -, hsigned⟩
  -- One transaction was built, so the list is that one's.
  rw [htr, List.mem_singleton] at hbuilt
  rw [hbuilt, hsigned.length_eq]

/-- Every payment that returned, of the client and of the scheme, had the wallet
    sign exactly its own entries among those the RPC returned: all of them, at
    least one, each after the check that it is the cleared transfer. One
    signature is released exactly when there is one such entry. -/
theorem payments_sign_wallet_entries :
    (∀ (d : ClientDeps) (requirements : JsValue) (tr : List BuildEvent) (out : JsString × Int),
      Run buildHandler (buildSignedPayment d requirements) () tr (.done (.ok out)) () →
      SignsWalletEntries d.sdk d.signerAddress requirements parseAmount tr ∧
      ∀ built ∈ builtTransactions tr, (signRequests tr).length = 1 ↔
        (ownEntries d.sdk d.signerAddress (built.auth.getD [])).length = 1) ∧
    (∀ (d : SmartAccountSchemeDeps) (x402Version requirements : JsValue) (tr : List BuildEvent)
      (out : JsValue × JsString),
      Run buildHandler (createPaymentPayload d x402Version requirements) () tr
        (.done (.ok out)) () →
      SignsWalletEntries d.sdk d.signerAddress requirements bigIntAmount tr ∧
      ∀ built ∈ builtTransactions tr, (signRequests tr).length = 1 ↔
        (ownEntries d.sdk d.signerAddress (built.auth.getD [])).length = 1) := by
  constructor
  · intro d requirements tr out h
    have hsigns := buildSignedPayment_signs h
    exact ⟨hsigns, SignsWalletEntries.one_iff hsigns⟩
  · intro d x402Version requirements tr out h
    have hsigns := createPaymentPayload_signs h
    exact ⟨hsigns, SignsWalletEntries.one_iff hsigns⟩

section Sample

/-- A transaction of the transfer, with the given entries. -/
def sampleTransaction (auth : List SorobanAuthorizationEntry) : JsString :=
  btoa ([0, 0, 0, 2] ++ List.replicate 36 0 ++ [0, 0, 0, 100] ++ List.replicate 7 0 ++ [1] ++
    List.replicate 8 0 ++ [0, 0, 0, 1, 0, 0, 0, 0, 0, 0, 0, 24] ++ sampleCallBytes ++
    [0, 0, 0, UInt8.ofNat auth.length] ++
    (auth.map (fun entry => sampleEntryBytes ((sampleNonce entry).getD 0))).flatten ++
    List.replicate 8 0)

/-- An RPC that returns entries with these nonces, and a wallet that returns
    what it is given. -/
def rpcAnswer (nonces : List UInt8) : (o : ClientOp) → Except JsError o.Ret
  | .now => .ok 0
  | .trackerSpent _ => .ok 0
  | .build _ => .ok (some ⟨some (nonces.map sampleEntryOf), sampleTransaction⟩)
  | .getLatestLedger => .ok 1000
  | .signAuthEntry entryXdr _ _ => .ok entryXdr
  | .simulate auth => .ok (.success ⟨some auth, sampleTransaction⟩)

/-- A seller's requirement of 100 base units. -/
def sampleRequirement : JsValue :=
  .obj [(js "scheme", js "exact"), (js "network", js "stellar:testnet"),
    (js "asset", sampleAddress 0), (js "payTo", sampleAddress 2), (js "amount", js "100"),
    (js "maxTimeoutSeconds", .num 60),
    (js "extra", .obj [(js "areFeesSponsored", .bool true)])]

/-- A client without budget rules. -/
def sampleClient : ClientDeps :=
  { sdk := sampleSdk, signerAddress := sampleAddress 1, budgetAttributes := [], hasTracker := false
    expirationCeiling := none }

/-- The scheme for the same wallet. -/
def sampleScheme : SmartAccountSchemeDeps :=
  { sdk := sampleSdk, signerAddress := sampleAddress 1 }

/-- A payment against that RPC. -/
def samplePayment {α : Type} (t : Build α) (nonces : List UInt8) :=
  t.replay buildHandler (List.replicate 6 (rpcAnswer nonces)) ()

/-- Did the payment return? -/
def returned {α : Type} (t : Build α) : Bool :=
  match t.outcome with
  | some (.ok _) => true
  | _ => false

theorem samplePayment_run {α : Type} {t : Build α} {nonces : List UInt8}
    (h : returned (samplePayment t nonces).2.1 = true) :
    ∃ out, Run buildHandler t () (samplePayment t nonces).1 (.done (.ok out)) () := by
  have hrun := run_replay buildHandler t (List.replicate 6 (rpcAnswer nonces)) ()
  unfold returned at h
  split at h
  · next out hout =>
      refine ⟨out, ?_⟩
      rw [← Task.eq_done_of_outcome hout]
      exact hrun
  · exact absurd h Bool.false_ne_true

/-- With one entry both sign that one. -/
theorem payments_sign_wallet_entries_sample :
    SignsWalletEntries sampleSdk (sampleAddress 1) sampleRequirement parseAmount
      (samplePayment (buildSignedPayment sampleClient sampleRequirement) [7]).1 ∧
    SignsWalletEntries sampleSdk (sampleAddress 1) sampleRequirement bigIntAmount
      (samplePayment (createPaymentPayload sampleScheme (.num 2) sampleRequirement) [7]).1 := by
  have hclient : returned (samplePayment (buildSignedPayment sampleClient sampleRequirement)
    [7]).2.1 = true := by decide +kernel
  have hscheme : returned (samplePayment (createPaymentPayload sampleScheme (.num 2)
    sampleRequirement) [7]).2.1 = true := by decide +kernel
  rcases samplePayment_run hclient with ⟨out, hrun⟩
  rcases samplePayment_run hscheme with ⟨out', hrun'⟩
  exact ⟨(payments_sign_wallet_entries.1 sampleClient _ _ out hrun).1,
    (payments_sign_wallet_entries.2 sampleScheme _ _ _ out' hrun').1⟩

/-- With two entries that differ in their nonce both sign both. -/
theorem payments_sign_two_entries :
    (¬ ∀ (d : ClientDeps) (requirements : JsValue) (tr : List BuildEvent) (out : JsString × Int),
      Run buildHandler (buildSignedPayment d requirements) () tr (.done (.ok out)) () →
      (signRequests tr).length = 1) ∧
    ¬ ∀ (d : SmartAccountSchemeDeps) (x402Version requirements : JsValue) (tr : List BuildEvent)
      (out : JsValue × JsString),
      Run buildHandler (createPaymentPayload d x402Version requirements) () tr
        (.done (.ok out)) () → (signRequests tr).length = 1 := by
  constructor
  · intro hall
    have hreturned : returned (samplePayment (buildSignedPayment sampleClient sampleRequirement)
      [7, 8]).2.1 = true := by decide +kernel
    have htwo : (signRequests (samplePayment (buildSignedPayment sampleClient sampleRequirement)
      [7, 8]).1).length = 2 := by decide +kernel
    rcases samplePayment_run hreturned with ⟨out, hrun⟩
    exact absurd (htwo.symm.trans (hall _ _ _ out hrun)) (by decide)
  · intro hall
    have hreturned : returned (samplePayment (createPaymentPayload sampleScheme (.num 2)
      sampleRequirement) [7, 8]).2.1 = true := by decide +kernel
    have htwo : (signRequests (samplePayment (createPaymentPayload sampleScheme (.num 2)
      sampleRequirement) [7, 8]).1).length = 2 := by decide +kernel
    rcases samplePayment_run hreturned with ⟨out, hrun⟩
    exact absurd (htwo.symm.trans (hall _ _ _ _ out hrun)) (by decide)

end Sample

end Payer

end VellarSdk
