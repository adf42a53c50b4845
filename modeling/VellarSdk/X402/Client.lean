import Mathlib.Data.List.Forall2
import VellarSdk.Async.Task
import VellarSdk.X402.AuthEntry
import VellarSdk.X402.Budget
import VellarSdk.X402.Guards

/-!
# Building a Signed Payment

The client's payment builder: simulate the transfer, check every entry of the
wallet that came back against the transfer that was intended, have the wallet
sign it, and wrap the transaction into the payment header.

The entries are the RPC's, in any number and order. The loop over them is
written once: this client and the smart-account scheme of the payer run the same
one. It signs every entry that carries the wallet's credentials, which
`signLoop_run` states over any list of entries.

## Main definitions

* `ClientOp`: The calls a payment builder makes.
* `expirationOffsetFor`: How long a signature is valid.
* `ownEntry`, `signLoop`, `signEntries`: The entries that are the wallet's to
  sign.
* `buildSignedPayment`: The payment header.

## Theorems

* `signLoop_run`, `signEntries_run`: What the loop asks the wallet to sign.
* `buildSignedPayment_run`, `buildSignedPayment_signs`: What the client does.
-/

namespace VellarSdk

namespace X402

open Js Stellar Async

/-- A built transaction: its authorization entries, and its XDR with any
    entries in their place. -/
structure BuiltTransaction where
  auth : Option (List SorobanAuthorizationEntry)
  toXdr : List SorobanAuthorizationEntry → JsString

/-- What a simulation said: an error with its text, or success, after which
    the transaction is assembled again. -/
inductive Simulation where
  | missing
  | error (text : JsString)
  | success (built : BuiltTransaction)

/-- The call of `transfer` that a transaction is built for. -/
structure TransferArgs where
  contractId : JsValue
  args : List ScVal
  networkPassphrase : JsValue

/-- The calls the payment builders make. -/
inductive ClientOp where
  /-- The clock. -/
  | now
  /-- `tracker.spent(rule)`. -/
  | trackerSpent (rule : Ref BudgetAttributeRule)
  /-- `AssembledTransaction.build`, which simulates. -/
  | build (args : TransferArgs)
  | getLatestLedger
  | signAuthEntry (entryXdr : JsString) (networkPassphrase : JsValue) (expirationLedger : JsNum)
  /-- `tx.simulate` on the signed entries. -/
  | simulate (auth : List SorobanAuthorizationEntry)

/-- What each call returns. -/
@[reducible] def ClientOp.Ret : ClientOp → Type
  | .now => Int
  | .trackerSpent _ => Int
  | .build _ => Option BuiltTransaction
  | .getLatestLedger => Nat
  | .signAuthEntry _ _ _ => JsString
  | .simulate _ => Simulation

/-- An async body of a payment builder. -/
abbrev Build := Task ClientOp ClientOp.Ret JsError

/-- A call of a payment builder with its reply. -/
abbrev BuildEvent := Event ClientOp ClientOp.Ret JsError

/-- Nothing is answered by the builder's own state. -/
def buildHandler : Handler ClientOp ClientOp.Ret JsError Unit where
  exec _ := none

/-- `now()`. -/
def now : Build Int :=
  Task.perform ClientOp.now

/-- `tracker.spent(rule)`. -/
def trackerSpent (rule : Ref BudgetAttributeRule) : Build Int :=
  Task.perform (ClientOp.trackerSpent rule)

/-- `AssembledTransaction.build`. -/
def build (args : TransferArgs) : Build (Option BuiltTransaction) :=
  Task.perform (ClientOp.build args)

/-- `server.getLatestLedger().sequence`. -/
def getLatestLedger : Build Nat :=
  Task.perform ClientOp.getLatestLedger

/-- `signer.signAuthEntry`. -/
def signAuthEntry (entryXdr : JsString) (networkPassphrase : JsValue) (expirationLedger : JsNum) :
    Build JsString :=
  Task.perform (ClientOp.signAuthEntry entryXdr networkPassphrase expirationLedger)

/-- `tx.simulate`. -/
def simulate (auth : List SorobanAuthorizationEntry) : Build Simulation :=
  Task.perform (ClientOp.simulate auth)

/-- `NETWORKS`: the passphrase and the name of each network, by CAIP-2 id. -/
def networks : List (JsString × JsValue) :=
  [(js "stellar:testnet", .obj [(js "passphrase", js "Test SDF Network ; September 2015"),
      (js "network", js "testnet")]),
    (js "stellar:pubnet", .obj [(js "passphrase", js "Public Global Stellar Network ; September 2015"),
      (js "network", js "mainnet")])]

/-- `(maxTimeoutSeconds ?? 120) / ESTIMATED_LEDGER_SECONDS`, less the safety
    margin, at most the ceiling and at least three ledgers. -/
def expirationOffsetFor (maxTimeoutSeconds : JsValue) (ceiling : Option JsNum) :
    Except NativeError JsNum := do
  let seconds ← (maxTimeoutSeconds.orElse (.num 120)).toNumber
  let windowLedgers := (seconds.div 5).ceil
  -- An explicit ceiling wins over the default one.
  let offset := (windowLedgers.add (-2)).min (ceiling.getD (JsNum.ofNat 58))
  return offset.max (JsNum.ofNat 3)

/-- Is the entry the wallet's to sign: do its credentials, of the first
    version, name the wallet? -/
def ownEntry (sdk : StellarSdk) (wallet : JsString) (entry : SorobanAuthorizationEntry) :
    Except JsError Bool :=
  match entry.credentials with
  | .address credentials => do
      let addr ← sdk.addressToString credentials.address
      return addr == wallet
  | .sourceAccount | .addressV2 _ => .ok false

/-- What a payment builder signs with: the SDK, the wallet, the transfer it
    intends, and the terms of the signature. -/
structure SigningTerms where
  sdk : StellarSdk
  wallet : JsString
  expected : ExpectedInvocation
  networkPassphrase : JsValue
  expirationLedger : JsNum

/-- Sign every wallet entry. Returns the entries with the signed ones in
    place, and how many were signed. -/
def signLoop (terms : SigningTerms) :
    List SorobanAuthorizationEntry → Build (List SorobanAuthorizationEntry × Nat)
  | [] => return ([], 0)
  | entry :: rest => do
      -- The credentials say that the entry is the wallet's to sign, not what it does.
      let own ← ownEntry terms.sdk terms.wallet entry
      if own then do
        assertAuthEntryInvocation terms.sdk entry terms.expected
        let entryXdr ← terms.sdk.entryToXdr entry
        let signedXdr ← signAuthEntry entryXdr terms.networkPassphrase terms.expirationLedger
        let signed ← terms.sdk.entryFromXdr signedXdr
        let others ← signLoop terms rest
        return (signed :: others.1, others.2 + 1)
      else do
        let others ← signLoop terms rest
        return (entry :: others.1, others.2)

/-- The loop, and the error when no entry was the wallet's. -/
def signEntries (terms : SigningTerms) (entries : List SorobanAuthorizationEntry)
    (noneSigned : JsString) : Build (List SorobanAuthorizationEntry) := do
  let signed ← signLoop terms entries
  if signed.2 = 0 then throwPlain noneSigned
  else return signed.1

/-- What the wallet was asked to sign, in order. -/
def signRequests (tr : List BuildEvent) : List JsString :=
  tr.filterMap (fun e => match e.op with
    | .signAuthEntry entryXdr _ _ => some entryXdr
    | _ => none)

/-- The transactions that came back from the RPC. -/
def builtTransactions (tr : List BuildEvent) : List BuiltTransaction :=
  tr.filterMap (fun e => match e with
    | ⟨.build _, .ok (some built)⟩ => some built
    | _ => none)

theorem signRequests_append (tr tr' : List BuildEvent) :
    signRequests (tr ++ tr') = signRequests tr ++ signRequests tr' :=
  List.filterMap_append

theorem builtTransactions_append (tr tr' : List BuildEvent) :
    builtTransactions (tr ++ tr') = builtTransactions tr ++ builtTransactions tr' :=
  List.filterMap_append

/-- The entries that are the wallet's to sign. -/
def ownEntries (sdk : StellarSdk) (wallet : JsString) (entries : List SorobanAuthorizationEntry) :
    List SorobanAuthorizationEntry :=
  entries.filter (fun entry => match ownEntry sdk wallet entry with
    | .ok own => own
    | .error _ => false)

/-- A request to sign an entry that passed the check. -/
def SignsChecked (sdk : StellarSdk) (expected : ExpectedInvocation)
    (entry : SorobanAuthorizationEntry) (entryXdr : JsString) : Prop :=
  assertAuthEntryInvocation sdk entry expected = .ok () ∧ sdk.entryToXdr entry = .ok entryXdr

section SignLoop

variable {terms : SigningTerms} {entry : SorobanAuthorizationEntry}
  {entries : List SorobanAuthorizationEntry}

theorem ownEntries_cons_own (h : ownEntry terms.sdk terms.wallet entry = .ok true) :
    ownEntries terms.sdk terms.wallet (entry :: entries) =
      entry :: ownEntries terms.sdk terms.wallet entries :=
  List.filter_cons_of_pos (by simp only [h])

theorem ownEntries_cons_other (h : ownEntry terms.sdk terms.wallet entry = .ok false) :
    ownEntries terms.sdk terms.wallet (entry :: entries) =
      ownEntries terms.sdk terms.wallet entries :=
  List.filter_cons_of_neg (by simp only [h, Bool.false_eq_true, not_false_eq_true])

/-- A loop that returned asked the wallet to sign its own entries, each once
    and in order, and every one of them had passed the check. -/
theorem signLoop_run {tr : List BuildEvent} {out : List SorobanAuthorizationEntry × Nat}
    (h : Run buildHandler (signLoop terms entries) () tr (.done (.ok out)) ()) :
    List.Forall₂ (SignsChecked terms.sdk terms.expected)
      (ownEntries terms.sdk terms.wallet entries) (signRequests tr) ∧
    builtTransactions tr = [] ∧ out.2 = (ownEntries terms.sdk terms.wallet entries).length := by
  induction entries generalizing tr out with
  | nil =>
      rcases run_pure_ok h with ⟨rfl, rfl⟩
      exact ⟨.nil, rfl, rfl⟩
  | cons entry rest ih =>
      rcases run_lift_bind_ok h with ⟨own, hown, h₁⟩
      -- Entries of others are passed over, the wallet's are checked and signed.
      cases own with
      | false =>
          rw [if_neg Bool.false_ne_true] at h₁
          rcases run_bind_ok h₁ with ⟨others, _, tr₁, _, hothers, hret, rfl⟩
          rcases run_pure_ok hret with ⟨rfl, rfl⟩
          have hrest := ih hothers
          rw [ownEntries_cons_other hown, List.append_nil]
          exact hrest
      | true =>
          rw [if_pos rfl] at h₁
          rcases run_lift_bind_ok h₁ with ⟨_, hassert, h₂⟩
          rcases run_lift_bind_ok h₂ with ⟨entryXdr, hxdr, h₃⟩
          rcases run_await_bind_ok rfl h₃ with ⟨signedXdr, tr₁, rfl, h₄⟩
          rcases run_lift_bind_ok h₄ with ⟨signed, -, h₅⟩
          rcases run_bind_ok h₅ with ⟨others, _, tr₂, _, hothers, hret, rfl⟩
          rcases run_pure_ok hret with ⟨rfl, rfl⟩
          rcases ih hothers with ⟨hsigned, hbuilt, hcount⟩
          rw [ownEntries_cons_own hown, List.append_nil, List.length_cons, hcount]
          exact ⟨.cons ⟨hassert, hxdr⟩ hsigned, hbuilt, rfl⟩

/-- Signing returned only if there was something to sign. -/
theorem signEntries_run {noneSigned : JsString} {tr : List BuildEvent}
    {out : List SorobanAuthorizationEntry}
    (h : Run buildHandler (signEntries terms entries noneSigned) () tr (.done (.ok out)) ()) :
    List.Forall₂ (SignsChecked terms.sdk terms.expected)
      (ownEntries terms.sdk terms.wallet entries) (signRequests tr) ∧
    builtTransactions tr = [] ∧ ownEntries terms.sdk terms.wallet entries ≠ [] := by
  rcases run_bind_ok h with ⟨signed, _, tr₁, _, hloop, h₁, rfl⟩
  rcases signLoop_run hloop with ⟨hsigned, hbuilt, hcount⟩
  -- A count of zero throws, so what returned signed something.
  by_cases hzero : signed.2 = 0
  · rw [if_pos hzero] at h₁
    exact (run_error_ok h₁).elim
  rw [if_neg hzero] at h₁
  rcases run_pure_ok h₁ with ⟨-, rfl⟩
  rw [List.append_nil]
  refine ⟨hsigned, hbuilt, fun hnone => hzero ?_⟩
  rw [hcount, hnone, List.length_nil]

end SignLoop

/-- What a client is created with. -/
structure ClientDeps where
  sdk : StellarSdk
  signerAddress : JsString
  budgetAttributes : List BudgetAttributeRule
  hasTracker : Bool
  expirationCeiling : Option JsNum

/-- A payment as the budget rules see it. -/
def budgetRequestFor (requirements : JsValue) : Build BudgetAttributeRequest := do
  -- The amount is parsed before the clock is read, and can throw.
  let amount ← parseAmount (requirements.field "amount")
  let time ← now
  let category := match (requirements.field "extra").optProp "category" with
    | .str c => some c
    | _ => none
  return { merchant := requirements.field "payTo", category := category, amount := amount
           time := time }

/-- Enforce the budget rules. -/
def assertBudgetAttributes (rules : List BudgetAttributeRule) (request : BudgetAttributeRequest)
    (hasTracker : Bool) : Build Unit := do
  let rule ← assertRuleCeiling rules request
  match rule.bind (fun r => r.1.periodMaxAmount.map (fun p => (r, p))) with
  | some (rule, periodMaxAmount) =>
      if hasTracker then do
        let spent ← trackerSpent rule
        assertPeriodCeiling rules request periodMaxAmount spent
      else return ()
  | none => return ()

/-- The payload of the payment header. -/
def paymentHeader (requirements : JsValue) (transaction : JsString) : Except JsError JsString := do
  let payload : JsValue := .obj [(js "x402Version", .num 2), (js "accepted", requirements),
    (js "payload", .obj [(js "transaction", .str transaction)])]
  let text ← payload.stringify
  return btoa (TextEncoder.encode (text.getD []))

/-- The transfer a requirement asks for. -/
def transferOf (requirements : JsValue) (wallet : JsString) (amount : Int) : ExpectedInvocation :=
  { contract := requirements.field "asset", functionName := "transfer", fromAddress := wallet
    toAddress := requirements.field "payTo", amount := amount }

/-- The arguments of that transfer. The amount is read last, by `parse`. -/
def transferArgs (sdk : StellarSdk) (requirements : JsValue) (wallet : JsString)
    (parse : JsValue → Except JsError Int) : Except JsError (List ScVal × Int) := do
  let sender ← sdk.nativeToAddress wallet
  let recipient ← sdk.nativeToAddress (requirements.field "payTo")
  let amount ← parse (requirements.field "amount")
  let value ← sdk.nativeToI128 amount
  return ([sender, recipient, value], amount)

/-- Build and sign the payment for one requirement. -/
def buildSignedPayment (d : ClientDeps) (requirements : JsValue) : Build (JsString × Int) := do
  let network ← (requirements.prop "network" : Except JsError JsValue)
  let net ← (tableLookup networks network : Except JsError JsValue)
  if !net.truthy then do
    let name ← (network.toStr : Except JsError JsString)
    throwNoUsablePaymentOption (js "Unknown network " ++ name)
  else do
    let request ← budgetRequestFor requirements
    assertBudgetAttributes d.budgetAttributes request d.hasTracker
    let (args, amount) ← transferArgs d.sdk requirements d.signerAddress parseAmount
    let tx ← build ⟨requirements.field "asset", args, net.field "passphrase"⟩
    -- The ledger is read before a missing transaction is noticed.
    let sequence ← getLatestLedger
    let offset ← (expirationOffsetFor (requirements.field "maxTimeoutSeconds")
      d.expirationCeiling : Except JsError JsNum)
    match tx with
    | none =>
        throwPlain "x402: failed to build the transfer transaction (simulation returned nothing)."
    | some built => do
        let terms : SigningTerms :=
          { sdk := d.sdk, wallet := d.signerAddress
            expected := transferOf requirements d.signerAddress amount
            networkPassphrase := net.field "passphrase"
            expirationLedger := offset.add sequence }
        let auth ← signEntries terms (built.auth.getD [])
          "No wallet auth entry found to sign for the payer address."
        let header ← paymentHeader requirements (built.toXdr auth)
        return (header, amount)

/-- A run built one transaction for the requirement's transfer and had the
    wallet sign its own entries of it and nothing else, at least one of them,
    each of them once and after the check. -/
def SignsWalletEntries (sdk : StellarSdk) (wallet : JsString) (requirements : JsValue)
    (parse : JsValue → Except JsError Int) (tr : List BuildEvent) : Prop :=
  ∃ built amount, builtTransactions tr = [built] ∧
    parse (requirements.field "amount") = .ok amount ∧
    ownEntries sdk wallet (built.auth.getD []) ≠ [] ∧
    List.Forall₂ (SignsChecked sdk (transferOf requirements wallet amount))
      (ownEntries sdk wallet (built.auth.getD [])) (signRequests tr)

theorem transferArgs_amount {sdk : StellarSdk} {requirements : JsValue} {wallet : JsString}
    {parse : JsValue → Except JsError Int} {args : List ScVal} {amount : Int}
    (h : transferArgs sdk requirements wallet parse = .ok (args, amount)) :
    parse (requirements.field "amount") = .ok amount := by
  rcases bind_eq_ok.mp h with ⟨_, -, h₁⟩
  rcases bind_eq_ok.mp h₁ with ⟨_, -, h₂⟩
  rcases bind_eq_ok.mp h₂ with ⟨n, hn, h₃⟩
  rcases bind_eq_ok.mp h₃ with ⟨_, -, hret⟩
  injection hret with hret
  injection hret with _ hamount
  rw [hn, hamount]

/-- A call that neither builds nor signs. -/
def ClientOp.Quiet : ClientOp → Prop
  | .build _ | .signAuthEntry _ _ _ => False
  | _ => True

theorem signRequests_of_quiet {tr : List BuildEvent} (h : ∀ e ∈ tr, e.op.Quiet) :
    signRequests tr = [] ∧ builtTransactions tr = [] := by
  constructor
  · refine List.filterMap_eq_nil_iff.mpr (fun e he => ?_)
    rcases e with ⟨op, reply⟩
    cases op with
    | signAuthEntry _ _ _ => exact (h _ he).elim
    | _ => rfl
  · refine List.filterMap_eq_nil_iff.mpr (fun e he => ?_)
    rcases e with ⟨op, reply⟩
    cases op with
    | build _ => exact (h _ he).elim
    | _ => rfl

theorem budgetRequestFor_quiet (requirements : JsValue) :
    (budgetRequestFor requirements).OnlyCalls ClientOp.Quiet := by
  refine onlyCalls_bind trivial (fun amount => ?_)
  exact onlyCalls_bind (onlyCalls_perform trivial) (fun time => trivial)

theorem assertBudgetAttributes_quiet (rules : List BudgetAttributeRule)
    (request : BudgetAttributeRequest) (hasTracker : Bool) :
    (assertBudgetAttributes rules request hasTracker).OnlyCalls ClientOp.Quiet := by
  refine onlyCalls_bind trivial (fun rule => ?_)
  split
  · cases hasTracker with
    | true => exact onlyCalls_bind (onlyCalls_perform trivial) (fun spent => trivial)
    | false => trivial
  · trivial

/-- A client that returned had the wallet sign, and the header is that of a transaction
    the RPC had built. -/
theorem buildSignedPayment_run {d : ClientDeps} {requirements : JsValue} {tr : List BuildEvent}
    {out : JsString × Int}
    (h : Run buildHandler (buildSignedPayment d requirements) () tr (.done (.ok out)) ()) :
    SignsWalletEntries d.sdk d.signerAddress requirements parseAmount tr ∧
      ∃ built auth, builtTransactions tr = [built] ∧
        paymentHeader requirements (built.toXdr auth) = .ok out.1 := by
  rcases run_lift_bind_ok h with ⟨network, -, h₁⟩
  rcases run_lift_bind_ok h₁ with ⟨net, -, h₂⟩
  by_cases hnet : (!net.truthy) = true
  · rw [if_pos hnet] at h₂
    rcases run_lift_bind_ok h₂ with ⟨_, -, hthrow⟩
    exact (run_error_ok hthrow).elim
  rw [if_neg hnet] at h₂
  -- The budget rules come first, and neither build nor sign.
  rcases run_bind_ok h₂ with ⟨request, _, tr₁, _, hrequest, h₃, rfl⟩
  rcases run_bind_ok h₃ with ⟨_, _, tr₂, _, hbudget, h₄, rfl⟩
  rcases run_lift_bind_ok h₄ with ⟨⟨args, amount⟩, hargs, h₅⟩
  rcases run_await_bind_ok rfl h₅ with ⟨tx, tr₃, rfl, h₆⟩
  rcases run_await_bind_ok rfl h₆ with ⟨sequence, tr₄, rfl, h₇⟩
  rcases run_lift_bind_ok h₇ with ⟨offset, -, h₈⟩
  cases tx with
  | none => exact (run_error_ok h₈).elim
  | some built =>
      rcases run_bind_ok h₈ with ⟨auth, _, tr₅, tr₆, hsigning, h₉, rfl⟩
      rcases signEntries_run hsigning with ⟨hsigned, hbuilt, hsome⟩
      rcases run_lift_bind_ok h₉ with ⟨header, hheader, hret⟩
      rcases run_pure_ok hret with ⟨rfl, rfl⟩
      -- What was built and signed is therefore what the last stages did.
      rcases signRequests_of_quiet (onlyCalls_run (budgetRequestFor_quiet _) hrequest).1 with
        ⟨hsign₁, hbuilt₁⟩
      rcases signRequests_of_quiet (onlyCalls_run (assertBudgetAttributes_quiet _ _ _) hbudget).1
        with ⟨hsign₂, hbuilt₂⟩
      refine ⟨⟨built, amount, ?one, transferArgs_amount hargs, hsome, ?_⟩, built, auth, ?one, hheader⟩
      case one =>
        rw [List.append_nil, builtTransactions_append, builtTransactions_append, hbuilt₁, hbuilt₂]
        exact congrArg (built :: ·) hbuilt
      rw [List.append_nil, signRequests_append, signRequests_append, hsign₁, hsign₂]
      exact hsigned

/-- What the client has the wallet sign. -/
theorem buildSignedPayment_signs {d : ClientDeps} {requirements : JsValue} {tr : List BuildEvent}
    {out : JsString × Int}
    (h : Run buildHandler (buildSignedPayment d requirements) () tr (.done (.ok out)) ()) :
    SignsWalletEntries d.sdk d.signerAddress requirements parseAmount tr :=
  (buildSignedPayment_run h).1

end X402

end VellarSdk
