import VellarSdk.Wallet.Policies
import VellarSdk.X402.FetchGuarantees

/-!
# The Wallet Client

`createVellarWallet` puts the parts together behind one object. Its methods share one
variable, the session, which two of them set and the others read, and any number of calls
can be waiting at once: a payment while the user connects another wallet, a policy while a
wallet is created. Each method reads the session once, at its start, and goes on with what
it read.

What is asked of the passkey therefore always belongs to a session that some earlier call
had established, whatever else was going on: the transfer that is signed is from its
account, the policy that is attached was deployed for its account, and the key that is
added was found limited. What is submitted is what was signed.

## Main definitions

* `WalletCall`, `method`: The methods of a wallet.
* `vellarWallet`: Any number of their calls, in any order.
* `Stage`, `Ended`: Where a call of a method stands, and how it ended.
* `Established`: A session that a call has set.

## Theorems

* `method_sat`: Where the calls of each method stand.
* `read_established`: A session that is read was established before.
* `session_established`: So is the one there is.
* `payment_signs_established`: What is signed is a transfer from the account of one.
* `payment_submits_signed`: What is submitted is what was signed.
* `attaches_deployed_instance`: What is attached was deployed for the account of one.
* `added_key_limited`, `mint_reports`: A key that is added is limited, and how it is
  reported.
* `x402_signer_matches`: The x402 signer is that of the session, if there is one.
-/

namespace VellarSdk

namespace Wallet

open Js Async X402

/-- The x402 client of a wallet. A tracker is made where there are rules and none was
    given. -/
def x402Deps (d : VellarWalletConfig) (x : X402Config) : X402ClientDeps where
  sdk := d.sdk
  signerAddress := x.signerAddress
  budgetAttributes := x.budgetAttributes.getD []
  hasTracker := x.hasTracker || !(x.budgetAttributes.getD []).isEmpty
  expirationCeiling := x.expirationLedgerOffset
  network := d.network
  parse := d.parse

def resolveSigner (x : X402Config) : WalletTask Unit := do
  let session : Option WalletSession ← Task.perform WalletOp.readSession
  match session with
  | some session =>
      if x.signerAddress ≠ session.accountId then
        throw (.x402NotConfigured (js "x402 signer address " ++ x.signerAddress ++
          js " does not match the connected wallet " ++ session.accountId ++ js "."))
      else return ()
  | none => return ()

/-- `client()` of the x402 facade. -/
def x402Client (d : VellarWalletConfig) : WalletTask X402ClientDeps := do
  match d.x402 with
  | none => throw (.x402NotConfigured (js ("wallet.x402 requires `x402` config in " ++
      "createVellarWallet (rpcUrl, network, simulationSourceAccount).")))
  | some x =>
      resolveSigner x
      (assertValidBudgetAttributeRules (x.budgetAttributes.getD [])).mapError WalletError.thrown
      return x402Deps d x

/-- The calls a host can make on a wallet. -/
inductive WalletCall where
  | create (username : Option JsString)
  | connect
  | pay (input : PayInput)
  | mint (input : MintAgentInput)
  | revoke (publicKey : JsString)
  | simulate (policyId : JsString)
  | deploy (policyId : JsString)
  | x402Fetch (url : JsString) (init : X402FetchInit)
  | x402CreatePayment (requirements : JsValue) (opts : X402PayOptions)

/-- What they return. -/
inductive WalletResult where
  | session (session : WalletSession)
  | hash (hash : JsString)
  | minted (result : MintAgentResult)
  | simulated (result : JsValue)
  | deployed (result : DeployPolicyResult)
  | response (response : X402Response)
  | payment (payment : SignedPayment)

/-- The session is set, and returned. -/
def establish (session : WalletSession) : WalletTask WalletResult := do
  let _ : Unit ← Task.perform (WalletOp.writeSession session)
  return .session session

/-- The methods of a wallet. -/
def method (d : VellarWalletConfig) : WalletCall → WalletTask WalletResult
  | .create username => do
      let session ← createWallet d d.network username
      establish session
  | .connect => do
      let session ← connectWallet d d.network
      establish session
  | .pay input => do
      let hash ← pay d input
      return .hash hash
  | .mint input => do
      let result ← mint d input
      return .minted result
  | .revoke publicKey => do
      let hash ← revoke d publicKey
      return .hash hash
  | .simulate policyId => do
      let result ← simulate d policyId
      return .simulated result
  | .deploy policyId => do
      let result ← deploy d policyId
      return .deployed result
  | .x402Fetch url init => do
      let client ← x402Client d
      let response ← ofFetch (X402.x402Fetch client url init)
      return .response response
  | .x402CreatePayment requirements opts => do
      let client ← x402Client d
      let payment ← ofFetch (ofBuild (createPayment client.toClientDeps requirements opts))
      return .payment payment

/-- A wallet, and all that can happen to it. -/
abbrev VellarWallet := Pool WalletCall WalletOp WalletOp.Ret WalletError (Option WalletSession)
  WalletResult

abbrev WalletAction := PoolEvent WalletCall WalletOp WalletOp.Ret WalletError

/-- The calls of a wallet, in any order and overlapping. -/
def vellarWallet (d : VellarWalletConfig) : Machine VellarWallet WalletAction :=
  pool walletHandler (method d)

/-- A wallet as it is created, without a session. -/
def createVellarWallet : VellarWallet where
  shared := none

/-- Where a call to the x402 signer and to the seller stands. -/
def Purchasing (d : VellarWalletConfig) (fetching : List FetchEvent → FetchOp → Prop)
    (tr : List WalletEvent) (o : WalletOp) : Prop :=
  (o = .readSession ∧ tr = []) ∨
  ∃ x session rest op, d.x402 = some x ∧ tr = readEvent session :: rest ∧ o = .x402 op ∧
    (∀ s, session = some s → x.signerAddress = s.accountId) ∧ fetching (fetchPart rest) op

/-- Where a call stands that is made for a session, the last of them to set it. -/
def Setting (establishing : List WalletEvent → WalletOp → Prop)
    (made : List WalletEvent → WalletSession → Prop) (tr : List WalletEvent) : WalletOp → Prop
  | .writeSession session => made tr session
  | o => establishing tr o

/-- Where a call that a method makes stands. -/
def Stage (d : VellarWalletConfig) : WalletCall → List WalletEvent → WalletOp → Prop
  | .create username, tr, o => Setting (Creating d username) (Created d) tr o
  | .connect, tr, o => Setting (Connecting d) (Connected d) tr o
  | .pay input, tr, o => Paying d input tr o
  | .mint input, tr, o => Minting d input tr o
  | .revoke publicKey, tr, o => Revoking d publicKey tr o
  | .simulate policyId, tr, o => Simulating d policyId tr o
  | .deploy policyId, tr, o => Deploying d policyId tr o
  | .x402Fetch url init, tr, o => Purchasing d (fun tr op => ∃ x, d.x402 = some x ∧
      FetchStage (x402Deps d x) url init tr op) tr o
  | .x402CreatePayment _ _, tr, o => Purchasing d (fun _ _ => True) tr o

/-- How a call ended. -/
def Ended (d : VellarWalletConfig) (tr : List WalletEvent) (r : Except WalletError WalletResult) :
    WalletCall → Prop
  | .pay input => (∀ out, r = .ok out → ∃ session tx signed signedXdr hash,
      Payable d session.accountId input ∧ signedToXdr d (signed.orElse tx) = .ok signedXdr ∧
      tr = payTrace input session tx signed ++
        [⟨.submitTransaction signedXdr d.network, .ok hash⟩] ∧ out = .hash hash) ∧
      ∀ reply, Submitted tr reply → r = reply.map WalletResult.hash
  | .mint input => NotAdded tr ∨
      ∃ result, Minted d input tr result ∧ r = result.map WalletResult.minted
  | .deploy policyId => ∀ out, r = .ok out → ∃ result, Deployed d policyId tr result ∧
      out = .deployed result
  | _ => True

section Methods

variable {d : VellarWalletConfig}

/-- The rule for a method that ends with the outcome of a part. -/
theorem sat_map {α : Type} {t : WalletTask α} {f : α → WalletResult} {tr : List WalletEvent}
    {C : List WalletEvent → Unit → WalletOp → Prop}
    {Q : List WalletEvent → Unit → Except WalletError WalletResult → Prop}
    (h : Sat awaitAll C (fun tr s r => Q tr s (r.map f)) t tr ()) :
    Sat awaitAll C Q (t >>= fun a => return f a) tr () := by
  refine (sat_bind _ _ _ _).mpr (h.imp (fun _ _ _ hc => hc) (fun tr s r hq => ?_))
  cases r with
  | ok a => exact hq
  | error e => exact hq

/-- The signer is that of the session, if there is one. -/
theorem resolveSigner_sat {α : Type} {x : X402Config} {f : Unit → WalletTask α}
    {C : List WalletEvent → Unit → WalletOp → Prop}
    {Q : List WalletEvent → Unit → Except WalletError α → Prop} (hcall : C [] () .readSession)
    (hf : ∀ session, (∀ s, session = some s → x.signerAddress = s.accountId) →
      Sat awaitAll C Q (f ()) [readEvent session] ())
    (herror : ∀ tr e, Q tr () (.error e)) : Sat awaitAll C Q (resolveSigner x >>= f) [] () := by
  refine (sat_bind _ _ _ _).mpr ((sat_await_bind rfl _).mpr ⟨hcall, fun session => ?_, ?_⟩)
  · cases session with
    | none => exact hf none (fun s h => absurd h (by simp only [reduceCtorEq, not_false_eq_true]))
    | some session =>
        by_cases hmatches : x.signerAddress = session.accountId
        · simp only [hmatches, ne_eq, not_true_eq_false, if_false]
          exact hf (some session) (fun s h => Option.some.inj h ▸ hmatches)
        · simp only [ne_eq, hmatches, not_false_eq_true, if_true]
          exact herror _ _
  · exact fun e => herror _ e

/-- What comes after the signer was looked up. -/
theorem x402Client_sat {α : Type} (fetching : List FetchEvent → FetchOp → Prop)
    {f : X402ClientDeps → WalletTask α} {C : List WalletEvent → Unit → WalletOp → Prop}
    (hC : ∀ tr o, Purchasing d fetching tr o → C tr () o)
    (hf : ∀ x session, d.x402 = some x →
      (∀ s, session = some s → x.signerAddress = s.accountId) →
      Sat awaitAll C (fun _ _ _ => True) (f (x402Deps d x)) [readEvent session] ()) :
    Sat awaitAll C (fun _ _ _ => True) (x402Client d >>= f) [] () := by
  refine (sat_bind _ _ _ _).mpr ?_
  unfold x402Client
  cases hx : d.x402 with
  | none => trivial
  | some x =>
      refine resolveSigner_sat (hC _ _ (.inl ⟨rfl, rfl⟩)) (fun session hmatches => ?_)
        (fun _ _ => trivial)
      exact sat_lift_bind (fun _ _ => hf x session hx hmatches) (fun _ _ => trivial)

/-- Every call that a method makes stands where it should, and the method ends as it
    should. -/
theorem method_sat (d : VellarWalletConfig) (c : WalletCall) :
    Sat awaitAll (fun tr _ o => Stage d c tr o) (fun tr _ r => Ended d tr r c) (method d c) []
      () := by
  -- Each method by the rule of its own, with what a read session adds to its log.
  cases c with
  | create username =>
      refine (sat_bind _ _ _ _).mpr (createWallet_sat username (fun tr o ho => ?_)
        (fun tr session h => ?_) (fun _ _ => trivial) _)
      · cases o with
        | writeSession session => exact absurd ho not_false
        | _ => exact ho
      · exact (sat_await_bind rfl _).mpr ⟨h, fun _ => trivial, fun _ => trivial⟩
  | connect =>
      refine (sat_bind _ _ _ _).mpr (connectWallet_sat (fun tr o ho => ?_) (fun tr session h => ?_)
        (fun _ _ => trivial) _)
      · cases o with
        | writeSession session => exact absurd ho not_false
        | _ => exact ho
      · exact (sat_await_bind rfl _).mpr ⟨h, fun _ => trivial, fun _ => trivial⟩
  | pay input =>
      refine sat_map (pay_sat (fun _ _ h => h) ?_ ?_)
      · intro session tx signed signedXdr hash hpayable hxdr
        refine ⟨fun out hout => ⟨session, tx, signed, signedXdr, hash, hpayable, hxdr, rfl,
          (Except.ok.inj hout).symm⟩, fun reply h => ?_⟩
        obtain ⟨signedXdr', network, hmem⟩ := h
        simp only [payTrace, readEvent, PayInput.transfer, List.cons_append, List.nil_append,
          List.mem_cons, Event.mk.injEq, reduceCtorEq, false_and, List.not_mem_nil, false_or,
          or_false, WalletOp.submitTransaction.injEq] at hmem
        rw [eq_of_heq hmem.2]
      · intro tr e hreply
        refine ⟨fun out hout => ?_, fun reply h => ?_⟩
        · exact absurd hout (by simp only [Except.map, reduceCtorEq, not_false_eq_true])
        · rw [hreply reply h]
  | mint input =>
      exact sat_map (mint_sat (fun _ _ h => h) (fun tr r h => .inr ⟨r, h, rfl⟩)
        (fun tr e h => .inl h))
  | revoke publicKey =>
      exact sat_map (revoke_sat (fun _ _ h => h) (fun _ _ => trivial) (fun _ _ => trivial))
  | simulate policyId =>
      exact sat_map (simulate_sat (fun _ _ h => h) (fun _ _ => trivial) (fun _ _ => trivial))
  | deploy policyId =>
      refine sat_map (deploy_sat (fun _ _ h => h) ?_ ?_)
      · intro tr result h out hout
        exact ⟨result, h, (Except.ok.inj hout).symm⟩
      · intro tr e out hout
        exact absurd hout (by simp only [Except.map, reduceCtorEq, not_false_eq_true])
  | x402Fetch url init =>
      refine x402Client_sat (fun tr op => ∃ x, d.x402 = some x ∧
        FetchStage (x402Deps d x) url init tr op) (fun _ _ h => h) (fun x session hx hmatches => ?_)
      have hfetch := (x402Fetch_sat (x402Deps d x) url init).imp (fun _ _ _ h => h)
        (fun _ _ _ _ => trivial)
      refine sat_map (sat_ofFetch [readEvent session] (fun tr op hstage => ?_)
        (fun _ _ _ => trivial) hfetch)
      exact .inr ⟨x, session, tr, op, hx, rfl, rfl, hmatches, x, hx, hstage⟩
  | x402CreatePayment requirements opts =>
      refine x402Client_sat (fun _ _ => True) (fun _ _ h => h) (fun x session hx hmatches => ?_)
      have hpayment : Sat fetchHandler (fun _ _ _ => True) (fun _ _ _ => True)
          (ofBuild (createPayment (x402Deps d x).toClientDeps requirements opts)) [] () :=
        sat_of_runs (fun _ _ _ _ _ => trivial) (fun _ _ _ _ => trivial)
      refine sat_map (sat_ofFetch [readEvent session] (fun tr op _ => ?_) (fun _ _ _ => trivial)
        hpayment)
      exact .inr ⟨x, session, tr, op, hx, rfl, rfl, hmatches, trivial⟩

/-- A purchase asks for the session, and then what a fetch asks for. -/
theorem Purchasing.cases {fetching : List FetchEvent → FetchOp → Prop} {tr : List WalletEvent}
    {o : WalletOp} (h : Purchasing d fetching tr o) : o = .readSession ∨ ∃ op, o = .x402 op := by
  rcases h with ⟨ho, -⟩ | ⟨x, s, rest, op, -, -, ho, -⟩
  · exact .inl ho
  · exact .inr ⟨op, ho⟩

/-- Only the calls that establish a session write one. -/
theorem stage_write {c : WalletCall} {tr : List WalletEvent} {session : WalletSession}
    (h : Stage d c tr (.writeSession session)) : Created d tr session ∨ Connected d tr session := by
  cases c with
  | create username => exact .inl h
  | connect => exact .inr h
  | x402Fetch url init | x402CreatePayment requirements opts =>
      unfold Stage at h
      exact absurd h.cases (by
        simp only [reduceCtorEq, exists_false, or_self, not_false_eq_true])
  | _ => exact absurd h not_false

end Methods

/-- A session that a call has set, which had created its wallet or connected it. -/
def Established (d : VellarWalletConfig) (log : List (Nat × WalletEvent))
    (session : WalletSession) : Prop :=
  ∃ before j after, log = before ++ (j, ⟨.writeSession session, .ok ()⟩) :: after ∧
    (Created d (own j before) session ∨ Connected d (own j before) session)

section Runs

variable {d : VellarWalletConfig} {es : List WalletAction} {p : VellarWallet} {i : Nat}
  {c : WalletCall} {rest : WalletTask WalletResult}

/-- The session was set by what the wallet answers itself, so a call has set it. -/
theorem established_of_logged (hp : InProgress (method d) p) {log after : List (Nat × WalletEvent)}
    (hlog : p.log = log ++ after) {session : WalletSession}
    (h : Logged walletHandler none log (some session)) : Established d log session := by
  obtain ⟨before, j, o, r, rest, s₁, s₂, rfl, -, hnot, hanswered, hnow⟩ :=
    h.changed (P := fun s => s = some session) (by simp only [reduceCtorEq, not_false_eq_true]) rfl
  -- Only a write changes the session, and it sets what it writes.
  have hwrite : (⟨o, r⟩ : WalletEvent) = ⟨.writeSession session, .ok ()⟩ := by
    cases o with
    | readSession =>
        injection hanswered with _ hsame
        exact absurd (hsame.trans hnow) hnot
    | writeSession session' =>
        injection hanswered with hreply hset
        rw [← hset, Option.some.injEq] at hnow
        rw [← hreply, hnow]
    | _ => exact absurd (hanswered.symm.trans hnow) hnot
  rw [hwrite, List.append_assoc, List.cons_append] at hlog
  obtain ⟨c, left, -, hstage⟩ := hp.at_event (method_sat d) hlog
  refine ⟨before, j, rest, by rw [hwrite], stage_write hstage⟩

/-- A session that is read was established before. -/
theorem read_established (hrun : (vellarWallet d).run createVellarWallet es = some p)
    {before after : List (Nat × WalletEvent)} {session : WalletSession}
    (hlog : p.log = before ++ (i, readEvent (some session)) :: after) :
    Established d before session := by
  have hlogged := logged_run hrun
  rw [hlog] at hlogged
  obtain ⟨s₁, s₂, hbefore, hanswered, -⟩ := hlogged.at_event
  injection hanswered with hreply _
  rw [Except.ok.injEq] at hreply
  exact established_of_logged (inProgress_run hrun) hlog (hreply ▸ hbefore)

/-- What a call waits for stands where it should. -/
theorem stage_of_pending (hrun : (vellarWallet d).run createVellarWallet es = some p)
    (hcall : p.calls[i]? = some (c, rest)) {o : WalletOp} (hpending : rest.pending = some o) :
    Stage d c (own i p.log) o :=
  (inProgress_run hrun).at_call (method_sat d c) hcall hpending

/-- What a call read first was established before. -/
theorem established_of_own (hrun : (vellarWallet d).run createVellarWallet es = some p)
    {session : WalletSession} {later : List WalletEvent}
    (hown : own i p.log = readEvent (some session) :: later) :
    ∃ before after, p.log = before ++ (i, readEvent (some session)) :: after ∧ own i before = [] ∧
      Established d before session := by
  obtain ⟨before, after, hlog, hbefore, -⟩ := own_head hown
  exact ⟨before, after, hlog, hbefore, read_established hrun hlog⟩

/-- The session of a wallet was established by a call. -/
theorem session_established (d : VellarWalletConfig) (es : List WalletAction) (p : VellarWallet)
    (session : WalletSession) (hrun : (vellarWallet d).run createVellarWallet es = some p)
    (hsession : p.shared = some session) : Established d p.log session := by
  have hlogged := logged_run hrun
  rw [hsession] at hlogged
  exact established_of_logged (inProgress_run hrun) (List.append_nil _).symm hlogged

/-- Whenever the passkey is asked to sign, it is for the transfer that a payment had
    built from the account of a session that was established before the payment began. -/
theorem payment_signs_established (d : VellarWalletConfig) (es : List WalletAction)
    (p : VellarWallet) (hrun : (vellarWallet d).run createVellarWallet es = some p) (i : Nat)
    (c : WalletCall) (rest : WalletTask WalletResult) (hcall : p.calls[i]? = some (c, rest))
    (tx : Signable) (hpending : rest.pending = some (.sign tx)) :
    ∃ input session before after, c = .pay input ∧ Payable d session.accountId input ∧
      own i p.log = [readEvent (some session), ⟨input.transfer session.accountId, .ok tx⟩] ∧
      p.log = before ++ (i, readEvent (some session)) :: after ∧ own i before = [] ∧
      Established d before session := by
  have hstage := stage_of_pending hrun hcall hpending
  cases c with
  | pay input =>
      obtain ⟨session, hpayable, hown⟩ := hstage
      obtain ⟨before, after, hlog, hfirst, hestablished⟩ := established_of_own hrun hown
      exact ⟨input, session, before, after, rfl, hpayable, hown, hlog, hfirst, hestablished⟩
  | x402Fetch url init | x402CreatePayment requirements opts =>
      unfold Stage at hstage
      exact absurd hstage.cases (by
        simp only [reduceCtorEq, exists_false, or_self, not_false_eq_true])
  | _ => exact absurd hstage not_false

/-- Whenever a transaction is submitted, it is what the passkey had signed for the same
    payment, on the network of the wallet. -/
theorem payment_submits_signed (d : VellarWalletConfig) (es : List WalletAction)
    (p : VellarWallet) (hrun : (vellarWallet d).run createVellarWallet es = some p) (i : Nat)
    (c : WalletCall) (rest : WalletTask WalletResult) (hcall : p.calls[i]? = some (c, rest))
    (signedXdr : JsString) (network : Network)
    (hpending : rest.pending = some (.submitTransaction signedXdr network)) :
    ∃ input session tx signed, c = .pay input ∧ Payable d session.accountId input ∧
      own i p.log = payTrace input session tx signed ∧
      signedToXdr d (signed.orElse tx) = .ok signedXdr ∧ network = d.network := by
  have hstage := stage_of_pending hrun hcall hpending
  cases c with
  | pay input =>
      obtain ⟨session, tx, signed, hpayable, hown, hxdr, hnetwork⟩ := hstage
      exact ⟨input, session, tx, signed, rfl, hpayable, hown, hxdr, hnetwork⟩
  | x402Fetch url init | x402CreatePayment requirements opts =>
      unfold Stage at hstage
      exact absurd hstage.cases (by
        simp only [reduceCtorEq, exists_false, or_self, not_false_eq_true])
  | _ => exact absurd hstage not_false

/-- Whenever a policy is attached, it is the instance that the gateway had deployed for
    the account of a session that was established before. -/
theorem attaches_deployed_instance (d : VellarWalletConfig) (es : List WalletAction)
    (p : VellarWallet) (hrun : (vellarWallet d).run createVellarWallet es = some p) (i : Nat)
    (c : WalletCall) (rest : WalletTask WalletResult) (hcall : p.calls[i]? = some (c, rest))
    (contractId : JsValue) (hpending : rest.pending = some (.attachPolicy contractId)) :
    ∃ policyId session named resumed before after, c = .deploy policyId ∧
      own i p.log = readEvent (some session) :: named :: resumed ∧
      InstanceFor d policyId session.accountId contractId named ∧
      Resumed d .policyAttach session resumed ∧
      p.log = before ++ (i, readEvent (some session)) :: after ∧ own i before = [] ∧
      Established d before session := by
  have hstage := stage_of_pending hrun hcall hpending
  cases c with
  | deploy policyId =>
      obtain ⟨session, named, resumed, hnamed, hresumed, hown⟩ := hstage
      obtain ⟨before, after, hlog, hfirst, hestablished⟩ := established_of_own hrun hown
      exact ⟨policyId, session, named, resumed, before, after, rfl, hown, hnamed, hresumed, hlog,
        hfirst, hestablished⟩
  | x402Fetch url init | x402CreatePayment requirements opts =>
      unfold Stage at hstage
      exact absurd hstage.cases (by
        simp only [reduceCtorEq, exists_false, or_self, not_false_eq_true])
  | _ => exact absurd hstage not_false

/-- Whenever an agent key is added, it is the one that a mint was asked for, limited to
    tokens and by policies, and not expired, in a session that was established before. -/
theorem added_key_limited (d : VellarWalletConfig) (es : List WalletAction)
    (p : VellarWallet) (hrun : (vellarWallet d).run createVellarWallet es = some p) (i : Nat)
    (c : WalletCall) (rest : WalletTask WalletResult) (hcall : p.calls[i]? = some (c, rest))
    (key : AgentKeyInput) (hpending : rest.pending = some (.addAgentKey key)) :
    ∃ input session clock resumed before after, c = .mint input ∧
      key = input.agentKey key.expirationSeconds ∧ Mintable key.publicKey key.grants ∧
      Expires input.expiresAt key.expirationSeconds clock ∧
      Resumed d .agentKeys session resumed ∧
      own i p.log = readEvent (some session) :: (clock ++ resumed) ∧
      p.log = before ++ (i, readEvent (some session)) :: after ∧ own i before = [] ∧
      Established d before session := by
  have hstage := stage_of_pending hrun hcall hpending
  cases c with
  | mint input =>
      obtain ⟨session, expirationSeconds, clock, resumed, hmintable, hexpires, hresumed, rfl, hown⟩ :=
        hstage
      obtain ⟨before, after, hlog, hfirst, hestablished⟩ := established_of_own hrun hown
      exact ⟨input, session, clock, resumed, before, after, rfl, rfl, hmintable, hexpires, hresumed,
        hown, hlog, hfirst, hestablished⟩
  | x402Fetch url init | x402CreatePayment requirements opts =>
      unfold Stage at hstage
      exact absurd hstage.cases (by
        simp only [reduceCtorEq, exists_false, or_self, not_false_eq_true])
  | _ => exact absurd hstage not_false

/-- What a mint reports of a key that was added: that it was, and the text of the time it
    expires at, unless that is too far away to be written down. Then the mint fails although
    the key is on the chain. -/
theorem mint_reports (d : VellarWalletConfig) (es : List WalletAction) (p : VellarWallet)
    (hrun : (vellarWallet d).run createVellarWallet es = some p) (i : Nat) (input : MintAgentInput)
    (r : Except WalletError WalletResult) (hcall : p.calls[i]? = some (.mint input, .done r))
    (key : AgentKeyInput) (hash : JsString)
    (hadded : (i, ⟨.addAgentKey key, .ok hash⟩) ∈ p.log) :
    key = input.agentKey key.expirationSeconds ∧
    ((∀ seconds, key.expirationSeconds = some seconds → (seconds * 1000).natAbs ≤ maxTime) →
      ∃ expiresAt, r = .ok (.minted
        { hash := hash, publicKey := input.publicKey, expiresAt := expiresAt }) ∧
        (key.expirationSeconds = none → expiresAt = none) ∧
        ∀ seconds, key.expirationSeconds = some seconds →
          ∃ text, toISOString (seconds * 1000) = .ok text ∧ expiresAt = some text) ∧
    (∀ seconds, key.expirationSeconds = some seconds → maxTime < (seconds * 1000).natAbs →
      r = .error (.thrown ⟨.native .rangeError, []⟩)) := by
  have hevent := mem_own.mpr hadded
  have hruns := (inProgress_run hrun).runs i _ _ hcall
  rcases (method_sat d (.mint input)).at_done hruns with hnot | ⟨result, hminted, rfl⟩
  · exact absurd rfl (hnot _ hevent key hash)
  obtain ⟨session, expirationSeconds, clock, resumed, hash', hexpires, hresumed, hown, rfl⟩ := hminted
  -- The key was added last.
  have hlast : (⟨.addAgentKey key, .ok hash⟩ : WalletEvent) =
      ⟨.addAgentKey (input.agentKey expirationSeconds), .ok hash'⟩ := by
    rw [hown] at hevent
    rcases List.mem_append.mp hevent with hbefore | hlast
    · have hread : NotAdded [readEvent (some session)] := by simp [NotAdded, readEvent]
      exact absurd rfl ((hread.append (hexpires.notAdded.append hresumed.notAdded)) _ hbefore key
        hash)
    · exact List.mem_singleton.mp hlast
  simp only [Event.mk.injEq, WalletOp.addAgentKey.injEq] at hlast
  obtain ⟨rfl, hhash⟩ := hlast
  have hhash := Except.ok.inj (eq_of_heq hhash)
  subst hhash
  have hkey : (input.agentKey expirationSeconds).expirationSeconds = expirationSeconds := rfl
  rw [hkey]
  refine ⟨rfl, fun hrange => ?_, fun seconds hseconds hfar => ?_⟩
  · cases expirationSeconds with
    | none => exact ⟨none, rfl, fun _ => rfl, fun _ hnone => absurd hnone (by
        simp only [reduceCtorEq, not_false_eq_true])⟩
    | some seconds =>
        have hok := (toISOString_isOk (seconds * 1000)).mpr (hrange seconds rfl)
        cases htext : toISOString (seconds * 1000) with
        | ok text =>
            refine ⟨some text, by simp only [expiryText, htext, Except.map], fun hnone => ?_,
              fun seconds' hseconds => ⟨text, ?_, rfl⟩⟩
            · exact absurd hnone (by simp only [reduceCtorEq, not_false_eq_true])
            · rw [Option.some.injEq] at hseconds
              exact hseconds ▸ htext
        | error e =>
            rw [htext] at hok
            exact absurd hok Bool.false_ne_true
  · subst hseconds
    simp only [expiryText, toISOString, if_pos hfar, Except.map]

/-- A read that finds no session comes before any was set. -/
theorem not_established_of_none {log : List (Nat × WalletEvent)}
    (h : Logged walletHandler none log none) (session : WalletSession) :
    ¬ Established d log session := by
  rintro ⟨before, j, after, rfl, -⟩
  obtain ⟨s₁, s₂, -, hwrite, hafter⟩ := h.at_event
  injection hwrite with _ hset
  subst hset
  -- From a session on there is one.
  obtain ⟨_, _, o, r, _, s₃, s₄, -, -, hnot, hanswered, hnow⟩ :=
    hafter.changed (P := fun s => s = none) (by simp only [reduceCtorEq, not_false_eq_true]) rfl
  cases o with
  | readSession =>
      injection hanswered with _ hsame
      exact hnot (hsame.trans hnow)
  | writeSession session' =>
      injection hanswered with _ hset
      exact absurd (hset.trans hnow) (by simp only [reduceCtorEq, not_false_eq_true])
  | _ => exact hnot (hanswered.symm.trans hnow)

/-- Whatever the x402 client of a wallet does, its signer is that of the session there was
    when it was called, or there had been none, and what it does stands where it would in a
    fetch alone. -/
theorem x402_signer_matches (d : VellarWalletConfig) (es : List WalletAction) (p : VellarWallet)
    (hrun : (vellarWallet d).run createVellarWallet es = some p) (i : Nat) (c : WalletCall)
    (rest : WalletTask WalletResult) (hcall : p.calls[i]? = some (c, rest)) (op : FetchOp)
    (hpending : rest.pending = some (.x402 op)) :
    ∃ x session before after, d.x402 = some x ∧
      p.log = before ++ (i, readEvent session) :: after ∧ own i before = [] ∧
      (∀ s, session = some s → x.signerAddress = s.accountId ∧ Established d before s) ∧
      (session = none → ∀ s, ¬ Established d before s) ∧
      ∀ url init, c = .x402Fetch url init →
        FetchStage (x402Deps d x) url init (fetchPart (own i after)) op := by
  have hstage := stage_of_pending hrun hcall hpending
  -- What is said of a purchase does not depend on which of the two it is.
  have hpurchase : ∃ fetching : List FetchEvent → FetchOp → Prop,
      Purchasing d fetching (own i p.log) (.x402 op) ∧ ∀ url init, c = .x402Fetch url init →
        ∀ tr op, fetching tr op → ∃ x, d.x402 = some x ∧
          FetchStage (x402Deps d x) url init tr op := by
    cases c with
    | x402Fetch url init =>
        unfold Stage at hstage
        refine ⟨_, hstage, fun url' init' hc tr op h => ?_⟩
        injection hc with hurl hinit
        exact hurl ▸ hinit ▸ h
    | x402CreatePayment requirements opts =>
        unfold Stage at hstage
        exact ⟨_, hstage, fun url init hc => absurd hc (by
          simp only [reduceCtorEq, not_false_eq_true])⟩
    | _ => exact absurd hstage not_false
  obtain ⟨fetching, hpurchase, hfetching⟩ := hpurchase
  rcases hpurchase with ⟨ho, -⟩ | ⟨x, session, later, op', hx, hown, hop, hmatches, hfetch⟩
  · exact absurd ho (by simp only [reduceCtorEq, not_false_eq_true])
  · injection hop with hop
    subst hop
    obtain ⟨before, after, hlog, hbefore, hafter⟩ := own_head hown
    refine ⟨x, session, before, after, hx, hlog, hbefore, fun s hs => ⟨hmatches s hs, ?_⟩,
      fun hnone s => ?_, fun url init hc => ?_⟩
    · subst hs
      exact read_established hrun hlog
    · subst hnone
      have hlogged := logged_run hrun
      rw [hlog] at hlogged
      obtain ⟨s₁, s₂, hfirst, hanswered, -⟩ := hlogged.at_event
      injection hanswered with hreply _
      rw [Except.ok.injEq] at hreply
      exact not_established_of_none (hreply ▸ hfirst) s
    · rw [hafter]
      obtain ⟨x', hx', hstage⟩ := hfetching url init hc _ _ hfetch
      rw [hx, Option.some.injEq] at hx'
      exact hx' ▸ hstage

end Runs

section Sample

/-- A wallet whose parts all do as they are asked. -/
def sampleConfig : VellarWalletConfig where
  network := .testnet
  appName := js "App"
  kitConnectWallet := .done (.ok { keyIdBase64 := js "k", contractId := js "CA" })
  isValidAddress _ := true
  signedToXdr := none
  apiUrl := some (js "https://g")
  policyAttach := some { resume := false }
  agentKeys := some { resume := false }
  x402 := some { signerAddress := js "CA", budgetAttributes := none, hasTracker := false
                 expirationLedgerOffset := none }
  sdk := sampleSdk
  parse _ := .error []

/-- What they answer. -/
def sampleAnswer : (o : WalletOp) → Except WalletError o.Ret
  | .readSession => .ok none
  | .writeSession _ => .ok ()
  | .webAuthn => .ok true
  | .nowIso => .ok (js "2026-07-16T10:00:00.000Z")
  | .dateNow => .ok 1784196000000
  | .kitCreateWallet _ _ =>
      .ok { keyIdBase64 := js "k", contractId := js "CA", signedTx := .text (js "DEPLOY") }
  | .ceremony _ => .ok .null
  | .submitWalletCreation _ _ _ _ => .ok (js "s1")
  | .lookupContractId _ _ => .ok none
  | .transfer _ _ _ _ _ => .ok (.text (js "TX"))
  | .sign _ => .ok (.text (js "SIGNED"))
  | .submitTransaction _ _ => .ok (js "hash")
  | .fetch _ _ => .ok { status := 200, json := some (.obj [(js "contractId", .str (js "CP"))]) }
  | .resume _ _ => .ok ()
  | .attachPolicy _ => .ok (js "hash")
  | .addAgentKey _ => .ok (js "hash")
  | .removeAgentKey _ => .ok (js "hash")
  | .x402 _ => .error (.thrown ⟨.foreign, []⟩)

/-- A wallet is created. -/
def creation : List WalletAction :=
  [.call (.create none), .reply 0 sampleAnswer, .reply 0 sampleAnswer, .reply 0 sampleAnswer,
    .reply 0 sampleAnswer, .exec 0]

/-- The first call of a wallet that was created, up to its awaits. -/
def afterCreation (c : WalletCall) (awaits : Nat) : List WalletAction :=
  creation ++ [.call c, .exec 1] ++ List.replicate awaits (.reply 1 sampleAnswer)

def samplePay : PayInput where
  recipient := js "GB"
  amount := 5
  token := { symbol := js "XLM", contractId := js "CT", decimals := 7 }

theorem payment_signs_established_sample : ∃ p rest input session before after,
    (vellarWallet sampleConfig).run createVellarWallet (afterCreation (.pay samplePay) 1) = some p ∧
    p.calls[1]? = some (.pay input, rest) ∧ rest.pending = some (.sign (.text (js "TX"))) ∧
    Payable sampleConfig session.accountId input ∧
    p.log = before ++ (1, readEvent (some session)) :: after ∧
    Established sampleConfig before session := by
  have hrun : ∃ p rest, (vellarWallet sampleConfig).run createVellarWallet
      (afterCreation (.pay samplePay) 1) = some p ∧ p.calls[1]? = some (.pay samplePay, rest) ∧
      rest.pending = some (.sign (.text (js "TX"))) := ⟨_, _, rfl, rfl, rfl⟩
  obtain ⟨p, rest, hrun, hcall, hpending⟩ := hrun
  obtain ⟨input, session, before, after, hc, hpayable, -, hlog, -, hestablished⟩ :=
    payment_signs_established sampleConfig _ p hrun 1 _ rest hcall _ hpending
  exact ⟨p, rest, input, session, before, after, hrun, hc ▸ hcall, hpending, hpayable, hlog,
    hestablished⟩

theorem payment_submits_signed_sample : ∃ p rest input session tx signed,
    (vellarWallet sampleConfig).run createVellarWallet (afterCreation (.pay samplePay) 2) = some p ∧
    p.calls[1]? = some (.pay input, rest) ∧
    rest.pending = some (.submitTransaction (js "SIGNED") .testnet) ∧
    own 1 p.log = payTrace input session tx signed ∧
    signedToXdr sampleConfig (signed.orElse tx) = .ok (js "SIGNED") := by
  have hrun : ∃ p rest, (vellarWallet sampleConfig).run createVellarWallet
      (afterCreation (.pay samplePay) 2) = some p ∧ p.calls[1]? = some (.pay samplePay, rest) ∧
      rest.pending = some (.submitTransaction (js "SIGNED") .testnet) := ⟨_, _, rfl, rfl, rfl⟩
  obtain ⟨p, rest, hrun, hcall, hpending⟩ := hrun
  obtain ⟨input, session, tx, signed, hc, -, hown, hxdr, -⟩ :=
    payment_submits_signed sampleConfig _ p hrun 1 _ rest hcall _ _ hpending
  exact ⟨p, rest, input, session, tx, signed, hrun, hc ▸ hcall, hpending, hown, hxdr⟩

theorem session_established_sample : ∃ p session,
    (vellarWallet sampleConfig).run createVellarWallet creation = some p ∧
    p.shared = some session ∧ Established sampleConfig p.log session := by
  have hrun : ∃ p session, (vellarWallet sampleConfig).run createVellarWallet creation = some p ∧
      p.shared = some session := ⟨_, _, rfl, rfl⟩
  obtain ⟨p, session, hrun, hsession⟩ := hrun
  exact ⟨p, session, hrun, hsession, session_established sampleConfig _ p session hrun hsession⟩

/-- A wallet whose host knows how to resume a passkey. -/
def resumingConfig : VellarWalletConfig :=
  { sampleConfig with policyAttach := some { resume := true } }

theorem attaches_deployed_instance_sample : ∃ (p : VellarWallet) (rest : WalletTask WalletResult)
    (session : WalletSession) (named : WalletEvent) (resumed : List WalletEvent),
    (vellarWallet resumingConfig).run createVellarWallet (afterCreation (.deploy (js "p1")) 2) =
      some p ∧
    p.calls[1]? = some (.deploy (js "p1"), rest) ∧
    rest.pending = some (.attachPolicy (.str (js "CP"))) ∧
    own 1 p.log = readEvent (some session) :: named :: resumed ∧ resumed.length = 1 ∧
    Resumed resumingConfig .policyAttach session resumed ∧
    ∃ policyId, WalletCall.deploy (js "p1") = .deploy policyId ∧
      InstanceFor resumingConfig policyId session.accountId (.str (js "CP")) named := by
  have hrun : ∃ p rest, (vellarWallet resumingConfig).run createVellarWallet
      (afterCreation (.deploy (js "p1")) 2) = some p ∧
      p.calls[1]? = some (.deploy (js "p1"), rest) ∧
      rest.pending = some (.attachPolicy (.str (js "CP"))) ∧ (own 1 p.log).length = 3 :=
    ⟨_, _, rfl, rfl, rfl, rfl⟩
  obtain ⟨p, rest, hrun, hcall, hpending, hlength⟩ := hrun
  obtain ⟨policyId, session, named, resumed, before, after, hc, hown, hnamed, hresumed, -⟩ :=
    attaches_deployed_instance resumingConfig _ p hrun 1 _ rest hcall _ hpending
  refine ⟨p, rest, session, named, resumed, hrun, hcall, hpending, hown, ?_, hresumed, policyId, hc,
    hnamed⟩
  rw [hown, List.length_cons, List.length_cons] at hlength
  omega

/-- An ed25519 key and a contract id. -/
def sampleKey (version : CodeUnit) : JsString :=
  version :: List.replicate 55 65

/-- A key for one token under one policy. -/
def sampleMint (expiresAt : Option Expiry) : MintAgentInput where
  publicKey := sampleKey 71
  grants := some [{ token := sampleKey 67, policies := some [sampleKey 67] }]
  expiresAt := expiresAt
  store := none

theorem added_key_limited_sample : ∃ (p : VellarWallet) (rest : WalletTask WalletResult)
    (key : AgentKeyInput),
    (vellarWallet sampleConfig).run createVellarWallet (afterCreation (.mint (sampleMint none)) 0) =
      some p ∧
    p.calls[1]? = some (.mint (sampleMint none), rest) ∧
    rest.pending = some (.addAgentKey key) ∧ Mintable key.publicKey key.grants := by
  have hrun : ∃ p rest key, (vellarWallet sampleConfig).run createVellarWallet
      (afterCreation (.mint (sampleMint none)) 0) = some p ∧
      p.calls[1]? = some (.mint (sampleMint none), rest) ∧
      rest.pending = some (.addAgentKey key) := ⟨_, _, _, rfl, rfl, rfl⟩
  obtain ⟨p, rest, key, hrun, hcall, hpending⟩ := hrun
  obtain ⟨input, session, clock, resumed, before, after, -, -, hmintable, -⟩ :=
    added_key_limited sampleConfig _ p hrun 1 _ rest hcall _ hpending
  exact ⟨p, rest, key, hrun, hcall, hpending, hmintable⟩

/-- Until a time that no text can hold. -/
def farMint : List WalletAction :=
  afterCreation (.mint (sampleMint (some (.seconds (some (.finite 10000000000000)))))) 2

/-- Has a mint added its key and ended? -/
def addedAndEnded (p : Option VellarWallet) : Bool :=
  match p with
  | some p =>
    match (p.calls[1]? : Option (WalletCall × WalletTask WalletResult)), p.log.getLast? with
    | some (.mint _, .done _), some (1, ⟨.addAgentKey _, .ok _⟩) => true
    | _, _ => false
  | none => false

theorem mint_reports_far : ∃ (p : VellarWallet) (input : MintAgentInput)
    (r : Except WalletError WalletResult) (key : AgentKeyInput),
    (vellarWallet sampleConfig).run createVellarWallet farMint = some p ∧
    p.calls[1]? = some (.mint input, .done r) ∧ key = input.agentKey key.expirationSeconds ∧
    ∀ seconds, key.expirationSeconds = some seconds → maxTime < (seconds * 1000).natAbs →
      r = .error (.thrown ⟨.native .rangeError, []⟩) := by
  have hended : addedAndEnded ((vellarWallet sampleConfig).run createVellarWallet farMint) = true := by
    decide +kernel
  cases hrun : (vellarWallet sampleConfig).run createVellarWallet farMint with
  | none =>
      rw [hrun] at hended
      exact absurd hended Bool.false_ne_true
  | some p =>
      rw [hrun] at hended
      simp only [addedAndEnded] at hended
      split at hended
      · next input r key hash hcall hlast =>
        obtain ⟨hkey, -, hfar⟩ := mint_reports sampleConfig farMint p hrun 1 input r hcall key hash
          (List.mem_of_getLast? hlast)
        exact ⟨p, input, r, key, rfl, hcall, hkey, hfar⟩
      · exact absurd hended Bool.false_ne_true

theorem x402_signer_matches_sample : ∃ (p : VellarWallet) (rest : WalletTask WalletResult)
    (op : FetchOp) (x : X402Config) (session : Option WalletSession)
    (before after : List (Nat × WalletEvent)),
    (vellarWallet sampleConfig).run createVellarWallet
      (afterCreation (.x402Fetch (js "https://a") (fetchInit none)) 0) = some p ∧
    p.calls[1]? = some (.x402Fetch (js "https://a") (fetchInit none), rest) ∧
    rest.pending = some (.x402 op) ∧ sampleConfig.x402 = some x ∧
    p.log = before ++ (1, readEvent session) :: after ∧
    ∀ s, session = some s → x.signerAddress = s.accountId ∧ Established sampleConfig before s := by
  have hrun : ∃ p rest op, (vellarWallet sampleConfig).run createVellarWallet
      (afterCreation (.x402Fetch (js "https://a") (fetchInit none)) 0) = some p ∧
      p.calls[1]? = some (.x402Fetch (js "https://a") (fetchInit none), rest) ∧
      rest.pending = some (.x402 op) := ⟨_, _, _, rfl, rfl, rfl⟩
  obtain ⟨p, rest, op, hrun, hcall, hpending⟩ := hrun
  obtain ⟨x, session, before, after, hx, hlog, -, hmatches, -⟩ :=
    x402_signer_matches sampleConfig _ p hrun 1 _ rest hcall op hpending
  exact ⟨p, rest, op, x, session, before, after, hrun, hcall, hpending, hx, hlog, hmatches⟩

end Sample

end Wallet

end VellarSdk
