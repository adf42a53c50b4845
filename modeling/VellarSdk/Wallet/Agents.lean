import VellarSdk.Js.Date
import VellarSdk.Wallet.Payments

/-!
# Agent Keys

A session key for an agent is added to the wallet with what it may use: tokens, and for
each the policies that have to agree. Adding and removing a key is signed with the
passkey by a runtime of the host, so what the facade does is to check what it is asked
before that and to report what came of it. A key that is added is limited: it may use
some tokens only, and none without a policy. The time it expires at is in the future when
it is looked at, but it is formatted for the report when the key is on the chain already,
and a time that is too far away has no text.

## Main definitions

* `mint`, `revoke`: The methods of the facade.
* `Mintable`: A key that is limited.
* `Minting`, `Revoking`: Where the calls stand.
* `Minted`: How a mint ended.

## Theorems

* `validateMint_iff`: What is checked is that the key is limited.
* `mint_sat`, `revoke_sat`: The calls of the two methods.
-/

namespace VellarSdk

namespace Wallet

open Js Async X402

/-- When a key is to expire: a `Date`, by its time, or seconds since the epoch. -/
inductive Expiry where
  | date (time : JsNum)
  | seconds (n : JsNum)

structure MintAgentInput where
  publicKey : JsString
  grants : Option (List AgentPolicyGrant)
  expiresAt : Option Expiry
  store : Option AgentStore

structure MintAgentResult where
  hash : JsString
  publicKey : JsString
  expiresAt : Option JsString
  deriving DecidableEq

/-- A character of base 32. -/
def isBase32 (u : CodeUnit) : Bool :=
  (65 ≤ u && u ≤ 90) || (50 ≤ u && u ≤ 55)

/-- A key in 56 characters, of which the first says what it is of. -/
def isStrKey (version : CodeUnit) : JsString → Bool
  | u :: rest => u == version && rest.length == 55 && rest.all isBase32
  | [] => false

/-- `ED25519_PUBLIC_KEY.test(s)`. -/
def isEd25519PublicKey (s : JsString) : Bool :=
  isStrKey 71 s

/-- `CONTRACT_ID.test(s)`. -/
def isContractId (s : JsString) : Bool :=
  isStrKey 67 s

/-- The seconds since the epoch, where they are finite. -/
def Expiry.toSeconds : Expiry → Option Int
  | .date (some (.finite time)) => some ⌊time / 1000⌋
  | .seconds (some (.finite n)) => some ⌊n⌋
  | _ => none

def toExpirationSeconds (expiresAt : Option Expiry) : WalletTask (Option Int) :=
  match expiresAt with
  | none => return none
  | some expiry => match expiry.toSeconds with
    | none => throw (.invalidAgentInput (js "expiresAt must be in the future"))
    | some seconds => do
        let time : Int ← Task.perform WalletOp.dateNow
        if seconds ≤ time / 1000 then
          throw (.invalidAgentInput (js "expiresAt must be in the future"))
        else return some seconds

def requireRuntime (d : VellarWalletConfig) : Except WalletError Runtime :=
  match d.agentKeys with
  | some runtime => .ok runtime
  | none => .error .agentsNotConfigured

/-- The session of the wallet, for a facade that needs one. -/
def requireSession (message : JsString) : WalletTask WalletSession := do
  let session : Option WalletSession ← Task.perform WalletOp.readSession
  match session with
  | some session => return session
  | none => throw (.walletNotReady message)

def validatePolicy (policy : JsString) : Except WalletError Unit :=
  if !isContractId policy then
    .error (.invalidAgentInput (js "policy must be a contract id (C…): " ++ policy))
  else .ok ()

def validateGrant (grant : AgentPolicyGrant) : Except WalletError Unit :=
  if !isContractId grant.token then
    .error (.invalidAgentInput (js "grant token must be a contract id (C…): " ++ grant.token))
  else if (grant.policies.getD []).isEmpty then
    .error (.invalidAgentInput (js "grant for " ++ grant.token ++
      js " has no policies — an unrestricted grant is not mintable through wallet.agents"))
  else (grant.policies.getD []).forM validatePolicy

def validateMint (input : MintAgentInput) : Except WalletError Unit :=
  if !isEd25519PublicKey input.publicKey then
    .error (.invalidAgentInput (js "publicKey must be an ed25519 public key (G…)"))
  else if (input.grants.getD []).isEmpty then
    .error (.invalidAgentInput (js "at least one token grant is required"))
  else (input.grants.getD []).forM validateGrant

/-- `if (session.keyId && runtime.resume) await runtime.resume(session.keyId)`. -/
def resumeKey (kind : RuntimeKind) (runtime : Runtime) (session : WalletSession) :
    WalletTask Unit :=
  match session.keyId with
  | some keyId =>
      if !keyId.isEmpty && runtime.resume then Task.perform (WalletOp.resume kind keyId)
      else return ()
  | none => return ()

/-- The report of the time a key expires at. -/
def expiryText : Option Int → Except WalletError (Option JsString)
  | some seconds => match toISOString (seconds * 1000) with
    | .ok text => .ok (some text)
    | .error e => .error (.thrown ⟨.native e, []⟩)
  | none => .ok none

/-- `wallet.agents.mint(input)`. -/
def mint (d : VellarWalletConfig) (input : MintAgentInput) : WalletTask MintAgentResult := do
  let runtime ← requireRuntime d
  let session ← requireSession (js "Call create() or connect() before using agents")
  validateMint input
  let expirationSeconds ← toExpirationSeconds input.expiresAt
  resumeKey .agentKeys runtime session
  let hash : JsString ← Task.perform (WalletOp.addAgentKey
    { publicKey := input.publicKey, grants := input.grants.getD []
      expirationSeconds := expirationSeconds, store := input.store.getD .persistent })
  -- The key is on the chain by now.
  let expiresAt ← expiryText expirationSeconds
  return { hash := hash, publicKey := input.publicKey, expiresAt := expiresAt }

/-- `wallet.agents.revoke(publicKey)`. -/
def revoke (d : VellarWalletConfig) (publicKey : JsString) : WalletTask JsString := do
  let runtime ← requireRuntime d
  let session ← requireSession (js "Call create() or connect() before using agents")
  if !isEd25519PublicKey publicKey then
    throw (.invalidAgentInput (js "publicKey must be an ed25519 public key (G…)"))
  else do
    resumeKey .agentKeys runtime session
    Task.perform (WalletOp.removeAgentKey publicKey)

/-- A key that is limited: to some tokens, and by policies for each of them. -/
structure Mintable (publicKey : JsString) (grants : List AgentPolicyGrant) : Prop where
  key : isEd25519PublicKey publicKey = true
  granted : grants ≠ []
  limited : ∀ grant ∈ grants, isContractId grant.token = true ∧
    ∃ policies, grant.policies = some policies ∧ policies ≠ [] ∧
      ∀ policy ∈ policies, isContractId policy = true

theorem forM_eq_ok {α : Type} {check : α → Except WalletError Unit} {l : List α} :
    l.forM check = .ok () ↔ ∀ a ∈ l, check a = .ok () := by
  rw [List.forM_eq_forM]
  induction l with
  | nil =>
      simp only [List.forM_nil, List.not_mem_nil, false_imp_iff, implies_true, pure, Except.pure]
  | cons a l ih =>
      rw [List.forM_cons, List.forall_mem_cons, ← ih]
      cases h : check a with
      | ok u => simp only [bind, Except.bind, true_and]
      | error e => simp only [bind, Except.bind, reduceCtorEq, false_and]

theorem validatePolicy_iff (policy : JsString) :
    validatePolicy policy = .ok () ↔ isContractId policy = true := by
  unfold validatePolicy
  cases isContractId policy with
  | true => exact ⟨fun _ => rfl, fun _ => rfl⟩
  | false => simp

theorem validateGrant_iff (grant : AgentPolicyGrant) :
    validateGrant grant = .ok () ↔ isContractId grant.token = true ∧
      ∃ policies, grant.policies = some policies ∧ policies ≠ [] ∧
        ∀ policy ∈ policies, isContractId policy = true := by
  unfold validateGrant
  cases hcontract : isContractId grant.token with
  | false => simp
  | true =>
      cases hpolicies : grant.policies with
      | none => simp
      | some policies =>
          cases policies with
          | nil => simp
          | cons policy policies =>
              simp only [Bool.not_true, Bool.false_eq_true, if_false, Option.getD_some,
                List.isEmpty_cons, forM_eq_ok, validatePolicy_iff, true_and, Option.some.injEq,
                exists_eq_left', ne_eq, reduceCtorEq, not_false_eq_true]

/-- What is checked of a mint is that the key is limited. -/
theorem validateMint_iff (input : MintAgentInput) :
    validateMint input = .ok () ↔ Mintable input.publicKey (input.grants.getD []) := by
  unfold validateMint
  cases hkey : isEd25519PublicKey input.publicKey with
  | false =>
      exact ⟨fun h => absurd h (by simp),
        fun h => absurd (hkey.symm.trans h.key) Bool.false_ne_true⟩
  | true =>
      cases hgrants : input.grants.getD [] with
      | nil => exact ⟨fun h => absurd h (by simp), fun h => absurd rfl h.granted⟩
      | cons grant grants =>
          simp only [Bool.not_true, Bool.false_eq_true, if_false, List.isEmpty_cons, forM_eq_ok,
            validateGrant_iff]
          exact ⟨fun h => ⟨hkey, List.cons_ne_nil _ _, h⟩, fun h => h.limited⟩

/-- The look at the clock that a mint makes. -/
inductive Expires (expiresAt : Option Expiry) : Option Int → List WalletEvent → Prop where
  | never (h : expiresAt = none) : Expires expiresAt none []
  | at' (expiry : Expiry) (seconds time : Int) (h : expiresAt = some expiry)
      (hseconds : expiry.toSeconds = some seconds) (hfuture : time / 1000 < seconds) :
      Expires expiresAt (some seconds) [⟨.dateNow, .ok time⟩]

/-- The runtime of a kind that a wallet was made with. -/
def VellarWalletConfig.runtime (d : VellarWalletConfig) : RuntimeKind → Option Runtime
  | .policyAttach => d.policyAttach
  | .agentKeys => d.agentKeys

/-- Resuming the passkey of a session. Nothing is called only where the session names no
    passkey or the runtime does not know how to resume one. -/
inductive Resumed (d : VellarWalletConfig) (kind : RuntimeKind) (session : WalletSession) :
    List WalletEvent → Prop where
  | skipped (h : ∀ keyId runtime, session.keyId = some keyId → d.runtime kind = some runtime →
      keyId.isEmpty = true ∨ runtime.resume = false) : Resumed d kind session []
  | resumed (keyId : JsString) (h : session.keyId = some keyId) (hkey : keyId.isEmpty = false) :
      Resumed d kind session [⟨.resume kind keyId, .ok ()⟩]

/-- The key a mint adds. -/
def MintAgentInput.agentKey (input : MintAgentInput) (expirationSeconds : Option Int) :
    AgentKeyInput where
  publicKey := input.publicKey
  grants := input.grants.getD []
  expirationSeconds := expirationSeconds
  store := input.store.getD .persistent

/-- Where a call of a mint stands. -/
def Minting (d : VellarWalletConfig) (input : MintAgentInput) (tr : List WalletEvent) :
    WalletOp → Prop
  | .readSession => tr = []
  | .dateNow => ∃ session, tr = [readEvent (some session)] ∧
      Mintable input.publicKey (input.grants.getD [])
  | .resume kind keyId => ∃ session expirationSeconds clock, kind = .agentKeys ∧
      Mintable input.publicKey (input.grants.getD []) ∧
      Expires input.expiresAt expirationSeconds clock ∧ session.keyId = some keyId ∧
      tr = readEvent (some session) :: clock
  | .addAgentKey key => ∃ session expirationSeconds clock resumed,
      Mintable input.publicKey (input.grants.getD []) ∧
      Expires input.expiresAt expirationSeconds clock ∧ Resumed d .agentKeys session resumed ∧
      key = input.agentKey expirationSeconds ∧ tr = readEvent (some session) :: (clock ++ resumed)
  | _ => False

/-- How a mint ended that added its key. -/
def Minted (d : VellarWalletConfig) (input : MintAgentInput) (tr : List WalletEvent)
    (r : Except WalletError MintAgentResult) : Prop :=
  ∃ session expirationSeconds clock resumed hash,
    Expires input.expiresAt expirationSeconds clock ∧ Resumed d .agentKeys session resumed ∧
    tr = readEvent (some session) :: (clock ++ resumed) ++
      [⟨.addAgentKey (input.agentKey expirationSeconds), .ok hash⟩] ∧
    r = (expiryText expirationSeconds).map (fun expiresAt =>
      { hash := hash, publicKey := input.publicKey, expiresAt := expiresAt })

/-- No key was added. -/
def NotAdded (tr : List WalletEvent) : Prop :=
  ∀ e ∈ tr, ∀ key hash, e ≠ ⟨.addAgentKey key, .ok hash⟩

theorem NotAdded.append {tr tr' : List WalletEvent} (h : NotAdded tr) (h' : NotAdded tr') :
    NotAdded (tr ++ tr') :=
  List.forall_mem_append.mpr ⟨h, h'⟩

theorem Expires.notAdded {expiresAt : Option Expiry} {expirationSeconds : Option Int}
    {clock : List WalletEvent} (h : Expires expiresAt expirationSeconds clock) :
    NotAdded clock := by
  cases h <;> simp [NotAdded]

theorem Resumed.notAdded {d : VellarWalletConfig} {kind : RuntimeKind} {session : WalletSession}
    {resumed : List WalletEvent} (h : Resumed d kind session resumed) : NotAdded resumed := by
  cases h <;> simp [NotAdded]

/-- Where a call of a revocation stands. -/
def Revoking (d : VellarWalletConfig) (publicKey : JsString) (tr : List WalletEvent) :
    WalletOp → Prop
  | .readSession => tr = []
  | .resume kind keyId => ∃ session, kind = .agentKeys ∧ isEd25519PublicKey publicKey = true ∧
      session.keyId = some keyId ∧ tr = [readEvent (some session)]
  | .removeAgentKey removed => ∃ session resumed, removed = publicKey ∧
      isEd25519PublicKey publicKey = true ∧ Resumed d .agentKeys session resumed ∧
      tr = readEvent (some session) :: resumed
  | _ => False

section Specs

variable {d : VellarWalletConfig} {α : Type} {C : List WalletEvent → Unit → WalletOp → Prop}
  {Q : List WalletEvent → Unit → Except WalletError α → Prop}

theorem runtime_of_requireRuntime {runtime : Runtime} (h : requireRuntime d = .ok runtime) :
    d.runtime .agentKeys = some runtime := by
  unfold requireRuntime at h
  show d.agentKeys = some runtime
  cases hkeys : d.agentKeys with
  | none =>
      rw [hkeys] at h
      exact absurd h (by simp only [reduceCtorEq, not_false_eq_true])
  | some found =>
      rw [hkeys, Except.ok.injEq] at h
      rw [h]

theorem requireSession_sat {message : JsString} {f : WalletSession → WalletTask α}
    (hcall : C [] () .readSession)
    (hf : ∀ session, Sat awaitAll C Q (f session) [readEvent (some session)] ())
    (herror : ∀ r e, Q [⟨.readSession, r⟩] () (.error e)) :
    Sat awaitAll C Q (requireSession message >>= f) [] () := by
  refine (sat_bind _ _ _ _).mpr ((sat_await_bind rfl _).mpr ⟨hcall, fun session => ?_, ?_⟩)
  · cases session with
    | none => exact herror _ _
    | some session => exact hf session
  · exact fun e => herror _ e

theorem toExpirationSeconds_sat {expiresAt : Option Expiry} {f : Option Int → WalletTask α}
    {tr : List WalletEvent} (hcall : C tr () .dateNow)
    (hf : ∀ expirationSeconds clock, Expires expiresAt expirationSeconds clock →
      Sat awaitAll C Q (f expirationSeconds) (tr ++ clock) ())
    (hthrow : ∀ e, Q tr () (.error e)) (herror : ∀ r e, Q (tr ++ [⟨.dateNow, r⟩]) () (.error e)) :
    Sat awaitAll C Q (toExpirationSeconds expiresAt >>= f) tr () := by
  refine (sat_bind _ _ _ _).mpr ?_
  cases expiresAt with
  | none =>
      have hnever := hf none [] (.never rfl)
      rw [List.append_nil] at hnever
      exact hnever
  | some expiry =>
      simp only [toExpirationSeconds]
      cases hseconds : expiry.toSeconds with
      | none => exact hthrow _
      | some seconds =>
          refine (sat_await_bind rfl _).mpr ⟨hcall, fun time => ?_, fun e => herror _ e⟩
          by_cases hpast : seconds ≤ time / 1000
          · rw [if_pos hpast]
            exact herror _ _
          · rw [if_neg hpast]
            exact hf _ _ (.at' expiry seconds time rfl hseconds (lt_of_not_ge hpast))

theorem resumeKey_sat {kind : RuntimeKind} {runtime : Runtime} {session : WalletSession}
    {f : Unit → WalletTask α} {tr : List WalletEvent} (hruntime : d.runtime kind = some runtime)
    (hcall : ∀ keyId, session.keyId = some keyId → C tr () (.resume kind keyId))
    (hf : ∀ resumed, Resumed d kind session resumed → Sat awaitAll C Q (f ()) (tr ++ resumed) ())
    (herror : ∀ keyId r e, Q (tr ++ [⟨.resume kind keyId, r⟩]) () (.error e)) :
    Sat awaitAll C Q (resumeKey kind runtime session >>= f) tr () := by
  -- Where nothing is resumed, the method goes on as it was.
  have hnone : Resumed d kind session [] → Sat awaitAll C Q (f ()) tr () := fun hskipped => by
    have hf := hf [] hskipped
    rwa [List.append_nil] at hf
  refine (sat_bind _ _ _ _).mpr ?_
  unfold resumeKey
  cases hkey : session.keyId with
  | none =>
      exact hnone (.skipped fun keyId _ hsome _ => absurd (hkey.symm.trans hsome)
        (by simp only [reduceCtorEq, not_false_eq_true]))
  | some keyId =>
      -- The code asks for a key that is not empty and a runtime that can resume.
      by_cases hresume : (!keyId.isEmpty && runtime.resume) = true
      · have hnonempty : keyId.isEmpty = false := by
          rw [Bool.and_eq_true, Bool.not_eq_true'] at hresume
          exact hresume.1
        simp only [if_pos hresume]
        refine (sat_await rfl _).mpr ⟨hcall keyId hkey, fun r => ?_⟩
        cases r with
        | ok u => exact hf _ (.resumed keyId hkey hnonempty)
        | error e => exact herror _ _ e
      · simp only [if_neg hresume]
        refine hnone (.skipped fun keyId' runtime' hsome hruntime' => ?_)
        rw [hkey, Option.some.injEq] at hsome
        rw [hruntime, Option.some.injEq] at hruntime'
        subst hsome hruntime'
        cases hempty : keyId.isEmpty with
        | true => exact .inl rfl
        | false =>
            rw [hempty, Bool.not_false, Bool.true_and, Bool.not_eq_true] at hresume
            exact .inr hresume

/-- A key is added when it was found limited and not expired. What is thrown before it was
    added is an error of another kind than what is thrown after. -/
theorem mint_sat {input : MintAgentInput}
    {Q : List WalletEvent → Unit → Except WalletError MintAgentResult → Prop}
    (hC : ∀ tr o, Minting d input tr o → C tr () o)
    (hadded : ∀ tr r, Minted d input tr r → Q tr () r)
    (herror : ∀ tr e, NotAdded tr → Q tr () (.error e)) :
    Sat awaitAll C Q (mint d input) [] () := by
  refine sat_lift_bind (fun runtime hruntime => ?_) (fun e _ => herror _ e (by simp [NotAdded]))
  refine requireSession_sat (hC _ _ rfl) (fun session => ?_)
    (fun r e => herror _ e (by simp [NotAdded]))
  have hread : NotAdded [readEvent (some session)] := by simp [NotAdded, readEvent]
  refine sat_lift_bind (fun u hvalid => ?_) (fun e _ => herror _ e hread)
  have hmintable := (validateMint_iff input).mp hvalid
  refine toExpirationSeconds_sat (hC _ _ ⟨session, rfl, hmintable⟩)
    (fun expirationSeconds clock hexpires => ?_) (fun e => herror _ e hread)
    (fun r e => herror _ e (hread.append (by simp [NotAdded])))
  have hclock := hread.append hexpires.notAdded
  refine resumeKey_sat (runtime_of_requireRuntime hruntime)
    (fun keyId hkey => hC _ _ ⟨session, expirationSeconds, clock, rfl, hmintable, hexpires, hkey,
      rfl⟩) (fun resumed hresumed => ?_)
    (fun keyId r e => herror _ e (hclock.append (by simp [NotAdded])))
  refine (sat_await_bind rfl _).mpr ⟨hC _ _ ⟨session, expirationSeconds, clock, resumed, hmintable,
    hexpires, hresumed, rfl, ?_⟩, fun hash => ?_, fun e => herror _ e ?_⟩
  · rw [List.append_assoc, List.singleton_append]
  · -- The report is made of a key that was added.
    have hminted : ∀ r, r = (expiryText expirationSeconds).map (fun expiresAt =>
        { hash := hash, publicKey := input.publicKey, expiresAt := expiresAt }) →
        Q ([readEvent (some session)] ++ clock ++ resumed ++
          [⟨.addAgentKey (input.agentKey expirationSeconds), .ok hash⟩]) () r := by
      intro r hr
      refine hadded _ _
        ⟨session, expirationSeconds, clock, resumed, hash, hexpires, hresumed, ?_, hr⟩
      rw [List.append_assoc [readEvent (some session)], List.singleton_append]
    cases htext : expiryText expirationSeconds with
    | ok expiresAt => exact (sat_ok_bind rfl _).mpr (hminted _ (by rw [htext]; rfl))
    | error e => exact (sat_error_bind rfl _).mpr (hminted _ (by rw [htext]; rfl))
  · exact (hclock.append hresumed.notAdded).append (by simp [NotAdded])

/-- A key is removed that could have been added. -/
theorem revoke_sat {publicKey : JsString}
    {Q : List WalletEvent → Unit → Except WalletError JsString → Prop}
    (hC : ∀ tr o, Revoking d publicKey tr o → C tr () o) (hok : ∀ tr hash, Q tr () (.ok hash))
    (herror : ∀ tr e, Q tr () (.error e)) : Sat awaitAll C Q (revoke d publicKey) [] () := by
  refine sat_lift_bind (fun runtime hruntime => ?_) (fun e _ => herror _ e)
  refine requireSession_sat (hC _ _ rfl) (fun session => ?_) (fun _ e => herror _ e)
  cases hkey : isEd25519PublicKey publicKey with
  | false => exact herror _ _
  | true =>
      refine resumeKey_sat (runtime_of_requireRuntime hruntime)
        (fun keyId hid => hC _ _ ⟨session, rfl, hkey, hid, rfl⟩) (fun resumed hresumed => ?_)
        (fun _ _ e => herror _ e)
      refine (sat_await rfl _).mpr ⟨hC _ _ ⟨session, resumed, rfl, hkey, hresumed, rfl⟩,
        fun r => ?_⟩
      cases r with
      | ok hash => exact hok _ hash
      | error e => exact herror _ e

end Specs

end Wallet

end VellarSdk
