import VellarSdk.Wallet.Connector

/-!
# Paying from a Wallet

A payment is built and simulated before the passkey is asked for, and submitted only as
what was signed. The account it is sent from is the one of the session at the time of the
call, and stays it whatever the session becomes while the payment waits.

## Main definitions

* `preparePayment`, `confirm`: The methods of the payment client.
* `Payable`: The check of a recipient and an amount.
* `payTrace`: The calls of a payment.
* `Paying`: Where each of them stands.

## Theorems

* `pay_sat`: A payment makes no other calls, and each in its place.
-/

namespace VellarSdk

namespace Wallet

open Js Async X402

def RELAYER_MAX_TIMEOUT_SECONDS : Nat :=
  30

/-- The token to send. Its symbol and its decimals are for the review alone. -/
structure TokenInfo where
  symbol : JsString
  contractId : JsString
  decimals : Nat

structure PayInput where
  recipient : JsString
  amount : Int
  token : TokenInfo

structure PaymentReview extends PayInput where
  sender : JsString
  network : Network

/-- A payment that was built, and what there is to review of it. -/
structure PreparedPayment where
  review : PaymentReview
  tx : Signable

/-- The checks that are made of a payment before it is built. -/
def assertPayable (d : VellarWalletConfig) (sender : JsString) (input : PayInput) :
    Except WalletError Unit := do
  if !d.isValidAddress input.recipient then
    throw (.invalidRecipient
      (js "\"" ++ input.recipient ++ js "\" is not a valid Stellar address"))
  if input.recipient == sender then
    throw (.invalidRecipient (js "Recipient must differ from the sending account"))
  if input.amount ≤ 0 then
    throw (.invalidAmount (js "Amount must be greater than zero"))

def preparePayment (d : VellarWalletConfig) (sender : JsString) (input : PayInput) :
    WalletTask PreparedPayment := do
  assertPayable d sender input
  let tx : Signable ← Task.perform (WalletOp.transfer input.token.contractId sender
    input.recipient input.amount RELAYER_MAX_TIMEOUT_SECONDS)
  return { review := { toPayInput := input, sender := sender, network := d.network }, tx := tx }

/-- `options.signedToXdr ?? defaultSignedToXdr`. -/
def signedToXdr (d : VellarWalletConfig) : Signable → Except WalletError JsString :=
  d.signedToXdr.getD defaultSignedToXdr

def confirm (d : VellarWalletConfig) (prepared : PreparedPayment) : WalletTask JsString := do
  let signed : Signable ← Task.perform (WalletOp.sign prepared.tx)
  let signedXdr ← signedToXdr d (signed.orElse prepared.tx)
  Task.perform (WalletOp.submitTransaction signedXdr d.network)

def pay (d : VellarWalletConfig) (input : PayInput) : WalletTask JsString := do
  let session : Option WalletSession ← Task.perform WalletOp.readSession
  match session with
  | none => throw (.walletNotReady (js "Call create() or connect() before pay()"))
  | some session =>
      let prepared ← preparePayment d session.accountId input
      confirm d prepared

/-- A payment that may be built. -/
structure Payable (d : VellarWalletConfig) (sender : JsString) (input : PayInput) : Prop where
  valid : d.isValidAddress input.recipient = true
  other : input.recipient ≠ sender
  positive : 0 < input.amount

/-- The session was there to be read. -/
def readEvent (session : Option WalletSession) : WalletEvent :=
  ⟨.readSession, .ok session⟩

/-- The transfer of a payment. -/
def PayInput.transfer (input : PayInput) (sender : JsString) : WalletOp :=
  .transfer input.token.contractId sender input.recipient input.amount RELAYER_MAX_TIMEOUT_SECONDS

/-- The calls of a payment, up to its signature. -/
def payTrace (input : PayInput) (session : WalletSession) (tx signed : Signable) :
    List WalletEvent :=
  [readEvent (some session), ⟨input.transfer session.accountId, .ok tx⟩, ⟨.sign tx, .ok signed⟩]

/-- Where a call of a payment stands. -/
def Paying (d : VellarWalletConfig) (input : PayInput) (tr : List WalletEvent) : WalletOp → Prop
  | .readSession => tr = []
  | .transfer token sender recipient amount timeoutInSeconds => ∃ session,
      tr = [readEvent (some session)] ∧ Payable d session.accountId input ∧
      WalletOp.transfer token sender recipient amount timeoutInSeconds =
        input.transfer session.accountId
  | .sign tx => ∃ session, Payable d session.accountId input ∧
      tr = [readEvent (some session), ⟨input.transfer session.accountId, .ok tx⟩]
  | .submitTransaction signedXdr network => ∃ session tx signed,
      Payable d session.accountId input ∧ tr = payTrace input session tx signed ∧
      signedToXdr d (signed.orElse tx) = .ok signedXdr ∧ network = d.network
  | _ => False

theorem payable_of_assertPayable {d : VellarWalletConfig} {sender : JsString} {input : PayInput}
    (h : assertPayable d sender input = .ok ()) : Payable d sender input := by
  unfold assertPayable at h
  by_cases hvalid : d.isValidAddress input.recipient = true
  swap
  · rw [Bool.not_eq_true] at hvalid
    rw [hvalid] at h
    exact absurd h (by simp [throw, throwThe, MonadExceptOf.throw, bind, Except.bind])
  by_cases hother : input.recipient = sender
  · rw [hvalid, hother] at h
    exact absurd h (by simp [throw, throwThe, MonadExceptOf.throw, bind, Except.bind])
  by_cases hpositive : input.amount ≤ 0
  · exact absurd h (by simp [hvalid, hother, hpositive, throw, throwThe, MonadExceptOf.throw])
  · exact ⟨hvalid, hother, lt_of_not_ge hpositive⟩

/-- A payment was submitted, and so answered. -/
def Submitted (tr : List WalletEvent) (reply : Except WalletError JsString) : Prop :=
  ∃ signedXdr network, ⟨.submitTransaction signedXdr network, reply⟩ ∈ tr

/-- A payment makes its calls one after the other, and ends with the answer to what it
    submitted. -/
theorem pay_sat {d : VellarWalletConfig} {input : PayInput}
    {C : List WalletEvent → Unit → WalletOp → Prop}
    {Q : List WalletEvent → Unit → Except WalletError JsString → Prop}
    (hC : ∀ tr o, Paying d input tr o → C tr () o)
    (hok : ∀ session tx signed signedXdr hash, Payable d session.accountId input →
      signedToXdr d (signed.orElse tx) = .ok signedXdr →
      Q (payTrace input session tx signed ++
        [⟨.submitTransaction signedXdr d.network, .ok hash⟩]) () (.ok hash))
    (herror : ∀ tr e, (∀ reply, Submitted tr reply → reply = .error e) → Q tr () (.error e)) :
    Sat awaitAll C Q (pay d input) [] () := by
  refine (sat_await_bind rfl _).mpr ⟨hC _ _ rfl, fun session => ?_, fun e => herror _ e ?_⟩
  swap
  · exact fun reply h => absurd h (by simp [Submitted])
  cases session with
  | none => exact herror _ _ (fun reply h => absurd h (by simp [Submitted]))
  | some session =>
      refine (sat_bind _ _ _ _).mpr (sat_lift_bind (fun u hassert => ?_) (fun e _ => herror _ e ?_))
      swap
      · exact fun reply h => absurd h (by simp [Submitted])
      have hpayable := payable_of_assertPayable hassert
      refine (sat_await_bind rfl _).mpr
        ⟨hC _ _ ⟨session, rfl, hpayable, rfl⟩, fun tx => ?_, fun e => herror _ e ?_⟩
      swap
      · exact fun reply h => absurd h (by simp [Submitted])
      -- The payment is built; what is left is its confirmation.
      refine (sat_await_bind rfl _).mpr ⟨hC _ _ ⟨session, hpayable, rfl⟩, fun signed => ?_,
        fun e => herror _ e ?_⟩
      swap
      · exact fun reply h => absurd h (by simp [Submitted])
      refine sat_lift_bind (fun signedXdr hxdr => ?_) (fun e _ => herror _ e ?_)
      swap
      · exact fun reply h => absurd h (by simp [Submitted])
      refine (sat_await rfl _).mpr
        ⟨hC _ _ ⟨session, tx, signed, hpayable, rfl, hxdr, rfl⟩, fun r => ?_⟩
      cases r with
      | ok hash => exact hok session tx signed signedXdr hash hpayable hxdr
      | error e =>
          refine herror _ e (fun reply h => ?_)
          obtain ⟨signedXdr', network, hmem⟩ := h
          simp only [List.mem_append, List.mem_cons, Event.mk.injEq,
            reduceCtorEq, false_and, or_self, List.not_mem_nil, false_or, or_false,
            WalletOp.submitTransaction.injEq] at hmem
          exact eq_of_heq hmem.2

end Wallet

end VellarSdk
