import VellarSdk.Async.Implement
import VellarSdk.Payer.Concurrent
import VellarSdk.Payer.SmartAccount
import VellarSdk.Payer.Tripwire
import VellarSdk.X402.Fetch

/-!
# The Payer with Its Signer

A payer that pays from a smart account is made of four programs, each of which calls the
next: the payer clears an option and has it signed, the signer hands it to the client of
the x402 package, the client asks the scheme for a payload, and the scheme has the wallet
sign the entries that an RPC returned. Here each is put in the place of the calls to it.

What was proved of them one by one holds together. Whatever payments and quotes are
requested, and whatever sellers, the client and the RPC answer, the wallet is asked to sign
only the transfer that the guards have cleared for a payment that was requested, on the
network of the payer, within its maximum and within what is left of the session.

## Main definitions

* `RunningOp`, `runningHandler`: The calls of all four, and what the program answers.
* `schemeBody`, `signerCall`, `payCall`: Each program in the place of the calls to it.
* `RunningPayer`, `runningPayer`: Any number of payments and quotes.
* `SchemeSigns`: What the scheme has the wallet sign.

## Theorems

* `createPaymentPayload_sat`: The scheme alone.
* `signing_sat`: The signer, its client and the scheme.
* `running_pay_sat`: All four.
* `wallet_signs_cleared`: What the wallet is asked to sign in any run.
-/

namespace VellarSdk

namespace Payer

open Js Stellar X402 Async

section Scheme

variable {d : SmartAccountSchemeDeps} {requirements : JsValue}

/-- What the scheme has the wallet sign, and on which terms: the passphrase is that of the
    network of the option, the entry is one of the simulation and calls the transfer of the
    option, and it expires as many ledgers after the latest as the option allows. -/
structure SchemeSigns (d : SmartAccountSchemeDeps) (requirements : JsValue)
    (tr : List BuildEvent) (entryXdr : JsString) (networkPassphrase : JsValue)
    (expirationLedger : JsNum) : Prop where
  passphrase : tableLookup networkPassphrases (requirements.field "network") =
    .ok networkPassphrase
  entry : ∃ amount args built entry, bigIntAmount (requirements.field "amount") = .ok amount ∧
    (⟨.build args, .ok (some built)⟩ : BuildEvent) ∈ tr ∧ entry ∈ built.auth.getD [] ∧
    SignsChecked d.sdk (transferOf requirements d.signerAddress amount) entry entryXdr
  expiration : ∃ sequence offset, (⟨.getLatestLedger, .ok sequence⟩ : BuildEvent) ∈ tr ∧
    expirationLedgersFor (requirements.field "maxTimeoutSeconds") = .ok offset ∧
    expirationLedger = offset.add sequence

/-- A call of the scheme, after it has done what is on the trace. Of its calls only the
    signature says anything; the others just read from the RPC. -/
def SchemeStage (d : SmartAccountSchemeDeps) (requirements : JsValue) (tr : List BuildEvent)
    (o : ClientOp) : Prop :=
  ∀ entryXdr networkPassphrase expirationLedger,
    o = .signAuthEntry entryXdr networkPassphrase expirationLedger →
    SchemeSigns d requirements tr entryXdr networkPassphrase expirationLedger

/-- What the scheme does, whatever the RPC and the wallet answer. Its body is followed from
    call to call, and the loop over the entries by the rule for it, whose invariant keeps
    the two answers that a signature refers to on the trace. -/
theorem createPaymentPayload_sat (d : SmartAccountSchemeDeps) (x402Version requirements : JsValue) :
    Sat buildHandler (fun tr _ o => SchemeStage d requirements tr o) (fun _ _ _ => True)
      (createPaymentPayload d x402Version requirements) [] () := by
  have hquiet : ∀ tr o, (∀ entryXdr p e, o ≠ .signAuthEntry entryXdr p e) →
      SchemeStage d requirements tr o :=
    fun tr o ho entryXdr p e h => absurd h (ho entryXdr p e)
  unfold createPaymentPayload
  refine sat_lift_bind (fun network hnetwork => ?_) (fun _ _ => trivial)
  refine sat_lift_bind (fun passphrase hpassphrase => ?_) (fun _ _ => trivial)
  rw [liftM_eq_ok] at hnetwork hpassphrase
  rw [(JsValue.prop_eq_ok hnetwork).2] at hpassphrase
  -- Without a passphrase, or for a fee that nobody sponsors, nothing is built.
  split
  · exact sat_lift_bind (fun _ _ => trivial) (fun _ _ => trivial)
  split
  · trivial
  refine sat_lift_bind (fun (args, amount) hargs => ?_) (fun _ _ => trivial)
  refine (sat_await_bind rfl _).mpr ⟨hquiet _ _ (by simp only [ne_eq, reduceCtorEq,
    not_false_eq_true, implies_true]), fun tx => ?_, fun _ => trivial⟩
  cases tx with
  | none => trivial
  | some built =>
      refine (sat_await_bind rfl _).mpr ⟨hquiet _ _ (by simp only [ne_eq, reduceCtorEq,
        not_false_eq_true, implies_true]), fun sequence => ?_, fun _ => trivial⟩
      refine sat_lift_bind (fun offset hoffset => ?_) (fun _ _ => trivial)
      -- From here on the trace only grows, and both answers are on it.
      refine (sat_bind _ _ _ _).mpr (signEntries_sat
        (I := fun tr => (⟨.build _, .ok (some built)⟩ : BuildEvent) ∈ tr ∧
          (⟨.getLatestLedger, .ok sequence⟩ : BuildEvent) ∈ tr)
        (fun tr e h _ => ⟨List.mem_append_left _ h.1, List.mem_append_left _ h.2⟩)
        (fun tr entry entryXdr h hentry hsigns xdr p e heq => ?_) (fun tr auth h => ?_)
        (fun _ _ => trivial) ⟨List.mem_append_left _ List.mem_cons_self,
          List.mem_append_right _ List.mem_cons_self⟩)
      · -- A signature: everything it needs was found on the way here.
        injection heq with hxdr hp he
        subst hxdr hp he
        exact ⟨hpassphrase, ⟨amount, _, built, entry, transferArgs_amount hargs, h.1, hentry,
          hsigns⟩, ⟨sequence, offset, h.2, hoffset, rfl⟩⟩
      · -- The second simulation signs nothing.
        refine (sat_await_bind rfl _).mpr ⟨hquiet _ _ (by simp only [ne_eq, reduceCtorEq,
          not_false_eq_true, implies_true]), fun simulation => ?_, fun _ => trivial⟩
        exact sat_lift_bind (fun _ _ => trivial) (fun _ _ => trivial)

end Scheme

section Programs

variable {Obj : Type}

/-- The objects that the options of a challenge are. The signer compares objects by
    identity, and what it finds of an object is its value. -/
structure Located (valueOf : Obj → JsValue) (challenge : JsValue) where
  accepts : List Obj
  located : challenge.field "accepts" = .arr (accepts.map valueOf)

/-- What the four programs call, other than each other. Which objects the options of a
    challenge are is for the runtime to say. -/
inductive RunningOp (valueOf : Obj → JsValue) where
  | pay (op : PayOp)
  | locate (challenge : JsValue)
  | setExpected (current : Option Obj)
  | beforePaymentCreation (selectedRequirements : Obj)
  | client (request : JsValue)
  | build (op : ClientOp)

/-- What each returns. -/
@[reducible] def RunningOp.Ret {valueOf : Obj → JsValue} : RunningOp valueOf → Type
  | .pay op => op.Ret
  | .locate challenge => Located valueOf challenge
  | .setExpected _ | .beforePaymentCreation _ => Unit
  | .client _ => JsValue
  | .build op => op.Ret

/-- A body of the programs together. -/
abbrev Running (valueOf : Obj → JsValue) :=
  Task (RunningOp valueOf) RunningOp.Ret JsError

abbrev RunningEvent (valueOf : Obj → JsValue) :=
  Event (RunningOp valueOf) RunningOp.Ret JsError

/-- The ledger answers the payer and the variable of the signer its hook. -/
def runningHandler [DecidableEq Obj] (valueOf : Obj → JsValue) :
    Handler (RunningOp valueOf) RunningOp.Ret JsError (SpendLedger × Option Obj) where
  exec
    | .pay op => (payHandler.exec op).map (fun f s => ((f s.1).1, ((f s.1).2, s.2)))
    | .setExpected current => some (fun s => (.ok (), (s.1, current)))
    | .beforePaymentCreation selected => some (fun s => (tripwire s.2 selected, s))
    | .locate _ | .client _ | .build _ => none

variable {valueOf : Obj → JsValue}

/-- The payload of the scheme for an option. -/
def schemeBody (scheme : SmartAccountSchemeDeps) (x402Version : JsValue) (selected : Obj) :
    Running valueOf JsValue := do
  let payload ← (createPaymentPayload scheme x402Version (valueOf selected)).implement
    (fun op => Task.perform (RunningOp.build op))
  return .obj [(js "x402Version", payload.1),
    (js "payload", .obj [(js "transaction", .str payload.2)])]

/-- The calls of the signer and of its client. -/
def signerCall (scheme : SmartAccountSchemeDeps) : (o : SignerOp Obj) → Running valueOf o.Ret
  | .setExpected current => Task.perform (RunningOp.setExpected current)
  | .beforePaymentCreation selected => Task.perform (RunningOp.beforePaymentCreation selected)
  | .createPaymentPayload x402Version selected => schemeBody scheme x402Version selected
  | .client request => Task.perform (RunningOp.client request)

/-- `signer.signPayment` of the smart-account signer. -/
def signPaymentBody (client : X402Client Obj) (scheme : SmartAccountSchemeDeps)
    (challenge : JsValue) : Running valueOf Headers := do
  let objects : Located valueOf challenge ← Task.perform (RunningOp.locate challenge)
  (signPaymentWith client ⟨challenge, objects.accepts⟩).implement (signerCall scheme)

/-- The calls of the payer. -/
def payCall (client : X402Client Obj) (scheme : SmartAccountSchemeDeps) :
    (o : PayOp) → Running valueOf o.Ret
  | .signPayment challenge => signPaymentBody client scheme challenge
  | .fetch url headers => Task.perform (RunningOp.pay (.fetch url headers))
  | .arrayBuffer res => Task.perform (RunningOp.pay (.arrayBuffer res))
  | .cancelBody res => Task.perform (RunningOp.pay (.cancelBody res))
  | .assertWithinCeiling asset amount =>
      Task.perform (RunningOp.pay (.assertWithinCeiling asset amount))
  | .record asset amount => Task.perform (RunningOp.pay (.record asset amount))
  | .remainingFor asset => Task.perform (RunningOp.pay (.remainingFor asset))

/-- A payment, with everything below it. -/
def runningPay (d : PayerDeps) (client : X402Client Obj) (scheme : SmartAccountSchemeDeps)
    (url maxAmount : JsString) : Running valueOf PayResult :=
  (payExclusively d url maxAmount).implement (payCall client scheme)

/-- A quote, likewise. -/
def runningQuote (d : PayerDeps) (client : X402Client Obj) (scheme : SmartAccountSchemeDeps)
    (url : JsString) : Running valueOf QuoteResult :=
  (quote d url).implement (payCall client scheme)

end Programs

section Rules

variable {Obj : Type} [DecidableEq Obj] {valueOf : Obj → JsValue}
  {C : List (RunningEvent valueOf) → SpendLedger × Option Obj → RunningOp valueOf → Prop}
  {client : X402Client Obj} {scheme : SmartAccountSchemeDeps}

/-- The calls of the scheme, as they stand on the trace of all four. -/
def Scheming (requirements : JsValue) (scheme : SmartAccountSchemeDeps)
    (tr : List (RunningEvent valueOf)) (o : ClientOp) : Prop :=
  ∃ own, SchemeStage scheme requirements own o ∧
    ∀ e ∈ own, (⟨.build e.op, e.reply⟩ : RunningEvent valueOf) ∈ tr

/-- The rule for the scheme: nothing of the program's state changes. The relation between
    the trace of the scheme and that of all four is that each of its events stands there
    too, under the name it has among their calls. -/
theorem scheme_sat {x402Version : JsValue} {selected : Obj} {s : SpendLedger × Option Obj}
    (before : List (RunningEvent valueOf))
    (hC : ∀ tr o, Scheming (valueOf selected) scheme (before ++ tr) o →
      C (before ++ tr) s (.build o)) :
    Sat (runningHandler valueOf) C (fun tr s' _ => before <+: tr ∧ s' = s)
      (schemeBody scheme x402Version selected) before s := by
  refine (sat_bind _ _ _ _).mpr ?_
  have hscheme := createPaymentPayload_sat scheme x402Version (valueOf selected)
  refine sat_implement (H := buildHandler)
    (S := fun own _ tr s' => s' = s ∧ before <+: tr ∧
      ∀ e ∈ own, (⟨.build e.op, e.reply⟩ : RunningEvent valueOf) ∈ tr)
    ?_ ?_ hscheme ⟨rfl, List.prefix_rfl, fun e he => absurd he List.not_mem_nil⟩
  · -- A call of the scheme: one event more on either trace.
    rintro own _ tr s' o ⟨rfl, ⟨rest, rfl⟩, hown⟩ hstage
    refine (sat_await rfl _).mpr ⟨hC rest o ⟨own, hstage, hown⟩, fun r => ⟨(), rfl, rfl, ?_, ?_⟩⟩
    · exact (List.prefix_append _ _).trans (List.prefix_append _ _)
    · intro e he
      rcases List.mem_append.mp he with he | he
      · exact List.mem_append_left _ (hown e he)
      · rw [List.mem_singleton.mp he]
        exact List.mem_append_right _ List.mem_cons_self
  · -- The end: the payload is wrapped, or the error passed on.
    rintro own _ tr s' r ⟨rfl, hbefore, -⟩ -
    cases r with
    | ok payload => exact ⟨hbefore, rfl⟩
    | error e => exact ⟨hbefore, rfl⟩

/-- The rule for the signer with its client and the scheme: what the scheme is asked for is
    the one option of the challenge, and the ledger is out of reach. -/
theorem signing_sat (hclient : client.Documented) {challenge : JsValue} {l : SpendLedger}
    {expected : Option Obj} (before : List (RunningEvent valueOf))
    (hquiet : ∀ tr s o, s.1 = l → (∀ op, o ≠ .build op) → C tr s o)
    (hC : ∀ tr s selected o, challenge.field "accepts" = .arr [valueOf selected] → s.1 = l →
      Scheming (valueOf selected) scheme (before ++ tr) o → C (before ++ tr) s (.build o)) :
    Sat (runningHandler valueOf) C (fun tr s _ => before <+: tr ∧ s.1 = l)
      (signPaymentBody client scheme challenge) before (l, expected) := by
  have hother : ∀ o : RunningOp valueOf, (∀ op, o ≠ .build op) → ∀ tr e, C tr (l, e) o :=
    fun o ho tr e => hquiet tr (l, e) o rfl ho
  refine (sat_await_bind rfl _).mpr ⟨hother _ (fun _ => by simp only [ne_eq, reduceCtorEq,
    not_false_eq_true]) _ _, fun objects => ?_, fun _ => ⟨List.prefix_append _ _, rfl⟩⟩
  -- The signer alone asks the scheme only for the option it was given.
  have hown : Sat signerHandler (fun _ _ o => ∀ v r, o = .createPaymentPayload v r →
      objects.accepts = [r]) (fun _ _ _ => True)
      (signPaymentWith client ⟨challenge, objects.accepts⟩) [] expected := by
    refine sat_of_runs (fun tr s o k hrun v r h => ?_) (fun _ _ _ _ => trivial)
    subst h
    exact scheme_own hclient hrun
  refine sat_implement (S := fun _ s tr s' => s' = (l, s) ∧ before <+: tr) ?_
    (fun _ _ _ s' _ hrel _ => ⟨hrel.2, by rw [hrel.1]⟩) hown ⟨rfl, List.prefix_append _ _⟩
  rintro own s tr s' o ⟨rfl, ⟨rest, rfl⟩⟩ hstage
  have hlater : ∀ e, before <+: before ++ rest ++ [e] :=
    fun e => (List.prefix_append _ _).trans (List.prefix_append _ _)
  cases o with
  | setExpected current =>
      -- The variable of the signer is set in both, and the ledger is not touched.
      refine (sat_call _).mpr ⟨hother _ (fun _ => by simp only [ne_eq, reduceCtorEq,
        not_false_eq_true]) _ _, fun r s₂ hanswered => ?_⟩
      injection hanswered with hreply hset
      exact ⟨current, by rw [← hreply]; rfl, hset.symm, hlater _⟩
  | beforePaymentCreation selected =>
      refine (sat_call _).mpr ⟨hother _ (fun _ => by simp only [ne_eq, reduceCtorEq,
        not_false_eq_true]) _ _, fun r s₂ hanswered => ?_⟩
      injection hanswered with hreply hsame
      exact ⟨s, by rw [← hreply]; rfl, hsame.symm, hlater _⟩
  | client request =>
      exact (sat_await rfl _).mpr ⟨hother _ (fun _ => by simp only [ne_eq, reduceCtorEq,
        not_false_eq_true]) _ _, fun r => ⟨s, rfl, rfl, hlater _⟩⟩
  | createPaymentPayload v selected =>
      -- The option asked for is the only one there is, so the rule for the scheme applies.
      have hone : challenge.field "accepts" = .arr [valueOf selected] := by
        rw [objects.located, hstage v selected rfl]
        rfl
      refine (scheme_sat (before ++ rest) (fun tr o hscheming => ?_)).imp (fun _ _ _ h => h)
        (fun tr s₂ r h => ⟨s, rfl, h.2, (List.prefix_append _ _).trans h.1⟩)
      rw [List.append_assoc] at hscheming ⊢
      exact hC (rest ++ tr) (l, s) selected o hone rfl hscheming

/-- What the wallet is asked to sign for a payment: the transfer of the option that was
    cleared in the challenge of its first response and fits the ceiling of the session. -/
def SignsCleared (d : PayerDeps) (scheme : SmartAccountSchemeDeps) (url maxAmount : JsString)
    (tr : List (RunningEvent valueOf)) (l : SpendLedger) (entryXdr : JsString)
    (networkPassphrase : JsValue) (expirationLedger : JsNum) : Prop :=
  ∃ order first own, Opened d url maxAmount first order ∧
    (⟨.pay (.fetch url none), .ok first⟩ : RunningEvent valueOf) ∈ tr ∧
    l.assertWithinCeiling order.asset order.amount = .ok () ∧
    SchemeSigns scheme order.chosen own entryXdr networkPassphrase expirationLedger ∧
    ∀ e ∈ own, (⟨.build e.op, e.reply⟩ : RunningEvent valueOf) ∈ tr

/-- A call of all four in a payment. As in the scheme, only the signature says anything. -/
def WalletStage (d : PayerDeps) (scheme : SmartAccountSchemeDeps) (url maxAmount : JsString)
    (tr : List (RunningEvent valueOf)) (s : SpendLedger × Option Obj) (o : RunningOp valueOf) :
    Prop :=
  ∀ entryXdr networkPassphrase expirationLedger,
    o = .build (.signAuthEntry entryXdr networkPassphrase expirationLedger) →
    SignsCleared d scheme url maxAmount tr s.1 entryXdr networkPassphrase expirationLedger

/-- How the payer's own calls stand on the trace of all four: each under its own name, but
    for the call of the signer, in whose place the signer's own calls are. -/
def Mirrored (tr : List PayEvent) (l : SpendLedger) (tr' : List (RunningEvent valueOf))
    (s : SpendLedger × Option Obj) : Prop :=
  s.1 = l ∧ ∀ e ∈ tr, (∃ c, e.op = .signPayment c) ∨
    (⟨.pay e.op, e.reply⟩ : RunningEvent valueOf) ∈ tr'

omit [DecidableEq Obj] in
/-- One call of the payer more, after which the trace of all four has grown. -/
theorem Mirrored.snoc {tr : List PayEvent} {l l' : SpendLedger}
    {tr' tr'' : List (RunningEvent valueOf)}
    {s s' : SpendLedger × Option Obj} {e : PayEvent} (h : Mirrored tr l tr' s) (hs : s'.1 = l')
    (hlater : tr' <+: tr'') (he : (∃ c, e.op = .signPayment c) ∨
      (⟨.pay e.op, e.reply⟩ : RunningEvent valueOf) ∈ tr'') :
    Mirrored (tr ++ [e]) l' tr'' s' := by
  refine ⟨hs, fun e' he' => ?_⟩
  rcases List.mem_append.mp he' with he' | he'
  · exact (h.2 e' he').imp id (fun hmem => hlater.subset hmem)
  · rw [List.mem_singleton.mp he']
    exact he

/-- The rule for the calls the payer makes itself: what answers them, and how, is the same
    as when the payer runs alone. -/
theorem pay_call_sat {tr : List PayEvent} {l : SpendLedger} {tr' : List (RunningEvent valueOf)}
    {s : SpendLedger × Option Obj} (op : PayOp) (hrel : Mirrored tr l tr' s)
    (hC : C tr' s (.pay op)) :
    Sat (runningHandler valueOf) C (fun tr'' s' r => ∃ l', Answered payHandler l op r l' ∧
      Mirrored (tr ++ [⟨op, r⟩]) l' tr'' s') (Task.perform (RunningOp.pay op)) tr' s := by
  have hmem : ∀ r, (⟨.pay op, r⟩ : RunningEvent valueOf) ∈ tr' ++ [⟨.pay op, r⟩] :=
    fun r => List.mem_append_right _ List.mem_cons_self
  refine (sat_call _).mpr ⟨hC, fun r s' hanswered => ⟨s'.1, ?_,
    hrel.snoc rfl (List.prefix_append _ _) (.inr (hmem r))⟩⟩
  -- The ledger answers as it does alone.
  unfold Answered at hanswered ⊢
  simp only [runningHandler] at hanswered
  cases hf : payHandler.exec op with
  | some f =>
      rw [hf] at hanswered
      injection hanswered with hreply hstate
      rw [← hrel.1, ← hreply, ← hstate]
  | none =>
      rw [hf] at hanswered
      exact (congrArg Prod.fst hanswered).trans hrel.1

/-- A payment with everything below it, from a ledger within its ceilings. What the payment
    does alone is known, so only the call of the signer is left to say something about. -/
theorem running_pay_sat (hclient : client.Documented) (d : PayerDeps) (url maxAmount : JsString)
    {ceilings : JsMap Int} (s : SpendLedger × Option Obj) (hs : LedgerGood ceilings s.1) :
    Sat (runningHandler valueOf)
      (fun tr s o => WalletStage d scheme url maxAmount tr s o ∧ LedgerGood ceilings s.1)
      (fun _ s _ => LedgerGood ceilings s.1)
      (runningPay d client scheme url maxAmount) [] s := by
  have hquiet : ∀ (tr : List (RunningEvent valueOf)) s o, (∀ op, o ≠ .build op) →
      WalletStage d scheme url maxAmount tr s o :=
    fun tr s o ho xdr p e h => absurd h (ho _)
  -- The payment alone keeps to its shapes, and the ledger to its ceilings.
  have halone : Sat payHandler
      (fun tr l op => Stage d url maxAmount s.1 tr l op ∧ LedgerGood ceilings l)
      (fun _ l _ => LedgerGood ceilings l) (payExclusively d url maxAmount) [] s.1 :=
    sat_of_runs
      (fun tr l op k hrun => ⟨(pay_sat d url maxAmount s.1).at_call hrun,
        payment_safe _ _ _ _ _ ⟨url, maxAmount, rfl⟩ hs hrun⟩)
      (fun tr l r hrun => payment_safe _ _ _ _ _ ⟨url, maxAmount, rfl⟩ hs hrun)
  refine sat_implement (S := Mirrored) ?_ (fun _ _ _ _ _ hrel hgood => by rwa [hrel.1]) halone
    ⟨rfl, fun e he => absurd he List.not_mem_nil⟩
  rintro tr l tr' s' op hrel ⟨hstage, hgood⟩
  cases op with
  | signPayment challenge =>
      -- The payer had cleared an order before it called the signer.
      obtain ⟨order, before, rfl, rfl, ⟨retries, hhistory, -⟩, htr⟩ := stage_sign hstage
      obtain ⟨first, discarded, hopened, hbefore⟩ := hhistory.opened
      obtain ⟨l', expected⟩ := s'
      obtain rfl : l' = s.1 := hrel.1
      -- The challenge was read from the response to the first request.
      have hfetch : (⟨.fetch url none, .ok first⟩ : PayEvent) ∈ tr := by
        rw [htr, hbefore, ← hopened.url]
        exact List.mem_append_left _ (List.mem_append_left _ List.mem_cons_self)
      have hfirst : (⟨.pay (.fetch url none), .ok first⟩ : RunningEvent valueOf) ∈ tr' := by
        rcases hrel.2 _ hfetch with ⟨c, hc⟩ | hmem
        · exact absurd hc (by simp only [reduceCtorEq, not_false_eq_true])
        · exact hmem
      refine (signing_sat hclient tr' (fun tr s₂ o hs₂ ho => ⟨hquiet tr s₂ o ho, hs₂ ▸ hs⟩)
        ?_).imp (fun _ _ _ h => h) ?_
      · intro later s₂ selected o haccepts hs₂ hscheming
        refine ⟨fun xdr p e heq => ?_, hs₂ ▸ hs⟩
        injection heq with heq
        subst heq
        obtain ⟨own, hstage, hown⟩ := hscheming
        -- The challenge was narrowed to the option that was cleared.
        have hselected : valueOf selected = order.chosen := by
          rw [Order.narrowed, narrowTo, JsValue.field_withField, JsValue.arr.injEq,
            List.singleton_inj] at haccepts
          exact haccepts.symm
        rw [hselected] at hstage
        rw [hs₂]
        exact ⟨order, first, own, hopened, List.mem_append_left _ hfirst, hhistory.within,
          hstage _ _ _ rfl, hown⟩
      · rintro tr'' s₂ r ⟨hlater, hledger⟩
        exact ⟨s.1, rfl, hrel.snoc hledger hlater (.inl ⟨_, rfl⟩)⟩
  | _ =>
      -- Every other call is made as it is.
      refine pay_call_sat _ hrel ⟨hquiet _ _ _ (fun _ => ?_), hrel.1 ▸ hgood⟩
      simp only [ne_eq, reduceCtorEq, not_false_eq_true]

end Rules

section Mutexes

variable {O : Type} {R : O → Type} {ε σ α : Type} {H : Handler O R ε σ}
  {Body : Task O R ε α → Prop} {Good : σ → Prop} {s : σ}

/-- A mutex whose sections keep to the invariant, and whose tail is the promise that was
    made last: the next section is chained to it. -/
structure GuardedMutex (H : Handler O R ε σ) (Body : Task O R ε α → Prop) (Good : σ → Prop)
    (m : Mutex O R ε α) (s : σ) : Prop where
  guarded : Guarded H Body Good m.heap s
  tail : m.heap.length = m.tail + 1

/-- A new mutex: its one promise is resolved, so no section waits and none runs. -/
theorem guardedMutex_create (h : Good s) : GuardedMutex H Body Good createMutex s := by
  have hget : ∀ (i : Nat) (c : Cell O R ε α),
      ([⟨0, .ignore, .settled⟩] : Heap O R ε α)[i]? = some c →
        i = 0 ∧ c = ⟨0, .ignore, .settled⟩ := by
    intro i c hc
    rw [List.getElem?_singleton] at hc
    split at hc
    · next hi => exact ⟨hi, (Option.some.inj hc).symm⟩
    · exact absurd hc (by simp only [reduceCtorEq, not_false_eq_true])
  refine ⟨⟨⟨rfl, fun i c hc => ?_, fun i c hc => ?_⟩, h, fun i c body hc hr => ?_,
    fun i c t hc ht => ?_⟩, rfl⟩
  · exact absurd (hget _ c hc).1 (Nat.succ_ne_zero i)
  · exact absurd (hget _ c hc).1 (Nat.succ_ne_zero i)
  · rw [(hget i c hc).2] at hr
    exact absurd hr (by simp only [reduceCtorEq, not_false_eq_true])
  · rw [(hget i c hc).2] at ht
    exact absurd ht (by simp only [reduceCtorEq, not_false_eq_true])

/-- A section joins the queue: two promises are made, that of the section and, behind it,
    the one that ignores how it ends. -/
theorem GuardedMutex.run {m : Mutex O R ε α} (h : GuardedMutex H Body Good m s)
    {fn : Task O R ε α} (hfn : Body fn) : GuardedMutex H Body Good (m.run fn) s := by
  have hsection := h.guarded.push (.run fn) (fun body hb => Reaction.run.inj hb ▸ hfn) h.tail
  refine ⟨hsection.push .ignore (fun body hb => absurd hb (by simp only [reduceCtorEq,
    not_false_eq_true])) ?_, ?_⟩
  · rw [List.length_append, List.length_singleton]
  · simp only [Mutex.run, List.length_append, List.length_singleton]

/-- A turn of the scheduler. -/
theorem GuardedMutex.turn {m : Mutex O R ε α} (h : GuardedMutex H Body Good m s)
    (hsafe : ∀ body s₀ tr t s, Body body → Good s₀ → Run H body s₀ tr t s → Good s)
    {turn : Turn O R ε} {heap : Heap O R ε α} {s' : σ}
    (hturn : m.heap.step H turn s = some (heap, s')) :
    GuardedMutex H Body Good { m with heap := heap } s' := by
  refine ⟨h.guarded.step hsafe hturn, ?_⟩
  -- No turn makes a promise, so the tail stays the last one.
  rcases step_cases hturn with ⟨i, c, status, -, -, rfl⟩
  exact List.length_set.trans h.tail

end Mutexes

section Runs

variable {Obj : Type} [DecidableEq Obj] {valueOf : Obj → JsValue} {d : PayerDeps}
  {client : X402Client Obj} {scheme : SmartAccountSchemeDeps} {ceilings : JsMap Int}

/-- A payer that runs: its ledger and the variable of its signer, its mutex, and the quotes
    under way. -/
structure RunningPayer (valueOf : Obj → JsValue) where
  shared : SpendLedger × Option Obj
  exclusive : Mutex (RunningOp valueOf) RunningOp.Ret JsError PayResult
  quotes : List (Running valueOf QuoteResult)

/-- What can happen to it. -/
inductive RunningAction (valueOf : Obj → JsValue) where
  | pay (url maxAmount : JsString)
  | quote (url : JsString)
  | turn (turn : Turn (RunningOp valueOf) RunningOp.Ret JsError)
  | answerQuote (i : Nat) (answer : (o : RunningOp valueOf) → Except JsError o.Ret)

/-- A payer that was just started, with these ceilings. -/
def startPayer (ceilings : JsMap Int) : RunningPayer valueOf :=
  { shared := (createSpendLedger ceilings, none), exclusive := createMutex, quotes := [] }

/-- Payments queue for the mutex, quotes start at once. -/
def runningPayer (d : PayerDeps) (client : X402Client Obj) (scheme : SmartAccountSchemeDeps) :
    Machine (RunningPayer valueOf) (RunningAction valueOf) where
  step p action := match action with
    | .pay url maxAmount =>
        some { p with exclusive := p.exclusive.run (runningPay d client scheme url maxAmount) }
    | .quote url =>
        let started := (runningQuote d client scheme url).advance (runningHandler valueOf) p.shared
        some { p with shared := started.2, quotes := p.quotes ++ [started.1] }
    | .turn turn => match p.exclusive.heap.step (runningHandler valueOf) turn p.shared with
      | some (heap, shared) =>
          some { p with shared := shared, exclusive := { p.exclusive with heap := heap } }
      | none => none
    | .answerQuote i answer => match p.quotes[i]? with
      | some (.call o k) =>
          let resumed := (k (answer o)).advance (runningHandler valueOf) p.shared
          some { p with shared := resumed.2, quotes := p.quotes.set i resumed.1 }
      | _ => none

/-- What the payments and the quotes under way wait for. -/
def RunningPayer.pendingCalls (p : RunningPayer valueOf) : List (RunningOp valueOf) :=
  p.exclusive.heap.filterMap (fun c => match c.status with
    | .running t => t.pending
    | .waiting | .settled => none) ++ p.quotes.filterMap (fun t => t.pending)

/-- A body that a request of the run has queued. -/
def IsRequested (d : PayerDeps) (client : X402Client Obj) (scheme : SmartAccountSchemeDeps)
    (es : List (RunningAction valueOf)) (body : Running valueOf PayResult) : Prop :=
  ∃ url maxAmount, .pay url maxAmount ∈ es ∧ body = runningPay d client scheme url maxAmount

/-- What a quote calls, other than which it does nothing: the neutral calls of the payer,
    and none of the signer's, the client's or the scheme's. -/
def RunningOp.Neutral : RunningOp valueOf → Prop
  | .pay op => op.Neutral
  | _ => False

/-- What holds of a running payer throughout: each section of its mutex is a payment that
    was requested and keeps the ledger within the ceilings, and each quote does nothing
    but what a quote may. -/
structure RunningInvariant (d : PayerDeps) (client : X402Client Obj)
    (scheme : SmartAccountSchemeDeps) (ceilings : JsMap Int) (es : List (RunningAction valueOf))
    (p : RunningPayer valueOf) : Prop where
  payments : GuardedMutex (runningHandler valueOf) (IsRequested d client scheme es)
    (fun s => LedgerGood ceilings s.1) p.exclusive p.shared
  quotes : ∀ t ∈ p.quotes, t.OnlyCalls RunningOp.Neutral

/-- A neutral call leaves both the ledger and the variable of the signer alone. -/
theorem running_neutral_keeps (o : RunningOp valueOf)
    (f : SpendLedger × Option Obj → Except JsError o.Ret × (SpendLedger × Option Obj))
    (s : SpendLedger × Option Obj) (h : o.Neutral) (hf : (runningHandler valueOf).exec o = some f) :
    (f s).2 = s := by
  cases o with
  | pay op =>
      obtain ⟨g, hg, rfl⟩ := Option.map_eq_some_iff.mp hf
      exact Prod.ext (neutral_keeps op g s.1 h hg) rfl
  | _ => exact absurd h not_false

omit [DecidableEq Obj] in
/-- A quote does nothing but what it does alone. -/
theorem runningQuote_neutral (url : JsString) :
    (runningQuote d client scheme url : Running valueOf QuoteResult).OnlyCalls
      RunningOp.Neutral := by
  refine onlyCalls_implement (fun op hop => ?_) (quote_neutral d url)
  cases op with
  | signPayment challenge | record asset amount => exact absurd hop not_false
  | _ => exact onlyCalls_perform hop

/-- A payment alone keeps the ledger within its ceilings. -/
theorem running_pay_safe (hclient : client.Documented) {es : List (RunningAction valueOf)}
    (body : Running valueOf PayResult) (s : SpendLedger × Option Obj)
    (tr : List (RunningEvent valueOf)) (t : Running valueOf PayResult)
    (s' : SpendLedger × Option Obj) (hbody : IsRequested d client scheme es body)
    (hs : LedgerGood ceilings s.1) (hrun : Run (runningHandler valueOf) body s tr t s') :
    LedgerGood ceilings s'.1 := by
  obtain ⟨url, maxAmount, -, rfl⟩ := hbody
  cases t with
  | call o k => exact ((running_pay_sat hclient d url maxAmount s hs).at_call hrun).2
  | done r => exact (running_pay_sat hclient d url maxAmount s hs).at_done hrun

/-- Whatever happens next, the invariant is kept. -/
theorem runningInvariant_step (hclient : client.Documented) {es : List (RunningAction valueOf)}
    {p p' : RunningPayer valueOf} {action : RunningAction valueOf}
    (h : RunningInvariant d client scheme ceilings es p) (haction : action ∈ es)
    (hstep : (runningPayer d client scheme).step p action = some p') :
    RunningInvariant d client scheme ceilings es p' := by
  -- What does not touch the state leaves the payments alone.
  have hquote : ∀ (t : Running valueOf QuoteResult), t.OnlyCalls RunningOp.Neutral →
      (t.advance (runningHandler valueOf) p.shared).2 = p.shared ∧
      (t.advance (runningHandler valueOf) p.shared).1.OnlyCalls RunningOp.Neutral := by
    intro t ht
    obtain ⟨tr, hrun⟩ := run_advance (runningHandler valueOf) t p.shared
    exact ⟨onlyCalls_state running_neutral_keeps ht hrun, (onlyCalls_run ht hrun).2⟩
  cases action with
  | pay url maxAmount =>
      rw [← Option.some.inj hstep]
      exact ⟨h.payments.run ⟨url, maxAmount, haction, rfl⟩, h.quotes⟩
  | quote url =>
      obtain ⟨hsame, hcalls⟩ := hquote _ (runningQuote_neutral url)
      rw [← Option.some.inj hstep]
      refine ⟨?_, fun t ht => ?_⟩
      · rw [hsame]
        exact h.payments
      · rcases List.mem_append.mp ht with ht | ht
        · exact h.quotes t ht
        · rwa [List.mem_singleton.mp ht]
  | turn turn =>
      -- Here payments move on: the mutex says that one of them moved alone.
      simp only [runningPayer] at hstep
      split at hstep
      · next heap shared hturn =>
          rw [← Option.some.inj hstep]
          exact ⟨h.payments.turn (running_pay_safe hclient) hturn, h.quotes⟩
      · exact absurd hstep (by simp only [reduceCtorEq, not_false_eq_true])
  | answerQuote i answer =>
      simp only [runningPayer] at hstep
      split at hstep
      · next o k hget =>
          obtain ⟨hsame, hcalls⟩ :=
            hquote _ ((h.quotes _ (List.mem_of_getElem? hget)).2 (answer o))
          rw [← Option.some.inj hstep]
          refine ⟨?_, fun t ht => ?_⟩
          · rw [hsame]
            exact h.payments
          · rcases List.mem_or_eq_of_mem_set ht with ht | rfl
            · exact h.quotes t ht
            · exact hcalls
      · exact absurd hstep (by simp only [reduceCtorEq, not_false_eq_true])

/-- So it holds in every state that a payer reaches from its start. -/
theorem runningInvariant_run (hclient : client.Documented) {es : List (RunningAction valueOf)}
    {p : RunningPayer valueOf}
    (hrun : (runningPayer d client scheme).run (startPayer ceilings) es = some p) :
    RunningInvariant d client scheme ceilings es p :=
  Machine.run_invariant (P := fun _ action => action ∈ es)
    (fun _ _ _ h haction hstep => runningInvariant_step hclient h haction hstep)
    ⟨guardedMutex_create ⟨rfl, within_create ceilings⟩, fun _ ht => absurd ht List.not_mem_nil⟩
    (Machine.runWhere_of_forall_mem (fun _ h _ => h)) hrun

omit [DecidableEq Obj] in
/-- A quote waits for nothing that is signed. -/
theorem quote_not_signing {t : Running valueOf QuoteResult} (h : t.OnlyCalls RunningOp.Neutral)
    {op : ClientOp} : t.pending ≠ some (.build op) := by
  intro hpending
  obtain ⟨k, rfl⟩ := Task.eq_call_of_pending hpending
  exact absurd h.1 not_false

/-- What is signed is pending in a payment under way, which got there alone. -/
theorem signing_payment {es : List (RunningAction valueOf)} {p : RunningPayer valueOf}
    (h : RunningInvariant d client scheme ceilings es p) {op : ClientOp}
    (hpending : .build op ∈ p.pendingCalls) :
    ∃ url maxAmount s tr k, .pay url maxAmount ∈ es ∧ LedgerGood ceilings s.1 ∧
      Run (runningHandler valueOf) (runningPay d client scheme url maxAmount) s tr
        (.call (.build op) k) p.shared := by
  rcases List.mem_append.mp hpending with hmem | hmem
  · obtain ⟨cell, hcell, hcall⟩ := List.mem_filterMap.mp hmem
    obtain ⟨i, hi⟩ := List.mem_iff_getElem?.mp hcell
    split at hcall
    · next t hstatus =>
      obtain ⟨-, body, s, tr, ⟨url, maxAmount, hasked, rfl⟩, hs, hrun⟩ :=
        h.payments.guarded.alone i cell t hi hstatus
      obtain ⟨k, rfl⟩ := Task.eq_call_of_pending hcall
      exact ⟨url, maxAmount, s, tr, k, hasked, hs, hrun⟩
    · exact absurd hcall (by simp only [reduceCtorEq, not_false_eq_true])
    · exact absurd hcall (by simp only [reduceCtorEq, not_false_eq_true])
  · obtain ⟨t, ht, hcall⟩ := List.mem_filterMap.mp hmem
    exact absurd hcall (quote_not_signing (h.quotes t ht))

/-- The entry that the wallet is asked to sign, and what was cleared for it: the option, the
    room that the session has left, the network, and a call of the transfer whose amount
    argument the sdk reads as the amount that was cleared. -/
structure ClearedSignature (d : PayerDeps) (scheme : SmartAccountSchemeDeps) (ceilings : JsMap Int)
    (maxAmount : JsString) (first : Response) (l : SpendLedger) (chosen : JsValue) (amount : Int)
    (entryXdr : JsString) (networkPassphrase : JsValue) : Prop where
  option : ∃ challenge max, challengeOf d.parse first = .ok challenge ∧
    parseAmount maxAmount = .ok max ∧ ClearedOption d.config challenge max chosen amount
  session : ∃ cap, ceilings.get (chosen.field "asset") = some cap ∧
    0 ≤ l.spentFor (chosen.field "asset") ∧ l.spentFor (chosen.field "asset") + amount ≤ cap
  network : tableLookup networkPassphrases (.str d.config.caip2) = .ok networkPassphrase
  transfer : ∃ entry value, scheme.sdk.entryToXdr entry = .ok entryXdr ∧
    CallsWith scheme.sdk (transferOf chosen scheme.signerAddress amount) entry value ∧
    amountOf scheme.sdk value = .ok amount

/-- What the guards read as an amount the scheme reads as the same. -/
theorem bigIntAmount_of_parseAmount {v : JsValue} {amount n : Int} (h : parseAmount v = .ok n)
    (h' : bigIntAmount v = .ok amount) : amount = n := by
  obtain ⟨text, rfl, hdigits, -⟩ := parseAmount_eq_ok.mp h
  rw [parseAmount, if_pos hdigits] at h
  exact Except.ok.inj (h'.symm.trans h)

/-- Whatever is requested of a running payer, and whatever the sellers, the client, the RPC
    and the wallet answer: the wallet is only asked to sign the transfer of an option that
    was cleared for a payment that was requested, in the challenge of its first response,
    within its maximum and within what the session has left. -/
theorem wallet_signs_cleared (d : PayerDeps) (client : X402Client Obj)
    (hclient : client.Documented) (scheme : SmartAccountSchemeDeps) (ceilings : JsMap Int)
    (es : List (RunningAction valueOf)) (p : RunningPayer valueOf)
    (hrun : (runningPayer d client scheme).run (startPayer ceilings) es = some p)
    (entryXdr : JsString) (networkPassphrase : JsValue) (expirationLedger : JsNum)
    (hpending : .build (.signAuthEntry entryXdr networkPassphrase expirationLedger) ∈
      p.pendingCalls) :
    ∃ url maxAmount s tr k first chosen amount, .pay url maxAmount ∈ es ∧
      Run (runningHandler valueOf) (runningPay d client scheme url maxAmount) s tr
        (.call (.build (.signAuthEntry entryXdr networkPassphrase expirationLedger)) k) p.shared ∧
      (⟨.pay (.fetch url none), .ok first⟩ : RunningEvent valueOf) ∈ tr ∧
      ClearedSignature d scheme ceilings maxAmount first p.shared.1 chosen amount entryXdr
        networkPassphrase := by
  obtain ⟨url, maxAmount, s, tr, k, hasked, hs, hbody⟩ :=
    signing_payment (runningInvariant_run hclient hrun) hpending
  obtain ⟨hstage, hgood⟩ := (running_pay_sat hclient d url maxAmount s hs).at_call hbody
  obtain ⟨order, first, own, hopened, hfirst, hwithin, hsigns, -⟩ := hstage _ _ _ rfl
  obtain ⟨max, hmax, hcleared⟩ := hopened.cleared
  have hoption := clearOneOption_spec hcleared
  refine ⟨url, maxAmount, s, tr, k, first, order.chosen, order.amount, hasked, hbody, hfirst,
    ⟨order.challenge, max, hopened.challenge, hmax, hoption⟩, ?_, ?_, ?_⟩
  · -- The ledger had room, and its ceilings are those the payer was started with.
    obtain ⟨cap, hcap, hle⟩ := SpendLedger.assertWithinCeiling_eq_ok.mp hwithin
    rw [hgood.1] at hcap
    exact ⟨cap, hcap, (within_spentFor hgood.2 _).1, hle⟩
  · -- The option is on the network of the payer, so its passphrase is the payer's.
    have hnetwork := hsigns.passphrase
    rwa [hoption.eligible.network] at hnetwork
  · -- The scheme reads the amount a second time, and reads what the guards have read.
    obtain ⟨amount, args, built, entry, hamount, -, -, hentry, hxdr⟩ := hsigns.entry
    obtain rfl := bigIntAmount_of_parseAmount hoption.parsed hamount
    obtain ⟨value, hcalls, hvalue⟩ := assertAuthEntryInvocation_eq_ok.mp hentry
    exact ⟨entry, value, hxdr, hcalls, hvalue⟩

end Runs

section Sample

/-- The challenge of a seller of the sample option, and what it parses to. -/
def runningChallenge : JsonParse := fun text =>
  if text = js "challenge" then
    .ok (.obj [(js "x402Version", .num 2), (js "accepts", .arr [sampleRequirement])])
  else .error "Unexpected token"

/-- A payer on the test network with that asset on its list. -/
def runningDeps : PayerDeps :=
  { parse := runningChallenge
    config := { network := "testnet", caip2 := "stellar:testnet"
                allowedAssets := [sampleAddress 0], maxResponseBytes := 1000 }
    signerAddress := sampleAddress 1 }

/-- Where there is one object, the option of a challenge is that object if it has the
    fields. -/
def sampleLocate (challenge : JsValue) :
    Except JsError (Located (fun _ : Unit => sampleRequirement) challenge) :=
  match h : challenge.field "accepts" with
  | .arr [.obj [(k₁, .str scheme), (k₂, .str network), (k₃, .str asset), (k₄, .str payTo),
      (k₅, .str amount), (k₆, .num timeout), (k₇, .obj [(k₈, .bool true)])]] =>
      if hsame : [k₁, scheme, k₂, network, k₃, asset, k₄, payTo, k₅, amount, k₆, k₇, k₈] =
          [js "scheme", js "exact", js "network", js "stellar:testnet", js "asset",
            sampleAddress 0, js "payTo", sampleAddress 2, js "amount", js "100",
            js "maxTimeoutSeconds", js "extra", js "areFeesSponsored"] ∧ timeout = 60 then
        .ok ⟨[()], by
          simp only [List.cons.injEq, and_true, and_assoc] at hsame
          obtain ⟨rfl, rfl, rfl, rfl, rfl, rfl, rfl, rfl, rfl, rfl, rfl, rfl, rfl, rfl⟩ := hsame
          exact h⟩
      else throwPlain "not located"
  | _ => throwPlain "not located"

/-- A seller that asks for the payment, and an RPC that simulates it. -/
def runningAnswer : (o : RunningOp (fun _ : Unit => sampleRequirement)) → Except JsError o.Ret
  | .pay (.fetch _ _) => .ok
      { status := 402
        headers := [(js "payment-required", btoa (TextEncoder.encode (js "challenge")))] }
  | .pay (.arrayBuffer _) => .ok []
  | .pay (.cancelBody _) => .ok ()
  | .pay (.signPayment _) => .ok []
  | .pay (.assertWithinCeiling _ _) => .ok ()
  | .pay (.record _ _) => .ok ()
  | .pay (.remainingFor _) => .ok 0
  | .locate challenge => sampleLocate challenge
  | .setExpected _ => .ok ()
  | .beforePaymentCreation _ => .ok ()
  | .client _ => .ok .undefined
  | .build op => rpcAnswer [7] op

/-- A payment, up to its signature, and a quote. -/
def runningEvents : List (RunningAction (fun _ : Unit => sampleRequirement)) :=
  [.pay "https://a" "500", .quote "https://b", .turn (.fire 1)] ++
    List.replicate 5 (.turn (.reply 1 runningAnswer))

def runningSample :=
  (runningPayer runningDeps firstClient sampleScheme).run
    (startPayer [(.str (sampleAddress 0), 1000)]) runningEvents

/-- Does it ask the wallet to sign? -/
def RunningOp.signs {Obj : Type} {valueOf : Obj → JsValue} : RunningOp valueOf → Bool
  | .build (.signAuthEntry _ _ _) => true
  | _ => false

/-- In that run the wallet is asked to sign what was cleared. -/
theorem wallet_signs_cleared_sample : ∃ p url maxAmount first chosen amount entryXdr
    networkPassphrase, runningSample = some p ∧ .pay url maxAmount ∈ runningEvents ∧
    ClearedSignature runningDeps sampleScheme [(.str (sampleAddress 0), 1000)] maxAmount first
      p.shared.1 chosen amount entryXdr networkPassphrase := by
  have hsome : runningSample.any (fun p => p.pendingCalls.any RunningOp.signs) = true := by
    decide +kernel
  obtain ⟨p, hrun, hsigns⟩ := (Option.any_eq_true _ _).mp hsome
  obtain ⟨o, hmem, ho⟩ := List.any_eq_true.mp hsigns
  -- The only call that counts is one of the wallet.
  unfold RunningOp.signs at ho
  split at ho
  · next entryXdr networkPassphrase expirationLedger =>
      obtain ⟨url, maxAmount, s, tr, k, first, chosen, amount, hasked, -, -, hcleared⟩ :=
        wallet_signs_cleared runningDeps firstClient firstClient_documented sampleScheme _ _ p
          hrun _ _ _ hmem
      exact ⟨p, url, maxAmount, first, chosen, amount, _, _, hrun, hasked, hcleared⟩
  · exact absurd ho Bool.false_ne_true

end Sample

end Payer

end VellarSdk
