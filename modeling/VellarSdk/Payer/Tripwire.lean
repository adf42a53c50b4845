import VellarSdk.Async.Serial
import VellarSdk.X402.Types

/-!
# The Selection Tripwire

The payment is made by a client that selects among the options again, by itself. The
signer gives it a challenge of one option, remembers which, and has a hook of the client's
compare the option that is about to be signed with the one that it remembers: it has to be
the very same object.

What is remembered is one variable, shared by all calls of the signer. Whatever calls are
made at the same time, the scheme is asked to sign only what was the cleared option of a
call under way when the hook looked. A call that overlaps no other has only its own option
signed, and is not refused by the hook.

## Main definitions

* `ClearedChallenge`: A challenge whose options are objects.
* `X402Client`, `Documented`: The client, and what its documentation says of it.
* `tripwire`: The hook.
* `signPayment`: A call of the signer.
* `signer`: Any number of them, in any order.

## Theorems

* `signPayment_sat`: What a call does of itself.
* `last_expected`: What is remembered is what was last put there.
* `scheme_signs_expected`: Any order of calls signs only what some call had cleared.
* `serial_signs_own`: Calls that do not overlap sign their own option.
-/

namespace VellarSdk

namespace Payer

open Js X402 Async

variable {Obj : Type}

/-- `throw new SelectionMismatchError(message)`. To the payer it is an error of the
    signer's like any other. -/
def throwSelectionMismatch {α : Type} (message : JsString) : Except JsError α :=
  .error ⟨.foreign, message⟩

/-- A challenge as the signer is given it. Its options are objects, which are the same only
    if they are identical. -/
structure ClearedChallenge (Obj : Type) where
  challenge : JsValue
  accepts : List Obj

/-- What happens within a call of the signer: the variable is set, the hook is run, the
    registered scheme makes a payload, and whatever else the client waits for. -/
inductive SignerOp (Obj : Type) where
  | setExpected (current : Option Obj)
  | beforePaymentCreation (selectedRequirements : Obj)
  | createPaymentPayload (x402Version : JsValue) (selectedRequirements : Obj)
  | client (request : JsValue)

/-- What each returns. -/
@[reducible] def SignerOp.Ret : SignerOp Obj → Type
  | .setExpected _ | .beforePaymentCreation _ => Unit
  | .createPaymentPayload _ _ | .client _ => JsValue

/-- An async body of the signer or of its client. -/
abbrev Signing (Obj : Type) := Task (SignerOp Obj) SignerOp.Ret JsError

abbrev SigningEvent (Obj : Type) := Event (SignerOp Obj) SignerOp.Ret JsError

/-- The hook that `install` registers. -/
def tripwire [DecidableEq Obj] (expected : Option Obj) (selectedRequirements : Obj) :
    Except JsError Unit :=
  match expected with
  | none => throwSelectionMismatch
      "Payment creation began with no cleared requirement recorded; refusing to sign."
  | some current =>
      -- Identity, not equality.
      if selectedRequirements ≠ current then
        throwSelectionMismatch (js ("The x402 client selected a payment option other than the " ++
          "one the guards cleared; refusing to sign."))
      else .ok ()

theorem tripwire_eq_ok [DecidableEq Obj] {expected : Option Obj} {selected : Obj} :
    tripwire expected selected = .ok () ↔ expected = some selected := by
  cases expected with
  | none => simp only [tripwire, throwSelectionMismatch, reduceCtorEq]
  | some current =>
      by_cases h : selected = current
      · simp only [tripwire, h, ne_eq, not_true_eq_false, if_false]
      · simp only [tripwire, h, ne_eq, not_false_eq_true, if_true, throwSelectionMismatch,
          reduceCtorEq, Option.some.injEq, false_iff]
        exact fun hsame => h hsame.symm

/-- The variable is the signer's and the hook reads it. The client waits for the rest. -/
def signerHandler [DecidableEq Obj] :
    Handler (SignerOp Obj) SignerOp.Ret JsError (Option Obj) where
  exec
    | .setExpected current => some (fun _ => (.ok (), current))
    | .beforePaymentCreation selected =>
        some (fun expected => (tripwire expected selected, expected))
    | .createPaymentPayload _ _ | .client _ => none

/-- The client of the x402 package, with its scheme and the hook registered. -/
structure X402Client (Obj : Type) where
  createPaymentPayload : ClearedChallenge Obj → Signing Obj JsValue
  encodePaymentSignatureHeader : JsValue → Except JsError Headers

/-- What is documented of the client: the variable is out of its reach, and it asks a scheme
    for a payload only of what it has run the hook on, unless the hook has thrown. -/
structure X402Client.Documented (client : X402Client Obj) : Prop where
  confined : ∀ c, (client.createPaymentPayload c).OnlyCalls
    (fun o => ∀ current, o ≠ .setExpected current)
  hooked : ∀ c, Sat awaitAll (fun tr _ o => ∀ v r, o = .createPaymentPayload v r →
      (⟨.beforePaymentCreation r, .ok ()⟩ : SigningEvent Obj) ∈ tr) (fun _ _ _ => True)
    (client.createPaymentPayload c) [] ()

/-- It selects among the options it is given. -/
def X402Client.Selects (client : X402Client Obj) : Prop :=
  ∀ c, (client.createPaymentPayload c).OnlyCalls
    (fun o => ∀ r, o = .beforePaymentCreation r → r ∈ c.accepts)

/-- `expected.current = current`. -/
def setExpected (current : Option Obj) : Signing Obj Unit :=
  Task.perform (SignerOp.setExpected current)

/-- The payment of one cleared option. What was remembered is forgotten however it ends. -/
def signPaymentWith (client : X402Client Obj) (challenge : ClearedChallenge Obj) :
    Signing Obj Headers :=
  match challenge.accepts with
  | [cleared] => do
      setExpected (some cleared)
      let result ← Task.attempt (do
        let payload ← client.createPaymentPayload challenge
        client.encodePaymentSignatureHeader payload)
      setExpected none
      Task.ofExcept result
  | accepts => Task.ofExcept (throwSelectionMismatch
      (js "signPayment expects exactly one cleared payment option, got " ++
        natToString accepts.length ++ js "."))

abbrev Signer (Obj : Type) :=
  Pool (ClearedChallenge Obj) (SignerOp Obj) SignerOp.Ret JsError (Option Obj) Headers

/-- Any number of calls of a signer, in any order. -/
def signer [DecidableEq Obj] (client : X402Client Obj) :
    Machine (Signer Obj) (PoolEvent (ClearedChallenge Obj) (SignerOp Obj) SignerOp.Ret JsError) :=
  pool signerHandler (signPaymentWith client)

section Calls

variable {client : X402Client Obj} {c : ClearedChallenge Obj}

/-- Where the operations of a call stand among its own. -/
structure CallStage (client : X402Client Obj) (c : ClearedChallenge Obj)
    (tr : List (SigningEvent Obj)) (o : SignerOp Obj) : Prop where
  sets : ∀ r, o = .setExpected (some r) → c.accepts = [r]
  hooks : client.Selects → ∀ r, o = .beforePaymentCreation r → r ∈ c.accepts
  asks : ∀ v r, o = .createPaymentPayload v r → ⟨.beforePaymentCreation r, .ok ()⟩ ∈ tr

/-- The rule for a call, whoever answers its operations. -/
theorem signPaymentWith_rule {σ : Type} {H : Handler (SignerOp Obj) SignerOp.Ret JsError σ}
    {C : List (SigningEvent Obj) → σ → SignerOp Obj → Prop} {s : σ}
    (hset : ∀ cleared, c.accepts = [cleared] → C [] s (.setExpected (some cleared)))
    (hclient : ∀ cleared s₁, c.accepts = [cleared] →
      Answered H s (.setExpected (some cleared)) (.ok ()) s₁ →
      Sat H C (fun tr s _ => C tr s (.setExpected none)) (client.createPaymentPayload c)
        [⟨.setExpected (some cleared), .ok ()⟩] s₁) :
    Sat H C (fun _ _ _ => True) (signPaymentWith client c) [] s := by
  unfold signPaymentWith
  split
  · next cleared hone =>
    refine (sat_bind _ _ _ _).mpr ((sat_call _).mpr ⟨hset cleared hone, fun r s₁ hanswered => ?_⟩)
    cases r with
    | error e => trivial
    | ok _ =>
    refine (sat_bind _ _ _ _).mpr ((sat_attempt _ _ _).mpr ((sat_bind _ _ _ _).mpr ?_))
    refine (hclient cleared s₁ hone hanswered).imp (fun _ _ _ h => h) (fun tr s₂ r hforget => ?_)
    -- The header is made at once, and then the variable is cleared, whatever was thrown.
    have hlast : ∀ x : Except JsError Headers,
        Sat H C (fun _ _ _ => True) (setExpected none >>= fun _ => Task.ofExcept x) tr s₂ := by
      intro x
      refine (sat_bind _ _ _ _).mpr ((sat_call _).mpr ⟨hforget, fun r _ _ => ?_⟩)
      cases r with
      | error e => trivial
      | ok _ => trivial
    cases r with
    | error e => exact hlast (.error e)
    | ok payload => exact hlast (client.encodePaymentSignatureHeader payload)
  · trivial

/-- What a call does of itself. -/
theorem signPayment_sat (hclient : client.Documented) (c : ClearedChallenge Obj) :
    Sat awaitAll (fun tr _ o => CallStage client c tr o) (fun _ _ _ => True)
      (signPaymentWith client c) [] () := by
  have hset : ∀ tr current, (∀ r, current = some r → c.accepts = [r]) →
      CallStage client c tr (.setExpected current) := by
    intro tr current h
    refine ⟨fun r heq => h r (by injection heq), fun _ r heq => ?_, fun v r heq => ?_⟩
    · exact absurd heq (by simp only [reduceCtorEq, not_false_eq_true])
    · exact absurd heq (by simp only [reduceCtorEq, not_false_eq_true])
  refine signPaymentWith_rule (fun cleared hone => hset _ _ fun r h => ?_)
    (fun cleared _ hone _ => ?_)
  · rw [hone, Option.some.inj h]
  · refine sat_of_runs_after _ (fun tr _ o k hrun => ⟨fun r h => ?_, fun hselects r h => ?_,
      fun v r h => ?_⟩) (fun _ _ _ _ => hset _ _ fun r h => ?_)
    · exact absurd h ((onlyCalls_run (hclient.confined c) hrun).2.1 _)
    · exact (onlyCalls_run (hselects c) hrun).2.1 r h
    · exact List.mem_append_right _ ((hclient.hooked c).at_call hrun v r h)
    · exact absurd h (by simp only [reduceCtorEq, not_false_eq_true])

/-- By itself, a call has its hook run while its own option is remembered. -/
theorem hook_sat [DecidableEq Obj] (hclient : client.Documented) (c : ClearedChallenge Obj)
    (s : Option Obj) :
    Sat signerHandler (fun _ s o => ∀ r, o = .beforePaymentCreation r →
      ∃ cleared, c.accepts = [cleared] ∧ s = some cleared) (fun _ _ _ => True)
      (signPaymentWith client c) [] s := by
  refine signPaymentWith_rule (fun cleared hone r h => ?_) (fun cleared s₁ hone hanswered => ?_)
  · exact absurd h (by simp only [reduceCtorEq, not_false_eq_true])
  · -- The client cannot reach the variable, so it stays as the call has set it.
    have hkept : ∀ tr t' s₂, Run signerHandler (client.createPaymentPayload c) s₁ tr t' s₂ →
        s₂ = some cleared := by
      intro tr t' s₂ hrun
      have hsame := onlyCalls_state (fun o f s ho hf => ?_) (hclient.confined c) hrun
      · injection hanswered with _ hset
        rw [hsame, ← hset]
      · cases o with
        | setExpected current => exact absurd rfl (ho current)
        | beforePaymentCreation r => rw [← Option.some.inj hf]
        | _ => exact absurd hf (by simp only [signerHandler, reduceCtorEq, not_false_eq_true])
    exact sat_of_runs_after _ (fun tr s₂ o k hrun r _ => ⟨cleared, hone, hkept tr _ s₂ hrun⟩)
      (fun tr s₂ r _ r' h => absurd h (by simp only [reduceCtorEq, not_false_eq_true]))

/-- By itself, a call has only its own option signed. -/
theorem scheme_own [DecidableEq Obj] (hclient : client.Documented) {s s' : Option Obj}
    {tr : List (SigningEvent Obj)} {v : JsValue} {r : Obj}
    {k : Except JsError JsValue → Signing Obj Headers}
    (hrun : Run signerHandler (signPaymentWith client c) s tr (.call (.createPaymentPayload v r) k)
      s') : c.accepts = [r] := by
  obtain ⟨before, after, htr⟩ := List.append_of_mem
    (((signPayment_sat hclient c).at_call (run_awaitAll hrun)).asks v r rfl)
  obtain ⟨k', s₁, s₂, hfirst, hanswered, -⟩ := run_split hrun htr
  obtain ⟨cleared, hone, hs⟩ := (hook_sat hclient c s).at_call hfirst r rfl
  injection hanswered with hpassed _
  rw [hone, Option.some.inj (hs.symm.trans (tripwire_eq_ok.mp hpassed))]

end Calls

section Runs

variable [DecidableEq Obj] {client : X402Client Obj}
  {es : List (PoolEvent (ClearedChallenge Obj) (SignerOp Obj) SignerOp.Ret JsError)}
  {p : Signer Obj} {i : Nat} {c : ClearedChallenge Obj} {rest : Signing Obj Headers}

/-- What is remembered is what was last put there. -/
theorem last_expected {log : List (Nat × SigningEvent Obj)} {expected : Option Obj} {r : Obj}
    (h : Logged signerHandler none log expected) (hexpected : expected = some r) :
    ∃ before j between, log = before ++ (j, ⟨.setExpected (some r), .ok ()⟩) :: between ∧
      ∀ e ∈ between, ∀ current, e.2.op ≠ .setExpected current := by
  induction h with
  | nil => exact absurd hexpected (by simp only [reduceCtorEq, not_false_eq_true])
  | @snoc log s₁ s₂ i o reply h hanswered ih =>
      -- Only one operation puts anything there.
      have hother : s₁ = s₂ → (∀ current, o ≠ .setExpected current) →
          ∃ before j between, log ++ [(i, ⟨o, reply⟩)] =
            before ++ (j, ⟨.setExpected (some r), .ok ()⟩) :: between ∧
            ∀ e ∈ between, ∀ current, e.2.op ≠ .setExpected current := by
        intro hsame ho
        obtain ⟨before, j, between, rfl, hbetween⟩ := ih (hsame.trans hexpected)
        refine ⟨before, j, between ++ [(i, ⟨o, reply⟩)],
          by rw [List.append_assoc, List.cons_append], fun e he => ?_⟩
        rcases List.mem_append.mp he with he | he
        · exact hbetween e he
        · rw [List.mem_singleton.mp he]
          exact ho
      cases o with
      | setExpected current =>
          injection hanswered with hreply hset
          rw [← hreply, hset, hexpected]
          exact ⟨log, i, [], rfl, fun e he => absurd he List.not_mem_nil⟩
      | beforePaymentCreation selected =>
          injection hanswered with _ hsame
          exact hother hsame (fun _ => by simp only [ne_eq, reduceCtorEq, not_false_eq_true])
      | createPaymentPayload v selected | client request =>
          exact hother hanswered.symm
            (fun _ => by simp only [ne_eq, reduceCtorEq, not_false_eq_true])

/-- The hook let the option pass that a scheme is asked to sign. -/
theorem hook_before_scheme (hclient : client.Documented)
    (hrun : (signer client).run { shared := none } es = some p)
    (hcall : p.calls[i]? = some (c, rest)) {v : JsValue} {r : Obj}
    (hpending : rest.pending = some (.createPaymentPayload v r)) :
    ⟨.beforePaymentCreation r, .ok ()⟩ ∈ own i p.log :=
  ((inProgress_run hrun).at_call (signPayment_sat hclient c) hcall hpending).asks v r rfl

/-- Whatever calls are made at the same time: what a scheme is asked to sign had passed the
    hook while it was the one option of a call that was the last to have set it. -/
theorem scheme_signs_expected (client : X402Client Obj) (hclient : client.Documented)
    (es : List (PoolEvent (ClearedChallenge Obj) (SignerOp Obj) SignerOp.Ret JsError))
    (p : Signer Obj) (hrun : (signer client).run { shared := none } es = some p) (i : Nat)
    (c : ClearedChallenge Obj) (rest : Signing Obj Headers)
    (hcall : p.calls[i]? = some (c, rest)) (v : JsValue) (r : Obj)
    (hpending : rest.pending = some (.createPaymentPayload v r)) :
    ∃ before between after j c' rest', p.log = before ++
        (j, ⟨.setExpected (some r), .ok ()⟩) ::
          (between ++ (i, ⟨.beforePaymentCreation r, .ok ()⟩) :: after) ∧
      (∀ e ∈ between, ∀ current, e.2.op ≠ .setExpected current) ∧
      p.calls[j]? = some (c', rest') ∧ c'.accepts = [r] := by
  have hprogress := inProgress_run hrun
  have hhook := mem_own.mp (hook_before_scheme hclient hrun hcall hpending)
  obtain ⟨passed, after, hlog⟩ := List.append_of_mem hhook
  -- The hook passed, so the option was remembered at that point of the log.
  have hlogged := logged_run hrun
  rw [hlog] at hlogged
  obtain ⟨s₁, s₂, hbefore, hanswered, -⟩ := hlogged.at_event
  injection hanswered with hpassed _
  obtain ⟨before, j, between, rfl, hbetween⟩ :=
    last_expected hbefore (tripwire_eq_ok.mp hpassed)
  rw [List.append_assoc, List.cons_append] at hlog
  -- Who put it there was given it as its one option.
  obtain ⟨c', rest', hset, hstage⟩ := hprogress.at_event (signPayment_sat hclient) hlog
  exact ⟨before, between, after, j, c', rest', hlog, hbetween, hset, hstage.sets r rfl⟩

/-- Calls that do not overlap: a scheme is asked to sign the one option of the call itself,
    and a client that selects among the options is never refused. -/
theorem serial_signs_own (client : X402Client Obj) (hclient : client.Documented)
    (es : List (PoolEvent (ClearedChallenge Obj) (SignerOp Obj) SignerOp.Ret JsError))
    (p : Signer Obj) (hrun : (signer client).run { shared := none } es = some p)
    (hturns : (signer client).RunWhere OneAtATime { shared := none } es) (i : Nat)
    (c : ClearedChallenge Obj) (rest : Signing Obj Headers)
    (hcall : p.calls[i]? = some (c, rest)) :
    (∀ v r, rest.pending = some (.createPaymentPayload v r) → c.accepts = [r]) ∧
    (client.Selects → ∀ r reply, (i, ⟨.beforePaymentCreation r, reply⟩) ∈ p.log →
      reply = .ok ()) := by
  obtain ⟨between, hturn⟩ := inTurn_run hrun hturns
  have halone := hturn.alone i c rest hcall
  constructor
  · intro v r hpending
    obtain ⟨k, rfl⟩ := Task.eq_call_of_pending hpending
    exact scheme_own hclient halone
  · intro hselects r reply hmem
    obtain ⟨before, after, hown⟩ := List.append_of_mem (mem_own.mpr hmem)
    obtain ⟨k, s₁, s₂, hfirst, hanswered, -⟩ := run_split halone hown
    -- At its hook the call finds what it has put there itself, which is all it was given.
    obtain ⟨cleared, hone, hs⟩ := (hook_sat hclient c (between i)).at_call hfirst r rfl
    have hamong := ((signPayment_sat hclient c).at_call (run_awaitAll hfirst)).hooks hselects r rfl
    rw [hone, List.mem_singleton] at hamong
    injection hanswered with hreply _
    refine hreply.symm.trans ?_
    rw [hs, hamong]
    exact tripwire_eq_ok.mpr rfl

end Runs

section Sample

/-- A client that selects the first option. -/
def firstClient : X402Client Obj where
  createPaymentPayload challenge := match challenge.accepts with
    | [] => Task.ofExcept (throwPlain "No client registered for this challenge")
    | selected :: _ => do
        let _ : Unit ← Task.perform (SignerOp.beforePaymentCreation selected)
        Task.perform (SignerOp.createPaymentPayload (.num 2) selected)
  encodePaymentSignatureHeader _ := .ok [(js "payment-signature", js "signed")]

theorem firstClient_documented : (firstClient : X402Client Obj).Documented where
  confined c := by
    simp only [firstClient]
    split
    · trivial
    · refine onlyCalls_bind (onlyCalls_perform (fun _ => ?_)) (fun _ =>
        onlyCalls_perform (fun _ => ?_))
      · simp only [ne_eq, reduceCtorEq, not_false_eq_true]
      · simp only [ne_eq, reduceCtorEq, not_false_eq_true]
  hooked c := by
    simp only [firstClient]
    split
    · trivial
    · next selected _ _ =>
      refine (sat_await_bind rfl _).mpr ⟨fun v r h => ?_, fun _ => ?_, fun _ => trivial⟩
      · exact absurd h (by simp only [reduceCtorEq, not_false_eq_true])
      refine (sat_call _).mpr ⟨fun v r h => ?_, fun _ _ _ => trivial⟩
      injection h with _ h
      rw [h]
      exact List.mem_cons_self

theorem firstClient_selects : (firstClient : X402Client Obj).Selects := by
  intro c
  simp only [firstClient]
  split
  · trivial
  · next selected rest haccepts =>
    refine onlyCalls_bind (onlyCalls_perform (fun r h => ?_)) (fun _ =>
      onlyCalls_perform (fun r h => ?_))
    · injection h with h
      rw [haccepts, h]
      exact List.mem_cons_self
    · exact absurd h (by simp only [reduceCtorEq, not_false_eq_true])

/-- Two calls with an option each. The first is past its hook. -/
def sampleSigning :
    List (PoolEvent (ClearedChallenge Nat) (SignerOp Nat) SignerOp.Ret JsError) :=
  [.call ⟨.null, [7]⟩, .exec 0, .exec 0, .call ⟨.null, [8]⟩, .exec 1]

/-- What the first asks the scheme to sign is its option. -/
theorem scheme_signs_expected_sample : ∃ p v, ∃ c : ClearedChallenge Nat, ∃ rest,
    (signer firstClient).run { shared := none } sampleSigning = some p ∧
    p.calls[0]? = some (c, rest) ∧ rest.pending = some (.createPaymentPayload v 7) ∧
    ∃ j : Nat, ∃ c' : ClearedChallenge Nat, ∃ rest', p.calls[j]? = some (c', rest') ∧
      c'.accepts = [7] := by
  obtain ⟨p, hrun⟩ : ∃ p, (signer firstClient).run { shared := none } sampleSigning = some p :=
    ⟨_, rfl⟩
  have hp := hrun
  injection hp with hp
  have hcall : ∃ rest, p.calls[0]? = some (⟨.null, [7]⟩, rest) ∧
      rest.pending = some (.createPaymentPayload (.num 2) 7) := by
    rw [← hp]
    exact ⟨_, rfl, rfl⟩
  obtain ⟨rest, hcall, hpending⟩ := hcall
  obtain ⟨before, between, after, j, c', rest', -, -, hset, hone⟩ :=
    scheme_signs_expected firstClient firstClient_documented _ p hrun 0 _ rest hcall _ 7 hpending
  exact ⟨p, _, _, rest, hrun, hcall, hpending, j, c', rest', hset, hone⟩

/-- The scheme cannot sign. -/
def refusedScheme : (o : SignerOp Nat) → Except JsError o.Ret
  | .setExpected _ | .beforePaymentCreation _ => .ok ()
  | .createPaymentPayload _ _ | .client _ => throwPlain "not signed"

/-- Two calls one after the other, the first of which throws. The second is past its
    hook. -/
def serialSigning :
    List (PoolEvent (ClearedChallenge Nat) (SignerOp Nat) SignerOp.Ret JsError) :=
  [.call ⟨.null, [7]⟩, .exec 0, .exec 0, .reply 0 refusedScheme, .exec 0, .call ⟨.null, [8]⟩,
    .exec 1, .exec 1]

/-- What the second asks the scheme to sign is its own option, and its hook let it pass. -/
theorem serial_signs_own_sample : ∃ p e v, ∃ c first : ClearedChallenge Nat, ∃ rest reply,
    (signer firstClient).run { shared := none } serialSigning = some p ∧
    p.calls[0]? = some (first, .done (.error e)) ∧ p.calls[1]? = some (c, rest) ∧
    rest.pending = some (.createPaymentPayload v 8) ∧ c.accepts = [8] ∧
    (1, ⟨.beforePaymentCreation 8, reply⟩) ∈ p.log ∧ reply = .ok () := by
  have hturns : (signer firstClient).RunWhere OneAtATime { shared := none } serialSigning := by
    decide +kernel
  have hrun : ∃ p e rest reply, (signer firstClient).run { shared := none } serialSigning = some p ∧
      p.calls[0]? = some (⟨.null, [7]⟩, .done (.error e)) ∧
      p.calls[1]? = some (⟨.null, [8]⟩, rest) ∧
      rest.pending = some (.createPaymentPayload (.num 2) 8) ∧
      p.log.getLast? = some (1, ⟨.beforePaymentCreation 8, reply⟩) :=
    ⟨_, _, _, _, rfl, rfl, rfl, rfl, rfl⟩
  obtain ⟨p, e, rest, reply, hrun, hthrown, hcall, hpending, hlast⟩ := hrun
  have hhook := List.mem_of_getLast? hlast
  obtain ⟨hown, hlet⟩ :=
    serial_signs_own firstClient firstClient_documented _ p hrun hturns 1 _ rest hcall
  exact ⟨p, e, _, _, _, rest, reply, hrun, hthrown, hcall, hpending, hown _ _ hpending, hhook,
    hlet firstClient_selects 8 reply hhook⟩

end Sample

end Payer

end VellarSdk
