import VellarSdk.Wallet.Delivery

/-!
# A Wallet in an Outage

All calls of a wallet share one breaker. What was proved of a breaker is about calls that
are let through and told how they ended, and a wallet does many other things between the
two: it asks the passkey, it builds transactions, and it waits for the facilitator. Here
the breaker of a wallet is shown to be a breaker of that kind. In every run of a wallet it
is what some run of a breaker alone makes of it, and the calls that this breaker has under
way are the calls of the wallet that were let through and have not ended.

So a wallet recovers from an outage by itself: however its calls overlapped while the
facilitator was down, once none of them is under way and the cooldown is over, the next
one is let through. Until then a payment fails at once, and its caller is told why.

## Main definitions

* `Guards`: The breaker of a wallet as one of its own.
* `Sends`: What becomes of the calls of a wallet.

## Theorems

* `guards_step`: What a step of a wallet keeps.
* `breaker_refines`: The breaker of a wallet is a breaker of its calls.
* `wallet_recovers`: A wallet that has nothing under way recovers.
* `pay_sends`: A payment calls the backend once.
* `refused_pay_unsent`: A payment that was refused sends nothing.
-/

namespace VellarSdk

namespace Wallet

open Js Async X402 Breaker

/-- A run of a breaker has come to the breaker of a wallet, and it has under way what the
    wallet has. -/
structure Guards (f : FacilitatorConfig) (clock : ℚ) (p : FacilitatedWallet)
    (actions : List BreakerAction) (s : Overlap) (calls : List Nat) : Prop where
  run : (overlapping f.options).run { clock := clock } actions = some s
  breaker : s.breaker = p.shared.breaker
  length : calls.length = s.inFlight.length
  nodup : calls.Nodup
  mem : ∀ i, i ∈ calls ↔ underWay (own i p.log) = true

section Runs

variable {d : VellarWalletConfig} {f : FacilitatorConfig} {clock : ℚ} {p p' : FacilitatedWallet}
  {actions : List BreakerAction} {s : Overlap} {calls : List Nat}

theorem guards_start (f : FacilitatorConfig) (clock : ℚ) :
    Guards f clock (createFacilitated clock) [] { clock := clock } [] where
  run := rfl
  breaker := rfl
  length := rfl
  nodup := List.nodup_nil
  mem i := by simp [createFacilitated, own, underWay]

/-- A step of a breaker after a run. -/
theorem run_snoc (h : (overlapping f.options).run { clock := clock } actions = some s)
    {a : BreakerAction} {s' : Overlap} (ha : (overlapping f.options).step s a = some s') :
    (overlapping f.options).run { clock := clock } (actions ++ [a]) = some s' := by
  refine Machine.run_append.mpr ⟨s, h, ?_⟩
  simp only [Machine.run, ha]

/-- What one call of the wallet does says nothing of the others. -/
theorem underWay_own (i j : Nat) (log : List (Nat × FacilitatorEvent)) (e : FacilitatorEvent) :
    underWay (own j (log ++ [(i, e)])) =
      if i = j then underWay (own i log ++ [e]) else underWay (own j log) := by
  rw [own_append]
  by_cases hij : i = j
  · subst hij
    rw [own_self, if_pos rfl]
  · rw [own_other hij, List.append_nil, if_neg hij]

/-- What is neither let through nor told how it ended does not concern the breaker. -/
theorem guards_aside (h : Guards f clock p actions s calls) {i : Nat} {e : FacilitatorEvent}
    (he : underWay (own i p.log ++ [e]) = underWay (own i p.log))
    (hlog : p'.log = p.log ++ [(i, e)]) (hbreaker : p'.shared.breaker = p.shared.breaker) :
    Guards f clock p' actions s calls where
  run := h.run
  breaker := h.breaker.trans hbreaker.symm
  length := h.length
  nodup := h.nodup
  mem j := by
    rw [h.mem, hlog, underWay_own]
    by_cases hij : i = j
    · subst hij
      rw [if_pos rfl, he]
    · rw [if_neg hij]

/-- A call that asks to be let through is under way when it was. -/
theorem guards_execute (h : Guards f clock p actions s calls) {i : Nat}
    {r : Except WalletError Unit} (hidle : underWay (own i p.log) = false)
    (hanswered : Answered (facilitatorHandler f) p.shared .execute r p'.shared)
    (hlog : p'.log = p.log ++ [(i, ⟨.execute, r⟩)]) :
    ∃ calls', Guards f clock p' (actions ++ [.execute p.shared.clock])
      (s.execute f.options p.shared.clock) calls' := by
  injection hanswered with hreply hstate
  have hrun := run_snoc (a := .execute p.shared.clock) h.run rfl
  have hbreaker : (s.execute f.options p.shared.clock).breaker = p'.shared.breaker := by
    rw [← hstate, Overlap.execute, h.breaker]
  -- Nothing of it was under way, so it is a new one.
  have hnot : i ∉ calls := by
    rw [h.mem, hidle]
    exact Bool.false_ne_true
  cases hresult : (p.shared.breaker.execute f.options p.shared.clock).2 with
  | ok through =>
      rw [hresult] at hreply
      subst hreply
      refine ⟨calls ++ [i], hrun, hbreaker, ?_, ?_, fun j => ?_⟩
      · simp [Overlap.execute, h.breaker, hresult, h.length]
      · rw [List.nodup_append]
        refine ⟨h.nodup, List.nodup_singleton i, fun a ha b hb hab => hnot ?_⟩
        rw [← List.mem_singleton.mp hb, ← hab]
        exact ha
      · rw [hlog, underWay_own, List.mem_append, List.mem_singleton, h.mem]
        by_cases hij : i = j
        · simp [hij, underWay_append, Except.mapError]
        · simp [hij, Ne.symm hij]
  | error refusal =>
      rw [hresult] at hreply
      subst hreply
      -- A refusal puts nothing under way.
      refine ⟨calls, hrun, hbreaker, ?_, h.nodup, fun j => ?_⟩
      · simp [Overlap.execute, h.breaker, hresult, h.length]
      · rw [hlog, underWay_own, h.mem]
        by_cases hij : i = j
        · simp [hij, underWay_append, Except.mapError]
        · simp [hij]

/-- A call whose end was told is the one of its place among those under way. -/
theorem guards_settle (h : Guards f clock p actions s calls) {i : Nat} {outcome : Outcome}
    {r : Except WalletError Unit} (hunder : underWay (own i p.log) = true)
    (hanswered : Answered (facilitatorHandler f) p.shared (.settle outcome) r p'.shared)
    (hlog : p'.log = p.log ++ [(i, ⟨.settle outcome, r⟩)]) :
    Guards f clock p' (actions ++ [.settle (calls.idxOf i) outcome p.shared.clock])
      (s.settle f.options (calls.idxOf i) outcome p.shared.clock) (calls.erase i) := by
  injection hanswered with _ hstate
  have hi : i ∈ calls := (h.mem i).mpr hunder
  have hplace : calls.idxOf i < s.inFlight.length :=
    h.length ▸ List.idxOf_lt_length_of_mem hi
  refine ⟨run_snoc h.run ?_, ?_, ?_, h.nodup.erase i, fun j => ?_⟩
  · simp only [overlapping, List.getElem?_eq_getElem hplace]
  · rw [← hstate, Overlap.settle, h.breaker]
  · rw [List.length_erase_of_mem hi, Overlap.settle, List.length_eraseIdx_of_lt hplace, h.length]
  · rw [hlog, underWay_own, h.nodup.mem_erase_iff, h.mem]
    by_cases hij : i = j
    · simp [hij, underWay_append]
    · simp [hij, Ne.symm hij]

/-- Whatever a wallet does, its breaker goes on as one of its own. -/
theorem guards_step (hp : InProgress (hostBody d f) p) {e : FacilitatedAction}
    (h : (facilitatedWallet d f).step p e = some p') (hguards : Guards f clock p actions s calls) :
    ∃ actions' s' calls', Guards f clock p' actions' s' calls' := by
  rcases pool_step_cases h with ⟨c, -, rfl⟩ | ⟨i, c, o, k, r, shared, hcall, hanswered, rfl⟩
  · -- A call that was just made has done nothing.
    exact ⟨actions, s, calls, hguards.run, hguards.breaker, hguards.length, hguards.nodup,
      hguards.mem⟩
  have hhosted : Hosted d f c (own i p.log) o := hp.at_call (hostBody_sat d f c) hcall rfl
  cases o with
  | execute =>
      obtain ⟨_, -, hidle⟩ := hhosted.method (fun _ => by simp)
      exact ⟨_, _, guards_execute hguards hidle hanswered rfl⟩
  | settle outcome =>
      obtain ⟨_, -, hunder⟩ := hhosted.method (fun _ => by simp)
      exact ⟨_, _, _, guards_settle hguards hunder hanswered rfl⟩
  | wallet op =>
      refine ⟨actions, s, calls, guards_aside hguards (underWay_append _ _) rfl ?_⟩
      cases op with
      | readSession | writeSession session =>
          injection hanswered with _ hstate
          rw [← hstate]
      | _ => exact congrArg _ hanswered
  | setClock now =>
      refine ⟨actions, s, calls, guards_aside hguards (underWay_append _ _) rfl ?_⟩
      injection hanswered with _ hstate
      rw [← hstate]
  | post endpoint url init =>
      refine ⟨actions, s, calls, guards_aside hguards (underWay_append _ _) rfl ?_⟩
      exact congrArg _ hanswered

/-- In every run of a wallet its breaker is guarded so. -/
theorem guards_run {es : List FacilitatedAction}
    (hrun : (facilitatedWallet d f).run (createFacilitated clock) es = some p) :
    ∃ actions s calls, Guards f clock p actions s calls := by
  have hinv := Machine.run_invariant (P := fun _ _ => True)
    (I := fun p => InProgress (hostBody d f) p ∧ ∃ actions s calls,
      Guards f clock p actions s calls)
    (fun p e p' hp _ hstep => ?_) ⟨inProgress_start _ _, [], _, [], guards_start f clock⟩
    (Machine.runWhere_of_forall_mem (fun _ _ _ => trivial)) hrun
  · exact hinv.2
  · obtain ⟨hprogress, actions, s, calls, hguards⟩ := hp
    exact ⟨inProgress_step hprogress hstep, guards_step hprogress hstep hguards⟩

/-- In every run of a wallet its breaker is what a run of a breaker alone has come to, with
    the calls under way that the wallet has, and every request that waits at the facilitator
    is of one of them. -/
theorem breaker_refines (d : VellarWalletConfig) (f : FacilitatorConfig)
    (hbreaker : f.circuitBreaker.isSome = true) (clock : ℚ) (es : List FacilitatedAction)
    (p : FacilitatedWallet)
    (hrun : (facilitatedWallet d f).run (createFacilitated clock) es = some p) :
    ∃ actions s calls, Guards f clock p actions s calls ∧
      ∀ i c rest endpoint url init, p.calls[i]? = some (c, rest) →
        rest.pending = some (.post endpoint url init) → i ∈ calls := by
  obtain ⟨actions, s, calls, hguards⟩ := guards_run hrun
  refine ⟨actions, s, calls, hguards, fun i c rest endpoint url init hcall hpending => ?_⟩
  have hhosted := (inProgress_run hrun).at_call (hostBody_sat d f c) hcall hpending
  obtain ⟨_, -, hunder, -⟩ := hhosted.method (fun _ => by simp)
  exact (hguards.mem i).mpr (hunder.trans hbreaker)

/-- The trials of a half-open episode are at most as many as allowed and all of them calls
    of the wallet that are under way; and with none under way and the cooldown over, the
    next call that asks is let through. -/
theorem wallet_recovers (d : VellarWalletConfig) (f : FacilitatorConfig) (clock : ℚ)
    (hmax : 1 ≤ f.options.halfOpenMaxCalls) (htotal : f.options.Total)
    (es : List FacilitatedAction) (p : FacilitatedWallet)
    (hrun : (facilitatedWallet d f).run (createFacilitated clock) es = some p) :
    (∃ calls : List Nat, calls.Nodup ∧ (∀ i, i ∈ calls ↔ underWay (own i p.log) = true) ∧
      (p.shared.breaker.state = .halfOpen →
        p.shared.breaker.halfOpenUsed ≤ f.options.halfOpenMaxCalls ∧
        p.shared.breaker.halfOpenUsed ≤ calls.length)) ∧
    ((∀ i, underWay (own i p.log) = false) →
      (p.shared.breaker.state = .opened →
        f.options.openDurationMs ≤ p.shared.clock - p.shared.breaker.openedAt) →
      ∀ i c rest, p.calls[i]? = some (c, rest) → rest.pending = some .execute →
      ∃ p', (facilitatedWallet d f).step p (.exec i) = some p' ∧
        p'.log = p.log ++ [(i, ⟨.execute, .ok ()⟩)]) := by
  obtain ⟨actions, s, calls, hguards⟩ := guards_run hrun
  have htrials : TrialsUnderWay f.options s :=
    Machine.run_invariant (P := fun _ _ => True)
      (fun _ _ _ hs _ h => trialsUnderWay_step htotal hs h)
      (fun hhalf => absurd hhalf (by simp only [reduceCtorEq, not_false_eq_true]))
      (Machine.runWhere_of_forall_mem (fun _ _ _ => trivial)) hguards.run
  refine ⟨⟨calls, hguards.nodup, hguards.mem, ?_⟩, fun hquiet hover i c rest hcall hpending => ?_⟩
  · rw [← hguards.breaker, hguards.length]
    exact htrials
  · -- What the breaker has in flight are the calls of the wallet, and there are none.
    have hnone : s.inFlight = [] := by
      rw [← List.length_eq_zero_iff, ← hguards.length, List.length_eq_zero_iff,
        List.eq_nil_iff_forall_not_mem]
      intro j hj
      rw [hguards.mem, hquiet j] at hj
      exact Bool.false_ne_true hj
    have hthrough : (s.breaker.execute f.options p.shared.clock).2 = .ok () :=
      execute_of_quiet hmax htrials hnone (hguards.breaker ▸ hover)
    rw [hguards.breaker] at hthrough
    obtain ⟨k, rfl⟩ := Task.eq_call_of_pending hpending
    refine ⟨_, by simp only [facilitatedWallet, pool, hcall, facilitatorHandler]; rfl, ?_⟩
    simp only [hthrough, Except.mapError]

end Runs

section Refusals

variable {d : VellarWalletConfig} {f : FacilitatorConfig} {tr : List WalletEvent}
  {tr' : List FacilitatorEvent}

/-- A request, or none. -/
def AtMostOnePost (sent : List FacilitatorEvent) : Prop :=
  sent = [] ∨ ∃ endpoint url init reply, sent = [⟨.post endpoint url init, reply⟩]

/-- What a wallet calls, and what becomes of it over a facilitator: a call of the backend is
    refused, or it is let through and told how it ended, or there is no breaker. -/
inductive Sends : List WalletEvent → List FacilitatorEvent → Prop where
  | nil : Sends [] []
  | wallet {tr tr' o} (r : Except WalletError (WalletOp.Ret o)) (h : Sends tr tr')
      (ho : o.onBackend = false) : Sends (tr ++ [⟨o, r⟩]) (tr' ++ [⟨.wallet o, r⟩])
  | refused {tr tr' o} (e : WalletError) (h : Sends tr tr') (ho : o.onBackend = true) :
      Sends (tr ++ [⟨o, .error e⟩]) (tr' ++ [⟨.execute, .error e⟩])
  | through {tr tr' o sent} (r : Except WalletError (WalletOp.Ret o)) (outcome : Outcome)
      (reply : Except WalletError Unit) (h : Sends tr tr') (ho : o.onBackend = true)
      (hsent : AtMostOnePost sent) : Sends (tr ++ [⟨o, r⟩])
        (tr' ++ [⟨.execute, .ok ()⟩] ++ sent ++ [⟨.settle outcome, reply⟩])
  | bare {tr tr' o sent} (r : Except WalletError (WalletOp.Ret o)) (h : Sends tr tr')
      (ho : o.onBackend = true) (hsent : AtMostOnePost sent) :
      Sends (tr ++ [⟨o, r⟩]) (tr' ++ sent)

def isRefusal : FacilitatorEvent → Bool
  | ⟨.execute, .error _⟩ => true
  | _ => false

def isPost : FacilitatorEvent → Bool
  | ⟨.post _ _ _, _⟩ => true
  | _ => false

/-- Every call of the backend is refused or makes one request at most. -/
theorem Sends.tally (h : Sends tr tr') :
    tr'.countP isRefusal + tr'.countP isPost ≤ tr.countP (fun e => e.op.onBackend) := by
  have hone : ∀ sent, AtMostOnePost sent → sent.countP isRefusal = 0 ∧ sent.countP isPost ≤ 1 := by
    rintro sent (rfl | ⟨endpoint, url, init, reply, rfl⟩)
    · simp
    · simp [isRefusal, isPost]
  induction h with
  | nil => simp
  | wallet r h ho ih => simp [isRefusal, isPost, ho]; omega
  | refused e h ho ih => simp [isRefusal, isPost, ho]; omega
  | through r outcome reply h ho hsent ih =>
      obtain ⟨hrefusal, hpost⟩ := hone _ hsent
      simp [isRefusal, isPost, ho, hrefusal]
      omega
  | bare r h ho hsent ih =>
      obtain ⟨hrefusal, hpost⟩ := hone _ hsent
      simp [ho, hrefusal]
      omega

/-- A call that was refused ended with the refusal. -/
theorem Sends.of_refused (h : Sends tr tr') {e : WalletError}
    (hrefused : ⟨.execute, .error e⟩ ∈ tr') :
    ∃ o, o.onBackend = true ∧ (⟨o, .error e⟩ : WalletEvent) ∈ tr := by
  have hnot : ∀ sent, AtMostOnePost sent → ⟨.execute, .error e⟩ ∉ sent := by
    rintro sent (rfl | ⟨endpoint, url, init, reply, rfl⟩)
    · simp
    · simp
  induction h with
  | nil => exact absurd hrefused List.not_mem_nil
  | wallet r h ho ih =>
      simp only [List.mem_append, List.mem_singleton, Event.mk.injEq, reduceCtorEq, false_and,
        or_false] at hrefused
      obtain ⟨o, ho, hmem⟩ := ih hrefused
      exact ⟨o, ho, List.mem_append_left _ hmem⟩
  | @refused _ _ o e' h ho ih =>
      rcases List.mem_append.mp hrefused with hold | hnew
      · obtain ⟨o, ho, hmem⟩ := ih hold
        exact ⟨o, ho, List.mem_append_left _ hmem⟩
      · have heq := List.mem_singleton.mp hnew
        simp only [Event.mk.injEq, heq_eq_eq, Except.error.injEq, true_and] at heq
        subst heq
        exact ⟨o, ho, List.mem_append_right _ List.mem_cons_self⟩
  | through r outcome reply h ho hsent ih =>
      -- It was let through, so the refusal is an earlier one.
      simp only [List.mem_append, List.mem_singleton, Event.mk.injEq, reduceCtorEq, false_and,
        or_false, heq_eq_eq, and_false, hnot _ hsent] at hrefused
      obtain ⟨o, ho, hmem⟩ := ih hrefused
      exact ⟨o, ho, List.mem_append_left _ hmem⟩
  | bare r h ho hsent ih =>
      rcases List.mem_append.mp hrefused with hold | hnew
      · obtain ⟨o, ho, hmem⟩ := ih hold
        exact ⟨o, ho, List.mem_append_left _ hmem⟩
      · exact absurd hnew (hnot _ hsent)

/-- A call behind the breaker that makes one request at most. -/
theorem throughBreaker_sends {o : WalletOp} (ho : o.onBackend = true) {fn : Facilitated o.Ret}
    (h : Sends tr tr') (hfn : ∀ tr₁, Sat awaitAll (fun _ _ _ => True)
      (fun tr₂ _ _ => ∃ sent, AtMostOnePost sent ∧ tr₂ = tr₁ ++ sent) fn tr₁ ()) :
    Sat awaitAll (fun _ _ _ => True) (fun tr'' _ r => Sends (tr ++ [⟨o, r⟩]) tr'')
      (throughBreaker f fn) tr' () := by
  unfold throughBreaker
  cases f.circuitBreaker with
  | none =>
      refine (hfn tr').imp (fun _ _ _ h => h) (fun tr₂ _ r hsent => ?_)
      obtain ⟨sent, hsent, rfl⟩ := hsent
      exact .bare r h ho hsent
  | some options =>
      refine (sat_await_bind rfl _).mpr ⟨trivial, fun _ => ?_, fun e => .refused e h ho⟩
      refine (sat_bind _ _ _ _).mpr ((sat_attempt _ _ _).mpr ?_)
      refine (hfn _).imp (fun _ _ _ h => h) (fun tr₂ _ r hsent => ?_)
      obtain ⟨sent, hsent, rfl⟩ := hsent
      -- However it ended, the breaker is told.
      cases r with
      | ok a =>
          refine (sat_await_bind rfl _).mpr ⟨trivial, fun _ => ?_, fun e => ?_⟩
          · exact .through _ _ _ h ho hsent
          · exact .through _ _ _ h ho hsent
      | error e =>
          refine (sat_await_bind rfl _).mpr ⟨trivial, fun _ => ?_, fun e => ?_⟩
          · exact .through _ _ _ h ho hsent
          · exact .through _ _ _ h ho hsent

theorem post_sends {α : Type} {endpoint : Endpoint} {fields : List (JsString × JsString)}
    {g : GatewayResponse endpoint → Facilitated α} (tr₁ : List FacilitatorEvent)
    (hg : ∀ res, ∃ r : Except WalletError α, g res = .done r) :
    Sat awaitAll (fun _ _ _ => True) (fun tr₂ _ _ => ∃ sent, AtMostOnePost sent ∧ tr₂ = tr₁ ++ sent)
      (post f endpoint fields >>= g) tr₁ () := by
  refine post_sat (K := fun _ _ => True) (fun _ _ _ => trivial) (fun res => ?_)
    (fun _ => ⟨[], .inl rfl, (List.append_nil _).symm⟩)
    (fun _ _ _ _ => ⟨_, .inr ⟨_, _, _, _, rfl⟩, rfl⟩)
    (fun _ _ _ _ _ _ => ⟨_, .inr ⟨_, _, _, _, rfl⟩, rfl⟩)
  obtain ⟨r, hr⟩ := hg res
  exact ⟨r, hr, fun _ _ => trivial⟩

theorem wallet_sends {o : WalletOp} (ho : o.onBackend = false) (h : Sends tr tr') :
    Sat awaitAll (fun _ _ _ => True) (fun tr'' _ r => Sends (tr ++ [⟨o, r⟩]) tr'')
      (Task.perform (FacilitatorOp.wallet o)) tr' () :=
  (sat_await rfl _).mpr ⟨trivial, fun r => .wallet r h ho⟩

/-- Each call of a wallet and what becomes of it. -/
theorem backendCall_sends (o : WalletOp) (h : Sends tr tr') :
    Sat awaitAll (fun _ _ _ => True) (fun tr'' _ r => Sends (tr ++ [⟨o, r⟩]) tr'')
      (backendCall f o) tr' () := by
  cases o with
  | submitWalletCreation keyId contractId network signedTx =>
      refine throughBreaker_sends rfl h (fun tr₁ => ?_)
      exact sat_lift_bind (fun xdr _ => post_sends tr₁ (fun res => ⟨res.payload, rfl⟩))
        (fun e _ => ⟨[], .inl rfl, (List.append_nil _).symm⟩)
  | lookupContractId keyId network =>
      refine throughBreaker_sends rfl h (fun tr₁ => post_sends tr₁ (fun res => ?_))
      by_cases hmissing : res.status = 404
      · exact ⟨.ok none, if_pos hmissing⟩
      · cases hpayload : res.payload with
        | error e => exact ⟨.error e, (if_neg hmissing).trans rfl⟩
        | ok found => exact ⟨.ok (some found), (if_neg hmissing).trans rfl⟩
  | submitTransaction signedXdr network =>
      exact throughBreaker_sends rfl h (fun tr₁ => post_sends tr₁ (fun res => ⟨res.payload, rfl⟩))
  | _ => exact wallet_sends rfl h

/-- A payment calls the backend once, and last. -/
def SubmitsOnce (tr : List WalletEvent) : Prop :=
  (∀ e ∈ tr, e.op.onBackend = false) ∨ ∃ before signedXdr network reply,
    (∀ e ∈ before, e.op.onBackend = false) ∧
    tr = before ++ [⟨.submitTransaction signedXdr network, reply⟩]

theorem paying_quiet {input : PayInput} {o : WalletOp} (h : Paying d input tr o) :
    ∀ e ∈ tr, e.op.onBackend = false := by
  cases o with
  | readSession =>
      rw [show tr = [] from h]
      exact fun e he => absurd he List.not_mem_nil
  | transfer token sender recipient amount timeout =>
      obtain ⟨session, rfl, -⟩ := h
      simp [readEvent, WalletOp.onBackend]
  | sign tx =>
      obtain ⟨session, -, rfl⟩ := h
      simp [readEvent, PayInput.transfer, WalletOp.onBackend]
  | submitTransaction signedXdr network =>
      obtain ⟨session, tx, signed, -, rfl, -⟩ := h
      simp [payTrace, readEvent, PayInput.transfer, WalletOp.onBackend]
  | _ => exact absurd h not_false

theorem submitsOnce_append {input : PayInput} {o : WalletOp} (h : Paying d input tr o)
    (r : Except WalletError o.Ret) : SubmitsOnce (tr ++ [⟨o, r⟩]) := by
  have hquiet := paying_quiet h
  cases o with
  | submitTransaction signedXdr network => exact .inr ⟨tr, signedXdr, network, r, hquiet, rfl⟩
  | submitWalletCreation keyId contractId network signedTx => exact absurd h not_false
  | lookupContractId keyId network => exact absurd h not_false
  | _ =>
      refine .inl (fun e he => ?_)
      rcases List.mem_append.mp he with hold | hnew
      · exact hquiet e hold
      · rw [List.mem_singleton.mp hnew]
        rfl

theorem SubmitsOnce.count_le (h : SubmitsOnce tr) :
    tr.countP (fun e => e.op.onBackend) ≤ 1 := by
  have hnone : ∀ before : List WalletEvent, (∀ e ∈ before, e.op.onBackend = false) →
      before.countP (fun e => e.op.onBackend) = 0 := by
    intro before hbefore
    rw [List.countP_eq_zero]
    intro e he
    rw [hbefore e he]
    exact Bool.false_ne_true
  rcases h with hquiet | ⟨before, signedXdr, network, reply, hbefore, rfl⟩
  · rw [hnone tr hquiet]
    exact Nat.zero_le 1
  · rw [List.countP_append, hnone before hbefore]
    exact Nat.le_refl 1

/-- Over a facilitator a payment calls the backend once, and ends as it would by itself. -/
theorem pay_sends (d : VellarWalletConfig) (f : FacilitatorConfig) (input : PayInput) :
    Sat awaitAll (fun _ _ _ => True)
      (fun tr' _ r => ∃ tr r', Sends tr tr' ∧ SubmitsOnce tr ∧ Ended d tr r' (.pay input) ∧
        r = r'.map some) (hostBody d f (.method (.pay input))) [] () := by
  refine (sat_bind _ _ _ _).mpr ?_
  refine sat_implement (S := fun tr _ tr' _ => Sends tr tr' ∧ SubmitsOnce tr) ?_ ?_
    (method_sat d (.pay input)) ⟨.nil, .inl (fun e he => absurd he List.not_mem_nil)⟩
  · intro tr s tr' s' o hrel hstage
    exact (backendCall_sends o hrel.1).imp (fun _ _ _ h => h)
      (fun _ _ r h => ⟨(), rfl, h, submitsOnce_append hstage r⟩)
  · intro tr s tr' s' r hrel hended
    cases r with
    | ok result => exact ⟨tr, _, hrel.1, hrel.2, hended, rfl⟩
    | error e => exact ⟨tr, _, hrel.1, hrel.2, hended, rfl⟩

/-- A payment that the breaker refused fails with the refusal, and nothing of it was sent. -/
theorem refused_pay_unsent (d : VellarWalletConfig) (f : FacilitatorConfig) (clock : ℚ)
    (es : List FacilitatedAction) (p : FacilitatedWallet)
    (hrun : (facilitatedWallet d f).run (createFacilitated clock) es = some p) (i : Nat)
    (input : PayInput) (r : Except WalletError (Option WalletResult))
    (hcall : p.calls[i]? = some (.method (.pay input), .done r)) (e : WalletError)
    (hrefused : (i, ⟨.execute, .error e⟩) ∈ p.log) :
    (∃ refusal : CircuitOpenError, e = .circuitOpen (js refusal.message)) ∧ r = .error e ∧
      ∀ endpoint url init reply, (i, ⟨.post endpoint url init, reply⟩) ∉ p.log := by
  refine ⟨?_, ?_⟩
  · -- The breaker answers for itself, and refuses with nothing else.
    obtain ⟨before, after, hlog⟩ := List.append_of_mem hrefused
    have hlogged := logged_run hrun
    rw [hlog] at hlogged
    obtain ⟨s₁, s₂, -, hanswered, -⟩ := hlogged.at_event
    injection hanswered with hreply _
    cases hresult : (s₁.breaker.execute f.options s₁.clock).2 with
    | ok through =>
        rw [hresult] at hreply
        exact absurd hreply (by simp only [Except.mapError, reduceCtorEq, not_false_eq_true])
    | error refusal =>
        rw [hresult] at hreply
        exact ⟨refusal, (Except.error.inj hreply).symm⟩
  · have hruns := (inProgress_run hrun).runs i _ _ hcall
    obtain ⟨tr, r', hsends, honce, hended, rfl⟩ := (pay_sends d f input).at_done hruns
    have hmem := mem_own.mpr hrefused
    obtain ⟨o, ho, hevent⟩ := hsends.of_refused hmem
    -- The call that was refused is the submission, the only one of the backend.
    have hsubmitted : Submitted tr (.error e) := by
      rcases honce with hquiet | ⟨before, signedXdr, network, reply, hbefore, rfl⟩
      · rw [hquiet _ hevent] at ho
        exact absurd ho Bool.false_ne_true
      · rcases List.mem_append.mp hevent with hold | hnew
        · rw [hbefore _ hold] at ho
          exact absurd ho Bool.false_ne_true
        · have heq := List.mem_singleton.mp hnew
          injection heq with hop hreply
          subst hop
          rw [← eq_of_heq hreply]
          exact ⟨signedXdr, network, List.mem_append_right _ List.mem_cons_self⟩
    refine ⟨?_, fun endpoint url init reply hpost => ?_⟩
    · rw [hended.2 _ hsubmitted]
      rfl
    · -- The refusal was the one call there is.
      have hle := hsends.tally.trans honce.count_le
      have hrefusals : 0 < (own i p.log).countP isRefusal := List.countP_pos_iff.mpr ⟨_, hmem, rfl⟩
      have hposts : 0 < (own i p.log).countP isPost :=
        List.countP_pos_iff.mpr ⟨_, mem_own.mpr hpost, rfl⟩
      omega

end Refusals

section Sample

/-- A facilitator behind a breaker that opens at the first failure. -/
def brokenFacilitator : FacilitatorConfig where
  apiUrl := js "https://g"
  circuitBreaker := some oneFailure
  shown _ := .null

/-- It does not answer. -/
def brokenReply : (o : FacilitatorOp) → Except WalletError o.Ret
  | .wallet o => sampleAnswer o
  | .execute | .settle _ | .setClock _ => .ok ()
  | .post _ _ _ => .error (.thrown ⟨.foreign, []⟩)

/-- A wallet is created while the facilitator is down, and again after the cooldown. -/
def sampleOutage : List FacilitatedAction :=
  [.call (.method (.create none)), .reply 0 brokenReply, .reply 0 brokenReply, .exec 0,
    .reply 0 brokenReply, .exec 0, .call (.clock 10000), .exec 1, .call (.method (.create none)),
    .reply 2 brokenReply, .reply 2 brokenReply]

theorem breaker_refines_sample : ∃ p actions s calls,
    (facilitatedWallet sampleConfig brokenFacilitator).run (createFacilitated 0) sampleOutage =
      some p ∧ Guards brokenFacilitator 0 p actions s calls := by
  have hrun : ∃ p, (facilitatedWallet sampleConfig brokenFacilitator).run (createFacilitated 0)
      sampleOutage = some p := ⟨_, rfl⟩
  obtain ⟨p, hrun⟩ := hrun
  obtain ⟨actions, s, calls, hguards, -⟩ :=
    breaker_refines sampleConfig brokenFacilitator rfl 0 _ p hrun
  exact ⟨p, actions, s, calls, hrun, hguards⟩

theorem wallet_recovers_sample : ∃ p p',
    (facilitatedWallet sampleConfig brokenFacilitator).run (createFacilitated 0) sampleOutage =
      some p ∧ p.shared.breaker.state = .opened ∧
    (facilitatedWallet sampleConfig brokenFacilitator).step p (.exec 2) = some p' ∧
    p'.log = p.log ++ [(2, ⟨.execute, .ok ()⟩)] := by
  have hrun : ∃ p c rest, (facilitatedWallet sampleConfig brokenFacilitator).run
      (createFacilitated 0) sampleOutage = some p ∧ p.shared.breaker.state = .opened ∧
      p.calls[2]? = some (c, rest) ∧ rest.pending = some .execute ∧ p.calls.length = 3 ∧
      p.shared.clock = 10000 ∧ p.shared.breaker.openedAt = 0 ∧
      (∀ i < 3, underWay (own i p.log) = false) :=
    ⟨_, _, _, rfl, rfl, rfl, rfl, rfl, rfl, rfl, by decide⟩
  obtain ⟨p, c, rest, hrun, hstate, hcall, hpending, hlength, hclock, hopened, hended⟩ := hrun
  have hquiet : ∀ i, underWay (own i p.log) = false := by
    intro i
    by_cases hi : i < 3
    · exact hended i hi
    · -- Nobody else has been called.
      rw [own_of_lt (fun e he => lt_of_lt_of_le ((inProgress_run hrun).called e he) (by omega))]
      rfl
  obtain ⟨p', hstep, hlog⟩ := (wallet_recovers sampleConfig brokenFacilitator 0 (by decide) nofun
    _ p hrun).2 hquiet (fun _ => by rw [hclock, hopened]; norm_num [brokenFacilitator,
      FacilitatorConfig.options, oneFailure]) 2 c rest hcall hpending
  exact ⟨p, p', hrun, hstate, hstep, hlog⟩

/-- A payment fails at the facilitator, and the next one is refused. -/
def sampleRefusal : List FacilitatedAction :=
  sampleOrder ++ [.reply 1 brokenReply, .exec 1, .call (.method (.pay samplePay)), .exec 2,
    .reply 2 sampleReply, .reply 2 sampleReply, .exec 2]

theorem refused_pay_unsent_sample : ∃ p r e,
    (facilitatedWallet sampleConfig brokenFacilitator).run (createFacilitated 0) sampleRefusal =
      some p ∧ p.calls[2]? = some (.method (.pay samplePay), .done r) ∧
    (2, ⟨.execute, .error e⟩) ∈ p.log ∧ r = .error e ∧
    ∀ endpoint url init reply, (2, ⟨.post endpoint url init, reply⟩) ∉ p.log := by
  have hrun : ∃ p r e, (facilitatedWallet sampleConfig brokenFacilitator).run
      (createFacilitated 0) sampleRefusal = some p ∧
      p.calls[2]? = some (.method (.pay samplePay), .done r) ∧
      p.log.getLast? = some (2, ⟨.execute, .error e⟩) :=
    ⟨_, _, .circuitOpen (js ({} : CircuitOpenError).message), rfl, by with_unfolding_all rfl,
      by with_unfolding_all rfl⟩
  obtain ⟨p, r, e, hrun, hcall, hlast⟩ := hrun
  have hrefused := List.mem_of_getLast? hlast
  obtain ⟨-, hr, hunsent⟩ := refused_pay_unsent sampleConfig brokenFacilitator 0 _ p hrun 2
    samplePay r hcall e hrefused
  exact ⟨p, r, e, hrun, hcall, hrefused, hr, hunsent⟩

end Sample

end Wallet

end VellarSdk
