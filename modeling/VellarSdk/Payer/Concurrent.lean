import VellarSdk.Async.Promise
import VellarSdk.Payer.Guarantees

/-!
# Concurrent Payments

The payer as its callers see it: any number of `pay` and `quote` calls at any
times, over one ledger. Payments go through a mutex made of a chain of promises,
quotes do not. Checking the ceiling and debiting it are separated by awaits,
and the mutex is what keeps another payment out in between.

A state of the payer is its ledger, the promises of the mutex and the quotes
under way. `PayerState.step` is one thing that can happen next, and
`PayerState.run` any sequence of such things, so a property of every run is one
of every interleaving.

## Main definitions

* `Mutex`, `createMutex`, `Mutex.run`: The promise chain.
* `PayerState`, `createPayer`: The payer.
* `PayerState.step`, `PayerState.run`: What can happen to it.
* `PayerInvariant`: What holds throughout.

## Theorems

* `invariant_step`, `invariant_run`: The invariant holds in every reachable
  state.
* `signed_has_ceiling`: What is about to be signed has a ceiling.
* `payer_within_ceilings`: No interleaving spends more than a ceiling.
-/

namespace VellarSdk

namespace Payer

open Js X402 Async

/-- The promises a mutex has made, and the last of them. -/
structure Mutex (O : Type) (R : O → Type) (ε α : Type) where
  heap : Heap O R ε α
  tail : Nat

/-- `Promise.resolve()` as the first tail. -/
def createMutex {O : Type} {R : O → Type} {ε α : Type} : Mutex O R ε α :=
  { heap := [⟨0, .ignore, .settled⟩], tail := 0 }

/-- Queue a section: the result is `tail.then(fn, fn)`, and the new tail
    settles after the result, whatever its outcome. -/
def Mutex.run {O : Type} {R : O → Type} {ε α : Type} (m : Mutex O R ε α) (fn : Task O R ε α) :
    Mutex O R ε α :=
  -- Two promises for each section: the result, and the tail that swallows its outcome.
  { heap := (m.heap ++ [⟨m.tail, .run fn, .waiting⟩]) ++ [⟨m.heap.length, .ignore, .waiting⟩]
    tail := m.heap.length + 1 }

/-- A payer: its ledger, its mutex and the quotes under way. -/
structure PayerState where
  ledger : SpendLedger
  exclusive : Mutex PayOp PayOp.Ret JsError PayResult
  quotes : List (Pay QuoteResult)

/-- A payer over a ledger. -/
def createPayer (ledger : SpendLedger) : PayerState :=
  { ledger := ledger, exclusive := createMutex, quotes := [] }

/-- What can happen to a payer: a call of `pay` or `quote`, a turn of the
    scheduler, or an answer to a call a quote is waiting for. -/
inductive PayerEvent where
  | pay (url maxAmount : JsString)
  | quote (url : JsString)
  | turn (turn : Turn PayOp PayOp.Ret JsError)
  | answerQuote (i : Nat) (answer : (op : PayOp) → Except JsError op.Ret)

namespace PayerState

/-- One thing happening to a payer, where it can. -/
def step (d : PayerDeps) (p : PayerState) : PayerEvent → Option PayerState
  | .pay url maxAmount =>
      -- Queued, never started on the spot: `then` runs its reaction later.
      some { p with exclusive := p.exclusive.run (payExclusively d url maxAmount) }
  | .quote url =>
      -- A quote takes no lock. It runs up to its first await at once.
      let started := (Payer.quote d url).advance payHandler p.ledger
      some { p with ledger := started.2, quotes := p.quotes ++ [started.1] }
  | .turn turn => match p.exclusive.heap.step payHandler turn p.ledger with
    | some (heap, ledger) =>
        some { p with ledger := ledger, exclusive := { p.exclusive with heap := heap } }
    | none => none
  | .answerQuote i answer => match p.quotes[i]? with
    | some (.call op k) =>
        let resumed := (k (answer op)).advance payHandler p.ledger
        some { p with ledger := resumed.2, quotes := p.quotes.set i resumed.1 }
    | _ => none

/-- A sequence of things happening to a payer. -/
def run (d : PayerDeps) : PayerState → List PayerEvent → Option PayerState
  | p, [] => some p
  | p, e :: es => match p.step d e with
    | some p' => run d p' es
    | none => none

/-- The calls awaited by a payment or a quote right now. -/
def pendingCalls (p : PayerState) : List PayOp :=
  p.exclusive.heap.filterMap (fun c => match c.status with
    | .running t => t.pending
    | .waiting | .settled => none) ++ p.quotes.filterMap (fun t => t.pending)

end PayerState

/-- A body that some call of `pay` queued. -/
def IsPayment (d : PayerDeps) (body : Pay PayResult) : Prop :=
  ∃ url maxAmount, body = payExclusively d url maxAmount

/-- The ceilings are those configured, and nothing is over them. -/
def LedgerGood (ceilings : JsMap Int) (l : SpendLedger) : Prop :=
  l.ceilings = ceilings ∧ WithinCeilings l

/-- What holds of a payer throughout: its payments run one at a time, each from
    a good ledger, and its quotes cannot touch the ledger. -/
structure PayerInvariant (d : PayerDeps) (ceilings : JsMap Int) (p : PayerState) : Prop where
  guarded : Guarded payHandler (IsPayment d) (LedgerGood ceilings) p.exclusive.heap p.ledger
  tail : p.exclusive.heap.length = p.exclusive.tail + 1
  quotes : ∀ t ∈ p.quotes, t.OnlyCalls PayOp.Neutral

/-- A debit within a payment is one that passed the check in the same ledger. -/
theorem within_of_ready {d : PayerDeps} {url maxAmount : JsString} {l l' : SpendLedger}
    {o : Order} {tr : List PayEvent} (h : Ready d url maxAmount l o tr)
    (hrec : l.record o.asset o.amount = .ok l') (hl : WithinCeilings l) : WithinCeilings l' := by
  rcases h with ⟨retries, hhist, -⟩
  rcases hhist.opened with ⟨first, discarded, hopened, -⟩
  rcases hopened.cleared with ⟨ceiling, -, hcleared⟩
  exact within_record hl (parseAmount_nonneg (clearOneOption_spec hcleared).parsed)
    hhist.within hrec

/-- A payment alone keeps the ledger within its ceilings, at every point. -/
theorem payment_safe {d : PayerDeps} {ceilings : JsMap Int} (body : Pay PayResult)
    (l : SpendLedger) (tr : List PayEvent) (t : Pay PayResult) (l' : SpendLedger)
    (hbody : IsPayment d body) (hl : LedgerGood ceilings l)
    (hrun : Run payHandler body l tr t l') : LedgerGood ceilings l' := by
  rcases hbody with ⟨url, maxAmount, rfl⟩
  -- The ledger changed by at most one debit, which passed the check in the first ledger.
  have hsame : ∀ o tr, Ready d url maxAmount l o tr → ∀ l', l.record o.asset o.amount = .ok l' →
      LedgerGood ceilings l' := by
    intro o tr hready l' hrec
    exact ⟨(SpendLedger.ceilings_record hrec).trans hl.1, within_of_ready hready hrec hl.2⟩
  cases t with
  | call op k =>
      cases (pay_sat d url maxAmount l).at_call hrun with
      | late o tr rest headers res _ _ h hrec _ _ => exact hsame o tr h l' hrec
      | _ => exact hl
  | done r =>
      cases (pay_sat d url maxAmount l).at_done hrun with
      | undetermined o tr headers res discarded _ e reason raw h hclass hrec _ =>
          exact hsame o tr h l' hrec
      | lost o tr headers res _ e tx payer h hstatus hclass hrec => exact hsame o tr h l' hrec
      | delivered o tr headers res bytes remaining _ result tx payer h hstatus hclass hrec =>
          exact hsame o tr h l' hrec
      | _ => exact hl

/-- The invariant holds at the start. -/
theorem invariant_create (d : PayerDeps) (ceilings : JsMap Int) :
    PayerInvariant d ceilings (createPayer (createSpendLedger ceilings)) := by
  have hget : ∀ (i : Nat) (c : Cell PayOp PayOp.Ret JsError PayResult),
      ([⟨0, .ignore, .settled⟩] : Heap PayOp PayOp.Ret JsError PayResult)[i]? = some c →
      i = 0 ∧ c = ⟨0, .ignore, .settled⟩ := by
    intro i c hc
    rw [List.getElem?_singleton] at hc
    split at hc
    · next hi => exact ⟨hi, (Option.some.inj hc).symm⟩
    · exact absurd hc (by simp only [reduceCtorEq, not_false_eq_true])
  refine ⟨⟨⟨rfl, fun i c hc => ?_, fun i c hc => ?_⟩, ⟨rfl, within_create ceilings⟩,
    fun i c body hc hr => ?_, fun i c t hc ht => ?_⟩, rfl, fun t ht => ?_⟩
  · exact absurd (hget _ c hc).1 (Nat.succ_ne_zero i)
  · exact absurd (hget _ c hc).1 (Nat.succ_ne_zero i)
  · rw [(hget i c hc).2] at hr
    exact absurd hr (by simp only [reduceCtorEq, not_false_eq_true])
  · rw [(hget i c hc).2] at ht
    exact absurd ht (by simp only [reduceCtorEq, not_false_eq_true])
  · exact absurd ht List.not_mem_nil

/-- Whatever happens next, the invariant is kept. -/
theorem invariant_step {d : PayerDeps} {ceilings : JsMap Int} {p p' : PayerState}
    {e : PayerEvent} (h : PayerInvariant d ceilings p) (hstep : p.step d e = some p') :
    PayerInvariant d ceilings p' := by
  cases e with
  | pay url maxAmount =>
      rw [← Option.some.inj hstep]
      refine ⟨?_, ?_, h.quotes⟩
      -- The result hangs on the old tail, the new tail on the result.
      · have hbody := h.guarded.push (.run (payExclusively d url maxAmount))
          (fun body hb => ⟨url, maxAmount, (Reaction.run.inj hb).symm⟩) h.tail
        refine hbody.push .ignore (fun body hb => absurd hb (by simp only [reduceCtorEq,
          not_false_eq_true])) ?_
        rw [List.length_append, List.length_singleton]
      · simp only [Mutex.run, List.length_append, List.length_singleton]
  | quote url =>
      rcases run_advance payHandler (quote d url) p.ledger with ⟨tr, hrun⟩
      -- A quote moves without touching the ledger, so the chain does not notice.
      have hkept := onlyCalls_state neutral_keeps (quote_neutral d url) hrun
      have hcalls := (onlyCalls_run (quote_neutral d url) hrun).2
      rw [← Option.some.inj hstep]
      refine ⟨?_, h.tail, fun t ht => ?_⟩
      · rw [hkept]
        exact h.guarded
      · rcases List.mem_append.mp ht with ht | ht
        · exact h.quotes t ht
        · rwa [List.mem_singleton.mp ht]
  | turn turn =>
      simp only [PayerState.step] at hstep
      split at hstep
      · next heap ledger hturn =>
          rw [← Option.some.inj hstep]
          refine ⟨h.guarded.step payment_safe hturn, ?_, h.quotes⟩
          -- No turn makes a promise, so the tail stays the last one.
          rcases step_cases hturn with ⟨i, c, status, -, -, rfl⟩
          exact (List.length_set).trans h.tail
      · exact absurd hstep (by simp only [reduceCtorEq, not_false_eq_true])
  | answerQuote i answer =>
      simp only [PayerState.step] at hstep
      split at hstep
      · next op k hget =>
          have hcalls := (h.quotes _ (List.mem_of_getElem? hget)).2 (answer op)
          rcases run_advance payHandler (k (answer op)) p.ledger with ⟨tr, hrun⟩
          have hkept := onlyCalls_state neutral_keeps hcalls hrun
          rw [← Option.some.inj hstep]
          refine ⟨?_, h.tail, fun t ht => ?_⟩
          · rw [hkept]
            exact h.guarded
          · rcases List.mem_or_eq_of_mem_set ht with ht | rfl
            · exact h.quotes t ht
            · exact (onlyCalls_run hcalls hrun).2
      · exact absurd hstep (by simp only [reduceCtorEq, not_false_eq_true])

/-- The invariant holds in every reachable state. -/
theorem invariant_run {d : PayerDeps} {ceilings : JsMap Int} {p p' : PayerState}
    {es : List PayerEvent} (h : PayerInvariant d ceilings p) (hrun : p.run d es = some p') :
    PayerInvariant d ceilings p' := by
  induction es generalizing p with
  | nil => rwa [← Option.some.inj hrun]
  | cons e es ih =>
      simp only [PayerState.run] at hrun
      split at hrun
      · next q hstep => exact ih (invariant_step h hstep) hrun
      · exact absurd hrun (by simp only [reduceCtorEq, not_false_eq_true])

/-- What a payment is about to sign has a ceiling. -/
theorem signed_has_ceiling {d : PayerDeps} {ceilings : JsMap Int} {p : PayerState} {c : JsValue}
    (h : PayerInvariant d ceilings p) (hc : .signPayment c ∈ p.pendingCalls) :
    ∃ chosen cap, c.field "accepts" = .arr [chosen] ∧
      ceilings.get (chosen.field "asset") = some cap := by
  rcases List.mem_append.mp hc with hc | hc
  · rcases List.mem_filterMap.mp hc with ⟨cell, hcell, hpending⟩
    rcases List.mem_iff_getElem?.mp hcell with ⟨i, hi⟩
    split at hpending
    · next t hstatus =>
        rcases h.guarded.alone i cell t hi hstatus with ⟨-, body, l₀, tr, ⟨url, max, rfl⟩, -, hrun⟩
        cases t with
        | done r => exact absurd hpending (by simp only [Task.pending, reduceCtorEq,
            not_false_eq_true])
        | call op k =>
            have hop : op = .signPayment c := Option.some.inj hpending
            subst hop
            -- The body runs alone from `l₀`, and nothing was debited before its signature.
            rcases stage_sign ((pay_sat d url max l₀).at_call hrun) with
              ⟨o, tr', hl, rfl, ⟨retries, hhist, -⟩, -⟩
            rcases SpendLedger.assertWithinCeiling_eq_ok.mp hhist.within with ⟨cap, hcap, -⟩
            rw [← hl, h.guarded.good.1] at hcap
            exact ⟨o.chosen, cap, JsValue.field_withField _ _ _, hcap⟩
    · exact absurd hpending (by simp only [reduceCtorEq, not_false_eq_true])
    · exact absurd hpending (by simp only [reduceCtorEq, not_false_eq_true])
  · rcases List.mem_filterMap.mp hc with ⟨t, ht, hpending⟩
    -- Quotes do not sign at all.
    have hcalls := h.quotes t ht
    cases t with
    | done r => exact absurd hpending (by simp only [Task.pending, reduceCtorEq,
        not_false_eq_true])
    | call op k =>
        have hop : op = .signPayment c := Option.some.inj hpending
        subst hop
        exact absurd hcalls.1 (by simp only [PayOp.Neutral, not_false_eq_true])

/-- Whatever callers, sellers and signers do, and in whatever order it happens:
    what is recorded for an asset is non-negative and within its ceiling, and an
    asset without a ceiling is never signed for and never gets a bucket. -/
theorem payer_within_ceilings (d : PayerDeps) (ceilings : JsMap Int) (es : List PayerEvent)
    (p : PayerState) (hrun : (createPayer (createSpendLedger ceilings)).run d es = some p) :
    (∀ asset cap, ceilings.get asset = some cap →
      0 ≤ p.ledger.spentFor asset ∧ (0 ≤ cap → p.ledger.spentFor asset ≤ cap) ∧
      ∀ v, p.ledger.spent.get asset = some v → 0 ≤ v ∧ v ≤ cap) ∧
    ∀ asset, ceilings.get asset = none →
      p.ledger.spent.get asset = none ∧ ∀ c, .signPayment c ∈ p.pendingCalls →
        ∃ chosen, c.field "accepts" = .arr [chosen] ∧ chosen.field "asset" ≠ asset := by
  have hinv := invariant_run (invariant_create d ceilings) hrun
  rcases hinv.guarded.good with ⟨hceilings, hwithin⟩
  constructor
  · intro asset cap hcap
    have hspent := within_spentFor hwithin asset
    rw [← hceilings] at hcap
    refine ⟨hspent.1, hspent.2 cap hcap, fun v hv => ?_⟩
    -- The bucket has a ceiling, and the map has one value for a key.
    rcases hwithin asset v hv with ⟨cap', hcap', hbounds⟩
    rw [hcap, Option.some.injEq] at hcap'
    rw [hcap']
    exact hbounds
  · intro asset hnone
    refine ⟨?_, fun c hc => ?_⟩
    · cases hv : p.ledger.spent.get asset with
      | none => rfl
      | some v =>
          rcases hwithin asset v hv with ⟨cap, hcap, -⟩
          rw [hceilings, hnone] at hcap
          exact absurd hcap (by simp only [reduceCtorEq, not_false_eq_true])
    · rcases signed_has_ceiling hinv hc with ⟨chosen, cap, haccepts, hcap⟩
      refine ⟨chosen, haccepts, fun heq => ?_⟩
      rw [heq, hnone] at hcap
      exact absurd hcap (by simp only [reduceCtorEq, not_false_eq_true])

/-- Two payments and a quote: the second payment starts when the first is
    over. -/
def sampleEvents : List PayerEvent :=
  [.pay "https://a" "500", .pay "https://a" "500", .quote "https://a", .turn (.fire 1),
    .turn (.reply 1 (sampleAnswer sampleFirst)), .turn (.reply 1 (sampleAnswer sampleFirst)),
    .answerQuote 0 (sampleAnswer sampleFirst), .turn (.reply 1 (sampleAnswer sampleFirst)),
    .turn (.reply 1 (sampleAnswer (samplePaid 200))),
    .turn (.reply 1 (sampleAnswer (samplePaid 200))), .turn (.settle 1), .turn (.fire 2),
    .turn (.fire 3)]

/-- The bound on that run. -/
theorem payer_within_ceilings_sample : ∃ p,
    (createPayer (createSpendLedger [(.str "CUSDC", 1000)])).run sampleDeps sampleEvents = some p ∧
      p.ledger.spentFor (.str "CUSDC") ≤ 1000 := by
  have hrun : ((createPayer (createSpendLedger [(.str "CUSDC", 1000)])).run sampleDeps
      sampleEvents).isSome = true := by decide +kernel
  rcases Option.isSome_iff_exists.mp hrun with ⟨p, hp⟩
  exact ⟨p, hp, (((payer_within_ceilings _ _ _ p hp).1 (.str "CUSDC") 1000 rfl).2.1) (by decide)⟩

end Payer

end VellarSdk
