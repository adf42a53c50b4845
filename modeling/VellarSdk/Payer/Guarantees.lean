import VellarSdk.Payer.Course

/-!
# What a Payment Guarantees

The properties of one call of `pay`, read off the shapes its trace can have. They
hold for every seller, signer and network, from every ledger and at every
moment of the call: what is signed was cleared and fits the ceiling, a second
signature follows only evidence that the first payment was not spent, and the
ledger is debited at most once.

Two properties hold with an exception each. A confirmed settlement is debited
unless the response that carries it has an error status, and a call that
throws leaves the ledger alone unless the body of a settled response could not
be read.

## Main definitions

* `callsMade`, `signs`, `records`: The calls of a run, counted.
* `Retryable`: The events after which another attempt may follow.
* `firstResponse`, `paidResponses`, `failedReads`: The responses on a trace.
* `BodyLost`: The body of a settled response could not be read.
* `SameSpend`: Two ledgers no method can tell apart.

## Theorems

* `pay_signs_cleared`: What is signed, and that a quote signs nothing.
* `pay_retries_unspent`: When a payment signs again.
* `pay_records_settled_iff`: When a confirmed settlement is debited.
* `pay_error_unspent_iff`: When a failed call left the ledger alone.
-/

namespace VellarSdk

namespace Payer

open Js X402 Async

/-- A signature was asked for. -/
def PayOp.isSign : PayOp → Bool
  | .signPayment _ => true
  | _ => false

/-- A debit was asked for. -/
def PayOp.isRecord : PayOp → Bool
  | .record _ _ => true
  | _ => false

/-- The events after which another attempt may follow: no error, no debit, and
    every paid response with evidence that nothing was spent. -/
def Retryable (parse : JsonParse) : PayEvent → Prop
  | ⟨.fetch _ (some _), r⟩ => ∃ res, r = .ok res ∧ NonSpendEvidence parse res
  | ⟨.fetch _ none, r⟩ => ∃ res, r = .ok res
  | ⟨.signPayment _, r⟩ => ∃ headers, r = .ok headers
  | ⟨.record _ _, _⟩ => False
  -- A failure to discard a body is ignored, so these may have failed.
  | ⟨.arrayBuffer _, _⟩ | ⟨.cancelBody _, _⟩ | ⟨.assertWithinCeiling _ _, _⟩ |
    ⟨.remainingFor _, _⟩ => True

/-- The calls of a trace. -/
def opsOf (tr : List PayEvent) : List PayOp :=
  tr.map (fun e => e.op)

/-- The calls made up to a point of a run: those answered, and the one that is
    pending. -/
def callsMade {α : Type} (tr : List PayEvent) (t : Pay α) : List PayOp :=
  opsOf tr ++ t.pending.toList

/-- How many of the calls ask for a signature. -/
def signs (ops : List PayOp) : Nat :=
  ops.countP PayOp.isSign

/-- How many of the calls debit the ledger. -/
def records (ops : List PayOp) : Nat :=
  ops.countP PayOp.isRecord

@[simp] theorem opsOf_append (tr tr' : List PayEvent) : opsOf (tr ++ tr') = opsOf tr ++ opsOf tr' :=
  List.map_append

@[simp] theorem signs_append (ops ops' : List PayOp) :
    signs (ops ++ ops') = signs ops + signs ops' :=
  List.countP_append

@[simp] theorem records_append (ops ops' : List PayOp) :
    records (ops ++ ops') = records ops + records ops' :=
  List.countP_append

theorem counts_neutral {ops : List PayOp} (h : ∀ op ∈ ops, op.Neutral) :
    signs ops = 0 ∧ records ops = 0 := by
  rw [signs, records, List.countP_eq_zero, List.countP_eq_zero]
  constructor
  all_goals
    intro op hmem hop
    have hneutral := h op hmem
    cases op <;> simp_all [PayOp.isSign, PayOp.isRecord, PayOp.Neutral]

/-- A trace of neutral events followed by neutral calls. -/
theorem opsOf_neutral {tr : List PayEvent} {ops : List PayOp} (h : ∀ e ∈ tr, e.op.Neutral)
    (hops : ∀ op ∈ ops, op.Neutral) : ∀ op ∈ opsOf tr ++ ops, op.Neutral := by
  intro op hop
  rcases List.mem_append.mp hop with hop | hop
  · rcases List.mem_map.mp hop with ⟨e, he, rfl⟩
    exact h e he
  · exact hops op hop

section Shapes

variable {d : PayerDeps} {url maxAmount : JsString} {l l' : SpendLedger} {o : Order}
  {tr : List PayEvent} {retries : List Attempt}

/-- A history has one signature for each retried attempt and no debit. -/
theorem History.counts (h : History d url maxAmount l o retries tr) :
    signs (opsOf tr) = retries.length ∧ records (opsOf tr) = 0 := by
  rcases h.opened with ⟨first, discarded, -, rfl⟩
  -- The counts add up over the retried attempts, each of which signs once.
  clear h
  rw [Order.history, opsOf_append, signs_append, records_append]
  induction retries with
  | nil => exact ⟨rfl, rfl⟩
  | cons a rest ih =>
      have hone : signs (opsOf (o.retried a)) = 1 ∧ records (opsOf (o.retried a)) = 0 := ⟨rfl, rfl⟩
      rw [List.flatMap_cons, opsOf_append, signs_append, records_append, List.length_cons]
      omega

/-- An attempt that signs once and debits once at most stays within the
    bounds. -/
theorem Ready.counts (h : Ready d url maxAmount l o tr) (ops : List PayOp)
    (hsigns : signs ops ≤ 1) (hrecords : records ops ≤ 1) :
    signs (opsOf tr ++ ops) ≤ maxAttempts ∧ records (opsOf tr ++ ops) ≤ 1 := by
  rcases h with ⟨retries, hhist, hlen⟩
  rw [signs_append, records_append, hhist.counts.1, hhist.counts.2]
  omega

/-- Once the amount is debited only neutral calls follow. -/
theorem Ready.counts_debited (h : Ready d url maxAmount l o tr) (headers : Headers)
    (res : Response) (rest : List PayOp) (hrest : ∀ op ∈ rest, op.Neutral) :
    signs (opsOf (tr ++ o.sent headers res) ++ .record o.asset o.amount :: rest) ≤ maxAttempts ∧
      records (opsOf (tr ++ o.sent headers res) ++ .record o.asset o.amount :: rest) ≤ 1 := by
  have hcounts := counts_neutral hrest
  -- The attempt up to the debit signs once and debits once; the rest does neither.
  have hsplit : opsOf (tr ++ o.sent headers res) ++ .record o.asset o.amount :: rest =
      opsOf tr ++ ((opsOf (o.sent headers res) ++ [.record o.asset o.amount]) ++ rest) := by
    simp only [opsOf_append, List.append_assoc, List.singleton_append]
  rw [hsplit]
  refine h.counts _ ?_ ?_
  · rw [signs_append, hcounts.1]
    exact le_refl 1
  · rw [records_append, hcounts.2]
    exact le_refl 1

/-- At every call, counting it in, there are at most three signatures and at
    most one debit. -/
theorem Stage.counts {op : PayOp} (h : Stage d url maxAmount l tr l' op) :
    signs (opsOf tr ++ [op]) ≤ maxAttempts ∧ records (opsOf tr ++ [op]) ≤ 1 := by
  have hsingle : ∀ op' : PayOp, op'.Neutral → ∀ op'' ∈ [op'], op''.Neutral := by
    intro op' hop' op'' hmem
    rwa [List.mem_singleton.mp hmem]
  -- What comes before the stage was counted; the stage adds the call that waits.
  cases h with
  | early _ _ htr hop =>
      have hcounts := counts_neutral (opsOf_neutral htr (hsingle op hop))
      rw [hcounts.1, hcounts.2]
      exact ⟨Nat.zero_le _, Nat.zero_le _⟩
  | check o _ h => exact h.counts _ (Nat.zero_le _) (Nat.zero_le _)
  | sign o tr h =>
      rw [opsOf_append, List.append_assoc]
      exact h.counts _ (le_refl 1) (Nat.zero_le _)
  | send o tr headers h =>
      rw [opsOf_append, List.append_assoc]
      exact h.counts _ (le_refl 1) (Nat.zero_le _)
  | discard o tr headers res h =>
      rw [opsOf_append, List.append_assoc]
      exact h.counts _ (le_refl 1) (Nat.zero_le _)
  | debit o tr headers res h =>
      rw [opsOf_append, List.append_assoc]
      exact h.counts _ (le_refl 1) (le_refl 1)
  | late o tr rest headers res _ _ h hrec hrest hop =>
      rw [opsOf_append, List.append_assoc]
      exact h.counts_debited headers res _ (opsOf_neutral hrest (hsingle op hop))

/-- So it is at the end. -/
theorem Outcome.counts {r : Except JsError PayResult} (h : Outcome d url maxAmount l tr l' r) :
    signs (opsOf tr) ≤ maxAttempts ∧ records (opsOf tr) ≤ 1 := by
  -- Each way a payment ends has made the calls of its last attempt at most.
  cases h with
  | unpaid _ _ htr =>
      have hops : ∀ op ∈ opsOf tr, op.Neutral := by
        intro op hop
        rcases List.mem_map.mp hop with ⟨e, he, rfl⟩
        exact htr e he
      rw [(counts_neutral hops).1, (counts_neutral hops).2]
      exact ⟨Nat.zero_le _, Nat.zero_le _⟩
  | unsigned o tr e h =>
      rw [opsOf_append]
      exact h.counts _ (le_refl 1) (Nat.zero_le _)
  | unsent o tr headers e h =>
      rw [opsOf_append]
      exact h.counts _ (le_refl 1) (Nat.zero_le _)
  | rejected o tr headers res discarded e h _ =>
      rw [opsOf_append, opsOf_append, List.append_assoc]
      exact h.counts _ (le_refl 1) (Nat.zero_le _)
  | unreadable o tr headers res e h _ =>
      rw [opsOf_append]
      exact h.counts _ (le_refl 1) (Nat.zero_le _)
  | exhausted o retries _ e h hlen =>
      rw [h.counts.1, h.counts.2, hlen]
      exact ⟨le_refl _, Nat.zero_le _⟩
  | undetermined o tr headers res discarded _ e reason raw h _ _ _ =>
      rw [opsOf_append]
      refine h.counts_debited headers res [.cancelBody res] (fun op hop => ?_)
      rw [List.mem_singleton.mp hop]
      trivial
  | lost o tr headers res _ e tx payer h _ _ _ =>
      rw [opsOf_append]
      refine h.counts_debited headers res [.arrayBuffer res] (fun op hop => ?_)
      rw [List.mem_singleton.mp hop]
      trivial
  | delivered o tr headers res bytes remaining _ result tx payer h _ _ _ =>
      rw [opsOf_append]
      refine h.counts_debited headers res [.arrayBuffer res, .remainingFor o.asset]
        (fun op hop => ?_)
      rcases List.mem_pair.mp hop with rfl | rfl <;> trivial

/-- Every event of a history allows another attempt. -/
theorem History.retryable (h : History d url maxAmount l o retries tr) :
    ∀ e ∈ tr, Retryable d.parse e := by
  rcases h.opened with ⟨first, discarded, -, rfl⟩
  intro e he
  rcases List.mem_append.mp he with he | he
  · simp only [Order.opening, List.mem_cons, List.not_mem_nil, or_false] at he
    rcases he with rfl | rfl | rfl
    · exact ⟨first, rfl⟩
    · trivial
    · trivial
  · rcases List.mem_flatMap.mp he with ⟨a, ha, he⟩
    simp only [Order.retried, Order.sent, List.cons_append, List.nil_append, List.mem_cons,
      List.not_mem_nil, or_false] at he
    rcases he with rfl | rfl | rfl | rfl
    · trivial
    · exact ⟨a.headers, rfl⟩
    · exact ⟨a.res, rfl, h.notSpent a ha⟩
    · trivial

/-- A payment ready for another attempt that already signed ends in a retried
    attempt. -/
theorem Ready.last_retried (h : Ready d url maxAmount l o tr) (hsigns : 0 < signs (opsOf tr)) :
    ∃ pre a, tr = pre ++ o.retried a ∧ NonSpendEvidence d.parse a.res := by
  rcases h with ⟨retries, hhist, -⟩
  rw [hhist.counts.1] at hsigns
  rcases hhist.opened with ⟨first, discarded, -, rfl⟩
  -- A signature before this one was that of a retried attempt; take the last.
  rcases List.eq_nil_or_concat retries with rfl | ⟨init, a, rfl⟩
  · exact absurd hsigns (lt_irrefl 0)
  · refine ⟨o.opening first discarded ++ init.flatMap o.retried, a, ?_, ?_⟩
    · rw [Order.history, List.concat_eq_append, List.flatMap_append, List.flatMap_singleton,
        List.append_assoc]
    · refine hhist.notSpent a ?_
      rw [List.concat_eq_append]
      exact List.mem_append_right _ (List.mem_singleton_self a)

end Shapes

/-- Everything a call of `pay` can have done when it is about to sign. -/
theorem stage_sign {d : PayerDeps} {url maxAmount : JsString} {l l' : SpendLedger}
    {tr : List PayEvent} {c : JsValue} (h : Stage d url maxAmount l tr l' (.signPayment c)) :
    ∃ o tr', l' = l ∧ c = o.narrowed ∧ Ready d url maxAmount l o tr' ∧
      tr = tr' ++ [⟨.assertWithinCeiling o.asset o.amount, .ok ()⟩] := by
  cases h with
  | early _ _ _ hop => exact absurd hop (by simp only [PayOp.Neutral, not_false_eq_true])
  | sign o tr' h => exact ⟨o, tr', rfl, rfl, h, rfl⟩
  | late _ _ _ _ _ _ _ _ _ _ hop =>
      exact absurd hop (by simp only [PayOp.Neutral, not_false_eq_true])

/-- The response of the unpaid request a trace starts with. -/
def firstResponse : List PayEvent → Option Response
  | ⟨.fetch _ none, .ok res⟩ :: _ => some res
  | _ => none

/-- A challenge with a single acceptable option of 100 base units. -/
def sampleChallengeText : JsString :=
  js "\x7b\"x402Version\":2," ++ js "\"accepts\":[" ++ js "\x7b\"scheme\":\"exact\"," ++
    js "\"network\":" ++ js "\"stellar:testnet\"," ++ js "\"asset\":\"CUSDC\"," ++
    js "\"amount\":\"100\"," ++ js "\"extra\":\x7b" ++ js "\"areFeesSponsored\"" ++
    js ":true\x7d\x7d]\x7d"

/-- The value it parses to. -/
def sampleChallenge : JsValue :=
  .obj [(js "x402Version", .num 2), (js "accepts", .arr [.obj [(js "scheme", js "exact"),
    (js "network", js "stellar:testnet"), (js "asset", js "CUSDC"), (js "amount", js "100"),
    (js "extra", .obj [(js "areFeesSponsored", .bool true)])]])]

/-- A settle result that names a transaction. -/
def sampleSettleText : JsString :=
  js "\x7b\"success\":true," ++ js "\"transaction\":\"" ++ List.replicate 64 97 ++ js "\"\x7d"

/-- The value it parses to. -/
def sampleSettle : JsValue :=
  .obj [(js "success", .bool true), (js "transaction", .str (List.replicate 64 97))]

/-- `JSON.parse` on the two texts. -/
def sampleParse : JsonParse := fun text =>
  if text = sampleChallengeText then .ok sampleChallenge
  else if text = sampleSettleText then .ok sampleSettle
  else .error "Unexpected token"

/-- A payer that may spend 1000 base units of one asset. -/
def sampleDeps : PayerDeps :=
  { parse := sampleParse
    config := { network := "testnet", caip2 := "stellar:testnet"
                allowedAssets := [js "CUSDC"], maxResponseBytes := 1000 }
    signerAddress := "GPAYER" }

/-- The ledger it starts with. -/
def sampleLedger : SpendLedger :=
  createSpendLedger [(.str "CUSDC", 1000)]

/-- The challenge as a response. -/
def sampleFirst : Response :=
  { status := 402
    headers := [(js "payment-required", btoa (TextEncoder.encode sampleChallengeText))] }

/-- A paid response that confirms the settlement, under any status. -/
def samplePaid (status : Nat) : Response :=
  { status := status
    headers := [(js "x-payment-response", btoa (TextEncoder.encode sampleSettleText))] }

/-- How the environment answers a call when its requests get `res`: the signer
    signs, and the connection breaks before the body is complete. -/
def sampleAnswer (res : Response) : (op : PayOp) → Except JsError op.Ret
  | .fetch _ _ => .ok res
  | .signPayment _ => .ok [(js "x-payment", js "signed")]
  | .arrayBuffer _ => .error ⟨.foreign, js "terminated"⟩
  | .cancelBody _ | .assertWithinCeiling _ _ | .record _ _ => .ok ()
  | .remainingFor _ => .ok 0

/-- A payment with these answers: the challenge, its body, the signer, the paid
    response, its body. The first `n` of them are given. -/
def sampleRun (status n : Nat) : List PayEvent × Pay PayResult × SpendLedger :=
  (payExclusively sampleDeps "https://a" "500").replay payHandler
    ([sampleAnswer sampleFirst, sampleAnswer sampleFirst, sampleAnswer sampleFirst,
      sampleAnswer (samplePaid status), sampleAnswer (samplePaid status)].take n) sampleLedger

theorem sampleRun_run (status n : Nat) :
    Run payHandler (payExclusively sampleDeps "https://a" "500") sampleLedger
      (sampleRun status n).1 (sampleRun status n).2.1 (sampleRun status n).2.2 :=
  run_replay _ _ _ _

/-- What the sample challenge leads to. -/
theorem sample_opened :
    ∃ o, Opened sampleDeps "https://a" "500" sampleFirst o ∧ o.amount = 100 := by
  have hcheck : (orderOf sampleDeps "https://a" "500" sampleFirst).toOption.map
      (fun o => o.amount) = some 100 := by decide +kernel
  rcases ok_of_toOption_map hcheck with ⟨o, ho, hamount⟩
  exact ⟨o, orderOf_eq_ok.mp ho, hamount⟩

/-- Whatever the seller does, what `pay` hands to the signer is a single option
    of the challenge received, eligible, with an amount of digits within the
    maximum, no dearer than any other eligible option, and within the ceiling
    at that moment. A quote signs nothing and leaves the ledger alone. -/
theorem pay_signs_cleared (d : PayerDeps) (url maxAmount : JsString) (l : SpendLedger) :
    (∀ tr c k l', Run payHandler (payExclusively d url maxAmount) l tr
        (.call (.signPayment c) k) l' →
      ∃ first challenge ceiling chosen s cap,
        firstResponse tr = some first ∧
        decodePaymentRequired d.parse first = .ok challenge ∧
        parseAmount maxAmount = .ok ceiling ∧
        c.field "accepts" = .arr [chosen] ∧
        (∃ accepts, challenge.field "accepts" = .arr accepts ∧ chosen ∈ accepts ∧
          ∀ a ∈ accepts, Eligible (some d.config.allowedAssets) d.config.caip2 a →
            ∃ m, parseAmount (a.field "amount") = .ok m ∧ (digitsToNat 10 s : Int) ≤ m) ∧
        Eligible (some d.config.allowedAssets) d.config.caip2 chosen ∧
        chosen.field "amount" = .str s ∧ isDigits s = true ∧ (digitsToNat 10 s : Int) ≤ ceiling ∧
        l'.ceilings.get (chosen.field "asset") = some cap ∧
        l'.spentFor (chosen.field "asset") + digitsToNat 10 s ≤ cap) ∧
    ∀ tr t l', Run payHandler (quote d url) l tr t l' →
      l' = l ∧ ∀ op ∈ callsMade tr t, op.isSign = false ∧ op.isRecord = false := by
  constructor
  · intro tr c k l' hrun
    -- At a signature the order is open and the ledger is still the first one.
    rcases stage_sign ((pay_sat d url maxAmount l).at_call hrun) with
      ⟨o, tr', rfl, rfl, ⟨retries, hhist, -⟩, rfl⟩
    rcases hhist.opened with ⟨first, discarded, hopened, rfl⟩
    rcases hopened.cleared with ⟨ceiling, hceiling, hcleared⟩
    have hspec := clearOneOption_spec hcleared
    rcases bind_eq_ok.mp hopened.challenge with ⟨decoded, hdecoded, hv2⟩
    rcases assertV2Challenge_eq_ok hv2 with ⟨hsame, -⟩
    rcases parseAmount_eq_ok.mp hspec.parsed with ⟨s, hs, hdigits, hamount⟩
    rcases SpendLedger.assertWithinCeiling_eq_ok.mp hhist.within with ⟨cap, hcap, hle⟩
    rcases hspec.offered with ⟨accepts, haccepts, hmem⟩
    rw [hamount] at hle
    refine ⟨first, o.challenge, ceiling, o.chosen, s, cap, rfl, ?_, hceiling, ?_,
      ⟨accepts, haccepts, hmem, fun a ha he => ?_⟩, hspec.eligible, hs, hdigits, ?_, hcap, hle⟩
    · rw [hsame, hdecoded]
    · exact JsValue.field_withField _ _ _
    · rcases hspec.minimal accepts haccepts a ha he with ⟨m, hm, hle⟩
      exact ⟨m, hm, by rwa [← hamount]⟩
    · rw [← hamount]
      exact hspec.affordable
  · intro tr t l' hrun
    -- For the quote: none of its calls signs or debits, answered or pending.
    have hplain : ∀ op : PayOp, op.Neutral → op.isSign = false ∧ op.isRecord = false := by
      intro op hop
      cases op <;> simp_all [PayOp.Neutral, PayOp.isSign, PayOp.isRecord]
    rcases onlyCalls_run (quote_neutral d url) hrun with ⟨htr, ht⟩
    refine ⟨onlyCalls_state neutral_keeps (quote_neutral d url) hrun, fun op hop => hplain op ?_⟩
    refine opsOf_neutral htr (fun op' hop' => ?_) op hop
    cases t with
    | done r => exact absurd hop' List.not_mem_nil
    | call o k =>
        rw [List.mem_singleton.mp hop']
        exact ht.1

/-- The sample payment gets to the signer with the option of the challenge. -/
theorem pay_signs_cleared_sample : ∃ tr c k l' chosen,
    Run payHandler (payExclusively sampleDeps "https://a" "500") sampleLedger tr
      (.call (.signPayment c) k) l' ∧
    c.field "accepts" = .arr [chosen] ∧
    Eligible (some sampleDeps.config.allowedAssets) sampleDeps.config.caip2 chosen := by
  have hpending : (sampleRun 200 2).2.1.pending.map PayOp.isSign = some true := by decide +kernel
  have hrun := sampleRun_run 200 2
  generalize (sampleRun 200 2).2.1 = t at hpending hrun
  cases t with
  | done r => exact absurd hpending (by simp only [Task.pending, Option.map_none, reduceCtorEq,
      not_false_eq_true])
  | call op k =>
      cases op with
      | signPayment c =>
          rcases (pay_signs_cleared sampleDeps "https://a" "500" sampleLedger).1 _ _ _ _ hrun with
            ⟨_, _, _, chosen, _, _, -, -, -, haccepts, -, heligible, -⟩
          exact ⟨_, c, k, _, chosen, hrun, haccepts, heligible⟩
      | _ => exact absurd hpending (by simp only [Task.pending, Option.map_some, PayOp.isSign,
          Option.some.injEq, Bool.false_eq_true, not_false_eq_true])

/-- In every run `pay` signs three times at most and debits once at most. It
    signs again only right after a paid response with evidence that nothing was
    spent, and never after an error, a confirmed or an unknown settlement. -/
theorem pay_retries_unspent (d : PayerDeps) (url maxAmount : JsString) (l l' : SpendLedger)
    (tr : List PayEvent) (t : Pay PayResult)
    (hrun : Run payHandler (payExclusively d url maxAmount) l tr t l') :
    signs (callsMade tr t) ≤ 3 ∧ records (callsMade tr t) ≤ 1 ∧
    ∀ c, t.pending = some (.signPayment c) →
      (0 < signs (opsOf tr) → ∃ pre headers res discarded asset amount,
        tr = pre ++ [⟨.fetch url (some headers), .ok res⟩, ⟨.cancelBody res, discarded⟩,
          ⟨.assertWithinCeiling asset amount, .ok ()⟩] ∧ NonSpendEvidence d.parse res) ∧
      (∀ c' e, ⟨.signPayment c', .error e⟩ ∉ tr) ∧
      (∀ u headers e, ⟨.fetch u headers, .error e⟩ ∉ tr) ∧
      ∀ u headers res, ⟨.fetch u (some headers), .ok res⟩ ∈ tr →
        NonSpendEvidence d.parse res ∧
          ∃ reason, classifySettlement d.parse res = .ok (.notSpent reason) := by
  cases t with
  | done r =>
      have hcounts := ((pay_sat d url maxAmount l).at_done hrun).counts
      refine ⟨?_, ?_, fun c hc => absurd hc (by simp only [Task.pending, reduceCtorEq,
        not_false_eq_true])⟩
      · exact le_of_eq_of_le (by simp only [callsMade, Task.pending, Option.toList_none,
          List.append_nil]) hcounts.1
      · exact le_of_eq_of_le (by simp only [callsMade, Task.pending, Option.toList_none,
          List.append_nil]) hcounts.2
  | call op k =>
      have hstage := (pay_sat d url maxAmount l).at_call hrun
      refine ⟨hstage.counts.1, hstage.counts.2, fun c hc => ?_⟩
      have hop : op = .signPayment c := Option.some.inj hc
      subst hop
      rcases stage_sign hstage with ⟨o, tr', rfl, rfl, hready, rfl⟩
      -- Everything before a signature allows another attempt.
      have hretryable : ∀ e ∈ tr' ++ [⟨.assertWithinCeiling o.asset o.amount, .ok ()⟩],
          Retryable d.parse e := by
        intro e he
        rcases hready with ⟨retries, hhist, -⟩
        rcases List.mem_append.mp he with he | he
        · exact hhist.retryable e he
        · rw [List.mem_singleton.mp he]
          trivial
      refine ⟨fun hsigns => ?_, fun c' e he => ?_, fun u headers e he => ?_,
        fun u headers res he => ?_⟩
      · rw [opsOf_append, signs_append] at hsigns
        rcases hready.last_retried hsigns with ⟨pre, a, rfl, hnot⟩
        rcases hready with ⟨_, hhist, -⟩
        rcases hhist.opened with ⟨_, _, hopened, -⟩
        rw [← hopened.url]
        refine ⟨pre ++ [⟨.assertWithinCeiling o.asset o.amount, .ok ()⟩,
          ⟨.signPayment o.narrowed, .ok a.headers⟩], a.headers, a.res, a.discarded, o.asset,
          o.amount, ?_, hnot⟩
        simp only [Order.retried, Order.sent, List.append_assoc, List.cons_append, List.nil_append]
      · rcases hretryable _ he with ⟨_, h⟩
        exact absurd h (by simp only [reduceCtorEq, not_false_eq_true])
      · cases headers with
        | none =>
            rcases hretryable _ he with ⟨_, h⟩
            exact absurd h (by simp only [reduceCtorEq, not_false_eq_true])
        | some headers =>
            rcases hretryable _ he with ⟨_, h, -⟩
            exact absurd h (by simp only [reduceCtorEq, not_false_eq_true])
      · rcases hretryable _ he with ⟨res', h, hnot⟩
        rw [Except.ok.inj h]
        exact ⟨hnot, (classify_notSpent_iff _ _).mpr hnot⟩

/-- A settle result that failed before anything was submitted. -/
def unspentText : JsString := js "\x7b\"success\":false\x7d"

/-- The sample payer, which can read it as well. -/
def retryingDeps : PayerDeps :=
  { sampleDeps with
    parse := fun text =>
      if text = unspentText then .ok (.obj [(js "success", .bool false)]) else sampleParse text }

/-- A paid response that proves that nothing was spent. -/
def unspentPaid : Response :=
  { status := 402
    headers := [(js "x-payment-response", btoa (TextEncoder.encode unspentText))] }

/-- A payment whose first attempt failed so, up to its second signature. -/
def retryRun : List PayEvent × Pay PayResult × SpendLedger :=
  (payExclusively retryingDeps "https://a" "500").replay payHandler
    [sampleAnswer sampleFirst, sampleAnswer sampleFirst, sampleAnswer sampleFirst,
      sampleAnswer unspentPaid, sampleAnswer unspentPaid] sampleLedger

/-- A second signature is asked for, and the first attempt had spent nothing. -/
theorem pay_retries_unspent_sample : ∃ c,
    retryRun.2.1.pending = some (.signPayment c) ∧ signs (opsOf retryRun.1) = 1 ∧
    signs (callsMade retryRun.1 retryRun.2.1) ≤ 3 ∧
    records (callsMade retryRun.1 retryRun.2.1) ≤ 1 ∧
    ∃ pre headers res discarded asset amount,
      retryRun.1 = pre ++ [⟨.fetch "https://a" (some headers), .ok res⟩,
        ⟨.cancelBody res, discarded⟩, ⟨.assertWithinCeiling asset amount, .ok ()⟩] ∧
      NonSpendEvidence retryingDeps.parse res := by
  have hsigned : signs (opsOf retryRun.1) = 1 := by decide +kernel
  have hsigns : retryRun.2.1.pending.any PayOp.isSign = true := by decide +kernel
  obtain ⟨op, hpending, hop⟩ := (Option.any_eq_true _ _).mp hsigns
  cases op with
  | signPayment c =>
      have hrun : Run payHandler (payExclusively retryingDeps "https://a" "500") sampleLedger
          retryRun.1 retryRun.2.1 retryRun.2.2 := run_replay _ _ _ _
      obtain ⟨hthree, hone, hagain⟩ := pay_retries_unspent _ _ _ _ _ _ _ hrun
      refine ⟨c, hpending, hsigned, hthree, hone, (hagain c hpending).1 ?_⟩
      rw [hsigned]
      decide
  | _ => exact absurd hop Bool.false_ne_true

/-- The response of a paid request. -/
def paidResponse : PayEvent → Option Response
  | ⟨.fetch _ (some _), .ok res⟩ => some res
  | _ => none

/-- The responses of the paid requests on a trace, in order. -/
def paidResponses (tr : List PayEvent) : List Response :=
  tr.filterMap paidResponse

/-- The responses whose body could not be read. -/
def failedReads (tr : List PayEvent) : List Response :=
  tr.filterMap (fun
    | ⟨.arrayBuffer res, .error _⟩ => some res
    | _ => none)

/-- The body of a settled response could not be read. -/
def BodyLost (parse : JsonParse) (tr : List PayEvent) : Prop :=
  ∃ res ∈ paidResponses tr, res.status < 400 ∧ Settled parse res ∧ res ∈ failedReads tr

/-- No method of the ledger can tell the two apart. -/
def SameSpend (l l' : SpendLedger) : Prop :=
  l'.ceilings = l.ceilings ∧ ∀ asset, l'.spentFor asset = l.spentFor asset

section Accounting

variable {d : PayerDeps} {url maxAmount : JsString} {l l' : SpendLedger} {o : Order}
  {tr : List PayEvent}

@[simp] theorem paidResponses_append (tr tr' : List PayEvent) :
    paidResponses (tr ++ tr') = paidResponses tr ++ paidResponses tr' :=
  List.filterMap_append

theorem paidResponses_neutral (h : ∀ e ∈ tr, e.op.Neutral) : paidResponses tr = [] := by
  rw [paidResponses, List.filterMap_eq_nil_iff]
  intro e he
  have hop := h e he
  unfold paidResponse
  split
  · exact absurd hop (by simp only [PayOp.Neutral, not_false_eq_true])
  · rfl

/-- No response in the history of a payment confirms a settlement. -/
theorem History.not_settled {retries : List Attempt} {res : Response}
    (h : History d url maxAmount l o retries tr) (hres : res ∈ paidResponses tr) :
    ¬ Settled d.parse res := by
  rcases List.mem_filterMap.mp hres with ⟨e, he, hpaid⟩
  have hretry := h.retryable e he
  unfold paidResponse at hpaid
  split at hpaid
  -- Evidence that nothing was spent excludes a confirmation.
  · rcases hretry with ⟨res', hok, hnot⟩
    rw [← Option.some.inj hpaid, Except.ok.inj hok]
    exact not_settled_of_evidence hnot
  · exact absurd hpaid (by simp only [reduceCtorEq, not_false_eq_true])

/-- An attempt without a response adds no confirmation. -/
theorem Ready.not_settled {res : Response} {rest : List PayEvent}
    (h : Ready d url maxAmount l o tr) (hrest : paidResponses rest = [])
    (hres : res ∈ paidResponses (tr ++ rest)) : ¬ Settled d.parse res := by
  rcases h with ⟨retries, hhist, -⟩
  rw [paidResponses_append, hrest, List.append_nil] at hres
  exact hhist.not_settled hres

/-- A confirmation in the trace of an attempt is that of its own response. -/
theorem Ready.settled_eq {headers : Headers} {res res' : Response} {rest : List PayEvent}
    (h : Ready d url maxAmount l o tr) (hrest : paidResponses rest = [])
    (hres : res' ∈ paidResponses (tr ++ o.sent headers res ++ rest))
    (hs : Settled d.parse res') : res' = res := by
  rcases h with ⟨retries, hhist, -⟩
  rw [paidResponses_append, paidResponses_append, hrest, List.append_nil] at hres
  rcases List.mem_append.mp hres with hres | hres
  · exact absurd hs (hhist.not_settled hres)
  · exact List.mem_singleton.mp hres

/-- The order of a payment is the one its first response leads to. -/
theorem Ready.order_eq {first : Response} {o' : Order} {rest : List PayEvent}
    (h : Ready d url maxAmount l o tr)
    (hfirst : firstResponse (tr ++ rest) = some first)
    (ho' : Opened d url maxAmount first o') : o' = o := by
  rcases h with ⟨retries, hhist, -⟩
  rcases hhist.opened with ⟨first', discarded, ho, rfl⟩
  have hsame : first' = first := Option.some.inj hfirst
  subst hsame
  -- The guards are functions, so the same response leads to the same order.
  rcases o with ⟨u, challenge, chosen, amount⟩
  rcases o' with ⟨u', challenge', chosen', amount'⟩
  have hurl : u = url := ho.url
  have hurl' : u' = url := ho'.url
  have hchallenge : challenge = challenge' :=
    Except.ok.inj (ho.challenge.symm.trans ho'.challenge)
  subst hchallenge
  rcases ho.cleared with ⟨ceiling, hceiling, hcleared⟩
  rcases ho'.cleared with ⟨ceiling', hceiling', hcleared'⟩
  have hc : ceiling = ceiling' := Except.ok.inj (hceiling.symm.trans hceiling')
  subst hc
  have hpair : (chosen, amount) = (chosen', amount') :=
    Except.ok.inj (hcleared.symm.trans hcleared')
  rw [Prod.mk.injEq] at hpair
  rw [hurl, hurl', hpair.1, hpair.2]

/-- A confirmation is either debited or came with an error status. -/
theorem Outcome.settled {r : Except JsError PayResult} {res : Response}
    (h : Outcome d url maxAmount l tr l' r) (hres : res ∈ paidResponses tr)
    (hs : Settled d.parse res) :
    ∃ o tr' rest, tr = tr' ++ rest ∧ Ready d url maxAmount l o tr' ∧
      (400 ≤ res.status ∧ l' = l ∨ res.status < 400 ∧ l.record o.asset o.amount = .ok l') := by
  cases h with
  | unpaid _ _ htr =>
      rw [paidResponses_neutral htr] at hres
      exact absurd hres List.not_mem_nil
  | unsigned o tr e h => exact absurd hs (h.not_settled rfl hres)
  | unsent o tr headers e h => exact absurd hs (h.not_settled rfl hres)
  -- The one case where a confirmation is passed over.
  | rejected o tr headers res' discarded e h hstatus =>
      have heq := h.settled_eq rfl hres hs
      exact ⟨o, tr, _, List.append_assoc _ _ _, h, Or.inl ⟨by rwa [heq], rfl⟩⟩
  | unreadable o tr headers res' e h hclass =>
      rw [← List.append_nil (tr ++ _)] at hres
      rw [h.settled_eq rfl hres hs] at hs
      rcases hs with ⟨tx, payer, hs⟩
      exact absurd hs (hclass tx payer)
  | exhausted o retries _ e h hlen => exact absurd hs (h.not_settled hres)
  | undetermined o tr headers res' discarded _ e reason raw h hclass hrec he =>
      have heq := h.settled_eq rfl hres hs
      rw [heq] at hs
      rcases hs with ⟨tx, payer, hs⟩
      rw [hclass] at hs
      exact absurd hs (by simp only [Except.ok.injEq, reduceCtorEq, not_false_eq_true])
  | lost o tr headers res' _ e tx payer h hstatus hclass hrec =>
      have heq := h.settled_eq rfl hres hs
      exact ⟨o, tr, _, List.append_assoc _ _ _, h, Or.inr ⟨by rwa [heq], hrec⟩⟩
  | delivered o tr headers res' bytes remaining _ result tx payer h hstatus hclass hrec =>
      have heq := h.settled_eq rfl hres hs
      exact ⟨o, tr, _, List.append_assoc _ _ _, h, Or.inr ⟨by rwa [heq], hrec⟩⟩

/-- A call that throws, other than for an unknown settlement, did not touch the
    ledger, or debited it and then lost the body. -/
theorem Outcome.error_cases {e : JsError} (h : Outcome d url maxAmount l tr l' (.error e))
    (he : e.isIndeterminate = false) :
    l' = l ∧ ¬ BodyLost d.parse tr ∨
      ∃ o tr' rest, tr = tr' ++ rest ∧ Ready d url maxAmount l o tr' ∧
        l.record o.asset o.amount = .ok l' ∧ BodyLost d.parse tr := by
  cases h with
  | unpaid _ _ htr =>
      refine Or.inl ⟨rfl, ?_⟩
      rintro ⟨res, hres, -⟩
      rw [paidResponses_neutral htr] at hres
      exact absurd hres List.not_mem_nil
  | unsigned o tr e h =>
      refine Or.inl ⟨rfl, ?_⟩
      rintro ⟨res, hres, -, hs, -⟩
      exact absurd hs (h.not_settled rfl hres)
  | unsent o tr headers e h =>
      refine Or.inl ⟨rfl, ?_⟩
      rintro ⟨res, hres, -, hs, -⟩
      exact absurd hs (h.not_settled rfl hres)
  | rejected o tr headers res' discarded e h hstatus =>
      refine Or.inl ⟨rfl, ?_⟩
      rintro ⟨res, hres, hlt, hs, -⟩
      rw [h.settled_eq rfl hres hs] at hlt
      omega
  | unreadable o tr headers res' e h hclass =>
      refine Or.inl ⟨rfl, ?_⟩
      rintro ⟨res, hres, -, hs, -⟩
      rw [← List.append_nil (tr ++ _)] at hres
      rw [h.settled_eq rfl hres hs] at hs
      rcases hs with ⟨tx, payer, hs⟩
      exact absurd hs (hclass tx payer)
  | exhausted o retries _ e h hlen =>
      refine Or.inl ⟨rfl, ?_⟩
      rintro ⟨res, hres, -, hs, -⟩
      exact absurd hs (h.not_settled hres)
  | undetermined o tr headers res' discarded _ e reason raw h hclass hrec he' =>
      rw [he'] at he
      exact absurd he (by simp only [Bool.true_eq_false, not_false_eq_true])
  -- The one case where a call that throws has debited.
  | lost o tr headers res' _ e tx payer h hstatus hclass hrec =>
      refine Or.inr ⟨o, tr, _, List.append_assoc _ _ _, h, hrec, res', ?_, hstatus,
        ⟨tx, payer, hclass⟩, ?_⟩
      · rw [paidResponses_append, paidResponses_append]
        exact List.mem_append_left _ (List.mem_append_right _ (List.mem_singleton_self res'))
      · rw [failedReads, List.filterMap_append]
        exact List.mem_append_right _ (List.mem_singleton_self res')

end Accounting

/-- A confirmed settlement is debited by exactly the chosen amount if and only
    if the response that confirms it has no error status, or the amount is
    zero. An error status throws before the settlement is read. -/
theorem pay_records_settled_iff (d : PayerDeps) (url maxAmount : JsString) (l l' : SpendLedger)
    (tr : List PayEvent) (r : Except JsError PayResult) (first res : Response) (o : Order)
    (hrun : Run payHandler (payExclusively d url maxAmount) l tr (.done r) l')
    (hfirst : firstResponse tr = some first)
    (ho : Opened d url maxAmount first o) (hres : res ∈ paidResponses tr)
    (hs : Settled d.parse res) :
    l'.spentFor o.asset = l.spentFor o.asset + o.amount ↔ res.status < 400 ∨ o.amount = 0 := by
  rcases ((pay_sat d url maxAmount l).at_done hrun).settled hres hs with
    ⟨o', tr', rest, rfl, hready, hcase⟩
  have horder := hready.order_eq hfirst ho
  subst horder
  -- Not debited with an error status, debited by the amount otherwise.
  rcases hcase with ⟨hstatus, rfl⟩ | ⟨hstatus, hrec⟩
  · constructor
    · intro hspent
      exact Or.inr (by omega)
    · rintro (hlt | hzero)
      · omega
      · omega
  · exact iff_of_true (SpendLedger.spentFor_record_self hrec) (Or.inl hstatus)

/-- The sample payment ends with a paid response that confirms the settlement,
    under the status 200 and under the status 500. -/
theorem sampleRun_confirmed : ∀ status ∈ [200, 500],
    (sampleRun status 5).2.1.outcome.isSome = true ∧
      firstResponse (sampleRun status 5).1 = some sampleFirst ∧
      samplePaid status ∈ paidResponses (sampleRun status 5).1 ∧
      Settled sampleDeps.parse (samplePaid status) := by
  decide +kernel

/-- The sample payment is debited under the status 200. -/
theorem pay_records_settled_iff_sample : ∃ o, Opened sampleDeps "https://a" "500" sampleFirst o ∧
    (sampleRun 200 5).2.2.spentFor o.asset = sampleLedger.spentFor o.asset + o.amount := by
  rcases sample_opened with ⟨o, ho, -⟩
  rcases sampleRun_confirmed 200 (by decide) with ⟨hdone, hfirst, hpaid, hsettled⟩
  rcases Option.isSome_iff_exists.mp hdone with ⟨r, hr⟩
  have hrun := sampleRun_run 200 5
  rw [Task.eq_done_of_outcome hr] at hrun
  exact ⟨o, ho, (pay_records_settled_iff _ _ _ _ _ _ r sampleFirst (samplePaid 200) o hrun hfirst
    ho hpaid hsettled).mpr (Or.inl (by decide))⟩

/-- Under the status 500 the same settlement is not debited. -/
theorem pay_settled_not_recorded : ¬ ∀ (d : PayerDeps) (url maxAmount : JsString)
    (l l' : SpendLedger) (tr : List PayEvent) (r : Except JsError PayResult)
    (first res : Response) (o : Order),
    Run payHandler (payExclusively d url maxAmount) l tr (.done r) l' →
    firstResponse tr = some first → Opened d url maxAmount first o → res ∈ paidResponses tr →
    Settled d.parse res → l'.spentFor o.asset = l.spentFor o.asset + o.amount := by
  intro hall
  rcases sample_opened with ⟨o, ho, hamount⟩
  rcases sampleRun_confirmed 500 (by decide) with ⟨hdone, hfirst, hpaid, hsettled⟩
  rcases Option.isSome_iff_exists.mp hdone with ⟨r, hr⟩
  have hrun := sampleRun_run 500 5
  rw [Task.eq_done_of_outcome hr] at hrun
  have hspent := hall _ _ _ _ _ _ r sampleFirst (samplePaid 500) o hrun hfirst ho hpaid hsettled
  have hempty : (sampleRun 500 5).2.2.spent = [] := List.length_eq_zero_iff.mp (by decide +kernel)
  rw [hamount, SpendLedger.spentFor, hempty] at hspent
  change (0 : Int) = 0 + 100 at hspent
  omega

/-- A call that throws, other than for an unknown settlement, leaves the spend
    of every asset as it was if and only if it is not the case that a settled
    payment of a positive amount lost its body. The debit comes before the body
    is read. -/
theorem pay_error_unspent_iff (d : PayerDeps) (url maxAmount : JsString) (l l' : SpendLedger)
    (tr : List PayEvent) (e : JsError)
    (hrun : Run payHandler (payExclusively d url maxAmount) l tr (.done (.error e)) l')
    (he : e.isIndeterminate = false) :
    SameSpend l l' ↔ ¬ ∃ first o, firstResponse tr = some first ∧
      Opened d url maxAmount first o ∧ o.amount ≠ 0 ∧ BodyLost d.parse tr := by
  rcases ((pay_sat d url maxAmount l).at_done hrun).error_cases he with
    ⟨rfl, hkept⟩ | ⟨o, tr', rest, rfl, hready, hrec, hlost⟩
  · refine iff_of_true ⟨rfl, fun _ => rfl⟩ ?_
    rintro ⟨_, _, -, -, -, hlost⟩
    exact hkept hlost
  · constructor
    -- The order is that of the first response, and its asset has grown by the amount.
    · rintro ⟨-, hsame⟩ ⟨first, o', hfirst, ho', hamount, -⟩
      have horder := hready.order_eq hfirst ho'
      subst horder
      have hspent := SpendLedger.spentFor_record_self hrec
      rw [hsame] at hspent
      exact hamount (by omega)
    · intro hzero
      refine ⟨SpendLedger.ceilings_record hrec, fun asset => ?_⟩
      -- A debit of zero changes no bucket that a method could tell apart.
      have hamount : o.amount = 0 := by
        by_contra hne
        rcases hready with ⟨retries, hhist, -⟩
        rcases hhist.opened with ⟨first, discarded, ho, rfl⟩
        exact hzero ⟨first, o, rfl, ho, hne, hlost⟩
      rw [SpendLedger.spentFor_record hrec, hamount, add_zero]
      by_cases hk : o.asset.strictEq asset = true
      · rw [if_pos hk, JsValue.eq_of_strictEq hk]
      · rw [if_neg hk]

/-- The outcome of the sample payment whose body is lost. -/
theorem sample_lost :
    ∃ e, (sampleRun 200 5).2.1 = .done (.error e) ∧ e.isIndeterminate = false := by
  have hcheck : (sampleRun 200 5).2.1.outcome.map (fun r => match r with
      | .error e => e.isIndeterminate
      | .ok _ => true) = some false := by decide +kernel
  rcases Task.done_of_outcome_map hcheck with ⟨r, hr, hkind⟩
  cases r with
  | ok result => exact absurd hkind.symm Bool.false_ne_true
  | error e => exact ⟨e, hr, hkind⟩

/-- The sample payment changed the ledger, because its body was lost. -/
theorem pay_error_unspent_iff_sample : ∃ e, (sampleRun 200 5).2.1 = .done (.error e) ∧
    (SameSpend sampleLedger (sampleRun 200 5).2.2 ↔ ¬ ∃ first o,
      firstResponse (sampleRun 200 5).1 = some first ∧
      Opened sampleDeps "https://a" "500" first o ∧ o.amount ≠ 0 ∧
      BodyLost sampleDeps.parse (sampleRun 200 5).1) := by
  rcases sample_lost with ⟨e, hdone, he⟩
  have hrun := sampleRun_run 200 5
  rw [hdone] at hrun
  exact ⟨e, hdone, pay_error_unspent_iff _ _ _ _ _ _ e hrun he⟩

/-- A call that threw, although its settlement was confirmed and debited. -/
theorem pay_error_spent : ¬ ∀ (d : PayerDeps) (url maxAmount : JsString) (l l' : SpendLedger)
    (tr : List PayEvent) (e : JsError),
    Run payHandler (payExclusively d url maxAmount) l tr (.done (.error e)) l' →
    e.isIndeterminate = false → SameSpend l l' := by
  intro hall
  rcases sample_lost with ⟨e, hdone, he⟩
  have hrun := sampleRun_run 200 5
  rw [hdone] at hrun
  have hsame := (hall _ _ _ _ _ _ e hrun he).2 (.str "CUSDC")
  have hspent : (sampleRun 200 5).2.2.spentFor (.str "CUSDC") = 100 := by decide +kernel
  rw [hspent] at hsame
  exact absurd hsame (by decide +kernel)

end Payer

end VellarSdk
