import VellarSdk.X402.FetchGuarantees

/-!
# Reading a Settlement Twice

A paid response is read in two places. `classifySettlement` tells a payment that
was not spent from one that may have been, by what the settle result says of its
success. `decodeSettlementHeader`, which the client uses, looks only at the
transaction, and the record of the spend looks at neither.

So the two readings agree where the settle result does not report a failure, and
nowhere else: with a transaction a failure is returned as a settlement, without
one it is paid and recorded.

## Main definitions

* `responsesOf`: The responses a fetch received.
* `ReportsFailure`: A settle result that says `success: false`.
* `ReadsAlike`: The client treats a paid response as the guard layer reads it.

## Theorems

* `fetch_paid`: What a fetch that paid returned.
* `fetch_reads_alike_iff`: When the two readings agree.
-/

namespace VellarSdk

namespace X402

open Js Stellar Async

/-- The response of a request. -/
def receivedResponse : FetchEvent → Option Response
  | ⟨.request _ _, .ok res⟩ => some res
  | _ => none

/-- The responses a fetch received, in order. -/
def responsesOf (tr : List FetchEvent) : List Response :=
  tr.filterMap receivedResponse

/-- The settle result of the response says `success: false`. -/
def ReportsFailure (parse : JsonParse) (res : Response) : Prop :=
  (decodeSettleResponseHeader parse res).optProp "success" = .bool false

/-- What a fetch did with a paid response agrees with what the guard layer reads
    in it: no settlement of a payment that failed, and no payment and no record
    of one that was not spent. -/
structure ReadsAlike (parse : JsonParse) (paid : Response) (tr : List FetchEvent)
    (t : Fetch X402Response) : Prop where
  failed : ReportsFailure parse paid → ∀ out, t = .done (.ok out) → out.settlement = none
  unspent : (∃ reason, classifySettlement parse paid = .ok (.notSpent reason)) →
    (∀ out, t = .done (.ok out) → out.paid = false) ∧
      ∀ e ∈ tr, ∀ rule amount, e.op ≠ .trackerRecord rule amount

/-- Evidence of no spend is a report of failure that names no transaction. -/
theorem nonSpendEvidence_iff (parse : JsonParse) (res : Response) :
    NonSpendEvidence parse res ↔ ReportsFailure parse res ∧
      ((decodeSettleResponseHeader parse res).optProp "transaction").truthy = false := by
  unfold NonSpendEvidence ReportsFailure JsValue.optProp
  generalize decodeSettleResponseHeader parse res = settle
  by_cases hn : settle.nullish = true
  · simp only [if_pos hn, reduceCtorEq, false_and, iff_false, not_and]
    intro htruthy
    cases settle with
    | undefined => exact absurd htruthy (by decide)
    | null => exact absurd htruthy (by decide)
    | _ => exact absurd hn (by simp only [JsValue.nullish, Bool.false_eq_true, not_false_eq_true])
  · simp only [if_neg hn]
    refine ⟨fun h => h.2, fun h => ⟨?_, h⟩⟩
    -- Only an object has a field that is `false`, and objects are truthy.
    cases settle with
    | obj fields => rfl
    | _ => exact absurd h.1 (by simp only [JsValue.field, reduceCtorEq, not_false_eq_true])

section Responses

variable {s s' : Unit} {tr : List FetchEvent}

theorem responsesOf_append (tr tr' : List FetchEvent) :
    responsesOf (tr ++ tr') = responsesOf tr ++ responsesOf tr' :=
  List.filterMap_append

/-- A body that sends no request receives no response. -/
theorem responsesOf_quiet {α : Type} {t t' : Fetch α}
    (h : t.OnlyCalls (fun op => ∀ url sent, op ≠ .request url sent))
    (hrun : Run fetchHandler t s tr t' s') : responsesOf tr = [] := by
  rw [responsesOf, List.filterMap_eq_nil_iff]
  intro e he
  have hop := (onlyCalls_run h hrun).1 e he
  rcases e with ⟨op, reply⟩
  cases op with
  | request url sent => exact absurd rfl (hop url sent)
  | client op => rfl
  | trackerRecord rule amount => rfl

theorem ofBuild_quiet {α : Type} (t : Build α) :
    (ofBuild t).OnlyCalls (fun op => ∀ url sent, op ≠ .request url sent) := by
  induction t with
  | done r => trivial
  | call o k ih =>
      refine ⟨fun url sent => ?_, ih⟩
      simp only [ne_eq, reduceCtorEq, not_false_eq_true]

/-- A fetch that returned after a paid response returns that response as paid,
    with the settlement it reads in it. -/
theorem fetch_paid {d : X402ClientDeps} {url : JsString} {init : X402FetchInit}
    {out : X402Response} {first paid : Response}
    (hrun : Run fetchHandler (x402Fetch d url init) s tr (.done (.ok out)) s')
    (hpaid : responsesOf tr = [first, paid]) :
    paid.status < 400 ∧ out.paid = true ∧ ∃ requirements amount,
      out.settlement = readSettlement d paid requirements amount := by
  unfold x402Fetch at hrun
  split at hrun
  · exact (run_error_ok hrun).elim
  rcases run_await_bind_ok rfl hrun with ⟨first', tr₁, rfl, hchallenged⟩
  by_cases hstatus : first'.status ≠ 402
  · -- Without a challenge there is one response only.
    rw [if_pos hstatus] at hchallenged
    rcases run_pure_ok hchallenged with ⟨-, rfl⟩
    exact absurd hpaid (by simp only [responsesOf, receivedResponse, List.filterMap_cons,
      List.filterMap_nil, List.cons.injEq, reduceCtorEq, and_false, not_false_eq_true])
  rw [if_neg hstatus] at hchallenged
  rcases run_lift_bind_ok hchallenged with ⟨requirements, -, hchosen⟩
  rcases run_bind_ok hchosen with ⟨signed, _, building, tr₂, hbuild, hsigned, rfl⟩
  rcases run_await_bind_ok rfl hsigned with ⟨paid', tr₃, rfl, hanswered⟩
  by_cases hrefused : paid'.status = 402 ∨ 400 ≤ paid'.status
  · rw [if_pos hrefused] at hanswered
    rcases run_done hanswered with ⟨hthrown, -, -⟩
    injection hthrown with hthrown
    exact absurd hthrown.symm (throwNotAccepted_ne_ok d paid' out)
  rw [if_neg hrefused] at hanswered
  rcases run_bind_ok hanswered with ⟨_, _, recording, tr₄, hrecord, hreturned, rfl⟩
  rcases run_pure_ok hreturned with ⟨rfl, rfl⟩
  have hsame : paid' = paid := by
    change first' :: responsesOf (building ++ _) = _ at hpaid
    rw [responsesOf_append, responsesOf_quiet (ofBuild_quiet _) hbuild] at hpaid
    change first' :: paid' :: responsesOf (recording ++ []) = _ at hpaid
    injection hpaid with _ hpaid
    injection hpaid
  subst hsame
  exact ⟨by omega, rfl, requirements, signed.2, rfl⟩

end Responses

/-- Whatever the seller answers to the payment: where its settle result does not
    report a failure, the client and the guard layer read it alike at every point
    of the fetch, and where it does, no fetch that returns has. -/
theorem fetch_reads_alike_iff (d : X402ClientDeps) (url : JsString) (init : X402FetchInit)
    (tr : List FetchEvent) (t : Fetch X402Response) (first paid : Response)
    (hrun : Run fetchHandler (x402Fetch d url init) () tr t ())
    (hpaid : responsesOf tr = [first, paid]) :
    (¬ ReportsFailure d.parse paid → ReadsAlike d.parse paid tr t) ∧
      ∀ out, t = .done (.ok out) →
        (ReadsAlike d.parse paid tr t ↔ ¬ ReportsFailure d.parse paid) := by
  have hsufficient : ¬ ReportsFailure d.parse paid → ReadsAlike d.parse paid tr t := by
    intro hreport
    refine ⟨fun hfailed => absurd hfailed hreport, fun hunspent => ?_⟩
    have hevidence := (classify_notSpent_iff d.parse paid).mp hunspent
    exact absurd ((nonSpendEvidence_iff d.parse paid).mp hevidence).1 hreport
  refine ⟨hsufficient, fun out hout => ⟨fun halike hfailed => ?_, hsufficient⟩⟩
  subst hout
  rcases fetch_paid hrun hpaid with ⟨-, hispaid, requirements, amount, hsettlement⟩
  by_cases htransaction :
      ((decodeSettleResponseHeader d.parse paid).optProp "transaction").truthy = true
  · -- The client reads the transaction of a failed payment as a settlement.
    have hnone := halike.failed hfailed out rfl
    rw [hsettlement, readSettlement, decodeSettlementHeader, if_pos htransaction] at hnone
    exact absurd hnone (by simp only [Option.map_some, reduceCtorEq, not_false_eq_true])
  · -- Without one the payment was not spent, and is reported as paid.
    have hevidence := (nonSpendEvidence_iff d.parse paid).mpr
      ⟨hfailed, Bool.not_eq_true _ ▸ htransaction⟩
    have hunpaid := (halike.unspent ((classify_notSpent_iff d.parse paid).mpr hevidence)).1 out rfl
    rw [hispaid] at hunpaid
    exact absurd hunpaid (by decide)

section Sample

/-- A failure that names a transaction. -/
def failureText (transaction : JsString) : JsString :=
  js "\x7b\"success\":false," ++ js "\"transaction\":\"" ++ transaction ++ js "\"\x7d"

/-- `JSON.parse` on the challenge and on the failure. -/
def failureParse (transaction : JsString) : JsonParse := fun text =>
  if text = failureText transaction then
    .ok (.obj [(js "success", .bool false), (js "transaction", transaction)])
  else fetchParse text

/-- A paid response that reports the failure. -/
def failurePaid (transaction : JsString) : Response :=
  { status := 200
    headers := [(js "x-payment-response", btoa (TextEncoder.encode (failureText transaction)))] }

/-- A wallet with a budget for a period. -/
def budgetedDeps (transaction : JsString) : X402ClientDeps :=
  { fetchDeps none with
    parse := failureParse transaction
    budgetAttributes := [⟨sampleAddress 2, none, 1000, none, some 1000⟩]
    hasTracker := true }

/-- A fetch of such a wallet whose payment failed. -/
def failureRun (transaction : JsString) :=
  (x402Fetch (budgetedDeps transaction) "https://a" (fetchInit none)).replay fetchHandler
    (List.replicate 6 (fetchAnswer 0 fetchFirst) ++
      List.replicate 3 (fetchAnswer 0 (failurePaid transaction))) ()

/-- Did the fetch pay, and did it return a settlement? -/
def paidAndSettled (r : Except JsError X402Response) : Option (Bool × Bool) :=
  r.toOption.map (fun out => (out.paid, out.settlement.isSome))

/-- Is this a record of a spend? -/
def isTrackerRecord : FetchEvent → Bool
  | ⟨.trackerRecord _ _, _⟩ => true
  | _ => false

/-- A fetch that came to a value. -/
theorem failureRun_returned {transaction : JsString} {paid settled : Bool}
    (h : (failureRun transaction).2.1.outcome.map paidAndSettled = some (some (paid, settled))) :
    ∃ out, Run fetchHandler
      (x402Fetch (budgetedDeps transaction) "https://a" (fetchInit none)) ()
      (failureRun transaction).1 (.done (.ok out)) () ∧ out.paid = paid ∧
      out.settlement.isSome = settled := by
  have hrun : Run fetchHandler
    (x402Fetch (budgetedDeps transaction) "https://a" (fetchInit none)) ()
    (failureRun transaction).1 (failureRun transaction).2.1 () := by
    unfold failureRun
    exact run_replay_unit _ _ _
  rcases Task.done_of_outcome_map h with ⟨r, hr, hout⟩
  rw [hr] at hrun
  cases r with
  | error e => exact absurd hout (by simp only [paidAndSettled, Except.toOption, Option.map_none,
      reduceCtorEq, not_false_eq_true])
  | ok out =>
      injection hout with hout
      injection hout with hpaid hsettled
      exact ⟨out, hrun, hpaid, hsettled⟩

/-- The fetch whose payment was not spent, and what it received. -/
theorem failureRun_unspent :
    responsesOf (failureRun []).1 = [fetchFirst, failurePaid []] ∧
      NonSpendEvidence (failureParse []) (failurePaid []) ∧
      ∃ out, Run fetchHandler (x402Fetch (budgetedDeps []) "https://a" (fetchInit none)) ()
        (failureRun []).1 (.done (.ok out)) () ∧ out.paid = true := by
  have hretryable : isRetryableSettleFailure
    (decodeSettleResponseHeader (failureParse []) (failurePaid [])) = true := by decide +kernel
  have hreturned : (failureRun []).2.1.outcome.map paidAndSettled = some (some (true, false)) := by
    decide +kernel
  rcases failureRun_returned hreturned with ⟨out, hrun, hpaid, -⟩
  exact ⟨by decide +kernel, (isRetryable_iff _ _).mp hretryable, out, hrun, hpaid⟩

/-- A payment that was not spent: the two readings differ. -/
theorem fetch_reads_alike_iff_unspent : ∃ out,
    ¬ ReadsAlike (failureParse []) (failurePaid []) (failureRun []).1 (.done (.ok out)) := by
  rcases failureRun_unspent with ⟨hresponses, hevidence, out, hrun, -⟩
  have hfailed := ((nonSpendEvidence_iff _ _).mp hevidence).1
  have hiff := (fetch_reads_alike_iff (budgetedDeps []) _ _ _ _ _ _ hrun hresponses).2 out rfl
  exact ⟨out, fun halike => hiff.mp halike hfailed⟩

/-- A payment that was not spent is reported as paid and recorded, and one that
    failed with a transaction is reported as settled. -/
theorem fetch_pays_failed :
    (¬ ∀ (d : X402ClientDeps) (url : JsString) (init : X402FetchInit) (tr : List FetchEvent)
      (out : X402Response) (first paid : Response),
      Run fetchHandler (x402Fetch d url init) () tr (.done (.ok out)) () →
      responsesOf tr = [first, paid] → paid.status < 400 →
      (∃ reason, classifySettlement d.parse paid = .ok (.notSpent reason)) →
      out.paid = false) ∧
    (¬ ∀ (d : X402ClientDeps) (url : JsString) (init : X402FetchInit) (tr : List FetchEvent)
      (out : X402Response) (first paid : Response),
      Run fetchHandler (x402Fetch d url init) () tr (.done (.ok out)) () →
      responsesOf tr = [first, paid] → paid.status < 400 →
      (∃ reason, classifySettlement d.parse paid = .ok (.notSpent reason)) →
      tr.any isTrackerRecord = false) ∧
    ¬ ∀ (d : X402ClientDeps) (url : JsString) (init : X402FetchInit) (tr : List FetchEvent)
      (out : X402Response) (first paid : Response),
      Run fetchHandler (x402Fetch d url init) () tr (.done (.ok out)) () →
      responsesOf tr = [first, paid] → paid.status < 400 → ReportsFailure d.parse paid →
      out.settlement = none := by
  rcases failureRun_unspent with ⟨hresponses, hevidence, out, hrun, hpaid⟩
  have hunspent := (classify_notSpent_iff _ _).mpr hevidence
  have hstatus : ∀ transaction, (failurePaid transaction).status < 400 :=
    fun _ => show 200 < 400 by decide
  refine ⟨fun hall => ?_, fun hall => ?_, fun hall => ?_⟩
  · have hunpaid := hall _ _ _ _ _ _ _ hrun hresponses (hstatus []) hunspent
    rw [hpaid] at hunpaid
    exact absurd hunpaid (by decide)
  · have hrecorded : (failureRun []).1.any isTrackerRecord = true := by decide +kernel
    have hunrecorded := hall _ _ _ _ _ _ _ hrun hresponses (hstatus []) hunspent
    rw [hrecorded] at hunrecorded
    exact absurd hunrecorded (by decide)
  · -- The same failure, with a transaction.
    have hresponses : responsesOf (failureRun "ab").1 = [fetchFirst, failurePaid "ab"] := by
      decide +kernel
    have hreturned : (failureRun "ab").2.1.outcome.map paidAndSettled =
      some (some (true, true)) := by decide +kernel
    have hfailed : ((decodeSettleResponseHeader (failureParse "ab") (failurePaid "ab")).optProp
      "success").strictEq (.bool false) = true := by decide +kernel
    rcases failureRun_returned hreturned with ⟨out, hrun, -, hsettled⟩
    have hnone := hall _ _ _ _ _ _ _ hrun hresponses (hstatus "ab")
      ((JsValue.strictEq_iff_of_bool _ _).mp hfailed)
    rw [hnone] at hsettled
    exact absurd hsettled (by decide)

end Sample

end X402

end VellarSdk
