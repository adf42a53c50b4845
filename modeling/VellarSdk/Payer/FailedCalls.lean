import VellarSdk.Payer.Answers
import VellarSdk.Payer.ChallengeTexts
import VellarSdk.Payer.SettlementTexts

/-!
# The Errors of a Call

Which strings of others stand in the error that a call of the payer ends in. A
quote repeats what the environment threw, or what a challenge says that it cannot
use. A payment repeats its maximum, what the environment threw, the challenge it
refused, the asset it has no ceiling left for, or what a paid response said.

The conditions are about what the call received: its arguments, the responses on
its trace and the errors of the environment.

## Main definitions

* `QuoteFails`: The quotes that end in an error with a line break.
* `AnswerBreaks`: The paid responses that end a payment in one.
* `PayFails`: The payments that do.
* `Trying`: A payment between two attempts.

## Theorems

* `quote_fails_iff`: A quote throws a line break exactly when it is one of those.
* `pay_fails_iff`: So does a payment.
-/

namespace VellarSdk

namespace Payer

open Js X402 Async

/-- The quotes that end in an error with a line break: one that the environment threw,
    or the refusal of a challenge. -/
inductive QuoteFails (d : PayerDeps) (tr : List PayEvent) : Prop where
  | thrown (err : JsError) (h : err ∈ thrown tr) (hbreak : HasBreak err.message)
  | challenge (first : Response) (hfirst : firstResponse tr = some first)
      (hstatus : first.status = 402) (h : ChallengeBreaks d.parse first)

section Quotes

variable {d : PayerDeps} {l : SpendLedger}

/-- Describing the options says nothing when it fails. -/
theorem not_describe_breaks (accepts : List JsValue) :
    ¬ ThrowsBreak (accepts.mapM describeOption) := by
  induction accepts with
  | nil => exact not_throwsBreak_ok []
  | cons a rest ih =>
      have hone : ¬ ThrowsBreak (describeOption a) := by
        rw [describeOption]
        split
        · exact not_throwsBreak_typeError
        · exact not_throwsBreak_ok _
      rw [List.mapM_cons, throwsBreak_bind, or_iff_right hone]
      rintro ⟨selected, -, hbreak⟩
      rw [throwsBreak_bind, or_iff_right ih] at hbreak
      obtain ⟨others, -, hbreak⟩ := hbreak
      exact not_throwsBreak_ok _ hbreak

/-- Every quote throws a line break exactly when it is one of those. -/
theorem quote_fails_sat (d : PayerDeps) (url : JsString) (l : SpendLedger) :
    Sat payHandler AnyCall (fun tr _ r => ThrowsBreak r ↔ QuoteFails d tr) (quote d url) [] l := by
  unfold quote
  refine (sat_doFetch _ _ _).mpr ⟨trivial, fun first => ?_, fun err => ?_⟩
  swap
  · rw [throwsBreak_error_iff]
    constructor
    · exact .thrown err (List.mem_singleton_self err)
    · intro h
      cases h with
      | thrown err' h hbreak => rwa [List.mem_singleton.mp h] at hbreak
      | challenge first hfirst _ _ =>
          exact absurd hfirst (by simp only [firstResponse, List.nil_append, reduceCtorEq,
            not_false_eq_true])
  -- Once the first response is there, nothing else that can throw is called.
  have hfails : ∀ rest, thrown rest = [] →
      (QuoteFails d ([] ++ [⟨.fetch url none, .ok first⟩] ++ rest) ↔
        first.status = 402 ∧ ChallengeBreaks d.parse first) := by
    intro rest hrest
    constructor
    · intro h
      cases h with
      | thrown err h _ =>
          rw [thrown_append, hrest] at h
          exact absurd h List.not_mem_nil
      | challenge first' hfirst hstatus h =>
          obtain rfl : first = first' := Option.some.inj hfirst
          exact ⟨hstatus, h⟩
    · rintro ⟨hstatus, h⟩
      exact .challenge first rfl hstatus h
  by_cases hstatus : first.status ≠ 402
  · rw [if_pos hstatus]
    refine (sat_discardBody _ _).mpr ⟨trivial, fun r => ?_⟩
    exact iff_of_false (not_throwsBreak_ok _) (fun h => hstatus ((hfails _ rfl).mp h).1)
  rw [if_neg hstatus]
  have hstatus : first.status = 402 := by omega
  cases hchallenge : challengeOf d.parse first with
  | error err =>
      refine (sat_error_bind rfl _).mpr ?_
      rw [← List.append_nil ([] ++ _), hfails [] rfl, and_iff_right hstatus, ← challenge_breaks_iff,
        hchallenge, throwsBreak_error_iff, throwsBreak_error_iff]
  | ok challenge =>
  have hnone : ¬ ChallengeBreaks d.parse first := by
    rw [← challenge_breaks_iff, hchallenge]
    exact not_throwsBreak_ok challenge
  -- A challenge that decoded ends the call in an answer, or in an error of the language.
  have hanswer : ∀ (r : Except JsError QuoteResult) rest, thrown rest = [] → ¬ ThrowsBreak r →
      (ThrowsBreak r ↔ QuoteFails d ([] ++ [⟨.fetch url none, .ok first⟩] ++ rest)) := by
    intro r rest hrest hr
    rw [hfails rest hrest]
    exact iff_of_false hr (fun h => hnone h.2)
  refine (sat_ok_bind rfl _).mpr ?_
  refine (sat_discardBody _ _).mpr ⟨trivial, fun r => ?_⟩
  cases haccepts : acceptsOf challenge with
  | error err =>
      refine (sat_error_bind rfl _).mpr (hanswer _ _ rfl ?_)
      rw [throwsBreak_error_iff, ← throwsBreak_error_iff (α := List JsValue), ← haccepts]
      exact not_acceptsOf_breaks
  | ok accepts =>
  refine (sat_ok_bind rfl _).mpr ?_
  cases hoffered : accepts.mapM describeOption with
  | error err =>
      refine (sat_error_bind rfl _).mpr (hanswer _ _ rfl ?_)
      rw [throwsBreak_error_iff, ← throwsBreak_error_iff (α := List QuotedOption), ← hoffered]
      exact not_describe_breaks accepts
  | ok offered =>
  refine (sat_ok_bind rfl _).mpr ?_
  refine (sat_bind _ _ _ _).mpr ((sat_attempt _ _ _).mpr (quoteCleared_sat ?_ ?_))
  · intro rest err hrest _
    rw [List.append_assoc]
    refine hanswer _ _ ?_ (not_throwsBreak_ok _)
    rw [thrown_append, hrest]
    rfl
  · intro rest chosen amount remaining selected refusal hrest _ _ _
    rw [List.append_assoc]
    refine hanswer _ _ ?_ (not_throwsBreak_ok _)
    rw [thrown_append, hrest]
    rfl

theorem quote_fails_iff {url : JsString} {l' : SpendLedger} {tr : List PayEvent}
    {r : Except JsError QuoteResult} (h : Run payHandler (quote d url) l tr (.done r) l') :
    ThrowsBreak r ↔ QuoteFails d tr :=
  (quote_fails_sat d url l).at_done h

end Quotes

/-- The paid responses that end a payment in an error with a line break. -/
inductive AnswerBreaks (parse : JsonParse) (asset : JsString) (res : Response) : Prop where
  | rejected (hstatus : 400 ≤ res.status) (hspent : ¬ NonSpendEvidence parse res)
      (h : RejectionBreaks parse res)
  | unknown (hstatus : res.status < 400) (h : UnknownBreaks parse asset res)

/-- The payments that end in an error with a line break. -/
inductive PayFails (d : PayerDeps) (url maxAmount : JsString) (l : SpendLedger)
    (tr : List PayEvent) : Prop where
  /-- The maximum is no number, and is quoted. -/
  | amount (hdigits : isDigits maxAmount = false) (hbreak : JsonBreaks (.str maxAmount))
  | thrown (err : JsError) (h : err ∈ thrown tr) (hbreak : HasBreak err.message)
  | challenge (first : Response) (hfirst : firstResponse tr = some first)
      (hstatus : first.status = 402) (h : ChallengeBreaks d.parse first)
  /-- No option can be cleared within the maximum. -/
  | refused (first : Response) (challenge : JsValue) (ceiling : Int) (accepts : List JsValue)
      (hfirst : firstResponse tr = some first) (hstatus : first.status = 402)
      (hchallenge : challengeOf d.parse first = .ok challenge)
      (hceiling : parseAmount maxAmount = .ok ceiling)
      (haccepts : acceptsOf challenge = .ok accepts) (hread : ∀ a ∈ accepts, a.nullish = false)
      (h : RefusalBreaks d.config ceiling accepts)
  /-- The cleared option does not fit into the session. -/
  | overCeiling (first : Response) (o : Order) (hfirst : firstResponse tr = some first)
      (hstatus : first.status = 402) (hopened : Opened d url maxAmount first o)
      (hover : l.assertWithinCeiling o.asset o.amount ≠ .ok ()) (hbreak : TextBreaks o.asset)
  | answered (first res : Response) (o : Order) (asset : JsString)
      (hfirst : firstResponse tr = some first) (hstatus : first.status = 402)
      (hopened : Opened d url maxAmount first o) (hasset : o.asset = .str asset)
      (hres : res ∈ paidResponses tr) (h : AnswerBreaks d.parse asset res)
  /-- The last of as many responses as there are attempts is not spent either. -/
  | exhausted (res : Response) (hlast : (paidResponses tr).getLast? = some res)
      (hlength : (paidResponses tr).length = maxAttempts) (hnot : NonSpendEvidence d.parse res)
      (hbreak : TextBreaks (settleField d.parse res "errorReason"))

section Payments

variable {d : PayerDeps} {url maxAmount : JsString} {l : SpendLedger} {o : Order}
  {tr : List PayEvent} {left : Nat} {lastReason : JsValue}

/-- Evidence that nothing was spent does not end a payment. -/
theorem not_answer_breaks {parse : JsonParse} {asset : JsString} {res : Response}
    (hnot : NonSpendEvidence parse res) : ¬ AnswerBreaks parse asset res := by
  intro h
  cases h with
  | rejected _ hspent _ => exact hspent hnot
  | unknown _ h =>
      obtain ⟨reason, raw, hclass⟩ := h.unknown
      obtain ⟨reason', hclass'⟩ := (classify_notSpent_iff parse res).mpr hnot
      rw [hclass] at hclass'
      exact absurd hclass' (by simp only [Except.ok.injEq, reduceCtorEq, not_false_eq_true])

/-- A payment between two attempts, with so many left: the order is open and within
    the ceiling, the environment threw nothing, every paid response is evidence that
    nothing was spent, and the reason of the last of them is kept. -/
structure Trying (d : PayerDeps) (url maxAmount : JsString) (l : SpendLedger) (o : Order)
    (left : Nat) (lastReason : JsValue) (tr : List PayEvent) : Prop where
  opened : ∃ first, firstResponse tr = some first ∧ first.status = 402 ∧
    Opened d url maxAmount first o
  within : l.assertWithinCeiling o.asset o.amount = .ok ()
  unthrown : thrown tr = []
  notSpent : ∀ res ∈ paidResponses tr, NonSpendEvidence d.parse res
  length : (paidResponses tr).length + left = maxAttempts
  reason : TextBreaks lastReason ↔ ∃ res, (paidResponses tr).getLast? = some res ∧
    TextBreaks (settleField d.parse res "errorReason")

/-- A call that neither throws nor is answered by a paid response leaves it there. -/
theorem Trying.snoc (h : Trying d url maxAmount l o left lastReason tr) {e : PayEvent}
    (hthrown : thrownBy e = none) (hpaid : paidResponse e = none) :
    Trying d url maxAmount l o left lastReason (tr ++ [e]) := by
  obtain ⟨first, hfirst, hstatus, hopened⟩ := h.opened
  have hsame : paidResponses (tr ++ [e]) = paidResponses tr := by
    rw [paidResponses_append]
    simp only [paidResponses, List.filterMap_cons_none hpaid, List.filterMap_nil, List.append_nil]
  refine ⟨⟨first, firstResponse_append hfirst _, hstatus, hopened⟩, h.within, ?_, ?_, ?_, ?_⟩
  · rw [thrown_append, h.unthrown]
    simp only [thrown, List.filterMap_cons_none hthrown, List.filterMap_nil, List.append_nil]
  · rw [hsame]
    exact h.notSpent
  · rw [hsame]
    exact h.length
  · rw [hsame]
    exact h.reason

/-- What is still to come decides. -/
theorem Trying.fails_iff (h : Trying d url maxAmount l o left lastReason tr)
    (rest : List PayEvent) : PayFails d url maxAmount l (tr ++ rest) ↔
      (∃ err ∈ thrown rest, HasBreak err.message) ∨
      (∃ asset, o.asset = .str asset ∧ ∃ res ∈ paidResponses rest, AnswerBreaks d.parse asset res) ∨
      ∃ res, (paidResponses tr ++ paidResponses rest).getLast? = some res ∧
        (paidResponses tr ++ paidResponses rest).length = maxAttempts ∧
        NonSpendEvidence d.parse res ∧ TextBreaks (settleField d.parse res "errorReason") := by
  obtain ⟨first, hfirst, hstatus, hopened⟩ := h.opened
  have hfirst' := firstResponse_append hfirst rest
  have hsame : ∀ first', firstResponse (tr ++ rest) = some first' → first' = first :=
    fun first' h' => Option.some.inj (h'.symm.trans hfirst')
  obtain ⟨ceiling, hceiling, hcleared⟩ := hopened.cleared
  -- A payment that got this far was not refused: what opens it rules four cases out.
  -- What is left is what happens from here on.
  constructor
  · intro hfails
    cases hfails with
    | amount hdigits _ =>
        obtain ⟨s, hs, hdigit, -⟩ := parseAmount_eq_ok.mp hceiling
        rw [JsValue.str.inj hs, hdigit] at hdigits
        exact absurd hdigits Bool.true_eq_false_eq_False
    | thrown err herr hbreak =>
        rw [thrown_append, h.unthrown, List.nil_append] at herr
        exact .inl ⟨err, herr, hbreak⟩
    | challenge first' h' _ hbreak =>
        rw [hsame first' h', ← challenge_breaks_iff, hopened.challenge] at hbreak
        exact absurd hbreak (not_throwsBreak_ok _)
    | refused first' challenge ceiling' accepts h' _ hchallenge hceiling' haccepts hread hbreak =>
        rw [hsame first' h', hopened.challenge, Except.ok.injEq] at hchallenge
        rw [hceiling, Except.ok.injEq] at hceiling'
        have hthrows : ThrowsBreak (clearOneOption d.config challenge ceiling') :=
          clear_breaks_iff.mpr ⟨accepts, haccepts, hread, hbreak⟩
        rw [← hchallenge, ← hceiling', hcleared] at hthrows
        exact absurd hthrows (not_throwsBreak_ok _)
    | overCeiling first' o' h' _ hopened' hover _ =>
        rw [hsame first' h'] at hopened'
        rw [opened_unique hopened' hopened] at hover
        exact absurd h.within hover
    | answered first' res o' asset h' _ hopened' hasset hres hbreak =>
        rw [hsame first' h'] at hopened'
        rw [opened_unique hopened' hopened] at hasset
        rw [paidResponses_append] at hres
        rcases List.mem_append.mp hres with hres | hres
        · -- The attempts so far were answered by evidence, which ends nothing.
          exact absurd hbreak (not_answer_breaks (h.notSpent res hres))
        · exact .inr (.inl ⟨asset, hasset, res, hres, hbreak⟩)
    | exhausted res hlast hlength hnot hbreak =>
        rw [paidResponses_append] at hlast hlength
        exact .inr (.inr ⟨res, hlast, hlength, hnot, hbreak⟩)
  · rintro (⟨err, herr, hbreak⟩ | ⟨asset, hasset, res, hres, hbreak⟩ |
      ⟨res, hlast, hlength, hnot, hbreak⟩)
    · refine .thrown err ?_ hbreak
      rw [thrown_append]
      exact List.mem_append_right _ herr
    · refine .answered first res o asset hfirst' hstatus hopened hasset ?_ hbreak
      rw [paidResponses_append]
      exact List.mem_append_right _ hres
    · refine .exhausted res ?_ ?_ hnot hbreak
      · rw [paidResponses_append]
        exact hlast
      · rw [paidResponses_append]
        exact hlength

/-- A paid response that is retried. -/
theorem Trying.retry {lastReason' : JsValue}
    (h : Trying d url maxAmount l o (left + 1) lastReason tr) (headers : Headers) {res : Response}
    (hnot : NonSpendEvidence d.parse res)
    (hreason : TextBreaks lastReason' ↔ TextBreaks (settleField d.parse res "errorReason")) :
    Trying d url maxAmount l o left lastReason' (tr ++ [⟨.fetch o.url (some headers), .ok res⟩]) := by
  obtain ⟨first, hfirst, hstatus, hopened⟩ := h.opened
  have hpaid : paidResponses (tr ++ [⟨.fetch o.url (some headers), .ok res⟩]) =
      paidResponses tr ++ [res] := paidResponses_append _ _
  refine ⟨⟨first, firstResponse_append hfirst _, hstatus, hopened⟩, h.within, ?_, ?_, ?_, ?_⟩
  · rw [thrown_append, h.unthrown]
    rfl
  · rw [hpaid]
    intro res' hres'
    rcases List.mem_append.mp hres' with hres' | hres'
    · exact h.notSpent res' hres'
    · rwa [List.mem_singleton.mp hres']
  · have hlength := h.length
    rw [hpaid, List.length_append, List.length_singleton]
    omega
  · rw [hpaid, List.getLast?_concat, hreason]
    simp only [Option.some.injEq, exists_eq_left']

/-- An attempt that gets no paid response ends the payment with what was thrown. -/
theorem Trying.fails_unpaid (h : Trying d url maxAmount l o (left + 1) lastReason tr)
    {rest : List PayEvent} (hrest : paidResponses rest = []) :
    PayFails d url maxAmount l (tr ++ rest) ↔ ∃ err ∈ thrown rest, HasBreak err.message := by
  rw [h.fails_iff rest, hrest, List.append_nil]
  refine or_iff_left ?_
  rintro (⟨_, _, res, hres, -⟩ | ⟨_, -, hlength, -⟩)
  · exact absurd hres List.not_mem_nil
  · have hfewer := h.length
    omega

/-- An attempt whose response is no evidence that nothing was spent ends it with what
    the response says, or with what was thrown. -/
theorem Trying.fails_answered (h : Trying d url maxAmount l o (left + 1) lastReason tr)
    {headers : Headers} {res : Response} (hspent : ¬ NonSpendEvidence d.parse res)
    {rest : List PayEvent} (hrest : paidResponses rest = []) :
    PayFails d url maxAmount l (tr ++ ⟨.fetch o.url (some headers), .ok res⟩ :: rest) ↔
      (∃ err ∈ thrown rest, HasBreak err.message) ∨
        ∃ asset, o.asset = .str asset ∧ AnswerBreaks d.parse asset res := by
  have hpaid : paidResponses (⟨.fetch o.url (some headers), .ok res⟩ :: rest) = [res] := by
    rw [← List.singleton_append, paidResponses_append, hrest]
    rfl
  have hthrown : thrown (⟨.fetch o.url (some headers), .ok res⟩ :: rest) = thrown rest := rfl
  rw [h.fails_iff, hpaid, hthrown, List.getLast?_concat]
  refine or_congr Iff.rfl ((or_iff_left ?_).trans ?_)
  · rintro ⟨res', hlast, -, hnot, -⟩
    rw [← Option.some.inj hlast] at hnot
    exact hspent hnot
  · simp only [List.mem_singleton, exists_eq_left]

/-- Past a confirmed settlement only reading the body can fail. -/
theorem deliver_fails (h : Trying d url maxAmount l o (left + 1) lastReason tr) (attempt : Nat)
    {headers : Headers} {res : Response} {tx payer : JsValue} (hstatus : res.status < 400)
    (hclass : classifySettlement d.parse res = .ok (.settled tx payer)) :
    Sat payHandler AnyCall (fun tr _ r => ThrowsBreak r ↔ PayFails d url maxAmount l tr)
      (deliver d o attempt res tx payer) (tr ++ [⟨.fetch o.url (some headers), .ok res⟩]) l := by
  have hspent : ¬ NonSpendEvidence d.parse res :=
    fun hnot => not_settled_of_evidence hnot ⟨tx, payer, hclass⟩
  -- A settled response is neither rejected nor unknown, so it ends nothing either.
  have hanswer : ∀ asset, ¬ AnswerBreaks d.parse asset res := by
    intro asset hbreak
    cases hbreak with
    | rejected herror _ _ => omega
    | unknown _ hbreak =>
        obtain ⟨reason, raw, hclass'⟩ := hbreak.unknown
        rw [hclass] at hclass'
        exact absurd hclass' (by simp only [Except.ok.injEq, reduceCtorEq, not_false_eq_true])
  -- After it the environment can only fail to give the body.
  have hfails : ∀ rest, paidResponses rest = [] →
      (PayFails d url maxAmount l (tr ++ ⟨.fetch o.url (some headers), .ok res⟩ :: rest) ↔
        ∃ err ∈ thrown rest, HasBreak err.message) := by
    intro rest hrest
    rw [h.fails_answered hspent hrest]
    refine or_iff_left ?_
    rintro ⟨asset, -, hbreak⟩
    exact hanswer asset hbreak
  -- The ledger had room before the signature, so it takes the debit now.
  obtain ⟨l', hrec⟩ := record_of_within h.within
  obtain ⟨n, hn⟩ := remainingFor_of_record hrec
  refine (sat_record hrec _).mpr ⟨trivial, ?_⟩
  refine (sat_readContent _ _ _).mpr ⟨trivial, fun bytes => ?_, fun err => ?_⟩
  · refine (sat_remainingFor hn _).mpr ⟨trivial, ?_⟩
    simp only [List.append_assoc, List.cons_append, List.nil_append]
    refine iff_of_false (not_throwsBreak_ok _) (fun hbreak => ?_)
    obtain ⟨err, herr, -⟩ := (hfails _ rfl).mp hbreak
    exact absurd herr List.not_mem_nil
  · simp only [List.append_assoc, List.cons_append, List.nil_append]
    rw [throwsBreak_error_iff, hfails _ rfl]
    simp only [thrown, List.filterMap_cons, List.filterMap_nil, thrownBy, List.mem_singleton,
      exists_eq_left]

/-- If nothing is thrown either, the response alone decides. -/
theorem Trying.fails_silent (h : Trying d url maxAmount l o (left + 1) lastReason tr)
    {headers : Headers} {res : Response} {asset : JsString} (hasset : o.asset = .str asset)
    (hspent : ¬ NonSpendEvidence d.parse res) {rest : List PayEvent}
    (hrest : paidResponses rest = []) (hnone : thrown rest = []) :
    PayFails d url maxAmount l (tr ++ [⟨.fetch o.url (some headers), .ok res⟩] ++ rest) ↔
      AnswerBreaks d.parse asset res := by
  rw [List.append_assoc, List.singleton_append, h.fails_answered hspent hrest, hnone]
  constructor
  · rintro (⟨err, herr, -⟩ | ⟨asset', hasset', hbreak⟩)
    · exact absurd herr List.not_mem_nil
    · rw [hasset, JsValue.str.injEq] at hasset'
      rwa [hasset']
  · exact fun hbreak => .inr ⟨asset, hasset, hbreak⟩

/-- An error status ends the payment with the refusal, unless it is retried. -/
theorem onErrorStatus_fails (h : Trying d url maxAmount l o (left + 1) lastReason tr)
    (attempt : Nat) (headers : Headers) {res : Response} (hstatus : 400 ≤ res.status)
    {continue_ : JsValue → Pay PayResult}
    (hcontinue : ∀ reason tr', Trying d url maxAmount l o left reason tr' →
      Sat payHandler AnyCall (fun tr _ r => ThrowsBreak r ↔ PayFails d url maxAmount l tr)
        (continue_ reason) tr' l) :
    Sat payHandler AnyCall (fun tr _ r => ThrowsBreak r ↔ PayFails d url maxAmount l tr)
      (onErrorStatus d attempt res continue_) (tr ++ [⟨.fetch o.url (some headers), .ok res⟩]) l := by
  refine (sat_discardBody _ _).mpr ⟨trivial, fun r => ?_⟩
  by_cases hretry : isRetryableSettleFailure (decodeSettleResponseHeader d.parse res) = true
  · rw [if_pos hretry]
    -- A reason of the payer's own, where the header names none, has no line break.
    have hown : ¬ HasBreak (js "attempt " ++ natToString attempt ++
        js " failed before submission") := by
      have hhead : ¬ HasBreak (js "attempt ") := by decide
      have hend : ¬ HasBreak (js " failed before submission") := by decide
      simp only [hasBreak_append, hhead, hend, carried_lineBreak.nat, or_false, not_false_eq_true]
    exact hcontinue _ _ ((h.retry headers ((isRetryable_iff _ _).mp hretry)
      (textBreaks_orElse hown)).snoc rfl rfl)
  · rw [if_neg hretry]
    -- No evidence, so the payment is rejected with what the seller says of it.
    have hspent := mt (isRetryable_iff d.parse res).mpr hretry
    obtain ⟨first, -, -, hopened⟩ := h.opened
    obtain ⟨asset, -, hasset⟩ := hopened.asset_str
    obtain ⟨err, herr⟩ := rejectPaid_eq PayResult d.parse res
    have hbreaks : ThrowsBreak (rejectPaid d.parse res : Except JsError PayResult) ↔ _ :=
      rejectPaid_breaks_iff
    rw [herr] at hbreaks ⊢
    refine hbreaks.trans (Iff.trans ?_ (h.fails_silent hasset hspent rfl rfl).symm)
    constructor
    · exact fun hbreak => .rejected hstatus hspent hbreak
    · intro hbreak
      cases hbreak with
      | rejected _ _ hbreak => exact hbreak
      | unknown hless _ => omega

/-- Any other status, by what the response says about the settlement. -/
theorem onSuccessStatus_fails (h : Trying d url maxAmount l o (left + 1) lastReason tr)
    (attempt : Nat) (headers : Headers) {res : Response} (hstatus : res.status < 400)
    {continue_ : JsValue → Pay PayResult}
    (hcontinue : ∀ reason tr', Trying d url maxAmount l o left reason tr' →
      Sat payHandler AnyCall (fun tr _ r => ThrowsBreak r ↔ PayFails d url maxAmount l tr)
        (continue_ reason) tr' l) :
    Sat payHandler AnyCall (fun tr _ r => ThrowsBreak r ↔ PayFails d url maxAmount l tr)
      (onSuccessStatus d o attempt res continue_)
      (tr ++ [⟨.fetch o.url (some headers), .ok res⟩]) l := by
  obtain ⟨first, -, -, hopened⟩ := h.opened
  obtain ⟨asset, -, hasset⟩ := hopened.asset_str
  -- Here only a settlement that stays unknown says something.
  have honly : AnswerBreaks d.parse asset res ↔ UnknownBreaks d.parse asset res := by
    constructor
    · intro hbreak
      cases hbreak with
      | rejected herror _ _ => omega
      | unknown _ hbreak => exact hbreak
    · exact fun hbreak => .unknown hstatus hbreak
  have hspent : ∀ r, classifySettlement d.parse res = r → (∀ reason, r ≠ .ok (.notSpent reason)) →
      ¬ NonSpendEvidence d.parse res := by
    rintro r hclass hother hnot
    obtain ⟨reason, hreason⟩ := (classify_notSpent_iff d.parse res).mpr hnot
    exact hother reason (hclass.symm.trans hreason)
  unfold onSuccessStatus
  cases hclass : classifySettlement d.parse res with
  | error err =>
      refine (sat_error_bind rfl _).mpr ?_
      have hspent := hspent _ hclass (fun reason => by simp only [ne_eq, reduceCtorEq,
        not_false_eq_true])
      rw [← List.append_nil (tr ++ _), h.fails_silent hasset hspent rfl rfl, honly,
        throwsBreak_error_iff, ← throwsBreak_error_iff (α := SettlementOutcome), ← hclass]
      refine iff_of_false not_classify_breaks (fun hbreak => ?_)
      obtain ⟨reason, raw, hclass'⟩ := hbreak.unknown
      rw [hclass] at hclass'
      exact absurd hclass' (by simp only [reduceCtorEq, not_false_eq_true])
  | ok outcome =>
      refine (sat_ok_bind rfl _).mpr ?_
      cases outcome with
      | settled tx payer => exact deliver_fails h _ hstatus hclass
      | notSpent reason =>
          have hnot := (classify_notSpent_iff d.parse res).mp ⟨reason, hclass⟩
          have hreason := notSpent_breaks_iff hclass
          cases htext : reason.toStr with
          | error e =>
              have hsilent : ¬ TextBreaks reason := by
                rintro ⟨text, htext', -⟩
                exact absurd (htext.symm.trans htext') (by simp only [reduceCtorEq,
                  not_false_eq_true])
              have hretry := h.retry headers hnot hreason
              have hfails := hretry.fails_iff []
              rw [List.append_nil, show paidResponses [] = [] from rfl, List.append_nil] at hfails
              have herror : (liftM reason.toStr : Except JsError JsString) =
                  .error ⟨.native e, []⟩ := by
                rw [htext]
                rfl
              refine (sat_error_bind herror _).mpr (iff_of_false ?_ (fun hbreak => ?_))
              · rw [throwsBreak_error_iff]
                exact carried_lineBreak.nil
              · rcases hfails.mp hbreak with ⟨err, herr, -⟩ | ⟨_, _, res, hres, -⟩ |
                  ⟨res, hlast, -, -, hbreak⟩
                · exact absurd herr List.not_mem_nil
                · exact absurd hres List.not_mem_nil
                · exact hsilent (hretry.reason.mpr ⟨res, hlast, hbreak⟩)
          | ok text =>
              refine (sat_ok_bind (liftM_eq_ok.mpr htext) _).mpr ?_
              refine (sat_discardBody _ _).mpr ⟨trivial, fun r => ?_⟩
              refine hcontinue _ _ ((h.retry headers hnot ?_).snoc rfl rfl)
              have hhead : ¬ HasBreak (js "attempt ") := by decide
              have hcolon : ¬ HasBreak (js ": ") := by decide
              rw [textBreaks_str, ← hreason]
              simp only [hasBreak_append, hhead, hcolon, carried_lineBreak.nat, false_or, TextBreaks,
                htext, Except.ok.injEq, exists_eq_left']
      | indeterminate reason raw =>
          obtain ⟨l', hrec⟩ := record_of_within h.within
          refine (sat_record hrec _).mpr ⟨trivial, ?_⟩
          refine (sat_discardBody _ _).mpr ⟨trivial, fun r => ?_⟩
          obtain ⟨err, herr, -⟩ := throwIndeterminateSettlement_eq PayResult hasset
            (classify_indeterminate_raw hclass)
          have hbreaks : ThrowsBreak (throwIndeterminateSettlement reason (.str asset) o.amount raw :
              Except JsError PayResult) ↔ _ := indeterminate_breaks_iff hclass
          rw [← hasset, herr] at hbreaks
          have hspent := hspent _ hclass (fun reason => by simp only [ne_eq, Except.ok.injEq,
            reduceCtorEq, not_false_eq_true])
          rw [herr, List.append_assoc]
          exact hbreaks.trans (honly.symm.trans (h.fails_silent hasset hspent rfl rfl).symm)

/-- The attempts throw a line break exactly when the payment is one of those. The
    induction is on the attempts left; what is retried is evidence that nothing was
    spent, so it ends no payment. -/
theorem attemptLoop_fails (lastReason : JsValue)
    (h : Trying d url maxAmount l o left lastReason tr) :
    Sat payHandler AnyCall (fun tr _ r => ThrowsBreak r ↔ PayFails d url maxAmount l tr)
      (attemptLoop d o left lastReason) tr l := by
  induction left generalizing lastReason tr with
  | zero =>
      obtain ⟨err, herr⟩ := throwSettlementFailed_eq PayResult maxAttempts lastReason
      have hbreaks : ThrowsBreak (throwSettlementFailed maxAttempts lastReason :
          Except JsError PayResult) ↔ _ := settlementFailed_breaks_iff
      have hfails := h.fails_iff []
      rw [List.append_nil, show paidResponses [] = [] from rfl, List.append_nil] at hfails
      rw [attemptLoop, herr]
      rw [herr, h.reason] at hbreaks
      refine hbreaks.trans (Iff.trans ?_ hfails.symm)
      constructor
      · rintro ⟨res, hlast, hbreak⟩
        exact .inr (.inr ⟨res, hlast, h.length, h.notSpent res (List.mem_of_getLast? hlast), hbreak⟩)
      · rintro (⟨err, herr, -⟩ | ⟨_, _, res, hres, -⟩ | ⟨res, hlast, -, -, hbreak⟩)
        · exact absurd herr List.not_mem_nil
        · exact absurd hres List.not_mem_nil
        · exact ⟨res, hlast, hbreak⟩
  | succ left ih =>
      -- What the environment throws ends the payment.
      have hthrown : ∀ {tr : List PayEvent} {err : JsError} {e : PayEvent},
          Trying d url maxAmount l o (left + 1) lastReason tr → paidResponse e = none →
          thrownBy e = some err →
          (ThrowsBreak (.error err : Except JsError PayResult) ↔
            PayFails d url maxAmount l (tr ++ [e])) := by
        intro tr err e h hpaid herr
        have hone : thrown [e] = [err] := List.filterMap_cons_some herr
        have hnone : paidResponses [e] = [] := List.filterMap_cons_none hpaid
        rw [h.fails_unpaid hnone, hone, throwsBreak_error_iff]
        simp only [List.mem_singleton, exists_eq_left]
      rw [attemptLoop]
      refine (sat_assertWithinCeiling h.within _).mpr ⟨trivial, ?_⟩
      have h := h.snoc (e := ⟨.assertWithinCeiling o.asset o.amount, .ok ()⟩) rfl rfl
      refine (sat_signPayment _ _).mpr ⟨trivial, fun headers => ?_, fun err => hthrown h rfl rfl⟩
      have h := h.snoc (e := ⟨.signPayment o.narrowed, .ok headers⟩) rfl rfl
      refine (sat_doFetch _ _ _).mpr ⟨trivial, fun res => ?_, fun err => hthrown h rfl rfl⟩
      by_cases hstatus : res.status = 402 ∨ res.status ≥ 400
      · rw [if_pos hstatus]
        exact onErrorStatus_fails h _ headers (by omega) (fun reason tr' => ih reason)
      · rw [if_neg hstatus]
        exact onSuccessStatus_fails h _ headers (by omega) (fun reason tr' => ih reason)

/-- The ledger's refusal names the asset. -/
theorem ceiling_breaks_iff {asset : JsValue} {amount : Int} :
    ThrowsBreak (l.assertWithinCeiling asset amount) ↔
      l.assertWithinCeiling asset amount ≠ .ok () ∧ TextBreaks asset := by
  -- Both refusals name the asset, and numbers besides it.
  have hrefused : ∀ spent ceiling, ThrowsBreak (throwSessionCeilingExceeded asset amount spent
      ceiling : Except JsError Unit) ↔ TextBreaks asset := fun _ _ => sessionCeiling_breaks_iff
  have hunknown : ThrowsBreak (throwSessionCeilingExceeded asset 0 0 0 : Except JsError Int) ↔
      TextBreaks asset := sessionCeiling_breaks_iff
  cases hwithin : l.assertWithinCeiling asset amount with
  | ok u => exact iff_of_false (not_throwsBreak_ok u) (fun h => h.1 rfl)
  | error err =>
      simp only [ne_eq, reduceCtorEq, not_false_eq_true, true_and]
      rw [← hwithin, SpendLedger.assertWithinCeiling, SpendLedger.ceilingFor]
      rw [SpendLedger.assertWithinCeiling, SpendLedger.ceilingFor] at hwithin
      cases hceiling : l.ceilings.get asset with
      | none =>
          simp only
          rw [throwsBreak_bind, hunknown]
          refine or_iff_left ?_
          rintro ⟨ceiling, hok, -⟩
          exact SpendLedger.throwSessionCeilingExceeded_ne_ok hok
      | some ceiling =>
          simp only [hceiling, bind, Except.bind] at hwithin ⊢
          split at hwithin
          · next hover =>
              rw [if_pos hover]
              exact hrefused _ _
          · exact absurd hwithin (by simp only [pure, Except.pure, reduceCtorEq, not_false_eq_true])

/-- What is asked of the first response before the first attempt. -/
def openingOf (d : PayerDeps) (l : SpendLedger) (ceiling : Int) (first : Response) :
    Except JsError Unit := do
  let challenge ← challengeOf d.parse first
  let cleared ← clearOneOption d.config challenge ceiling
  l.assertWithinCeiling (cleared.1.field "asset") cleared.2

/-- Before the first attempt the first response decides, or what was thrown. -/
theorem fails_opening {ceiling : Int} {first : Response} {rest : List PayEvent}
    (hceiling : parseAmount maxAmount = .ok ceiling) (hrest : paidResponses rest = []) :
    PayFails d url maxAmount l (⟨.fetch url none, .ok first⟩ :: rest) ↔
      (∃ err ∈ thrown rest, HasBreak err.message) ∨
        first.status = 402 ∧ ThrowsBreak (openingOf d l ceiling first) := by
  -- Nothing was paid yet, so no paid response ends it.
  have hpaid : paidResponses (⟨.fetch url none, .ok first⟩ :: rest) = [] := hrest
  simp only [openingOf, throwsBreak_bind]
  constructor
  · intro h
    cases h with
    | amount hdigits _ =>
        obtain ⟨s, hs, hdigit, -⟩ := parseAmount_eq_ok.mp hceiling
        rw [JsValue.str.inj hs, hdigit] at hdigits
        exact absurd hdigits Bool.true_eq_false_eq_False
    | thrown err herr hbreak => exact .inl ⟨err, herr, hbreak⟩
    | challenge first' h' hstatus hbreak =>
        obtain rfl : first = first' := Option.some.inj h'
        exact .inr ⟨hstatus, .inl (challenge_breaks_iff.mpr hbreak)⟩
    | refused first' challenge ceiling' accepts h' hstatus hchallenge hceiling' haccepts hread
        hbreak =>
        obtain rfl : first = first' := Option.some.inj h'
        obtain rfl : ceiling = ceiling' := Except.ok.inj (hceiling.symm.trans hceiling')
        exact .inr ⟨hstatus, .inr ⟨challenge, hchallenge, .inl
          (clear_breaks_iff.mpr ⟨accepts, haccepts, hread, hbreak⟩)⟩⟩
    | overCeiling first' o h' hstatus hopened hover hbreak =>
        obtain rfl : first = first' := Option.some.inj h'
        obtain ⟨ceiling', hceiling', hcleared⟩ := hopened.cleared
        obtain rfl : ceiling = ceiling' := Except.ok.inj (hceiling.symm.trans hceiling')
        exact .inr ⟨hstatus, .inr ⟨o.challenge, hopened.challenge, .inr ⟨(o.chosen, o.amount),
          hcleared, ceiling_breaks_iff.mpr ⟨hover, hbreak⟩⟩⟩⟩
    | answered _ _ _ _ _ _ _ _ hres _ =>
        rw [hpaid] at hres
        exact absurd hres List.not_mem_nil
    | exhausted _ hlast _ _ _ =>
        rw [hpaid] at hlast
        exact absurd hlast (by simp only [List.getLast?_nil, reduceCtorEq, not_false_eq_true])
  · -- Each way to fail on opening is one of the kinds.
    rintro (⟨err, herr, hbreak⟩ | ⟨hstatus, hbreak | ⟨challenge, hchallenge, hbreak |
      ⟨⟨chosen, amount⟩, hcleared, hbreak⟩⟩⟩)
    · exact .thrown err herr hbreak
    · exact .challenge first rfl hstatus (challenge_breaks_iff.mp hbreak)
    · obtain ⟨accepts, haccepts, hread, hbreak⟩ := clear_breaks_iff.mp hbreak
      exact .refused first challenge ceiling accepts rfl hstatus hchallenge hceiling haccepts hread
        hbreak
    · obtain ⟨hover, hbreak⟩ := ceiling_breaks_iff.mp hbreak
      exact .overCeiling first ⟨url, challenge, chosen, amount⟩ rfl hstatus
        ⟨rfl, hchallenge, ceiling, hceiling, hcleared⟩ hover hbreak

/-- Without a first response there is only the maximum, or what was thrown. -/
theorem fails_unsent (hfirst : firstResponse tr = none) (hpaid : paidResponses tr = []) :
    PayFails d url maxAmount l tr ↔ (∃ err ∈ thrown tr, HasBreak err.message) ∨
      isDigits maxAmount = false ∧ JsonBreaks (.str maxAmount) := by
  have hnone : ∀ first, firstResponse tr ≠ some first := by
    intro first h
    rw [hfirst] at h
    exact absurd h (by simp only [reduceCtorEq, not_false_eq_true])
  constructor
  · intro h
    cases h with
    | amount hdigits hbreak => exact .inr ⟨hdigits, hbreak⟩
    | thrown err herr hbreak => exact .inl ⟨err, herr, hbreak⟩
    | challenge first h' _ _ => exact absurd h' (hnone first)
    | refused first _ _ _ h' _ _ _ _ _ _ => exact absurd h' (hnone first)
    | overCeiling first _ h' _ _ _ _ => exact absurd h' (hnone first)
    | answered first _ _ _ h' _ _ _ _ _ => exact absurd h' (hnone first)
    | exhausted res hlast _ _ _ =>
        rw [hpaid] at hlast
        exact absurd hlast (by simp only [List.getLast?_nil, reduceCtorEq, not_false_eq_true])
  · rintro (⟨err, herr, hbreak⟩ | ⟨hdigits, hbreak⟩)
    · exact .thrown err herr hbreak
    · exact .amount hdigits hbreak

/-- Every payment throws a line break exactly when it is one of those. -/
theorem pay_fails_sat (d : PayerDeps) (url maxAmount : JsString) (l : SpendLedger) :
    Sat payHandler AnyCall (fun tr _ r => ThrowsBreak r ↔ PayFails d url maxAmount l tr)
      (payExclusively d url maxAmount) [] l := by
  have hone : ∀ {err : JsError}, (∃ err' ∈ [err], HasBreak err'.message) ↔ HasBreak err.message := by
    intro err
    simp only [List.mem_singleton, exists_eq_left]
  have hnothing : ¬ ∃ err ∈ ([] : List JsError), HasBreak err.message := by
    rintro ⟨err, herr, -⟩
    exact absurd herr List.not_mem_nil
  unfold payExclusively
  cases hceiling : parseAmount maxAmount with
  | error err =>
      refine (sat_error_bind rfl _).mpr ?_
      have hbreaks : ThrowsBreak (parseAmount maxAmount) ↔ _ := amount_breaks_iff
      have hdigits : isDigits maxAmount = false := by
        rw [Bool.eq_false_iff]
        intro hdigits
        rw [parseAmount_eq_ok.mpr ⟨maxAmount, rfl, hdigits, rfl⟩] at hceiling
        exact absurd hceiling (by simp only [reduceCtorEq, not_false_eq_true])
      rw [hceiling, throwsBreak_error_iff] at hbreaks
      rw [fails_unsent rfl rfl, throwsBreak_error_iff, hbreaks, hdigits]
      exact (or_iff_right hnothing).symm
  | ok ceiling =>
  have hdigits : isDigits maxAmount ≠ false := by
    obtain ⟨s, hs, hdigit, -⟩ := parseAmount_eq_ok.mp hceiling
    rw [JsValue.str.inj hs, hdigit]
    exact Bool.true_eq_false_eq_False
  refine (sat_ok_bind rfl _).mpr ?_
  refine (sat_doFetch _ _ _).mpr ⟨trivial, fun first => ?_, fun err => ?_⟩
  swap
  · rw [fails_unsent rfl rfl, throwsBreak_error_iff]
    exact hone.symm.trans (or_iff_left (fun h => hdigits h.1)).symm
  -- Up to the first attempt a payment ends as its opening does, unless a body is lost.
  have hopening : ∀ {r : Except JsError PayResult} rest, paidResponses rest = [] →
      thrown rest = [] →
      (ThrowsBreak r ↔ first.status = 402 ∧ ThrowsBreak (openingOf d l ceiling first)) →
      (ThrowsBreak r ↔ PayFails d url maxAmount l (⟨.fetch url none, .ok first⟩ :: rest)) := by
    intro r rest hpaid hnone hr
    rw [hr, fails_opening hceiling hpaid, hnone]
    exact (or_iff_right hnothing).symm
  by_cases hstatus : first.status ≠ 402
  · rw [if_pos hstatus]
    refine (sat_readContent _ _ _).mpr ⟨trivial, fun bytes => ?_, fun err => ?_⟩
    · exact hopening _ rfl rfl (iff_of_false (not_throwsBreak_ok _) (fun h => hstatus h.1))
    · refine Iff.trans ?_ (fails_opening hceiling rfl).symm
      rw [throwsBreak_error_iff]
      exact hone.symm.trans (or_iff_left (fun h => hstatus h.1)).symm
  rw [if_neg hstatus]
  have hstatus : first.status = 402 := by omega
  have herror : ∀ {err : JsError} rest, paidResponses rest = [] → thrown rest = [] →
      openingOf d l ceiling first = .error err →
      (ThrowsBreak (.error err : Except JsError PayResult) ↔
        PayFails d url maxAmount l (⟨.fetch url none, .ok first⟩ :: rest)) := by
    intro err rest hpaid hnone hopen
    refine hopening rest hpaid hnone ?_
    rw [hopen, throwsBreak_error_iff, throwsBreak_error_iff]
    exact (and_iff_right hstatus).symm
  cases hchallenge : challengeOf d.parse first with
  | error err =>
      refine (sat_error_bind rfl _).mpr (herror [] rfl rfl ?_)
      rw [openingOf, hchallenge]
      rfl
  | ok challenge =>
  refine (sat_ok_bind rfl _).mpr ?_
  refine (sat_discardBody _ _).mpr ⟨trivial, fun r => ?_⟩
  cases hcleared : clearOneOption d.config challenge ceiling with
  | error err =>
      refine (sat_error_bind rfl _).mpr (herror [_] rfl rfl ?_)
      rw [openingOf, hchallenge]
      simp only [bind, Except.bind, hcleared]
  | ok cleared =>
  refine (sat_ok_bind rfl _).mpr ?_
  cases hwithin : l.assertWithinCeiling (cleared.1.field "asset") cleared.2 with
  | error err =>
      refine (sat_assertWithinCeiling_error hwithin _).mpr ⟨trivial, herror [_, _] rfl rfl ?_⟩
      rw [openingOf, hchallenge]
      simp only [bind, Except.bind, hcleared, hwithin]
  | ok u =>
      refine (sat_assertWithinCeiling hwithin _).mpr ⟨trivial, ?_⟩
      refine attemptLoop_fails .undefined ⟨⟨first, rfl, hstatus, rfl, hchallenge, ceiling, hceiling,
        hcleared⟩, hwithin, rfl, ?_, rfl, iff_of_false not_textBreaks_undefined ?_⟩
      · exact fun res hres => absurd hres List.not_mem_nil
      · rintro ⟨res, hlast, -⟩
        exact absurd hlast (Option.some_ne_none res).symm

theorem pay_fails_iff {l' : SpendLedger} {r : Except JsError PayResult}
    (h : Run payHandler (payExclusively d url maxAmount) l tr (.done r) l') :
    ThrowsBreak r ↔ PayFails d url maxAmount l tr :=
  (pay_fails_sat d url maxAmount l).at_done h

end Payments

end Payer

end VellarSdk
