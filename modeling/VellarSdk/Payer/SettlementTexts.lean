import VellarSdk.Payer.ErrorTexts

/-!
# The Strings in a Settlement

What the payer repeats of a paid response that did not settle: the reason and the
transaction of the settle result, or the error of the challenge that came with it.
A settlement that stays unknown is reported with its asset as well.

## Main definitions

* `settleField`, `refusalReason`: What a paid response says.
* `RejectionBreaks`, `UnknownBreaks`: Paid responses that are reported with a line
  break.

## Theorems

* `rejectPaid_breaks_iff`: A payment that was refused.
* `indeterminate_breaks_iff`: One whose settlement stays unknown.
* `notSpent_breaks_iff`: One that is retried.
-/

namespace VellarSdk

namespace Payer

open Js X402

section Paid

variable {α : Type} {parse : JsonParse} {res : Response}

/-- What a paid response says of the settlement, under this name. -/
def settleField (parse : JsonParse) (res : Response) (name : JsString) : JsValue :=
  (decodeSettleResponseHeader parse res).optProp name

/-- Why a paid response was refused: the reason of the settle result, or else the
    error of the challenge that came with it. -/
def refusalReason (parse : JsonParse) (res : Response) : JsValue :=
  (settleField parse res "errorReason").orElse (extractRejectionReason parse res)

/-- The paid responses that are refused with a line break. Both strings are printed,
    so both need a text. -/
structure RejectionBreaks (parse : JsonParse) (res : Response) : Prop where
  reason : Printable (refusalReason parse res)
  transaction : Printable (settleField parse res "transaction")
  breaks : TextBreaks (refusalReason parse res) ∨ TextBreaks (settleField parse res "transaction")

/-- The paid responses whose settlement stays unknown, and is reported with a line
    break. -/
structure UnknownBreaks (parse : JsonParse) (asset : JsString) (res : Response) : Prop where
  unknown : ∃ reason raw, classifySettlement parse res = .ok (.indeterminate reason raw)
  breaks : HasBreak asset ∨ TextBreaks (settleField parse res "transaction")

theorem rejectPaid_breaks_iff :
    ThrowsBreak (rejectPaid parse res : Except JsError α) ↔ RejectionBreaks parse res := by
  -- The fixed words have no break, so the line breaks where the seller's two texts do.
  have hcolon : ¬ HasBreak (js ": ") := by decide
  have hhead : ¬ HasBreak (js "The x402 payment was not accepted (HTTP ") := by decide
  have hclose : ¬ HasBreak (js ").") := by decide
  have hpre : ¬ HasBreak (js " The transaction was submitted (") := by decide
  have hpost : ¬ HasBreak (js ") and fees were charged, so it was not retried.") := by decide
  have hnil : ¬ HasBreak [] := carried_lineBreak.nil
  rw [rejectPaid, throwsBreak_lift_bind]
  constructor
  · rintro ⟨detail, hdetail, hbreak⟩
    obtain ⟨submitted, hsubmitted, hbreak⟩ := throwsBreak_lift_bind.mp hbreak
    rw [throwPaymentRejected, throwsBreak_error_iff] at hbreak
    simp only [hasBreak_append, hhead, hclose, carried_lineBreak.nat, false_or, or_false] at hbreak
    rw [whenTruthy_breaks_iff hcolon hnil hnil hdetail,
      whenTruthy_breaks_iff hpre hpost hnil hsubmitted] at hbreak
    exact ⟨whenTruthy_ok_iff.mp ⟨detail, hdetail⟩, whenTruthy_ok_iff.mp ⟨submitted, hsubmitted⟩,
      hbreak⟩
  · -- Both texts can be printed, so the refusal is thrown.
    rintro ⟨hreason, htransaction, hbreak⟩
    obtain ⟨detail, hdetail⟩ : ∃ text, whenTruthy (refusalReason parse res) (js ": ") [] [] =
      .ok text := whenTruthy_ok_iff.mpr hreason
    obtain ⟨submitted, hsubmitted⟩ : ∃ text, whenTruthy (settleField parse res "transaction")
      (js " The transaction was submitted (")
      (js ") and fees were charged, so it was not retried.") [] = .ok text :=
      whenTruthy_ok_iff.mpr htransaction
    refine ⟨detail, hdetail, throwsBreak_lift_bind.mpr ⟨submitted, hsubmitted, ?_⟩⟩
    rw [throwPaymentRejected, throwsBreak_error_iff]
    simp only [hasBreak_append, hhead, hclose, carried_lineBreak.nat, false_or, or_false]
    rwa [whenTruthy_breaks_iff hcolon hnil hnil hdetail,
      whenTruthy_breaks_iff hpre hpost hnil hsubmitted]

/-- Reading the settle result fails with an error of the language, if at all. -/
theorem not_classify_breaks : ¬ ThrowsBreak (classifySettlement parse res) := by
  rw [classifySettlement]
  dsimp only
  split
  · exact not_throwsBreak_ok _
  split
  · exact not_throwsBreak_ok _
  rw [throwsBreak_lift_bind]
  rintro ⟨text, -, hbreak⟩
  split at hbreak
  · split at hbreak <;> exact not_throwsBreak_ok _ hbreak
  · split at hbreak <;> exact not_throwsBreak_ok _ hbreak

/-- A settlement that stays unknown is reported in words of the payer, and with the
    transaction as the facilitator sent it. -/
theorem classify_unknown {reason : JsString} {raw : JsValue}
    (h : classifySettlement parse res = .ok (.indeterminate reason raw)) :
    ¬ HasBreak reason ∧ (TextBreaks raw ↔ TextBreaks (settleField parse res "transaction")) := by
  -- The reasons are fixed words, but for a hash in hexadecimal digits.
  have hnone : ¬ HasBreak (js "the response carried no settlement information") := by decide
  have hmissing : ¬ HasBreak
      (js "the settlement reported success but carried no transaction hash") := by decide +kernel
  have hmalformed : ¬ HasBreak (js "the settlement carried a malformed transaction hash") := by
    decide
  have hfailed : ¬ HasBreak (js "the facilitator reported failure after submitting ") := by decide
  have hcharged : ¬ HasBreak (js " — fees were charged") := by decide
  -- A missing hash is read as the empty text, which breaks no more than none.
  have htransaction : TextBreaks (((decodeSettleResponseHeader parse res).field
      "transaction").orElse (.str [])) ↔ TextBreaks (settleField parse res "transaction") := by
    rw [textBreaks_orElse carried_lineBreak.nil, settleField, optProp_eq_field]
  rw [classifySettlement] at h
  dsimp only at h
  split at h
  · -- Nothing was settled, so there is no hash either.
    next hfalsy =>
      obtain ⟨rfl, rfl⟩ := SettlementOutcome.indeterminate.inj (Except.ok.inj h)
      refine ⟨hnone, iff_of_false not_textBreaks_undefined (fun hbreak => ?_)⟩
      rw [settleField, optProp_eq_field] at hbreak
      generalize decodeSettleResponseHeader parse res = settle at hfalsy hbreak
      cases settle with
      | obj fields => exact absurd hfalsy Bool.false_ne_true
      | _ => exact not_textBreaks_undefined hbreak
  split at h
  · exact absurd h (by simp only [pure, Except.pure, Except.ok.injEq, reduceCtorEq,
      not_false_eq_true])
  obtain ⟨text, htext, h⟩ := bind_eq_ok.mp h
  have htext := liftM_eq_ok.mp htext
  split at h
  · split at h
    · -- Success without a hash.
      next hempty =>
        obtain ⟨rfl, rfl⟩ := SettlementOutcome.indeterminate.inj (Except.ok.inj h)
        rw [← htransaction, (JsValue.strictEq_iff_of_str _ _).mp hempty, textBreaks_str]
        exact ⟨hmissing, iff_of_false not_textBreaks_undefined carried_lineBreak.nil⟩
    · obtain ⟨rfl, rfl⟩ := SettlementOutcome.indeterminate.inj (Except.ok.inj h)
      exact ⟨hmalformed, htransaction⟩
  · -- Failure with a hash, which is printed after its check.
    next hhash =>
      split at h
      · obtain ⟨rfl, rfl⟩ := SettlementOutcome.indeterminate.inj (Except.ok.inj h)
        refine ⟨?_, htransaction⟩
        rw [Bool.not_eq_true', Bool.not_eq_false, isTransactionHash, Bool.and_eq_true] at hhash
        have hhex : ¬ HasBreak text := carried_lineBreak.hex _ (List.all_eq_true.mp hhash.2)
        simp only [hasBreak_append, hfailed, hhex, hcharged, or_false, not_false_eq_true]
      · exact absurd h (by simp only [pure, Except.pure, Except.ok.injEq, reduceCtorEq,
          not_false_eq_true])

theorem indeterminate_breaks_iff {reason asset : JsString} {raw : JsValue} {amount : Int}
    (h : classifySettlement parse res = .ok (.indeterminate reason raw)) :
    ThrowsBreak (throwIndeterminateSettlement reason (.str asset) amount raw : Except JsError α) ↔
      UnknownBreaks parse asset res := by
  obtain ⟨hreason, hraw⟩ := classify_unknown h
  have hhead : ¬ HasBreak
      (js "The payment may have completed, but this could not be confirmed: ") := by decide +kernel
  have hretried : ¬ HasBreak
      (js ". It was NOT retried, because retrying could pay a second time. ") := by decide +kernel
  have hunits : ¬ HasBreak (js " base units of ") := by decide
  have hcounted : ¬ HasBreak
      (js " have been counted against this session's ceiling as a precaution.") := by decide +kernel
  have hpre : ¬ HasBreak (js " The server reported \"") := by decide
  have hpost : ¬ HasBreak (js ("\", which is not a valid transaction hash — " ++
    "check the payer account on-chain before paying again.")) := by decide +kernel
  have hcheck : ¬ HasBreak (js " Check the payer account on-chain before paying again.") := by
    decide
  have hunknown : UnknownBreaks parse asset res ↔ HasBreak asset ∨ TextBreaks raw := by
    rw [hraw]
    exact ⟨fun hbreak => hbreak.breaks, fun hbreak => ⟨⟨reason, raw, h⟩, hbreak⟩⟩
  -- The raw transaction could be put into a text when it was classified.
  have hprint : Printable raw := by
    rcases classify_indeterminate_raw h with rfl | htext
    · exact .undefined
    · exact (toStr_isOk_iff raw).mp htext
  rw [throwIndeterminateSettlement, throwsBreak_lift_bind, hunknown]
  simp only [JsValue.toStr, Except.ok.injEq, exists_eq_left']
  rw [throwsBreak_lift_bind]
  constructor
  · rintro ⟨advice, hadvice, hbreak⟩
    rw [throwsBreak_error_iff] at hbreak
    simp only [hasBreak_append, hhead, hreason, hretried, carried_lineBreak.int, hunits, hcounted,
      whenTruthy_breaks_iff hpre hpost hcheck hadvice, false_or, or_false] at hbreak
    exact hbreak
  · intro hbreak
    obtain ⟨advice, hadvice⟩ : ∃ text, whenTruthy raw (js " The server reported \"")
      (js ("\", which is not a valid transaction hash — " ++
        "check the payer account on-chain before paying again."))
      (js " Check the payer account on-chain before paying again.") = .ok text :=
      whenTruthy_ok_iff.mpr hprint
    refine ⟨advice, hadvice, throwsBreak_error_iff.mpr ?_⟩
    simp only [hasBreak_append, hhead, hreason, hretried, carried_lineBreak.int, hunits, hcounted,
      whenTruthy_breaks_iff hpre hpost hcheck hadvice, false_or, or_false]
    exact hbreak

/-- A response that is retried leaves the facilitator's reason to be reported. -/
theorem notSpent_breaks_iff {reason : JsValue}
    (h : classifySettlement parse res = .ok (.notSpent reason)) :
    TextBreaks reason ↔ TextBreaks (settleField parse res "errorReason") := by
  have hown : ¬ HasBreak (js "the facilitator reported failure before submission") := by decide
  have hreason : reason = ((decodeSettleResponseHeader parse res).field "errorReason").orElse
      (js "the facilitator reported failure before submission") := by
    rw [classifySettlement] at h
    dsimp only at h
    split at h
    · exact absurd h (by simp only [pure, Except.pure, Except.ok.injEq, reduceCtorEq,
        not_false_eq_true])
    split at h
    · simp only [pure, Except.pure, Except.ok.injEq, SettlementOutcome.notSpent.injEq] at h
      exact h.symm
    obtain ⟨tx, -, h⟩ := bind_eq_ok.mp h
    split at h <;> split at h <;>
      exact absurd h (by simp only [pure, Except.pure, Except.ok.injEq, reduceCtorEq,
        not_false_eq_true])
  rw [hreason, textBreaks_orElse hown, settleField, optProp_eq_field]

end Paid

end Payer

end VellarSdk
