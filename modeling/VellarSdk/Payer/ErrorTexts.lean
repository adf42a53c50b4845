import VellarSdk.Payer.Server
import VellarSdk.Payer.TypedRefusals

/-!
# The Strings in an Error

An error is built from a template, and into most templates goes a string that the
payer did not choose. The fixed text of the templates has no line break, so the
message of an error has one exactly when such a string has. A value that has no
text makes the template throw an error of the language instead, which says nothing
of its own.

## Main definitions

* `TextBreaks`, `JsonBreaks`: A value whose text, or whose JSON, has a line break.
* `ThrowsBreak`: Code that throws an error with a line break in its message.

## Theorems

* `throwsBreak_bind`, `throwsBreak_lift_bind`: One step after another.
* `throwsBreak_value`: A template with one value in it.
* `whenTruthy_breaks_iff`: A part that is only there when its value is truthy.
* `maxAmountExceeded_breaks_iff`, `disallowedAsset_breaks_iff`,
  `sessionCeiling_breaks_iff`, `settlementFailed_breaks_iff`: The templates.
-/

namespace VellarSdk

namespace Payer

open Js X402

instance (v : JsString) : Decidable (HasBreak v) :=
  inferInstanceAs (Decidable (∃ u ∈ v, isLineBreak u = true))

/-- The value has a text, and the text has a line break. -/
def TextBreaks (v : JsValue) : Prop :=
  ∃ text, v.toStr = .ok text ∧ HasBreak text

/-- The value can be written as JSON, and what is written has a line break. -/
def JsonBreaks (v : JsValue) : Prop :=
  ∃ text, v.stringify = .ok (some text) ∧ HasBreak text

/-- The code throws an error with a line break in its message. -/
def ThrowsBreak {α : Type} (r : Except JsError α) : Prop :=
  ∃ err, r = .error err ∧ HasBreak err.message

section Texts

theorem hasBreak_append (v w : JsString) : HasBreak (v ++ w) ↔ HasBreak v ∨ HasBreak w := by
  simp only [HasBreak, List.mem_append, or_and_right, exists_or]

/-- What stands between the elements of a list adds no line break. -/
theorem hasBreak_intersperse {sep : JsString} (hsep : ¬ HasBreak sep) :
    ∀ texts : List JsString, HasBreak (List.intersperse sep texts).flatten ↔
      ∃ text ∈ texts, HasBreak text
  | [] => by
      rw [List.intersperse_nil, List.flatten_nil]
      refine iff_of_false carried_lineBreak.nil ?_
      rintro ⟨text, htext, -⟩
      exact absurd htext List.not_mem_nil
  | [text] => by
      rw [List.intersperse_singleton, List.flatten_singleton]
      simp only [List.mem_singleton, exists_eq_left]
  | text :: next :: rest => by
      rw [List.intersperse_cons_cons, List.flatten_cons, List.flatten_cons, hasBreak_append,
        hasBreak_append, hasBreak_intersperse hsep (next :: rest), or_iff_right hsep]
      simp only [List.mem_cons, exists_eq_or_imp]

theorem textBreaks_str (s : JsString) : TextBreaks (.str s) ↔ HasBreak s := by
  simp only [TextBreaks, JsValue.toStr, Except.ok.injEq, exists_eq_left']

theorem not_textBreaks_undefined : ¬ TextBreaks .undefined := by
  rintro ⟨text, htext, hbreak⟩
  rw [← Except.ok.inj htext] at hbreak
  exact absurd hbreak (by decide)

/-- A falsy value has a text without one. -/
theorem TextBreaks.truthy {v : JsValue} (h : TextBreaks v) : v.truthy = true := by
  obtain ⟨text, htext, hbreak⟩ := h
  -- What is falsy prints as one of a few fixed texts, none of which breaks.
  have hfixed : ∀ fixed : JsString, ¬ HasBreak fixed → text ≠ fixed := by
    rintro fixed hnone rfl
    exact hnone hbreak
  cases v with
  | undefined => exact absurd (Except.ok.inj htext).symm (hfixed _ (by decide))
  | null => exact absurd (Except.ok.inj htext).symm (hfixed _ (by decide))
  | bool b =>
      cases b with
      | false => exact absurd (Except.ok.inj htext).symm (hfixed _ (by decide))
      | true => rfl
  | num n =>
      by_cases hzero : n = 0
      · rw [hzero] at htext
        exact absurd (Except.ok.inj htext).symm (hfixed _ (by decide +kernel))
      · simp only [JsValue.truthy, ne_eq, hzero, not_false_eq_true, decide_true]
  | bigint n =>
      exact absurd (Except.ok.inj htext).symm (hfixed _ (carried_lineBreak.int n))
  | str s =>
      cases s with
      | nil => exact absurd (Except.ok.inj htext).symm (hfixed _ carried_lineBreak.nil)
      | cons u s => rfl
  | buffer bytes => rfl
  | arr items => rfl
  | obj fields => rfl

theorem TextBreaks.printable {v : JsValue} (h : TextBreaks v) : Printable v :=
  (toStr_isOk_iff v).mp (h.imp (fun _ => And.left))

/-- So every falsy value can be printed. -/
theorem printable_of_not_truthy {v : JsValue} (h : v.truthy ≠ true) : Printable v := by
  cases v with
  | undefined => exact .undefined
  | null => exact .null
  | bool b => exact .bool b
  | num n => exact .num n
  | bigint n => exact .bigint n
  | str s => exact .str s
  | buffer bytes => exact .buffer bytes
  | arr items => exact absurd rfl h
  | obj fields => exact absurd rfl h

/-- Text around a value that is only there when the value is truthy. -/
theorem whenTruthy_ok_iff {v : JsValue} {pre post otherwise : JsString} :
    (∃ text, whenTruthy v pre post otherwise = .ok text) ↔ Printable v := by
  rw [whenTruthy]
  by_cases htruthy : v.truthy = true
  · rw [if_pos htruthy, ← toStr_isOk_iff]
    constructor
    · rintro ⟨text, h⟩
      obtain ⟨s, hs, -⟩ := bind_eq_ok.mp h
      exact ⟨s, hs⟩
    · rintro ⟨s, hs⟩
      exact ⟨_, bind_eq_ok.mpr ⟨s, hs, rfl⟩⟩
  · rw [if_neg htruthy]
    exact iff_of_true ⟨_, rfl⟩ (printable_of_not_truthy htruthy)

theorem whenTruthy_breaks_iff {v : JsValue} {pre post otherwise text : JsString}
    (hpre : ¬ HasBreak pre) (hpost : ¬ HasBreak post) (hotherwise : ¬ HasBreak otherwise)
    (h : whenTruthy v pre post otherwise = .ok text) : HasBreak text ↔ TextBreaks v := by
  rw [whenTruthy] at h
  by_cases htruthy : v.truthy = true
  · rw [if_pos htruthy] at h
    obtain ⟨s, hs, h⟩ := bind_eq_ok.mp h
    rw [← Except.ok.inj h, hasBreak_append, hasBreak_append, or_iff_left hpost, or_iff_right hpre]
    simp only [TextBreaks, hs, Except.ok.injEq, exists_eq_left']
  · rw [if_neg htruthy] at h
    rw [← Except.ok.inj h]
    exact iff_of_false hotherwise (fun hbreak => htruthy hbreak.truthy)

/-- A missing value is replaced by a text of the payer's own. -/
theorem textBreaks_orElse {v : JsValue} {s : JsString} (hs : ¬ HasBreak s) :
    TextBreaks (v.orElse (.str s)) ↔ TextBreaks v := by
  rw [JsValue.orElse]
  by_cases hnullish : v.nullish = true
  · rw [if_pos hnullish, textBreaks_str]
    refine iff_of_false hs (fun hbreak => ?_)
    have htruthy := hbreak.truthy
    cases v <;> simp_all [JsValue.nullish, JsValue.truthy]
  · rw [if_neg hnullish]

theorem optProp_eq_field (v : JsValue) (name : JsString) : v.optProp name = v.field name := by
  rw [JsValue.optProp]
  cases v <;> rfl

end Texts

section Thrown

variable {α β : Type}

theorem not_throwsBreak_ok (a : α) : ¬ ThrowsBreak (.ok a : Except JsError α) := by
  rintro ⟨err, h, -⟩
  exact absurd h (by simp only [reduceCtorEq, not_false_eq_true])

theorem throwsBreak_error_iff {err : JsError} :
    ThrowsBreak (.error err : Except JsError α) ↔ HasBreak err.message := by
  simp only [ThrowsBreak, Except.error.injEq, exists_eq_left']

theorem throwsBreak_bind {x : Except JsError α} {f : α → Except JsError β} :
    ThrowsBreak (x >>= f) ↔ ThrowsBreak x ∨ ∃ a, x = .ok a ∧ ThrowsBreak (f a) := by
  cases x with
  | error err =>
      rw [throwsBreak_error_iff]
      simp only [bind, Except.bind, throwsBreak_error_iff, reduceCtorEq, false_and, exists_false,
        or_false]
  | ok a =>
      simp only [bind, Except.bind, not_throwsBreak_ok, Except.ok.injEq, exists_eq_left', false_or]

/-- An error of the language says nothing. -/
theorem not_throwsBreak_liftM (x : Except NativeError α) :
    ¬ ThrowsBreak (liftM x : Except JsError α) := by
  cases x with
  | error e =>
      show ¬ ThrowsBreak (.error ⟨.native e, []⟩ : Except JsError α)
      rw [throwsBreak_error_iff]
      exact carried_lineBreak.nil
  | ok a => exact not_throwsBreak_ok a

theorem not_throwsBreak_typeError : ¬ ThrowsBreak (throwTypeError : Except JsError α) := by
  rw [throwTypeError, throwsBreak_error_iff]
  exact carried_lineBreak.nil

theorem throwsBreak_lift_bind {x : Except NativeError α} {f : α → Except JsError β} :
    ThrowsBreak ((liftM x : Except JsError α) >>= f) ↔ ∃ a, x = .ok a ∧ ThrowsBreak (f a) := by
  rw [throwsBreak_bind, or_iff_right (not_throwsBreak_liftM x)]
  simp only [liftM_eq_ok]

/-- A template with one value in it. -/
theorem throwsBreak_value {v : JsValue} {f : JsString → JsError} {Q : Prop}
    (hf : ∀ text, HasBreak (f text).message ↔ HasBreak text ∨ Q) :
    ThrowsBreak ((liftM v.toStr : Except JsError JsString) >>= fun s => .error (f s) :
      Except JsError α) ↔ ∃ text, v.toStr = .ok text ∧ (HasBreak text ∨ Q) := by
  rw [throwsBreak_lift_bind]
  exact exists_congr (fun text => and_congr_right (fun _ => throwsBreak_error_iff.trans (hf text)))

end Thrown

section Templates

variable {α : Type}

theorem maxAmountExceeded_breaks_iff {required maxAmount : Int} {asset : JsValue} :
    ThrowsBreak (throwMaxAmountExceeded required maxAmount asset : Except JsError α) ↔
      TextBreaks asset := by
  have hhead : ¬ HasBreak (js "x402 payment of ") := by decide
  have hopen : ¬ HasBreak (js " (") := by decide
  have hclose : ¬ HasBreak (js ") exceeds maxAmount ") := by decide
  have hend : ¬ HasBreak (js "; refusing to sign.") := by decide
  rw [throwMaxAmountExceeded, throwsBreak_value (Q := False)]
  · simp only [or_false]
    exact Iff.rfl
  · intro text
    simp only [hasBreak_append, hhead, hopen, hclose, hend, carried_lineBreak.int, false_or,
      or_false]

theorem disallowedAsset_breaks_iff {asset : JsValue} {allowedAssets : List JsString} :
    ThrowsBreak (throwDisallowedAsset asset allowedAssets : Except JsError α) ↔
      Printable asset ∧ (TextBreaks asset ∨ ∃ allowed ∈ allowedAssets, HasBreak allowed) := by
  have hhead : ¬ HasBreak (js "x402 requested asset ") := by decide
  have hlist : ¬ HasBreak (js " is not in allowedAssets [") := by decide
  have hend : ¬ HasBreak (js "].") := by decide
  have hcomma : ¬ HasBreak (js ", ") := by decide
  rw [throwDisallowedAsset, throwsBreak_value (Q := ∃ allowed ∈ allowedAssets, HasBreak allowed),
    ← toStr_isOk_iff]
  · constructor
    · rintro ⟨text, htext, hbreak⟩
      exact ⟨⟨text, htext⟩, hbreak.imp (fun h => ⟨text, htext, h⟩) id⟩
    · rintro ⟨⟨text, htext⟩, ⟨text', htext', hbreak⟩ | hbreak⟩
      · exact ⟨text', htext', .inl hbreak⟩
      · exact ⟨text, htext, .inr hbreak⟩
  · intro text
    simp only [hasBreak_append, hasBreak_intersperse hcomma, hhead, hlist, hend, false_or, or_false]

theorem sessionCeiling_breaks_iff {asset : JsValue} {attempted spent ceiling : Int} :
    ThrowsBreak (throwSessionCeilingExceeded asset attempted spent ceiling : Except JsError α) ↔
      TextBreaks asset := by
  have hhead : ¬ HasBreak (js "x402 payment of ") := by decide
  have hasset : ¬ HasBreak (js " would exceed this session's ceiling for asset ") := by decide
  have hcolon : ¬ HasBreak (js ": ") := by decide
  have hspent : ¬ HasBreak (js " already spent of ") := by decide
  have hend : ¬ HasBreak (js ". Refusing to sign.") := by decide
  rw [throwSessionCeilingExceeded, throwsBreak_value (Q := False)]
  · simp only [or_false]
    exact Iff.rfl
  · intro text
    simp only [hasBreak_append, hhead, hasset, hcolon, hspent, hend, carried_lineBreak.int,
      false_or, or_false]

theorem settlementFailed_breaks_iff {attempts : Nat} {lastReason : JsValue} :
    ThrowsBreak (throwSettlementFailed attempts lastReason : Except JsError α) ↔
      TextBreaks lastReason := by
  -- All but the reason is fixed words and a number.
  have hhead : ¬ HasBreak (js "x402 settlement did not complete after ") := by decide
  have hattempts : ¬ HasBreak (js " attempt(s)") := by decide
  have hend : ¬ HasBreak (js (". No transaction hash was returned, " ++
    "which means nothing was spent.")) := by decide +kernel
  have hcolon : ¬ HasBreak (js ": ") := by decide
  rw [throwSettlementFailed, throwsBreak_lift_bind]
  have hmessage : ∀ detail, whenTruthy lastReason (js ": ") [] [] = .ok detail →
      (HasBreak (js "x402 settlement did not complete after " ++ natToString attempts ++
        js " attempt(s)" ++ detail ++ js (". No transaction hash was returned, " ++
          "which means nothing was spent.")) ↔ TextBreaks lastReason) := by
    intro detail hdetail
    simp only [hasBreak_append, hhead, hattempts, hend, carried_lineBreak.nat, false_or, or_false]
    exact whenTruthy_breaks_iff hcolon carried_lineBreak.nil carried_lineBreak.nil hdetail
  constructor
  · rintro ⟨detail, hdetail, hbreak⟩
    exact (hmessage detail hdetail).mp (throwsBreak_error_iff.mp hbreak)
  · intro hbreak
    obtain ⟨detail, hdetail⟩ : ∃ detail, whenTruthy lastReason (js ": ") [] [] = .ok detail :=
      whenTruthy_ok_iff.mpr hbreak.printable
    exact ⟨detail, hdetail, throwsBreak_error_iff.mpr ((hmessage detail hdetail).mpr hbreak)⟩

end Templates

end Payer

end VellarSdk
