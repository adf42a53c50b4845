import VellarSdk.Js.Value

/-!
# Texts of Integers

What `BigInt` reads as an integer that is not negative. It is more than a run of
digits: a blank text is zero, white space around the number is dropped, there may
be a plus sign, zero may have a minus sign, and there are the prefixes for other
bases.

## Main definitions

* `BaseDigits`: The digits after a prefix.
* `NaturalText`: The texts of integers that are not negative.

## Theorems

* `stringToBigInt_natural_iff`: What `BigInt` reads so.
-/

namespace VellarSdk

namespace Js

/-- Digits of the base that `0x`, `0o` or `0b` announces, in either case. -/
def BaseDigits (x : CodeUnit) (ds : JsString) : Prop :=
  ((x = 120 ∨ x = 88) ∧ ds.all isHexDigit = true) ∨
    ((x = 111 ∨ x = 79) ∧ ds.all (fun u => 48 ≤ u && u ≤ 55) = true) ∨
    ((x = 98 ∨ x = 66) ∧ ds.all (fun u => u == 48 || u == 49) = true)

/-- The texts of integers that are not negative, without the white space around
    them. -/
inductive NaturalText : JsString → Prop where
  | blank : NaturalText []
  | digits {ds : JsString} (h : isDigits ds = true) : NaturalText ds
  | plus {ds : JsString} (h : isDigits ds = true) : NaturalText (43 :: ds)
  | negativeZero {ds : JsString} (h : isDigits ds = true) (hzero : digitsToNat 10 ds = 0) :
      NaturalText (45 :: ds)
  | based {x : CodeUnit} {ds : JsString} (hne : ds ≠ []) (h : BaseDigits x ds) :
      NaturalText (48 :: x :: ds)

theorem digitsToNat_nonneg (base : Nat) (ds : JsString) : 0 ≤ (digitsToNat base ds : Int) :=
  Int.natCast_nonneg _

/-- Digits after a prefix are read in its base. -/
theorem stringToBigInt_of_based {s ds : JsString} {x : CodeUnit} (htrim : trim s = 48 :: x :: ds)
    (hne : ds ≠ []) (h : BaseDigits x ds) : ∃ n : Nat, JsValue.stringToBigInt s = .ok n := by
  have hsome : (!ds.isEmpty) = true := by
    rw [Bool.not_eq_true', List.isEmpty_eq_false_iff]
    exact hne
  unfold JsValue.stringToBigInt
  rw [htrim]
  rcases h with ⟨rfl | rfl, hall⟩ | ⟨rfl | rfl, hall⟩ | ⟨rfl | rfl, hall⟩ <;>
  · simp only [hsome, hall, Bool.and_self, if_true]
    exact ⟨_, rfl⟩

/-- What is read after a prefix are digits of its base. -/
theorem naturalText_of_based {x : CodeUnit} {ds : JsString} {p : CodeUnit → Bool} {m n : Int}
    (hbase : ds.all p = true → BaseDigits x ds)
    (h : (if (!ds.isEmpty && ds.all p) = true then Except.ok m else .error .syntaxError :
      Except NativeError Int) = .ok n) : NaturalText (48 :: x :: ds) := by
  by_cases hread : (!ds.isEmpty && ds.all p) = true
  · rw [Bool.and_eq_true, Bool.not_eq_true', List.isEmpty_eq_false_iff] at hread
    exact .based hread.1 (hbase hread.2)
  · rw [if_neg hread] at h
    exact absurd h (by simp only [reduceCtorEq, not_false_eq_true])

/-- What `BigInt` reads as an integer that is not negative. -/
theorem stringToBigInt_natural_iff (s : JsString) :
    (∃ n, JsValue.stringToBigInt s = .ok n ∧ 0 ≤ n) ↔ NaturalText (trim s) := by
  constructor
  · rintro ⟨n, hn, hnonneg⟩
    unfold JsValue.stringToBigInt at hn
    -- The shapes of the definition, in its order: blank, signed, based, plain digits.
    generalize trim s = t at hn
    split at hn
    · exact .blank
    · next ds =>
        by_cases hds : isDigits ds = true
        · rw [if_pos hds, Except.ok.injEq] at hn
          exact .negativeZero hds (by omega)
        · rw [if_neg hds] at hn
          exact absurd hn (by simp only [reduceCtorEq, not_false_eq_true])
    · next ds =>
        by_cases hds : isDigits ds = true
        · exact .plus hds
        · rw [if_neg hds] at hn
          exact absurd hn (by simp only [reduceCtorEq, not_false_eq_true])
    · exact naturalText_of_based (fun hall => .inl ⟨.inl rfl, hall⟩) hn
    · exact naturalText_of_based (fun hall => .inl ⟨.inr rfl, hall⟩) hn
    · exact naturalText_of_based (fun hall => .inr (.inl ⟨.inl rfl, hall⟩)) hn
    · exact naturalText_of_based (fun hall => .inr (.inl ⟨.inr rfl, hall⟩)) hn
    · exact naturalText_of_based (fun hall => .inr (.inr ⟨.inl rfl, hall⟩)) hn
    · exact naturalText_of_based (fun hall => .inr (.inr ⟨.inr rfl, hall⟩)) hn
    · by_cases hds : isDigits t = true
      · exact .digits hds
      · rw [if_neg hds] at hn
        exact absurd hn (by simp only [reduceCtorEq, not_false_eq_true])
  · intro h
    generalize ht : trim s = t at h
    -- Each of the natural texts takes its own branch.
    cases h with
    | blank =>
        refine ⟨0, ?_, le_refl 0⟩
        rw [JsValue.stringToBigInt, ht]
    | digits hds =>
        have hsame : JsValue.stringToBigInt s = JsValue.stringToBigInt t := by
          rw [JsValue.stringToBigInt, JsValue.stringToBigInt, ht,
            trim_of_isDigit ((isDigits_iff t).mp hds).2]
        rw [hsame, JsValue.stringToBigInt_of_isDigits hds]
        exact ⟨_, rfl, digitsToNat_nonneg 10 t⟩
    | @plus ds hds =>
        refine ⟨_, ?_, digitsToNat_nonneg 10 ds⟩
        rw [JsValue.stringToBigInt, ht]
        exact if_pos hds
    | @negativeZero ds hds hzero =>
        refine ⟨-(digitsToNat 10 ds : Int), ?_, by omega⟩
        rw [JsValue.stringToBigInt, ht]
        exact if_pos hds
    | based hne hbase =>
        rcases stringToBigInt_of_based ht hne hbase with ⟨n, hn⟩
        exact ⟨n, hn, Int.natCast_nonneg n⟩

end Js

end VellarSdk
