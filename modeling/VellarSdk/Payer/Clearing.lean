import VellarSdk.Payer.Payer
import VellarSdk.X402.Selection

/-!
# The Cleared Option

When the payer clears an option, and which. The guards choose among copies, and
the copies pass the filters that the originals pass, for the same price and at
the same place, so the choice among them is the choice among the originals.

A maximum only decides whether the chosen option is refused in the end. What is
cleared under one maximum is cleared under any other that its price is within.

## Main definitions

* `payerOptions`: The options of a challenge that the payer can choose among.

## Theorems

* `clearOneOption_ok_iff`: When an option is cleared, and which.
* `clearOneOption_within`: Under another maximum.
-/

namespace VellarSdk

namespace Payer

open Js X402

/-- The options that pass every filter of the payer, by their position. -/
def payerOptions (config : PayerConfig) (accepts : List JsValue) : List (Ref JsValue) :=
  eligibleOptions (some config.allowedAssets) config.caip2 accepts

section Copies

variable {allowedAssets : Option (List JsString)} {ourCaip2 : JsString} {accepts : List JsValue}
  {a : JsValue} {e : Ref JsValue}

/-- The copy of an option at the same place. -/
def copyOf (e : Ref JsValue) : Ref JsValue :=
  (guardViewOf e.1, e.2)

theorem isEligible_guardViewOf :
    isEligible allowedAssets ourCaip2 (guardViewOf a) = isEligible allowedAssets ourCaip2 a := by
  rw [Bool.eq_iff_iff, isEligible_iff, isEligible_iff, eligible_guardViewOf]

theorem priceOf_copyOf : priceOf (copyOf e) = priceOf e := by
  rw [priceOf, copyOf, guardViewOf_field e.1 (by decide), priceOf]

theorem amountIn_copyOf : amountIn (copyOf e) = amountIn e := by
  rw [amountIn, priceOf_copyOf, amountIn]

theorem priced_copyOf : Priced (copyOf e) ↔ Priced e := by
  rw [priced_iff, priceOf_copyOf, priced_iff]

/-- The copies that pass the filters are those of the options that do. -/
theorem eligibleOptions_copies : eligibleOptions allowedAssets ourCaip2 (accepts.map guardViewOf) =
    (eligibleOptions allowedAssets ourCaip2 accepts).map copyOf := by
  rw [eligibleOptions, eligibleOptions, List.zipIdx_map, List.filter_map]
  refine congrArg (List.map copyOf) (List.filter_congr (fun e _ => ?_))
  exact isEligible_guardViewOf

/-- The choice among the copies is the choice among the originals. -/
theorem selects_copies {maxAmount : Int} {eligible : List (Ref JsValue)} {chosen : Ref JsValue} :
    Selects maxAmount (eligible.map copyOf) chosen ↔
      ∃ o, copyOf o = chosen ∧ Selects maxAmount eligible o := by
  constructor
  · rintro ⟨hpriced, hcheapest, hle⟩
    obtain ⟨o, rfl, hleast⟩ := firstLeast_map.mp hcheapest
    refine ⟨o, rfl, fun a ha => ?_, hleast.congr (fun a _ => amountIn_copyOf), ?_⟩
    · exact priced_copyOf.mp (hpriced (copyOf a) (List.mem_map_of_mem ha))
    · rwa [amountIn_copyOf] at hle
  · rintro ⟨o, rfl, hpriced, hcheapest, hle⟩
    refine ⟨List.forall_mem_map.mpr (fun a ha => priced_copyOf.mpr (hpriced a ha)),
      firstLeast_map.mpr ⟨o, rfl, hcheapest.congr (fun a _ => amountIn_copyOf.symm)⟩, ?_⟩
    rwa [amountIn_copyOf]

/-- The copies can be made when there is no missing option. -/
theorem guardViews_ok_iff {views : List JsValue} : guardViews accepts = .ok views ↔
    views = accepts.map guardViewOf ∧ ∀ a ∈ accepts, a.nullish = false := by
  induction accepts generalizing views with
  | nil =>
      rw [guardViews, Except.ok.injEq, List.map_nil, eq_comm]
      exact ⟨fun h => ⟨h, fun a ha => absurd ha List.not_mem_nil⟩, And.left⟩
  | cons a rest ih =>
      rw [guardViews, List.map_cons, List.forall_mem_cons]
      by_cases hnullish : a.nullish = true
      · rw [if_pos hnullish, hnullish]
        refine iff_of_false ?_ (fun h => absurd h.2.1 (by simp only [Bool.true_eq_false,
          not_false_eq_true]))
        simp only [throwTypeError, reduceCtorEq, not_false_eq_true]
      · rw [if_neg hnullish, bind_eq_ok]
        constructor
        · rintro ⟨views', hviews', h⟩
          obtain ⟨rfl, hread⟩ := ih.mp hviews'
          exact ⟨(Except.ok.inj h).symm, Bool.eq_false_iff.mpr hnullish, hread⟩
        · rintro ⟨rfl, -, hread⟩
          exact ⟨_, ih.mpr ⟨rfl, hread⟩, rfl⟩

/-- A missing option has no fields to be copied. -/
theorem guardViews_of_missing (h : ¬ ∀ a ∈ accepts, a.nullish = false) :
    guardViews accepts = throwTypeError := by
  induction accepts with
  | nil => exact absurd (fun a ha => absurd ha List.not_mem_nil) h
  | cons a rest ih =>
      rw [guardViews]
      by_cases hnullish : a.nullish = true
      · rw [if_pos hnullish]
      · rw [if_neg hnullish, ih (fun hrest =>
          h (List.forall_mem_cons.mpr ⟨Bool.eq_false_iff.mpr hnullish, hrest⟩))]
        rfl

/-- A challenge whose options are all there has a copy, of copies in their order. -/
theorem toGuardView_of_readable {challenge : JsValue} (haccepts : acceptsOf challenge = .ok accepts)
    (hread : ∀ a ∈ accepts, a.nullish = false) : ∃ view, toGuardView challenge = .ok view ∧
      acceptsOf view = .ok (accepts.map guardViewOf) := by
  obtain ⟨view, hview⟩ : ∃ view, toGuardView challenge = .ok view :=
    ⟨_, bind_eq_ok.mpr ⟨accepts, haccepts, bind_eq_ok.mpr
      ⟨_, guardViews_ok_iff.mpr ⟨rfl, hread⟩, rfl⟩⟩⟩
  obtain ⟨accepts', haccepts', hviews⟩ := toGuardView_accepts hview
  obtain rfl : accepts = accepts' := Except.ok.inj (haccepts.symm.trans haccepts')
  exact ⟨view, hview, hviews⟩

end Copies

section Cleared

variable {config : PayerConfig} {challenge : JsValue} {accepts : List JsValue}
  {maxAmount amount : Int} {o : JsValue} {i : Nat}

theorem mem_payerOptions : (o, i) ∈ payerOptions config accepts ↔
    accepts[i]? = some o ∧ Eligible (some config.allowedAssets) config.caip2 o := by
  rw [payerOptions, eligibleOptions, List.mem_filter, isEligible_iff, mem_zipIdx_iff]

/-- The copy that was selected leads back to its original. -/
theorem clearOneOption_of_selected {view : JsValue} (hview : toGuardView challenge = .ok view)
    (haccepts : acceptsOf challenge = .ok accepts) (hmem : (o, i) ∈ payerOptions config accepts)
    (hprice : priceOf (o, i) = .ok amount)
    (hselect : selectRequirements view maxAmount (some config.allowedAssets) config.caip2 =
      .ok (copyOf (o, i))) :
    clearOneOption config challenge maxAmount = .ok (o, amount) := by
  obtain ⟨haccepted, heligible⟩ := mem_payerOptions.mp hmem
  obtain ⟨accepts', haccepts', hviews⟩ := toGuardView_accepts hview
  obtain rfl : accepts = accepts' := Except.ok.inj (haccepts.symm.trans haccepts')
  -- The chosen copy is found at its own place, not at an equal one before it.
  have hfound : indexOf (accepts.map guardViewOf).zipIdx (copyOf (o, i)) = some i := by
    refine indexOf_zipIdx _ _ ((mem_zipIdx_iff _ _).mpr ?_)
    rw [copyOf, List.getElem?_map, haccepted, Option.map_some]
  -- What has a scheme is an object.
  have htruthy : o.truthy = true := by
    have hscheme := heligible.scheme
    cases o with
    | obj fields => rfl
    | _ => exact absurd hscheme (by simp only [JsValue.field, reduceCtorEq, not_false_eq_true])
  have hamount : parseAmount (o.field "amount") = .ok amount := hprice
  rw [clearOneOption, hview]
  simp only [bind, Except.bind, hselect, hviews, haccepts, hfound, Option.bind, haccepted,
    Option.getD_some, htruthy, Bool.not_true, Bool.false_eq_true, if_false, hamount]
  rfl

/-- An option is cleared when none is missing, it is the first of the cheapest that
    pass every filter, all of them have a price, and its own is not too high. -/
theorem clearOneOption_ok_iff :
    clearOneOption config challenge maxAmount = .ok (o, amount) ↔
      ∃ accepts i, acceptsOf challenge = .ok accepts ∧ (∀ a ∈ accepts, a.nullish = false) ∧
        Selects maxAmount (payerOptions config accepts) (o, i) ∧ amount = amountIn (o, i) := by
  have hviewed : ∀ accepts : List JsValue, ∀ a ∈ accepts.map guardViewOf, a.nullish = false :=
    fun accepts => List.forall_mem_map.mpr (fun _ _ => rfl)
  constructor
  · intro h
    obtain ⟨view, hview, hrest⟩ := bind_eq_ok.mp h
    obtain ⟨chosenView, hselect, -⟩ := bind_eq_ok.mp hrest
    obtain ⟨accepts, haccepts, hviews⟩ := toGuardView_accepts hview
    have hread : ∀ a ∈ accepts, a.nullish = false := by
      obtain ⟨accepts', haccepts', hview⟩ := bind_eq_ok.mp hview
      obtain rfl : accepts = accepts' := Except.ok.inj (haccepts.symm.trans haccepts')
      obtain ⟨views, hguard, -⟩ := bind_eq_ok.mp hview
      exact (guardViews_ok_iff.mp hguard).2
    -- The guard chooses among copies of the options, in the same order and at the same prices.
    have hcopy := (selectRequirements_ok_iff hviews (hviewed accepts)).mp hselect
    rw [eligibleOptions_copies] at hcopy
    obtain ⟨⟨o', i⟩, rfl, hselects⟩ := selects_copies.mp hcopy
    have hmem : (o', i) ∈ payerOptions config accepts := hselects.cheapest.mem
    have hcleared := clearOneOption_of_selected hview haccepts hmem
      (priceOf_of_priced (hselects.priced _ hselects.cheapest.mem)) hselect
    rw [h, Except.ok.injEq, Prod.mk.injEq] at hcleared
    obtain ⟨rfl, rfl⟩ := hcleared
    exact ⟨accepts, i, haccepts, hread, hselects, rfl⟩
  · rintro ⟨accepts, i, haccepts, hread, hselects, rfl⟩
    obtain ⟨view, hview, hviews⟩ := toGuardView_of_readable haccepts hread
    refine clearOneOption_of_selected hview haccepts hselects.cheapest.mem
      (priceOf_of_priced (hselects.priced _ hselects.cheapest.mem)) ?_
    rw [selectRequirements_ok_iff hviews (hviewed accepts), eligibleOptions_copies]
    exact selects_copies.mpr ⟨(o, i), rfl, hselects⟩

/-- The maximum refuses an option or leaves the choice as it is. -/
theorem clearOneOption_within {maxAmount' : Int}
    (h : clearOneOption config challenge maxAmount = .ok (o, amount)) (hle : amount ≤ maxAmount') :
    clearOneOption config challenge maxAmount' = .ok (o, amount) := by
  obtain ⟨accepts, i, haccepts, hread, hselects, rfl⟩ := clearOneOption_ok_iff.mp h
  exact clearOneOption_ok_iff.mpr
    ⟨accepts, i, haccepts, hread, ⟨hselects.priced, hselects.cheapest, hle⟩, rfl⟩

end Cleared

end Payer

end VellarSdk
