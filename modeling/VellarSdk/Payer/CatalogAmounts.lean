import VellarSdk.Js.Integer
import VellarSdk.Payer.PayAndCall

/-!
# Prices in the Catalog

A catalog entry and a 402 challenge list options of the same form, and two places
decide whether one can be paid. The guards take an amount for a price only if it
is a run of digits. The scan of the catalog takes whatever `BigInt` takes, so a
blank amount is free to it, and one in hexadecimal has a price.

The two filter alike otherwise, but for an asset without a name, which the scan
passes over even where the allowlist has it.

## Main definitions

* `CatalogPays`: The scan takes an option, for a price.
* `GuardPays`: The guards select it, for a price.
* `ReadApart`: The options on which the two differ.

## Theorems

* `catalogPays_iff`, `guardPays_iff`: When each of them takes an option.
* `catalog_agrees_iff`: When they agree.
-/

namespace VellarSdk

namespace Payer

open Js X402

/-- A search response with one option. -/
def catalogOf (url : JsString) (a : JsValue) : JsValue :=
  .obj [(js "resources", .arr [.obj [(js "resource", url), (js "accepts", .arr [a])]])]

/-- A challenge with one option. -/
def soleChallenge (a : JsValue) : JsValue :=
  .obj [(js "accepts", .arr [a])]

/-- The scan takes the option for payable, with this amount. -/
def CatalogPays (config : PayerConfig) (url : JsString) (a : JsValue) (v : Int) : Prop :=
  selectCandidates config (catalogOf url a) = .ok ([⟨.str url, v, a.field "asset"⟩], 1)

/-- The guards select the option under every maximum that is not below its
    amount, and this is what they read of that. -/
def GuardPays (config : PayerConfig) (a : JsValue) (v : Int) : Prop :=
  parseAmount (a.field "amount") = .ok v ∧ ∀ maxAmount, v ≤ maxAmount →
    selectRequirements (soleChallenge a) maxAmount (some config.allowedAssets) config.caip2 =
      .ok (a, 0)

/-- The amount is a string, or is not there. -/
def IsAmountText (v : JsValue) : Prop :=
  v = .undefined ∨ ∃ s, v = .str s

/-- The guards let the option pass, and its amount is digits in an asset without
    a name, or another text of an integer in one that has a name. -/
structure ReadApart (config : PayerConfig) (a : JsValue) : Prop where
  eligible : Eligible (some config.allowedAssets) config.caip2 a
  amount : ∃ s, a.field "amount" = .str s ∧
    ((a.field "asset" = .str [] ∧ isDigits s = true) ∨
      (a.field "asset" ≠ .str [] ∧ isDigits s = false ∧ NaturalText (trim s)))

section

variable {config : PayerConfig} {a : JsValue} {v : Int} {url : JsString}

/-- The scan takes the payable options. -/
theorem catalogPays_iff (hurl : url ≠ []) :
    CatalogPays config url a v ↔ PayableOption config a v := by
  have htruthy : (!JsValue.truthy (.str url)) = false := by
    simpa only [JsValue.truthy, Bool.not_not, List.isEmpty_eq_false_iff] using hurl
  -- There is one entry, and it has a URL and one option.
  have hscan : selectCandidates config (catalogOf url a) = (do
      let payable ← (if (!JsValue.truthy (.str url)) = true then .ok [] else do
        let found ← firstPayable config (.str url) [a]
        return found.toList ++ [])
      return (payable.insertionSort (fun x y => x.amount ≤ y.amount), 1)) := rfl
  rw [CatalogPays, hscan, htruthy, if_neg Bool.false_ne_true, ← optionAmount_eq_some]
  simp only [firstPayable]
  cases optionAmount config a with
  | error e =>
      simp only [bind, Except.bind, reduceCtorEq]
  | ok amount =>
      cases amount with
      | none =>
          simp only [bind, Except.bind, pure, Except.pure, Option.toList_none, List.append_nil,
            List.insertionSort_nil, Except.ok.injEq, Prod.mk.injEq, reduceCtorEq, false_and]
      | some n =>
          simp only [bind, Except.bind, pure, Except.pure, Option.toList_some, List.append_nil,
            List.insertionSort_cons, List.insertionSort_nil, List.orderedInsert_nil,
            Except.ok.injEq, Prod.mk.injEq, List.cons.injEq, Candidate.mk.injEq, true_and,
            and_true, Option.some.injEq]

/-- The guards select the options they let pass whose amount is digits. -/
theorem guardPays_iff : GuardPays config a v ↔
    Eligible (some config.allowedAssets) config.caip2 a ∧
      parseAmount (a.field "amount") = .ok v := by
  constructor
  · rintro ⟨hparsed, hselects⟩
    rcases selectRequirements_spec (hselects v (le_refl v)) with ⟨_, _, _, _, heligible, -⟩
    exact ⟨heligible, hparsed⟩
  · rintro ⟨heligible, hparsed⟩
    refine ⟨hparsed, fun maxAmount hle => ?_⟩
    have hread : ∀ b ∈ [a], b.nullish = false := by
      intro b hb
      rw [List.mem_singleton.mp hb]
      exact heligible.readable
    -- A challenge of this one option selects it whenever it is eligible and has a price.
    have hsole : eligibleOptions (some config.allowedAssets) config.caip2 [a] = [(a, 0)] :=
      List.filter_cons_of_pos (isEligible_iff.mpr heligible)
    have hpriced : Priced (a, 0) := priced_iff.mpr ⟨v, hparsed⟩
    have hamount : amountIn (a, 0) = v := by
      have hprice := priceOf_of_priced hpriced
      rw [show priceOf (a, 0) = .ok v from hparsed, Except.ok.injEq] at hprice
      exact hprice.symm
    rw [selectRequirements_ok_iff (acceptsOf_of_arr rfl) hread, hsole]
    refine ⟨fun b hb => ?_, ⟨[], [], rfl, ?_, ?_⟩, by omega⟩
    · rw [List.mem_singleton.mp hb]
      exact hpriced
    · exact fun b hb => absurd hb List.not_mem_nil
    · exact fun b hb => absurd hb List.not_mem_nil

end

/-- Of every option whose amount is a string: the scan takes it for payable with
    an amount exactly where the guards select it with that amount, unless they
    let it pass and the amount is digits in an asset without a name or another
    text of an integer. -/
theorem catalog_agrees_iff (config : PayerConfig) (a : JsValue) (url : JsString) (hurl : url ≠ [])
    (htext : IsAmountText (a.field "amount")) :
    (∀ v, CatalogPays config url a v ↔ GuardPays config a v) ↔ ¬ ReadApart config a := by
  simp only [catalogPays_iff hurl, guardPays_iff]
  constructor
  · rintro hagree ⟨heligible, s, hamount, ⟨hasset, hdigits⟩ | ⟨hasset, hdigits, hnatural⟩⟩
    · -- Digits in an asset without a name: the guards take them.
      have hparsed : parseAmount (a.field "amount") = .ok (digitsToNat 10 s) :=
        parseAmount_eq_ok.mpr ⟨s, hamount, hdigits, rfl⟩
      rcases ((hagree _).mpr ⟨heligible, hparsed⟩).allowed with ⟨asset, -, hne, hsame⟩
      rw [hasset, JsValue.str.injEq] at hsame
      exact hne hsame.symm
    · -- Another text of an integer: the scan takes it.
      rcases (stringToBigInt_natural_iff s).mpr hnatural with ⟨n, hn, hnonneg⟩
      rcases heligible.allowed _ rfl with ⟨asset, hmem, hsame⟩
      have hpayable : PayableOption config a n := by
        refine ⟨heligible.network, heligible.scheme, ⟨asset, hmem, ?_, hsame⟩,
          heligible.sponsored, by rw [hamount]; exact hn, hnonneg⟩
        rintro rfl
        exact hasset hsame
      rcases parseAmount_eq_ok.mp ((hagree n).mp hpayable).2 with ⟨s', hs', hdigits', -⟩
      rw [hamount, JsValue.str.injEq] at hs'
      subst hs'
      rw [hdigits] at hdigits'
      exact absurd hdigits' (by decide)
  · intro hsame v
    constructor
    · intro h
      rcases h.allowed with ⟨asset, hmem, hne, hasset⟩
      have heligible : Eligible (some config.allowedAssets) config.caip2 a := by
        refine ⟨h.scheme, h.network, h.sponsored, fun assets hassets => ?_⟩
        rw [← Option.some.inj hassets]
        exact ⟨asset, hmem, hasset⟩
      have hparsed := h.parsed
      rcases htext with hmissing | ⟨s, hs⟩
      · rw [hmissing] at hparsed
        exact absurd hparsed (by simp only [JsValue.toBigInt, reduceCtorEq, not_false_eq_true])
      rw [hs] at hparsed
      have hdigits : isDigits s = true := by
        by_contra hnot
        have hnatural := (stringToBigInt_natural_iff s).mp ⟨v, hparsed, h.nonneg⟩
        refine hsame ⟨heligible, s, hs, .inr ⟨?_, Bool.eq_false_iff.mpr hnot, hnatural⟩⟩
        rw [hasset, ne_eq, JsValue.str.injEq]
        exact hne
      refine ⟨heligible, parseAmount_eq_ok.mpr ⟨s, hs, hdigits, ?_⟩⟩
      rw [JsValue.toBigInt, JsValue.stringToBigInt_of_isDigits hdigits, Except.ok.injEq] at hparsed
      exact hparsed.symm
    · rintro ⟨heligible, hparsed⟩
      rcases parseAmount_eq_ok.mp hparsed with ⟨s, hs, hdigits, rfl⟩
      rcases heligible.allowed _ rfl with ⟨asset, hmem, hasset⟩
      refine ⟨heligible.network, heligible.scheme, ⟨asset, hmem, ?_, hasset⟩, heligible.sponsored,
        ?_, digitsToNat_nonneg 10 s⟩
      · rintro rfl
        exact hsame ⟨heligible, s, hs, .inl ⟨hasset, hdigits⟩⟩
      · rw [hs]
        exact JsValue.stringToBigInt_of_isDigits hdigits

/-- On an amount of digits they agree. -/
theorem catalog_agrees_iff_digits :
    CatalogPays bazaarDeps.config "https://b" (offeredOption "CUSDC" "5") 5 ↔
      GuardPays bazaarDeps.config (offeredOption "CUSDC" "5") 5 := by
  have hnot : ¬ ReadApart bazaarDeps.config (offeredOption "CUSDC" "5") := by
    rintro ⟨-, s, hs, ⟨hasset, -⟩ | ⟨-, hdigits, -⟩⟩
    · have hname : js "CUSDC" = [] := JsValue.str.inj hasset
      exact absurd hname (by decide)
    · rw [← JsValue.str.inj hs] at hdigits
      exact absurd hdigits (by decide)
  exact (catalog_agrees_iff bazaarDeps.config (offeredOption "CUSDC" "5") "https://b" (by decide)
    (.inr ⟨_, rfl⟩)).mpr hnot 5

/-- A blank amount is free to the scan, and no amount to the guards. -/
theorem catalog_reads_blank : ¬ ∀ (config : PayerConfig) (a : JsValue) (url : JsString) (v : Int),
    url ≠ [] → IsAmountText (a.field "amount") →
    (CatalogPays config url a v ↔ GuardPays config a v) := by
  intro hall
  have hagree := hall bazaarDeps.config (offeredOption "CUSDC" "") "https://b" 0 (by decide)
    (.inr ⟨_, rfl⟩)
  rcases parseAmount_eq_ok.mp (hagree.mp rfl).1 with ⟨s, hs, hdigits, -⟩
  rw [← JsValue.str.inj hs] at hdigits
  exact absurd hdigits (by decide)

end Payer

end VellarSdk
