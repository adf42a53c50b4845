import VellarSdk.Cli.Pay
import VellarSdk.X402.Selection

/-!
# The Command Against the Guards

The `pay` command has a selection of its own. It chooses before it looks at the
fees: the cheapest option of the `exact` scheme on the network, whose fees must
then turn out to be sponsored. The guards look first, and choose the cheapest of
the options with sponsored fees. And the command reads an amount with `BigInt`,
and one that is missing as zero, where the guards want digits.

So an option without sponsored fees can keep the command from one that the guards
take, as can an amount that nobody would pay; and the command can clear an offer
in which the guards find an amount that is no price. Where both select, they
select the same.

## Main definitions

* `Clears`: The command clears an option for signing.
* `CheapestSponsored`: The cheapest option has sponsored fees.
* `AgreeOn`: The offers on which the two agree.

## Theorems

* `choose_goes_on_iff`: When the command goes on to sign.
* `clears_iff`, `selects_iff`: When each of them takes an option.
* `cli_agrees_iff`: When they agree.
-/

namespace VellarSdk

namespace Cli

open Js X402 Async

/-- The option is chosen, its price is within the ceiling, and its fees are
    sponsored. -/
def Clears (accepts : List JsValue) (network : JsString) (maxAmount : Int)
    (chosen : Ref JsValue) : Prop :=
  selectRequirement accepts.zipIdx (.str network) = .ok (.chosen chosen) ∧
    (∃ price, priceOf chosen = .ok price ∧ price ≤ maxAmount) ∧ Sponsored chosen

/-- A challenge with these options. -/
def challengeWith (accepts : List JsValue) : JsValue :=
  .obj [(js "accepts", .arr accepts)]

/-- The price of an option that `BigInt` can read. -/
def priceRead (a : Ref JsValue) : Int :=
  (priceOf a).toOption.getD 0

/-- Can the price be read? -/
def HasPrice (a : Ref JsValue) : Prop :=
  ∃ n, priceOf a = .ok n

/-- Every price on the network can be read, and the first of the cheapest options
    has sponsored fees. -/
def CheapestSponsored (network : JsString) (accepts : List JsValue) : Prop :=
  (∀ a ∈ networkOptions network accepts, HasPrice a) ∧
    ∃ c, FirstLeast priceRead (networkOptions network accepts) c ∧ Sponsored c

/-- Where the guards would take an option, the cheapest on the network has
    sponsored fees; and where that one is cheap enough, all amounts with sponsored
    fees are digits. -/
structure AgreeOn (accepts : List JsValue) (network : JsString) (maxAmount : Int) : Prop where
  offered : (∀ a ∈ sponsoredOptions network accepts, Priced a) →
    (∃ a ∈ sponsoredOptions network accepts, amountIn a ≤ maxAmount) →
    CheapestSponsored network accepts
  cleared : CheapestSponsored network accepts →
    (∀ c, FirstLeast priceRead (networkOptions network accepts) c → priceRead c ≤ maxAmount) →
    ∀ a ∈ sponsoredOptions network accepts, Priced a

section

variable {accepts : List JsValue} {network : JsString} {maxAmount : Int} {chosen a : Ref JsValue}

theorem priceOf_of_hasPrice (h : HasPrice a) : priceOf a = .ok (priceRead a) := by
  rcases h with ⟨n, hn⟩
  rw [priceRead, hn]
  rfl

/-- Digits are read as what they are. -/
theorem priced_read (h : Priced a) : HasPrice a ∧ priceRead a = amountIn a := by
  rcases h with ⟨s, hs, hdigits⟩
  have hread : priceOf a = .ok (digitsToNat 10 s) := by
    rw [priceOf, hs]
    exact JsValue.stringToBigInt_of_isDigits hdigits
  have hparsed : X402.priceOf a = .ok (digitsToNat 10 s) :=
    parseAmount_eq_ok.mpr ⟨s, hs, hdigits, rfl⟩
  refine ⟨⟨_, hread⟩, ?_⟩
  rw [priceRead, hread, amountIn, hparsed]
  rfl

/-- A chosen option is signed for where it passes the checks. -/
theorem payChosen_goes_on_iff (env : CliEnv) (opts : PayOptions) (order : Order)
    (required networkId : JsValue) :
    (payChosen env opts order required networkId chosen).pending.isSome = true ↔
      (∃ price, priceOf chosen = .ok price ∧ price ≤ order.maxAmount) ∧ Sponsored chosen := by
  unfold payChosen Sponsored
  cases hprice : priceOf chosen with
  | error e =>
      refine iff_of_false Bool.false_ne_true ?_
      rintro ⟨⟨price, hread, -⟩, -⟩
      exact absurd hread (by simp only [reduceCtorEq, not_false_eq_true])
  | ok price =>
      rw [Task.lift_ok_bind (liftM_eq_ok.mpr rfl)]
      simp only [Except.ok.injEq, exists_eq_left']
      -- The two refusals in their order: the maximum, and the fees.
      by_cases hdear : price > order.maxAmount
      · rw [if_pos hdear]
        exact iff_of_false Bool.false_ne_true (fun h => absurd h.1 (not_le.mpr hdear))
      rw [if_neg hdear]
      by_cases hunsponsored :
          (!((chosen.1.field "extra").optProp "areFeesSponsored").strictEq (.bool true)) = true
      · rw [if_pos hunsponsored]
        refine iff_of_false Bool.false_ne_true (fun h => ?_)
        rw [h.2] at hunsponsored
        exact absurd hunsponsored (by decide)
      · rw [if_neg hunsponsored]
        refine iff_of_true rfl ⟨not_lt.mp hdear, ?_⟩
        rwa [Bool.not_eq_true', Bool.not_eq_false] at hunsponsored

/-- The command goes on to sign where some option is cleared, and only there. -/
theorem choose_goes_on_iff (env : CliEnv) (opts : PayOptions) (order : Order)
    {required : JsValue} (haccepts : required.optProp "accepts" = .arr accepts)
    (hnetwork : tableLookup networkIds (.str opts.network) = .ok (.str network)) :
    (choose env opts order required).pending.isSome = true ↔
      ∃ chosen, Clears accepts network order.maxAmount chosen := by
  have hitems : itemsOf (required.optProp "accepts") = .ok accepts.zipIdx := by
    rw [haccepts]
    rfl
  unfold choose
  by_cases hempty : (!(lengthOf (required.optProp "accepts")).truthy) = true
  · rw [if_pos hempty]
    refine iff_of_false Bool.false_ne_true ?_
    rintro ⟨chosen, hselected, -⟩
    -- Without options there is nothing to choose.
    have hnil : accepts = [] := by
      rw [haccepts, lengthOf, JsValue.truthy, Bool.not_eq_true', decide_eq_false_iff_not,
        ne_eq, not_not] at hempty
      injection hempty with hlength
      rwa [Nat.cast_inj, List.length_eq_zero_iff] at hlength
    rcases selectRequirement_chosen hselected with ⟨first, rest, hsupported, -⟩
    rw [hnil] at hsupported
    exact absurd hsupported (by simp only [supportedOptions, List.zipIdx_nil, List.filter_nil,
      reduceCtorEq, not_false_eq_true])
  rw [if_neg hempty, Task.lift_ok_bind (liftM_eq_ok.mpr hnetwork), Task.lift_ok_bind hitems]
  unfold Clears
  cases hselection : selectRequirement accepts.zipIdx (.str network) with
  | error e =>
      refine iff_of_false Bool.false_ne_true ?_
      rintro ⟨chosen, hselected, -⟩
      exact absurd hselected (by simp only [reduceCtorEq, not_false_eq_true])
  | ok selection =>
      rw [Task.lift_ok_bind (liftM_eq_ok.mpr rfl)]
      cases selection with
      | refused reason =>
          refine iff_of_false Bool.false_ne_true ?_
          rintro ⟨chosen, hselected, -⟩
          exact absurd hselected (by simp only [Except.ok.injEq, reduceCtorEq, not_false_eq_true])
      | chosen chosen =>
          simp only [Except.ok.injEq, Selection.chosen.injEq, exists_eq_left']
          exact payChosen_goes_on_iff env opts order required (.str network)

/-- The command keeps the options on the network, in two filters. -/
theorem filters_eq (network : JsString) (hread : ∀ a ∈ accepts, a.nullish = false) :
    ∃ onNetwork, filterE (isOnNetwork (.str network)) accepts.zipIdx = .ok onNetwork ∧
      filterE isExact onNetwork = .ok (networkOptions network accepts) := by
  -- No option is null, so reading its fields does not throw.
  have hprop : ∀ e ∈ accepts.zipIdx, ∀ name, e.1.prop name = .ok (e.1.field name) := by
    intro e he name
    have hmem : e.1 ∈ accepts := List.mem_of_getElem? ((mem_zipIdx_iff accepts e).mp he)
    rw [JsValue.prop, hread e.1 hmem, if_neg Bool.false_ne_true]
  have hnetwork : ∀ e ∈ accepts.zipIdx, isOnNetwork (.str network) e =
      .ok ((e.1.field "network").strictEq (.str network)) := by
    intro e he
    rw [isOnNetwork, hprop e he]
    rfl
  refine ⟨_, filterE_of_ok hnetwork, ?_⟩
  have hexact : ∀ e ∈ accepts.zipIdx.filter
      (fun e => (e.1.field "network").strictEq (.str network)),
      isExact e = .ok ((e.1.field "scheme").strictEq (.str "exact")) := by
    intro e he
    rw [isExact, hprop e (List.mem_filter.mp he).1]
    rfl
  rw [filterE_of_ok hexact, List.filter_filter]
  rfl

/-- The command clears the first of the cheapest options on the network, where
    every price can be read, its own is within the ceiling and its fees are
    sponsored. -/
theorem clears_iff (hread : ∀ a ∈ accepts, a.nullish = false) :
    Clears accepts network maxAmount chosen ↔
      (∀ a ∈ networkOptions network accepts, HasPrice a) ∧
        FirstLeast priceRead (networkOptions network accepts) chosen ∧
        priceRead chosen ≤ maxAmount ∧ Sponsored chosen := by
  rcases filters_eq network hread with ⟨onNetwork, hnetwork, hexact⟩
  constructor
  · rintro ⟨hselected, ⟨price, hprice, hle⟩, hsponsored⟩
    rcases selectRequirement_chosen hselected with ⟨first, rest, hsupported, hcheapest⟩
    have hoptions : networkOptions network accepts = first :: rest := hsupported
    rw [cheapestOption_eq_leastE] at hcheapest
    have hpriced := leastE_priced hcheapest hprice
    rw [hoptions]
    refine ⟨hpriced, (leastE_eq_ok (fun a ha => priceOf_of_hasPrice (hpriced a ha))).mp hcheapest,
      ?_, hsponsored⟩
    rw [priceRead, hprice]
    exact hle
  · rintro ⟨hpriced, hleast, hle, hsponsored⟩
    refine ⟨?_, ⟨_, priceOf_of_hasPrice (hpriced chosen hleast.mem), hle⟩, hsponsored⟩
    cases hoptions : networkOptions network accepts with
    | nil =>
        rw [hoptions] at hleast
        exact absurd hleast.mem List.not_mem_nil
    | cons first rest =>
        rw [hoptions] at hexact hpriced hleast
        have hcheapest : cheapestOption first rest = .ok chosen := by
          rw [cheapestOption_eq_leastE]
          exact (leastE_eq_ok (fun a ha => priceOf_of_hasPrice (hpriced a ha))).mpr hleast
        -- There is an option on the network, since there is an exact one.
        have hsome : ¬ onNetwork.length = 0 := by
          intro hnone
          rw [List.length_eq_zero_iff] at hnone
          rw [hnone] at hexact
          exact absurd (Except.ok.inj hexact) (by simp only [reduceCtorEq, not_false_eq_true])
        unfold selectRequirement
        rw [hnetwork]
        simp only [bind, Except.bind, if_neg hsome, hexact, hcheapest]
        rfl

/-- The guards select the first of the cheapest options with sponsored fees,
    where every amount is digits and its own is within the maximum. -/
theorem selects_iff (hread : ∀ a ∈ accepts, a.nullish = false) :
    selectRequirements (challengeWith accepts) maxAmount none network = .ok chosen ↔
      (∀ a ∈ sponsoredOptions network accepts, Priced a) ∧
        FirstLeast amountIn (sponsoredOptions network accepts) chosen ∧
        amountIn chosen ≤ maxAmount := by
  have heligible : eligibleOptions none network accepts = sponsoredOptions network accepts := by
    rw [eligibleOptions_eq]
    rfl
  rw [selectRequirements_ok_iff (acceptsOf_of_arr rfl) hread, heligible]
  exact ⟨fun h => ⟨h.priced, h.cheapest, h.affordable⟩, fun h => ⟨h.1, h.2.1, h.2.2⟩⟩

/-- A first of the cheapest options that has sponsored fees is the first of the
    cheapest that have. -/
theorem firstLeast_sponsored (hdigits : ∀ a ∈ sponsoredOptions network accepts, Priced a)
    (hleast : FirstLeast priceRead (networkOptions network accepts) chosen)
    (hsponsored : Sponsored chosen) :
    FirstLeast amountIn (sponsoredOptions network accepts) chosen ∧
      priceRead chosen = amountIn chosen := by
  have hkept : FirstLeast priceRead (sponsoredOptions network accepts) chosen :=
    hleast.filter hsponsored
  exact ⟨hkept.congr (fun a ha => (priced_read (hdigits a ha)).2),
    (priced_read (hdigits chosen hkept.mem)).2⟩

end

/-- Whatever is offered: the command clears exactly the option that the guards
    return, if any, exactly if an option is missing, where both throw, or the
    offer is one on which they agree. -/
theorem cli_agrees_iff (accepts : List JsValue) (network : JsString) (maxAmount : Int) :
    (∀ chosen, Clears accepts network maxAmount chosen ↔
      selectRequirements (challengeWith accepts) maxAmount none network = .ok chosen) ↔
        (∃ a ∈ accepts, a.nullish = true) ∨ AgreeOn accepts network maxAmount := by
  by_cases hread : ∀ a ∈ accepts, a.nullish = false
  swap
  · refine iff_of_true (fun chosen => iff_of_false (fun h => hread ?_) (fun h => hread ?_))
      (.inl ?_)
    · rcases bind_eq_ok.mp h.1 with ⟨onNetwork, hnetwork, -⟩
      refine readable_of_filterE (fun e b he => ?_) hnetwork
      rcases bind_eq_ok.mp he with ⟨n, hn, -⟩
      exact (JsValue.prop_eq_ok hn).1
    · exact readable_of_selected (acceptsOf_of_arr rfl) h
    · simpa only [not_forall, Bool.not_eq_false, exists_prop] using hread
  have hnone : ¬ ∃ a ∈ accepts, a.nullish = true := by
    rintro ⟨a, ha, hnullish⟩
    rw [hread a ha] at hnullish
    exact absurd hnullish Bool.false_ne_true
  rw [or_iff_right hnone]
  simp only [clears_iff hread, selects_iff hread]
  constructor
  · intro hagree
    constructor
    · rintro hdigits ⟨a, ha, hle⟩
      -- The guards take an option, so the command clears it.
      rcases exists_firstLeast (f := amountIn) (List.ne_nil_of_mem ha) with ⟨c, hc⟩
      rcases (hagree c).mpr ⟨hdigits, hc, (hc.le a ha).trans hle⟩ with
        ⟨hpriced, hleast, -, hsponsored⟩
      exact ⟨hpriced, c, hleast, hsponsored⟩
    · rintro ⟨hpriced, c, hleast, hsponsored⟩ hle
      exact ((hagree c).mp ⟨hpriced, hleast, hle c hleast, hsponsored⟩).1
  · intro hoffer chosen
    constructor
    · rintro ⟨hpriced, hleast, hle, hsponsored⟩
      have hdigits := hoffer.cleared ⟨hpriced, chosen, hleast, hsponsored⟩
        (fun c hc => hc.unique hleast ▸ hle)
      rcases firstLeast_sponsored hdigits hleast hsponsored with ⟨hkept, hsame⟩
      exact ⟨hdigits, hkept, hsame ▸ hle⟩
    · rintro ⟨hdigits, hkept, hle⟩
      rcases hoffer.offered hdigits ⟨chosen, hkept.mem, hle⟩ with ⟨hpriced, c, hleast, hsponsored⟩
      rcases firstLeast_sponsored hdigits hleast hsponsored with ⟨hkept', hsame⟩
      obtain rfl := hkept.unique hkept'
      exact ⟨hpriced, hleast, hsame ▸ hle, hsponsored⟩

section Sample

/-- An option that does or does not sponsor the fees. -/
def sponsoring (sponsored : Bool) (amount : JsString) : JsValue :=
  .obj [(js "scheme", js "exact"), (js "network", js "stellar:testnet"),
    (js "asset", js "CUSDC"), (js "amount", amount),
    (js "extra", .obj [(js "areFeesSponsored", .bool sponsored)])]

/-- The cheaper option does not sponsor the fees, and the command refuses the
    offer for it. -/
theorem cli_misses_sponsored : ¬ ∀ (accepts : List JsValue) (network : JsString)
    (maxAmount : Int) (chosen : Ref JsValue), Clears accepts network maxAmount chosen ↔
      selectRequirements (challengeWith accepts) maxAmount none network = .ok chosen := by
  intro hall
  have hagree := hall [sponsoring false "5", sponsoring true "10"] "stellar:testnet" 100
    (sponsoring true "10", 1)
  rcases hagree.mpr rfl with ⟨hselected, -⟩
  have hchosen : selectRequirement [sponsoring false "5", sponsoring true "10"].zipIdx
    (.str "stellar:testnet") = .ok (.chosen (sponsoring false "5", 0)) := rfl
  rw [hchosen, Except.ok.injEq, Selection.chosen.injEq, Prod.mk.injEq] at hselected
  exact absurd hselected.2 (by decide)

end Sample

end Cli

end VellarSdk
