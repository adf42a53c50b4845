import VellarSdk.Js.Json
import VellarSdk.Js.Least
import VellarSdk.X402.Guards

/-!
# The Choice of an Option

What `selectRequirements` does, in full. The options that pass every filter are
those worth comparing, in the order in which they were offered, and all that is
outside of them has a part only in the refusal when there are none. Among them
every amount has to parse, the first of the cheapest is taken, and its price is
held against the maximum.

The equations for the branches ask only that the options can be read at all, so
they hold of what an untrusted server sends. `selectRequirements_meets_spec` is
their sum for options of the declared type.

## Main definitions

* `isEligible`, `eligibleOptions`: The options that pass every filter.
* `amountIn`: The price of an option, when it has one.
* `chooseAmong`: What is made of the eligible options.
* `Selects`: The option that is to be returned.

## Theorems

* `select_noneOnNetwork`, `select_noneSponsored`, `select_noneAllowed`,
  `select_eligible`: The branches.
* `chooseAmong_ok_iff`, `chooseAmong_priced`, `chooseAmong_unpriced`: The last of
  them.
* `selectRequirements_ok_iff`: When an option is returned, and which.
* `selectRequirements_meets_spec`: The choice, and every refusal.
-/

namespace VellarSdk

namespace X402

open Js

/-- `a.scheme === "exact" && a.network === ourCaip2`, of an option that can be
    read. -/
def onNetwork (ourCaip2 : JsString) (a : JsValue) : Bool :=
  (a.field "scheme").strictEq (js "exact") && (a.field "network").strictEq ourCaip2

/-- Does the allowlist, if there is one, name the asset? -/
def assetAllowed (allowedAssets : Option (List JsString)) (a : JsValue) : Bool :=
  match allowedAssets with
  | some assets => assetIn assets a
  | none => true

/-- Does the option pass every filter? -/
def isEligible (allowedAssets : Option (List JsString)) (ourCaip2 : JsString) (a : JsValue) :
    Bool :=
  onNetwork ourCaip2 a && declaresSponsorship true a && assetAllowed allowedAssets a

/-- The options on the network. -/
def networkOptions (ourCaip2 : JsString) (accepts : List JsValue) : List (Ref JsValue) :=
  accepts.zipIdx.filter (fun a => onNetwork ourCaip2 a.1)

/-- Those of them whose fees are sponsored. -/
def sponsoredOptions (ourCaip2 : JsString) (accepts : List JsValue) : List (Ref JsValue) :=
  (networkOptions ourCaip2 accepts).filter (fun a => declaresSponsorship true a.1)

/-- The options that pass every filter, in the order of the offer. -/
def eligibleOptions (allowedAssets : Option (List JsString)) (ourCaip2 : JsString)
    (accepts : List JsValue) : List (Ref JsValue) :=
  accepts.zipIdx.filter (fun a => isEligible allowedAssets ourCaip2 a.1)

/-- `parseAmount(a.amount)`. -/
def priceOf (a : Ref JsValue) : Except JsError Int :=
  parseAmount (a.1.field "amount")

/-- The price of an option that has one. -/
def amountIn (a : Ref JsValue) : Int :=
  (priceOf a).toOption.getD 0

/-- Is the amount digits only? -/
def Priced (a : Ref JsValue) : Prop :=
  ∃ s, a.1.field "amount" = .str s ∧ isDigits s = true

/-- What is made of the eligible options: the cheapest, if it is cheap enough. -/
def chooseAmong (maxAmount : Int) (first : Ref JsValue) (rest : List (Ref JsValue)) :
    Except JsError (Ref JsValue) := do
  let usable ← leastE priceOf first rest
  let required ← priceOf usable
  if required > maxAmount then throwMaxAmountExceeded required maxAmount (usable.1.field "asset")
  else return usable

/-- The option that is to be returned. -/
structure Selects (maxAmount : Int) (eligible : List (Ref JsValue)) (o : Ref JsValue) : Prop where
  priced : ∀ a ∈ eligible, Priced a
  cheapest : FirstLeast amountIn eligible o
  affordable : amountIn o ≤ maxAmount

section Branches

variable {allowedAssets : Option (List JsString)} {ourCaip2 : JsString} {accepts : List JsValue}
  {decoded a : JsValue} {maxAmount : Int}

theorem isExactOn_of_readable (h : a.nullish = false) :
    isExactOn ourCaip2 a = .ok (onNetwork ourCaip2 a) := by
  simp only [isExactOn, onNetwork, JsValue.prop, h, Bool.false_eq_true, if_false, bind, Except.bind]
  by_cases hscheme : (a.field "scheme").strictEq (js "exact") = true
  · rw [if_pos hscheme, hscheme, Bool.true_and]
    rfl
  · rw [if_neg hscheme, Bool.eq_false_iff.mpr hscheme, Bool.false_and]
    rfl

theorem readable_of_isExactOn {b : Bool} (h : isExactOn ourCaip2 a = .ok b) :
    a.nullish = false := by
  obtain ⟨scheme, hscheme, -⟩ := bind_eq_ok.mp h
  exact (JsValue.prop_eq_ok hscheme).1

/-- A filter that reads every option throws at a missing one. -/
theorem readable_of_filterE {p : Ref JsValue → Except NativeError Bool}
    (hp : ∀ e b, p e = .ok b → e.1.nullish = false) {kept : List (Ref JsValue)}
    (h : filterE p accepts.zipIdx = .ok kept) : ∀ a ∈ accepts, a.nullish = false := by
  intro a ha
  obtain ⟨i, hi⟩ := List.mem_iff_getElem?.mp ha
  obtain ⟨keep, hkeep⟩ := (filterE_eq_ok h).1 (a, i) ((mem_zipIdx_iff accepts (a, i)).mpr hi)
  exact hp (a, i) keep hkeep

theorem isEligible_iff : isEligible allowedAssets ourCaip2 a = true ↔
    Eligible allowedAssets ourCaip2 a := by
  have hallowed : assetAllowed allowedAssets a = true ↔ ∀ assets, allowedAssets = some assets →
      ∃ asset ∈ assets, a.field "asset" = .str asset := by
    cases allowedAssets with
    | none => simp only [assetAllowed, reduceCtorEq, false_implies, implies_true]
    | some assets => simp only [assetAllowed, assetIn_iff, Option.some.injEq, forall_eq']
  rw [isEligible, onNetwork, Bool.and_eq_true, Bool.and_eq_true, Bool.and_eq_true,
    JsValue.strictEq_iff_of_str, JsValue.strictEq_iff_of_str, declaresSponsorship_iff, hallowed]
  constructor
  · rintro ⟨⟨⟨hscheme, hnetwork⟩, hsponsored⟩, hasset⟩
    exact ⟨hscheme, hnetwork, hsponsored, hasset⟩
  · rintro ⟨hscheme, hnetwork, hsponsored, hasset⟩
    exact ⟨⟨⟨hscheme, hnetwork⟩, hsponsored⟩, hasset⟩

theorem priced_iff {e : Ref JsValue} : Priced e ↔ ∃ n, priceOf e = .ok n := by
  constructor
  · rintro ⟨s, hs, hdigits⟩
    exact ⟨_, parseAmount_eq_ok.mpr ⟨s, hs, hdigits, rfl⟩⟩
  · rintro ⟨n, hn⟩
    obtain ⟨s, hs, hdigits, -⟩ := parseAmount_eq_ok.mp hn
    exact ⟨s, hs, hdigits⟩

/-- What is no price is refused as one, if it can be quoted. -/
theorem priceOf_error {e : Ref JsValue} {text : Option JsString} {err : JsError}
    (htext : (e.1.field "amount").stringify = .ok text) (h : priceOf e = .error err) :
    ∃ message, err = ⟨.invalidRequirements, message⟩ := by
  have hrefuse : ∀ v : JsValue, v.stringify = .ok text → parseAmount.refuse v = .error err →
      ∃ message, err = ⟨.invalidRequirements, message⟩ := by
    intro v hv h
    rw [parseAmount.refuse, hv] at h
    exact ⟨_, (Except.error.inj h).symm⟩
  rw [priceOf] at h
  generalize e.1.field "amount" = v at htext h
  cases v with
  | str s =>
      by_cases hdigits : isDigits s = true
      · rw [parseAmount_eq_ok.mpr ⟨s, rfl, hdigits, rfl⟩] at h
        exact absurd h (by simp only [reduceCtorEq, not_false_eq_true])
      · rw [parseAmount, if_neg hdigits] at h
        exact hrefuse _ htext h
  | _ => exact hrefuse _ htext h

theorem priceOf_of_priced {e : Ref JsValue} (h : Priced e) : priceOf e = .ok (amountIn e) := by
  obtain ⟨n, hn⟩ := priced_iff.mp h
  rw [amountIn, hn]
  rfl

/-- The fold of the source is the reduction by its amount. -/
theorem cheapest_eq_leastE (first : Ref JsValue) (rest : List (Ref JsValue)) :
    cheapest first rest = leastE priceOf first rest := by
  induction rest generalizing first with
  | nil => rfl
  | cons a rest ih =>
      rw [cheapest, leastE]
      simp only [ih]
      rfl

/-- The allowlist is the last of the filters. -/
theorem allowedAmong_eq_filter (candidates : List (Ref JsValue)) :
    allowedAmong allowedAssets candidates =
      candidates.filter (fun a => assetAllowed allowedAssets a.1) := by
  cases allowedAssets with
  | none => simp only [allowedAmong, assetAllowed, List.filter_true]
  | some assets => rfl

theorem eligibleOptions_eq : eligibleOptions allowedAssets ourCaip2 accepts =
    allowedAmong allowedAssets (sponsoredOptions ourCaip2 accepts) := by
  rw [allowedAmong_eq_filter, sponsoredOptions, networkOptions, List.filter_filter,
    List.filter_filter, eligibleOptions]
  refine List.filter_congr (fun a _ => ?_)
  rw [isEligible, Bool.and_comm, Bool.and_assoc, Bool.and_comm (onNetwork _ _)]

theorem filterE_isExactOn (h : ∀ a ∈ accepts, a.nullish = false) :
    filterE (fun a : Ref JsValue => isExactOn ourCaip2 a.1) accepts.zipIdx =
      .ok (networkOptions ourCaip2 accepts) := by
  refine filterE_of_ok (fun a ha => isExactOn_of_readable (h a.1 ?_))
  exact List.mem_of_getElem? ((mem_zipIdx_iff accepts a).mp ha)

/-- Once the options are read, the filters decide. -/
theorem select_of_readable (hoptions : acceptsOf decoded = .ok accepts)
    (hread : ∀ a ∈ accepts, a.nullish = false) :
    selectRequirements decoded maxAmount allowedAssets ourCaip2 =
      if (networkOptions ourCaip2 accepts).isEmpty then do
        let offered ← describeOffered accepts
        throwNoUsablePaymentOption (js "No exact/" ++ ourCaip2 ++
          js " payment option offered. Server offered: " ++
          (if accepts.isEmpty then js "(none)"
            else (List.intersperse (js ", ") offered).flatten))
      else match sponsoredOptions ourCaip2 accepts with
      | [] => throwNoUsablePaymentOption (unsponsoredMessage (networkOptions ourCaip2 accepts))
      | candidate :: _ => match eligibleOptions allowedAssets ourCaip2 accepts with
        | [] => throwDisallowedAsset (candidate.1.field "asset") (allowedAssets.getD [])
        | first :: rest => chooseAmong maxAmount first rest := by
  -- No element is missing, so each can be asked for its scheme and network.
  have hfilter : (liftM (filterE (fun a : Ref JsValue => isExactOn ourCaip2 a.1) accepts.zipIdx) :
      Except JsError _) = .ok (networkOptions ourCaip2 accepts) :=
    liftM_eq_ok.mpr (filterE_isExactOn hread)
  rw [eligibleOptions_eq, sponsoredOptions]
  unfold selectRequirements
  rw [hoptions]
  simp only [bind, Except.bind] at hfilter ⊢
  rw [hfilter]
  dsimp only
  generalize (networkOptions ourCaip2 accepts).filter
    (fun a => declaresSponsorship true a.1) = sponsored
  split
  · rfl
  · cases sponsored with
    | nil => rfl
    | cons candidate candidates =>
        dsimp only
        generalize allowedAmong allowedAssets (candidate :: candidates) = eligible
        cases eligible with
        | nil => rfl
        | cons first rest =>
            simp only [cheapest_eq_leastE]
            rfl

/-- No option is on the network. -/
theorem select_noneOnNetwork (hoptions : acceptsOf decoded = .ok accepts)
    (hread : ∀ a ∈ accepts, a.nullish = false) (hnone : networkOptions ourCaip2 accepts = []) :
    selectRequirements decoded maxAmount allowedAssets ourCaip2 = (do
      let offered ← describeOffered accepts
      throwNoUsablePaymentOption (js "No exact/" ++ ourCaip2 ++
        js " payment option offered. Server offered: " ++ (if accepts.isEmpty then js "(none)"
          else (List.intersperse (js ", ") offered).flatten))) := by
  rw [select_of_readable hoptions hread, hnone, if_pos List.isEmpty_nil]

/-- None of those on the network sponsors the fees. -/
theorem select_noneSponsored (hoptions : acceptsOf decoded = .ok accepts)
    (hread : ∀ a ∈ accepts, a.nullish = false) (hsome : networkOptions ourCaip2 accepts ≠ [])
    (hnone : sponsoredOptions ourCaip2 accepts = []) :
    selectRequirements decoded maxAmount allowedAssets ourCaip2 =
      throwNoUsablePaymentOption (unsponsoredMessage (networkOptions ourCaip2 accepts)) := by
  rw [select_of_readable hoptions hread, hnone, if_neg (by rwa [List.isEmpty_iff])]

/-- The allowlist has none of those that do. -/
theorem select_noneAllowed (hoptions : acceptsOf decoded = .ok accepts)
    (hread : ∀ a ∈ accepts, a.nullish = false) {candidate : Ref JsValue}
    {candidates : List (Ref JsValue)}
    (hsome : sponsoredOptions ourCaip2 accepts = candidate :: candidates)
    (hnone : eligibleOptions allowedAssets ourCaip2 accepts = []) :
    selectRequirements decoded maxAmount allowedAssets ourCaip2 =
      throwDisallowedAsset (candidate.1.field "asset") (allowedAssets.getD []) := by
  have honNetwork : networkOptions ourCaip2 accepts ≠ [] := by
    intro h
    rw [sponsoredOptions, h, List.filter_nil] at hsome
    exact absurd hsome (by simp only [reduceCtorEq, not_false_eq_true])
  rw [select_of_readable hoptions hread, if_neg (by rwa [List.isEmpty_iff]), hsome, hnone]

/-- Some option passes every filter. -/
theorem select_eligible (hoptions : acceptsOf decoded = .ok accepts)
    (hread : ∀ a ∈ accepts, a.nullish = false) {first : Ref JsValue} {rest : List (Ref JsValue)}
    (hsome : eligibleOptions allowedAssets ourCaip2 accepts = first :: rest) :
    selectRequirements decoded maxAmount allowedAssets ourCaip2 =
      chooseAmong maxAmount first rest := by
  obtain ⟨candidate, candidates, hsponsored⟩ : ∃ candidate candidates,
      sponsoredOptions ourCaip2 accepts = candidate :: candidates := by
    refine List.exists_cons_of_ne_nil (fun h => ?_)
    rw [eligibleOptions_eq, h, allowedAmong_eq_filter, List.filter_nil] at hsome
    exact absurd hsome (by simp only [reduceCtorEq, not_false_eq_true])
  have honNetwork : networkOptions ourCaip2 accepts ≠ [] := by
    intro h
    rw [sponsoredOptions, h, List.filter_nil] at hsponsored
    exact absurd hsponsored (by simp only [reduceCtorEq, not_false_eq_true])
  rw [select_of_readable hoptions hread, if_neg (by rwa [List.isEmpty_iff]), hsponsored, hsome]

end Branches

section Choice

variable {maxAmount : Int} {first o : Ref JsValue} {rest : List (Ref JsValue)}

/-- The choice among priced options. -/
theorem chooseAmong_priced (hpriced : ∀ a ∈ first :: rest, Priced a)
    (hleast : FirstLeast amountIn (first :: rest) o) :
    chooseAmong maxAmount first rest =
      if amountIn o > maxAmount then
        throwMaxAmountExceeded (amountIn o) maxAmount (o.1.field "asset")
      else .ok o := by
  have hreduce : leastE priceOf first rest = .ok o :=
    (leastE_eq_ok (fun a ha => priceOf_of_priced (hpriced a ha))).mpr hleast
  rw [chooseAmong, hreduce]
  simp only [bind, Except.bind, priceOf_of_priced (hpriced o hleast.mem)]
  rfl

theorem chooseAmong_ok_iff :
    chooseAmong maxAmount first rest = .ok o ↔ Selects maxAmount (first :: rest) o := by
  constructor
  · intro h
    obtain ⟨usable, hreduce, h⟩ := bind_eq_ok.mp h
    obtain ⟨required, hrequired, h⟩ := bind_eq_ok.mp h
    by_cases hover : required > maxAmount
    · rw [if_pos hover] at h
      obtain ⟨_, -, h⟩ := bind_eq_ok.mp h
      exact absurd h (by simp only [reduceCtorEq, not_false_eq_true])
    rw [if_neg hover] at h
    obtain rfl : usable = o := Except.ok.inj h
    have hpriced : ∀ a ∈ first :: rest, Priced a :=
      fun a ha => priced_iff.mpr (leastE_priced hreduce hrequired a ha)
    have hleast : FirstLeast amountIn (first :: rest) usable :=
      (leastE_eq_ok (fun a ha => priceOf_of_priced (hpriced a ha))).mp hreduce
    have hamount : required = amountIn usable := by
      rw [priceOf_of_priced (hpriced usable hleast.mem), Except.ok.injEq] at hrequired
      exact hrequired.symm
    exact ⟨hpriced, hleast, hamount ▸ not_lt.mp hover⟩
  · rintro ⟨hpriced, hleast, hle⟩
    rw [chooseAmong_priced hpriced hleast, if_neg (not_lt.mpr hle)]

/-- One amount that does not parse refuses them all. -/
theorem chooseAmong_unpriced (maxAmount : Int) (h : ∃ a ∈ first :: rest, ¬ Priced a) :
    ∃ e, chooseAmong maxAmount first rest = .error e ∧ ∃ a ∈ first :: rest, priceOf a = .error e := by
  cases hreduce : leastE priceOf first rest with
  | error e =>
      refine ⟨e, ?_, leastE_error hreduce⟩
      rw [chooseAmong, hreduce]
      rfl
  | ok usable =>
      cases hprice : priceOf usable with
      | ok n =>
          obtain ⟨a, ha, hunpriced⟩ := h
          exact absurd (priced_iff.mpr (leastE_priced hreduce hprice a ha)) hunpriced
      | error e =>
          refine ⟨e, ?_, usable, leastE_mem hreduce, hprice⟩
          rw [chooseAmong, hreduce]
          simp only [bind, Except.bind, hprice]

/-- What is chosen has nothing to do with the positions. -/
theorem chooseAmong_congr {first' : Ref JsValue} {rest' : List (Ref JsValue)}
    (h : (first' :: rest').map Prod.fst = (first :: rest).map Prod.fst) :
    (chooseAmong maxAmount first' rest').map Prod.fst =
      (chooseAmong maxAmount first rest).map Prod.fst := by
  -- Where an option stands is carried along and never looked at.
  have hvalue : ∀ (first : Ref JsValue) (rest : List (Ref JsValue)),
      (chooseAmong maxAmount first rest).map Prod.fst =
        (leastE (fun v => parseAmount (v.field "amount")) first.1 (rest.map Prod.fst) >>= fun v => do
          let required ← parseAmount (v.field "amount")
          if required > maxAmount then
            throwMaxAmountExceeded required maxAmount (v.field "asset")
          else return v) := by
    intro first rest
    have hmap : (leastE priceOf first rest).map Prod.fst =
        leastE (fun v => parseAmount (v.field "amount")) first.1 (rest.map Prod.fst) :=
      leastE_map (fun v : JsValue => parseAmount (v.field "amount")) Prod.fst
    rw [← hmap]
    show (chooseAmong maxAmount first rest).map Prod.fst =
      (leastE priceOf first rest).map Prod.fst >>= _
    rw [chooseAmong]
    cases leastE priceOf first rest with
    | error e => rfl
    | ok usable =>
        simp only [bind, Except.bind, Except.map, priceOf]
        cases parseAmount (usable.1.field "amount") with
        | error e => rfl
        | ok required =>
            dsimp only
            by_cases hover : required > maxAmount
            · rw [if_pos hover, if_pos hover, throwMaxAmountExceeded, throwMaxAmountExceeded]
              cases (usable.1.field "asset").toStr <;> rfl
            · rw [if_neg hover, if_neg hover]
              rfl
  rw [List.map_cons, List.map_cons, List.cons.injEq] at h
  rw [hvalue, hvalue, h.1, h.2]

end Choice

section Spec

variable {allowedAssets : Option (List JsString)} {ourCaip2 : JsString} {accepts : List JsValue}
  {decoded : JsValue} {maxAmount : Int} {o : Ref JsValue}

/-- Where an option is returned, none was missing. -/
theorem readable_of_selected (hoptions : acceptsOf decoded = .ok accepts)
    (h : selectRequirements decoded maxAmount allowedAssets ourCaip2 = .ok o) :
    ∀ a ∈ accepts, a.nullish = false := by
  obtain ⟨options, hread, hrest⟩ := bind_eq_ok.mp h
  obtain rfl : accepts = options := Except.ok.inj (hoptions.symm.trans hread)
  obtain ⟨onNetwork, hfilter, -⟩ := bind_eq_ok.mp hrest
  exact readable_of_filterE (fun e b => readable_of_isExactOn) (liftM_eq_ok.mp hfilter)

/-- An option is returned when it is the first of the cheapest that pass every
    filter, all of them have a price, and its own is not too high. -/
theorem selectRequirements_ok_iff (hoptions : acceptsOf decoded = .ok accepts)
    (hread : ∀ a ∈ accepts, a.nullish = false) :
    selectRequirements decoded maxAmount allowedAssets ourCaip2 = .ok o ↔
      Selects maxAmount (eligibleOptions allowedAssets ourCaip2 accepts) o := by
  cases heligible : eligibleOptions allowedAssets ourCaip2 accepts with
  | cons first rest => rw [select_eligible hoptions hread heligible, chooseAmong_ok_iff]
  | nil =>
      refine iff_of_false (fun h => ?_) (fun h => absurd h.cheapest.mem List.not_mem_nil)
      cases hsponsored : sponsoredOptions ourCaip2 accepts with
      | cons candidate candidates =>
          rw [select_noneAllowed hoptions hread hsponsored heligible] at h
          obtain ⟨_, -, h⟩ := bind_eq_ok.mp h
          exact absurd h (by simp only [reduceCtorEq, not_false_eq_true])
      | nil =>
          by_cases hnetwork : networkOptions ourCaip2 accepts = []
          · rw [select_noneOnNetwork hoptions hread hnetwork] at h
            obtain ⟨_, -, h⟩ := bind_eq_ok.mp h
            exact absurd h (by simp only [throwNoUsablePaymentOption, reduceCtorEq,
              not_false_eq_true])
          · rw [select_noneSponsored hoptions hread hnetwork hsponsored] at h
            exact absurd h (by simp only [throwNoUsablePaymentOption, reduceCtorEq,
              not_false_eq_true])

/-- An option of the declared type, in what is read of it. -/
structure WellTyped (a : JsValue) : Prop where
  scheme : ∃ s, a.field "scheme" = .str s
  network : ∃ s, a.field "network" = .str s
  amount : ∃ s, a.field "amount" = .str s
  asset : ∃ s, a.field "asset" = .str s

theorem WellTyped.readable {a : JsValue} (h : WellTyped a) : a.nullish = false := by
  obtain ⟨s, hs⟩ := h.scheme
  exact JsValue.nullish_of_field hs (by simp only [ne_eq, reduceCtorEq, not_false_eq_true])

theorem WellTyped.printable {a : JsValue} (h : WellTyped a) :
    Printable (a.field "scheme") ∧ Printable (a.field "network") := by
  obtain ⟨scheme, hscheme⟩ := h.scheme
  obtain ⟨network, hnetwork⟩ := h.network
  rw [hscheme, hnetwork]
  exact ⟨.str scheme, .str network⟩

theorem acceptsOf_of_arr (h : decoded.field "accepts" = .arr accepts) :
    acceptsOf decoded = .ok accepts := by
  have hnullish : decoded.nullish = false :=
    JsValue.nullish_of_field h (by simp only [ne_eq, reduceCtorEq, not_false_eq_true])
  unfold acceptsOf JsValue.prop
  rw [hnullish, if_neg Bool.false_ne_true, h]
  rfl

/-- The offer can be described when every scheme and every network has a text. -/
theorem describeOffered_isOk_iff (hread : ∀ a ∈ accepts, a.nullish = false) :
    (∃ offered, describeOffered accepts = .ok offered) ↔
      ∀ a ∈ accepts, Printable (a.field "scheme") ∧ Printable (a.field "network") := by
  induction accepts with
  | nil => exact iff_of_true ⟨[], rfl⟩ (fun a ha => absurd ha List.not_mem_nil)
  | cons a rest ih =>
      rw [List.forall_mem_cons] at hread
      rw [List.forall_mem_cons, ← ih hread.2, ← toStr_isOk_iff, ← toStr_isOk_iff]
      simp only [describeOffered, JsValue.prop, hread.1, Bool.false_eq_true, if_false, bind,
        Except.bind]
      cases (a.field "scheme").toStr with
      | error e => simp only [reduceCtorEq, exists_false, false_and]
      | ok scheme =>
          cases (a.field "network").toStr with
          | error e => simp only [reduceCtorEq, exists_false, false_and, and_false]
          | ok network =>
              cases describeOffered rest with
              | error e => simp only [reduceCtorEq, exists_false, and_false]
              | ok offered => simp only [pure, Except.pure, Except.ok.injEq, exists_eq', and_self]

/-- An option is returned at some position. -/
theorem exists_ref_iff {r : Except JsError (Ref JsValue)} {option : JsValue} :
    (∃ i, r = .ok (option, i)) ↔ r.map Prod.fst = .ok option := by
  cases r with
  | error e =>
      refine iff_of_false ?_ (by simp only [Except.map, reduceCtorEq, not_false_eq_true])
      rintro ⟨i, h⟩
      exact absurd h (by simp only [reduceCtorEq, not_false_eq_true])
  | ok e =>
      rcases e with ⟨option', i⟩
      simp only [Except.map, Except.ok.injEq, Prod.mk.injEq, exists_and_left, exists_eq', and_true]

/-- The choice throws an error of the class. -/
def Refuses (r : Except JsError (Ref JsValue)) (kind : ErrorKind) : Prop :=
  ∃ message, r = .error ⟨kind, message⟩

section Refusals

variable {decoded : JsValue} {accepts : List JsValue} {maxAmount : Int}
  {allowedAssets : Option (List JsString)} {ourCaip2 : JsString}
  (hoptions : acceptsOf decoded = .ok accepts) (htyped : ∀ a ∈ accepts, WellTyped a)

include htyped in
theorem wellTyped_readable : ∀ a ∈ accepts, a.nullish = false :=
  fun a ha => (htyped a ha).readable

include htyped in
theorem wellTyped_eligible :
    ∀ e ∈ eligibleOptions allowedAssets ourCaip2 accepts, WellTyped e.1 := by
  intro e he
  exact htyped e.1 (List.mem_of_getElem? ((mem_zipIdx_iff accepts e).mp (List.mem_of_mem_filter he)))

include hoptions htyped

theorem refuses_noneSponsored (hnone : sponsoredOptions ourCaip2 accepts = []) :
    Refuses (selectRequirements decoded maxAmount allowedAssets ourCaip2)
      .noUsablePaymentOption := by
  have hread := wellTyped_readable htyped
  by_cases hnetwork : networkOptions ourCaip2 accepts = []
  · obtain ⟨offered, hoffered⟩ := (describeOffered_isOk_iff hread).mpr
      (fun a ha => (htyped a ha).printable)
    rw [select_noneOnNetwork hoptions hread hnetwork, hoffered]
    exact ⟨_, rfl⟩
  · rw [select_noneSponsored hoptions hread hnetwork hnone]
    exact ⟨_, rfl⟩

theorem refuses_noneAllowed (hsome : sponsoredOptions ourCaip2 accepts ≠ [])
    (hnone : eligibleOptions allowedAssets ourCaip2 accepts = []) : ∃ asset,
      Refuses (selectRequirements decoded maxAmount allowedAssets ourCaip2)
        (.disallowedAsset asset (allowedAssets.getD [])) := by
  obtain ⟨candidate, candidates, hsponsored⟩ := List.exists_cons_of_ne_nil hsome
  have hcandidate : candidate ∈ accepts.zipIdx :=
    List.mem_of_mem_filter (List.mem_of_mem_filter (hsponsored ▸ List.mem_cons_self))
  obtain ⟨asset, hasset⟩ := (htyped candidate.1
    (List.mem_of_getElem? ((mem_zipIdx_iff accepts candidate).mp hcandidate))).asset
  rw [select_noneAllowed hoptions (wellTyped_readable htyped) hsponsored hnone, hasset]
  exact ⟨_, _, rfl⟩

theorem refuses_unpriced (h : ∃ a ∈ eligibleOptions allowedAssets ourCaip2 accepts, ¬ Priced a) :
    Refuses (selectRequirements decoded maxAmount allowedAssets ourCaip2) .invalidRequirements := by
  obtain ⟨a, ha, hunpriced⟩ := h
  have htypedEligible : ∀ e ∈ eligibleOptions allowedAssets ourCaip2 accepts, WellTyped e.1 :=
    wellTyped_eligible htyped
  cases heligible : eligibleOptions allowedAssets ourCaip2 accepts with
  | nil =>
      rw [heligible] at ha
      exact absurd ha List.not_mem_nil
  | cons first rest =>
      rw [heligible] at ha htypedEligible
      obtain ⟨e, he, b, hb, hprice⟩ := chooseAmong_unpriced maxAmount ⟨a, ha, hunpriced⟩
      rw [select_eligible hoptions (wellTyped_readable htyped) heligible, he]
      obtain ⟨amount, hamount⟩ := (htypedEligible b hb).amount
      obtain ⟨message, rfl⟩ := priceOf_error (by rw [hamount]; rfl) hprice
      exact ⟨message, rfl⟩

theorem refuses_dear {o : Ref JsValue}
    (hpriced : ∀ a ∈ eligibleOptions allowedAssets ourCaip2 accepts, Priced a)
    (hleast : FirstLeast amountIn (eligibleOptions allowedAssets ourCaip2 accepts) o)
    (hover : maxAmount < amountIn o) :
    Refuses (selectRequirements decoded maxAmount allowedAssets ourCaip2)
      (.maxAmountExceeded (amountIn o) maxAmount (o.1.field "asset")) := by
  obtain ⟨asset, hasset⟩ := (wellTyped_eligible htyped o hleast.mem).asset
  cases heligible : eligibleOptions allowedAssets ourCaip2 accepts with
  | nil =>
      rw [heligible] at hleast
      exact absurd hleast.mem List.not_mem_nil
  | cons first rest =>
      rw [heligible] at hpriced hleast
      rw [select_eligible hoptions (wellTyped_readable htyped) heligible,
        chooseAmong_priced hpriced hleast, if_pos hover, hasset]
      exact ⟨_, rfl⟩

end Refusals

/-- The choice among options of the declared type: the first of the cheapest that
    pass every filter, or the refusal of the first check that failed. The options
    that do not pass have no part in the choice, nor in a refusal while some pass. Where
    none does, which refusal it is and the asset it names are up to the others. -/
theorem selectRequirements_meets_spec (decoded : JsValue) (accepts : List JsValue)
    (maxAmount : Int) (allowedAssets : Option (List JsString)) (ourCaip2 : JsString)
    (haccepts : decoded.field "accepts" = .arr accepts) (htyped : ∀ a ∈ accepts, WellTyped a) :
    (∀ o, selectRequirements decoded maxAmount allowedAssets ourCaip2 = .ok o ↔
      Selects maxAmount (eligibleOptions allowedAssets ourCaip2 accepts) o) ∧
    (sponsoredOptions ourCaip2 accepts = [] →
      Refuses (selectRequirements decoded maxAmount allowedAssets ourCaip2)
        .noUsablePaymentOption) ∧
    (sponsoredOptions ourCaip2 accepts ≠ [] →
      eligibleOptions allowedAssets ourCaip2 accepts = [] → ∃ asset,
        Refuses (selectRequirements decoded maxAmount allowedAssets ourCaip2)
          (.disallowedAsset asset (allowedAssets.getD []))) ∧
    ((∃ a ∈ eligibleOptions allowedAssets ourCaip2 accepts, ¬ Priced a) →
      Refuses (selectRequirements decoded maxAmount allowedAssets ourCaip2)
        .invalidRequirements) ∧
    (∀ o, (∀ a ∈ eligibleOptions allowedAssets ourCaip2 accepts, Priced a) →
      FirstLeast amountIn (eligibleOptions allowedAssets ourCaip2 accepts) o →
      maxAmount < amountIn o →
        Refuses (selectRequirements decoded maxAmount allowedAssets ourCaip2)
          (.maxAmountExceeded (amountIn o) maxAmount (o.1.field "asset"))) ∧
    (∀ decoded' accepts', decoded'.field "accepts" = .arr accepts' →
      (∀ a ∈ accepts', WellTyped a) →
      (eligibleOptions allowedAssets ourCaip2 accepts').map Prod.fst =
        (eligibleOptions allowedAssets ourCaip2 accepts).map Prod.fst →
      (∀ option, (∃ i, selectRequirements decoded' maxAmount allowedAssets ourCaip2 =
          .ok (option, i)) ↔
        ∃ i, selectRequirements decoded maxAmount allowedAssets ourCaip2 = .ok (option, i)) ∧
      (eligibleOptions allowedAssets ourCaip2 accepts ≠ [] →
        (selectRequirements decoded' maxAmount allowedAssets ourCaip2).map Prod.fst =
          (selectRequirements decoded maxAmount allowedAssets ourCaip2).map Prod.fst)) := by
  have hoptions := acceptsOf_of_arr haccepts
  have hread := wellTyped_readable htyped
  refine ⟨fun o => selectRequirements_ok_iff hoptions hread, refuses_noneSponsored hoptions htyped,
    refuses_noneAllowed hoptions htyped, refuses_unpriced hoptions htyped,
    fun o => refuses_dear hoptions htyped, ?_⟩
  intro decoded' accepts' haccepts' htyped' hsame
  have hoptions' := acceptsOf_of_arr haccepts'
  have hread' := wellTyped_readable htyped'
  cases heligible : eligibleOptions allowedAssets ourCaip2 accepts with
  | nil =>
      -- None is eligible: neither challenge gives an option, whatever else they offer.
      rw [heligible, List.map_nil, List.map_eq_nil_iff] at hsame
      refine ⟨fun option => ?_, fun h => absurd rfl h⟩
      simp only [selectRequirements_ok_iff hoptions hread,
        selectRequirements_ok_iff hoptions' hread', heligible, hsame]
  | cons first rest =>
      obtain ⟨first', rest', heligible', -, -⟩ :=
        List.map_eq_cons_iff.mp (hsame.trans (by rw [heligible, List.map_cons]))
      have hchosen : (selectRequirements decoded' maxAmount allowedAssets ourCaip2).map Prod.fst =
          (selectRequirements decoded maxAmount allowedAssets ourCaip2).map Prod.fst := by
        rw [select_eligible hoptions hread heligible, select_eligible hoptions' hread' heligible']
        refine chooseAmong_congr ?_
        rw [← heligible, ← heligible', hsame]
      refine ⟨fun option => ?_, fun _ => hchosen⟩
      rw [exists_ref_iff, exists_ref_iff, hchosen]

/-- An option that passes every filter. -/
def offeredOption (asset amount : JsString) : JsValue :=
  .obj [(js "scheme", js "exact"), (js "network", js "stellar:testnet"), (js "asset", asset),
    (js "amount", amount), (js "extra", .obj [(js "areFeesSponsored", .bool true)])]

/-- Of two options of the same price the first is taken. -/
theorem selectRequirements_meets_spec_tie :
    selectRequirements (.obj [(js "accepts", .arr [offeredOption "CUSDC" "5",
      offeredOption "CEURC" "5"])]) 10 none "stellar:testnet" =
        .ok (offeredOption "CUSDC" "5", 0) := by
  refine ((selectRequirements_meets_spec _ [offeredOption "CUSDC" "5", offeredOption "CEURC" "5"] 10
    none "stellar:testnet" rfl ?_).1 _).mpr ⟨?_, ⟨[], [(offeredOption "CEURC" "5", 1)], rfl,
      by decide, by decide⟩, by decide⟩
  · intro a ha
    simp only [List.mem_cons, List.not_mem_nil, or_false] at ha
    rcases ha with rfl | rfl <;> exact ⟨⟨_, rfl⟩, ⟨_, rfl⟩, ⟨_, rfl⟩, ⟨_, rfl⟩⟩
  · intro a ha
    have heligible : eligibleOptions none "stellar:testnet" [offeredOption "CUSDC" "5",
        offeredOption "CEURC" "5"] = [(offeredOption "CUSDC" "5", 0),
          (offeredOption "CEURC" "5", 1)] := rfl
    simp only [heligible, List.mem_cons, List.not_mem_nil, or_false] at ha
    rcases ha with rfl | rfl <;> exact ⟨_, rfl, by decide⟩

end Spec

end X402

end VellarSdk
