import VellarSdk.Payer.Clearing

/-!
# Typed Refusals

What an untrusted challenge can make the guards throw. The header holds any JSON
value, and it is cast to a challenge without a look at its shape. A value that is
no challenge is to be refused with one of the errors that callers can catch, and
for most shapes it is. What escapes is the language's own error, where a property
of a missing value is read, where `filter` is called on something else than an
array, and where a value that has no text is put into the message of a refusal.

The two ways into the guards differ in what they look at first. The client hands
the decoded value over as it is. The payer asks for an object of the right version
with a list of options, and copies the options.

## Main definitions

* `TypedOutcome`: No error of the language escapes.
* `decodeAndSelect`, `decodeAndSelectV2`: The two ways.
* `Offers`: The options the guards find in a value.
* `Selectable`: Options that are all read, and printed where they have to be.
* `V2Safe`: What the payer's way asks of a value.

## Theorems

* `select_typed_iff`: When the choice among options throws typed errors only.
* `decode_select_typed_iff`: When both ways do.
* `decode_select_untyped`: A value that gets the better of both.
-/

namespace VellarSdk

namespace Payer

open Js X402

/-- An error of one of the classes the repository declares. -/
def isTyped : ErrorKind → Bool
  | .native _ | .foreign | .plain => false
  | _ => true

/-- The code returns or throws a typed error. -/
def TypedOutcome {α : Type} (r : Except JsError α) : Prop :=
  ∀ e, r = .error e → isTyped e.kind = true

/-- The client's way: decode and select. -/
def decodeAndSelect (parse : JsonParse) (res : Response) (maxAmount : Int)
    (allowedAssets : Option (List JsString)) (ourCaip2 : JsString) : Except JsError (Ref JsValue) := do
  let decoded ← decodePaymentRequired parse res
  selectRequirements decoded maxAmount allowedAssets ourCaip2

/-- The payer's way: decode, ask for a version 2 challenge, copy and select. -/
def decodeAndSelectV2 (parse : JsonParse) (res : Response) (maxAmount : Int)
    (allowedAssets : Option (List JsString)) (ourCaip2 : JsString) : Except JsError (Ref JsValue) := do
  let challenge ← assertV2Challenge (← decodePaymentRequired parse res)
  let view ← toGuardView challenge
  selectRequirements view maxAmount allowedAssets ourCaip2

section Outcomes

variable {α β : Type}

theorem typed_ok (a : α) : TypedOutcome (.ok a : Except JsError α) := by
  intro e h
  exact absurd h (by simp only [reduceCtorEq, not_false_eq_true])

theorem typed_error_iff {e : JsError} :
    TypedOutcome (.error e : Except JsError α) ↔ isTyped e.kind = true :=
  ⟨fun h => h e rfl, fun h _ he => Except.error.inj he ▸ h⟩

/-- A conversion that fails is an error of the language. -/
theorem typed_lift_bind_iff {x : Except NativeError α} {f : α → Except JsError β} :
    TypedOutcome ((liftM x : Except JsError α) >>= f) ↔
      ∃ a, x = .ok a ∧ TypedOutcome (f a) := by
  cases x with
  | error n =>
      refine iff_of_false (fun h => ?_) ?_
      · exact absurd (h _ rfl) (by simp only [isTyped, Bool.false_eq_true, not_false_eq_true])
      · rintro ⟨a, ha, -⟩
        exact absurd ha (by simp only [reduceCtorEq, not_false_eq_true])
  | ok a =>
      constructor
      · exact fun h => ⟨a, rfl, h⟩
      · rintro ⟨a', ha, h⟩
        rw [← Except.ok.inj ha] at h
        exact h

/-- A typed error with a value in its message is thrown when the value has a
    text. -/
theorem typed_message_iff {v : JsValue} {f : JsString → JsError}
    (hf : ∀ s, isTyped (f s).kind = true) :
    TypedOutcome ((liftM v.toStr : Except JsError JsString) >>= fun s => .error (f s) :
      Except JsError α) ↔ Printable v := by
  rw [typed_lift_bind_iff, ← toStr_isOk_iff]
  exact exists_congr (fun s => and_iff_left (typed_error_iff.mpr (hf s)))

end Outcomes

/-- The options the guards find in a value: the array it lists them in, or none
    where it lists nothing. -/
structure Offers (decoded : JsValue) (accepts : List JsValue) : Prop where
  readable : decoded.nullish = false
  listed : decoded.field "accepts" = .arr accepts ∨
    (decoded.field "accepts").nullish = true ∧ accepts = []

theorem acceptsOf_ok_iff {decoded : JsValue} {accepts : List JsValue} :
    acceptsOf decoded = .ok accepts ↔ Offers decoded accepts := by
  constructor
  · intro h
    obtain ⟨listed, hlisted, h⟩ := bind_eq_ok.mp h
    obtain ⟨hread, rfl⟩ := JsValue.prop_eq_ok (liftM_eq_ok.mp hlisted)
    refine ⟨hread, ?_⟩
    by_cases hnullish : (decoded.field "accepts").nullish = true
    · rw [JsValue.orElse, if_pos hnullish] at h
      exact .inr ⟨hnullish, (Except.ok.inj h).symm⟩
    · rw [JsValue.orElse, if_neg hnullish] at h
      split at h
      · next items harr =>
          rw [harr, Except.ok.inj h]
          exact .inl rfl
      · exact absurd h (by simp only [throwTypeError, reduceCtorEq, not_false_eq_true])
  · rintro ⟨hread, harr | ⟨hnullish, rfl⟩⟩
    · exact acceptsOf_of_arr harr
    · rw [acceptsOf, JsValue.prop, hread, if_neg Bool.false_ne_true]
      simp only [bind, Except.bind, liftM, monadLift, MonadLift.monadLift, Except.mapError,
        JsValue.orElse, hnullish, if_true]
      rfl

/-- Where no options are found, it is not a typed error that says so. -/
theorem acceptsOf_typed {decoded : JsValue} (h : TypedOutcome (acceptsOf decoded)) :
    ∃ accepts, acceptsOf decoded = .ok accepts := by
  cases haccepts : acceptsOf decoded with
  | ok accepts => exact ⟨accepts, rfl⟩
  | error e =>
      have htyped := h e haccepts
      have hnative : e.kind = .native .typeError := by
        unfold acceptsOf JsValue.prop at haccepts
        by_cases hnullish : decoded.nullish = true
        · rw [if_pos hnullish] at haccepts
          rw [← Except.error.inj haccepts]
        · rw [if_neg hnullish] at haccepts
          simp only [bind, Except.bind, liftM, monadLift, MonadLift.monadLift,
            Except.mapError] at haccepts
          split at haccepts
          · exact absurd haccepts (by simp only [pure, Except.pure, reduceCtorEq, not_false_eq_true])
          · rw [← Except.error.inj haccepts]
      rw [hnative] at htyped
      exact absurd htyped (by simp only [isTyped, Bool.false_eq_true, not_false_eq_true])

/-- Options that can all be read, and that have a text where a refusal has to
    print them: all of them when none is on the network, the first of the sponsored
    ones when the allowlist has none of these, and the cheapest when it is too
    dear. -/
structure Selectable (maxAmount : Int) (allowedAssets : Option (List JsString))
    (ourCaip2 : JsString) (accepts : List JsValue) : Prop where
  readable : ∀ a ∈ accepts, a.nullish = false
  described : networkOptions ourCaip2 accepts = [] →
    ∀ a ∈ accepts, Printable (a.field "scheme") ∧ Printable (a.field "network")
  disallowed : ∀ candidate rest, sponsoredOptions ourCaip2 accepts = candidate :: rest →
    eligibleOptions allowedAssets ourCaip2 accepts = [] → Printable (candidate.1.field "asset")
  tooDear : ∀ o, (∀ a ∈ eligibleOptions allowedAssets ourCaip2 accepts, Priced a) →
    FirstLeast amountIn (eligibleOptions allowedAssets ourCaip2 accepts) o →
    maxAmount < amountIn o → Printable (o.1.field "asset")

section Select

variable {maxAmount : Int} {allowedAssets : Option (List JsString)} {ourCaip2 : JsString}
  {accepts : List JsValue} {decoded : JsValue}

/-- Reading a missing option throws. -/
theorem select_unreadable (hoptions : acceptsOf decoded = .ok accepts)
    (h : ¬ ∀ a ∈ accepts, a.nullish = false) :
    ¬ TypedOutcome (selectRequirements decoded maxAmount allowedAssets ourCaip2) := by
  intro htyped
  unfold selectRequirements at htyped
  rw [hoptions] at htyped
  obtain ⟨onNetwork, hfilter, -⟩ := typed_lift_bind_iff.mp htyped
  exact h (readable_of_filterE (fun e b => readable_of_isExactOn) hfilter)

/-- With nothing eligible, what is thrown depends on how far the options got. -/
theorem select_none_typed_iff (hoptions : acceptsOf decoded = .ok accepts)
    (hread : ∀ a ∈ accepts, a.nullish = false)
    (heligible : eligibleOptions allowedAssets ourCaip2 accepts = []) :
    TypedOutcome (selectRequirements decoded maxAmount allowedAssets ourCaip2) ↔
      Selectable maxAmount allowedAssets ourCaip2 accepts := by
  -- None is eligible, so none is the cheapest.
  have hdear : ∀ o, FirstLeast amountIn (eligibleOptions allowedAssets ourCaip2 accepts) o →
      Printable (o.1.field "asset") := by
    intro o hleast
    rw [heligible] at hleast
    exact absurd hleast.mem List.not_mem_nil
  cases hsponsored : sponsoredOptions ourCaip2 accepts with
  | cons candidate rest =>
      rw [select_noneAllowed hoptions hread hsponsored heligible, throwDisallowedAsset,
        typed_message_iff (fun _ => rfl)]
      constructor
      · intro hprint
        refine ⟨hread, fun hnone => ?_, fun candidate' rest' hsame _ => ?_,
          fun o _ hleast _ => hdear o hleast⟩
        · rw [sponsoredOptions, hnone, List.filter_nil] at hsponsored
          exact absurd hsponsored (by simp only [reduceCtorEq, not_false_eq_true])
        · rw [hsponsored, List.cons.injEq] at hsame
          exact hsame.1 ▸ hprint
      · intro h
        exact h.disallowed candidate rest hsponsored heligible
  | nil =>
      -- None is sponsored, so the first of them is not named.
      have hallowed : ∀ candidate rest, sponsoredOptions ourCaip2 accepts = candidate :: rest →
          Printable (candidate.1.field "asset") := by
        intro candidate rest hsome
        rw [hsponsored] at hsome
        exact absurd hsome (by simp only [reduceCtorEq, not_false_eq_true])
      by_cases hnetwork : networkOptions ourCaip2 accepts = []
      · rw [select_noneOnNetwork hoptions hread hnetwork, typed_lift_bind_iff]
        have hprinted := describeOffered_isOk_iff hread
        constructor
        · rintro ⟨offered, hoffered, -⟩
          exact ⟨hread, fun _ => hprinted.mp ⟨offered, hoffered⟩,
            fun candidate rest hsome _ => hallowed candidate rest hsome,
            fun o _ hleast _ => hdear o hleast⟩
        · intro h
          obtain ⟨offered, hoffered⟩ := hprinted.mpr (h.described hnetwork)
          exact ⟨offered, hoffered, typed_error_iff.mpr rfl⟩
      · rw [select_noneSponsored hoptions hread hnetwork hsponsored]
        exact iff_of_true (typed_error_iff.mpr rfl) ⟨hread, fun hnone => absurd hnone hnetwork,
          fun candidate rest hsome _ => hallowed candidate rest hsome,
          fun o _ hleast _ => hdear o hleast⟩

/-- Among eligible options only the refusal of one that is too dear prints what
    might not print. -/
theorem choose_typed_iff {first : Ref JsValue} {rest : List (Ref JsValue)}
    (hamounts : ∀ a ∈ first :: rest, ∃ text, (a.1.field "amount").stringify = .ok text) :
    TypedOutcome (chooseAmong maxAmount first rest) ↔
      ∀ o, (∀ a ∈ first :: rest, Priced a) → FirstLeast amountIn (first :: rest) o →
        maxAmount < amountIn o → Printable (o.1.field "asset") := by
  by_cases hpriced : ∀ a ∈ first :: rest, Priced a
  · obtain ⟨o, hleast⟩ := exists_firstLeast (f := amountIn) (List.cons_ne_nil first rest)
    have hunique : ∀ o', FirstLeast amountIn (first :: rest) o' → o' = o :=
      fun o' h => h.unique hleast
    rw [chooseAmong_priced hpriced hleast]
    by_cases hover : amountIn o > maxAmount
    · rw [if_pos hover, throwMaxAmountExceeded, typed_message_iff (fun _ => rfl)]
      constructor
      · intro hprint o' _ hleast' _
        rw [hunique o' hleast']
        exact hprint
      · intro h
        exact h o hpriced hleast hover
    · rw [if_neg hover]
      refine iff_of_true (typed_ok o) (fun o' _ hleast' hlt => ?_)
      rw [hunique o' hleast'] at hlt
      exact absurd hlt hover
  · refine iff_of_true ?_ (fun o hall => absurd hall hpriced)
    simp only [not_forall] at hpriced
    obtain ⟨a, ha, hunpriced⟩ := hpriced
    obtain ⟨e, he, b, hb, hprice⟩ := chooseAmong_unpriced maxAmount ⟨a, ha, hunpriced⟩
    rw [he, typed_error_iff]
    -- What did not parse can be quoted in the refusal.
    obtain ⟨text, htext⟩ := hamounts b hb
    obtain ⟨message, rfl⟩ := priceOf_error htext hprice
    rfl

/-- The choice among options whose amounts can be written back. -/
theorem select_typed_iff (hoptions : acceptsOf decoded = .ok accepts)
    (hamounts : ∀ a ∈ accepts, ∃ text, (a.field "amount").stringify = .ok text) :
    TypedOutcome (selectRequirements decoded maxAmount allowedAssets ourCaip2) ↔
      Selectable maxAmount allowedAssets ourCaip2 accepts := by
  by_cases hread : ∀ a ∈ accepts, a.nullish = false
  swap
  · exact iff_of_false (select_unreadable hoptions hread) (fun h => hread h.readable)
  cases heligible : eligibleOptions allowedAssets ourCaip2 accepts with
  | nil => exact select_none_typed_iff hoptions hread heligible
  | cons first rest =>
      have hsponsored : sponsoredOptions ourCaip2 accepts ≠ [] := by
        intro hnone
        rw [eligibleOptions_eq, hnone, allowedAmong_eq_filter, List.filter_nil] at heligible
        exact absurd heligible (by simp only [reduceCtorEq, not_false_eq_true])
      have hnetwork : networkOptions ourCaip2 accepts ≠ [] := by
        intro hnone
        rw [sponsoredOptions, hnone, List.filter_nil] at hsponsored
        exact hsponsored rfl
      -- Of the conditions only the last one is about a list with eligible options.
      have hselectable : Selectable maxAmount allowedAssets ourCaip2 accepts ↔
          ∀ o, (∀ a ∈ first :: rest, Priced a) → FirstLeast amountIn (first :: rest) o →
            maxAmount < amountIn o → Printable (o.1.field "asset") := by
        rw [← heligible]
        refine ⟨fun h => h.tooDear, fun h => ⟨hread, fun hnone => absurd hnone hnetwork,
          fun candidate others _ hnone => ?_, h⟩⟩
        rw [heligible] at hnone
        exact absurd hnone (by simp only [reduceCtorEq, not_false_eq_true])
      rw [select_eligible hoptions hread heligible, hselectable]
      refine choose_typed_iff (fun b hb => hamounts b.1 ?_)
      rw [← heligible] at hb
      exact List.mem_of_getElem? ((mem_zipIdx_iff accepts b).mp (List.mem_of_mem_filter hb))

end Select

section Copied

variable {maxAmount : Int} {allowedAssets : Option (List JsString)} {ourCaip2 : JsString}
  {accepts : List JsValue} {challenge : JsValue}

theorem networkOptions_copies : networkOptions ourCaip2 (accepts.map guardViewOf) =
    (networkOptions ourCaip2 accepts).map copyOf := by
  rw [networkOptions, networkOptions, List.zipIdx_map, List.filter_map]
  refine congrArg (List.map copyOf) (List.filter_congr (fun e _ => ?_))
  show onNetwork ourCaip2 (guardViewOf e.1) = onNetwork ourCaip2 e.1
  rw [onNetwork, guardViewOf_field e.1 (by decide), guardViewOf_field e.1 (by decide), onNetwork]

theorem sponsoredOptions_copies : sponsoredOptions ourCaip2 (accepts.map guardViewOf) =
    (sponsoredOptions ourCaip2 accepts).map copyOf := by
  rw [sponsoredOptions, networkOptions_copies, List.filter_map, sponsoredOptions]
  refine congrArg (List.map copyOf) (List.filter_congr (fun e _ => ?_))
  show declaresSponsorship true (guardViewOf e.1) = declaresSponsorship true e.1
  rw [declaresSponsorship, guardViewOf_sponsored, declaresSponsorship]

/-- Copies can be selected from when the originals can. -/
theorem selectable_copies (hread : ∀ a ∈ accepts, a.nullish = false) :
    Selectable maxAmount allowedAssets ourCaip2 (accepts.map guardViewOf) ↔
      Selectable maxAmount allowedAssets ourCaip2 accepts := by
  -- The copies have the fields that a refusal prints.
  have hscheme : ∀ a : JsValue, (guardViewOf a).field "scheme" = a.field "scheme" :=
    fun a => guardViewOf_field a (by decide)
  have hnetwork : ∀ a : JsValue, (guardViewOf a).field "network" = a.field "network" :=
    fun a => guardViewOf_field a (by decide)
  have hasset : ∀ e : Ref JsValue, (copyOf e).1.field "asset" = e.1.field "asset" :=
    fun e => guardViewOf_field e.1 (by decide)
  constructor
  · rintro ⟨-, hdescribed, hdisallowed, hdear⟩
    rw [networkOptions_copies, List.map_eq_nil_iff] at hdescribed
    rw [sponsoredOptions_copies, eligibleOptions_copies, List.map_eq_nil_iff] at hdisallowed
    rw [eligibleOptions_copies] at hdear
    refine ⟨hread, fun hnone a ha => ?_, fun candidate rest hsome hnone => ?_,
      fun o hpriced hleast hlt => ?_⟩
    · have hprinted := hdescribed hnone (guardViewOf a) (List.mem_map_of_mem ha)
      rwa [hscheme, hnetwork] at hprinted
    · have hprinted := hdisallowed (copyOf candidate) (rest.map copyOf)
        (by rw [hsome, List.map_cons]) hnone
      rwa [hasset] at hprinted
    · have hprinted := hdear (copyOf o)
        (List.forall_mem_map.mpr (fun a ha => priced_copyOf.mpr (hpriced a ha)))
        (firstLeast_map.mpr ⟨o, rfl, hleast.congr (fun a _ => amountIn_copyOf.symm)⟩)
        (by rwa [amountIn_copyOf])
      rwa [hasset] at hprinted
  · rintro ⟨-, hdescribed, hdisallowed, hdear⟩
    refine ⟨List.forall_mem_map.mpr (fun _ _ => rfl), ?_, ?_, ?_⟩
    · rw [networkOptions_copies, List.map_eq_nil_iff]
      intro hnone
      refine List.forall_mem_map.mpr (fun a ha => ?_)
      rw [hscheme, hnetwork]
      exact hdescribed hnone a ha
    · rw [sponsoredOptions_copies, eligibleOptions_copies, List.map_eq_nil_iff]
      intro candidate rest hsome hnone
      obtain ⟨candidate', rest', hsome', rfl, -⟩ := List.map_eq_cons_iff.mp hsome
      rw [hasset]
      exact hdisallowed candidate' rest' hsome' hnone
    · rw [eligibleOptions_copies]
      intro o hpriced hleast hlt
      obtain ⟨o', rfl, hleast'⟩ := firstLeast_map.mp hleast
      rw [amountIn_copyOf] at hlt
      rw [hasset]
      exact hdear o' (fun a ha => priced_copyOf.mp (hpriced _ (List.mem_map_of_mem ha)))
        (hleast'.congr (fun a _ => amountIn_copyOf)) hlt

/-- The copies are selected from as the originals would be, and making them throws
    where one is missing. -/
theorem copied_typed_iff (maxAmount : Int) (allowedAssets : Option (List JsString))
    (ourCaip2 : JsString) (haccepts : acceptsOf challenge = .ok accepts)
    (hamounts : ∀ a ∈ accepts, ∃ text, (a.field "amount").stringify = .ok text) :
    TypedOutcome (toGuardView challenge >>= fun view =>
      selectRequirements view maxAmount allowedAssets ourCaip2) ↔
      Selectable maxAmount allowedAssets ourCaip2 accepts := by
  by_cases hread : ∀ a ∈ accepts, a.nullish = false
  · obtain ⟨view, hview, hviews⟩ := toGuardView_of_readable haccepts hread
    have hcopied : ∀ a ∈ accepts.map guardViewOf,
        ∃ text, (a.field "amount").stringify = .ok text := by
      refine List.forall_mem_map.mpr (fun a ha => ?_)
      rw [guardViewOf_field a (by decide)]
      exact hamounts a ha
    rw [hview, ← selectable_copies hread]
    exact select_typed_iff hviews hcopied
  · refine iff_of_false (fun htyped => ?_) (fun h => hread h.readable)
    rw [toGuardView, haccepts] at htyped
    simp only [bind, Except.bind, guardViews_of_missing hread, throwTypeError] at htyped
    exact absurd (typed_error_iff.mp htyped) (by simp only [isTyped, Bool.false_eq_true,
      not_false_eq_true])

end Copied

section Decoded

variable {parse : JsonParse} {res : Response} {decoded : JsValue} {maxAmount : Int}
  {allowedAssets : Option (List JsString)} {ourCaip2 : JsString}

/-- Is the value an object to `typeof`, and not `null`? -/
def isObject : JsValue → Bool
  | .buffer _ | .arr _ | .obj _ => true
  | _ => false

/-- What the payer's way asks of a value: an object has a version with a text, or
    the right version, and then any options it lists can be selected from. -/
def V2Safe (maxAmount : Int) (allowedAssets : Option (List JsString)) (ourCaip2 : JsString)
    (decoded : JsValue) : Prop :=
  isObject decoded = true →
    (decoded.field "x402Version" ≠ .num 2 → Printable (decoded.field "x402Version")) ∧
    (decoded.field "x402Version" = .num 2 → ∀ accepts, decoded.field "accepts" = .arr accepts →
      Selectable maxAmount allowedAssets ourCaip2 accepts)

/-- Decoding throws typed errors only, whatever the header holds. -/
theorem decodePaymentRequired_typed : TypedOutcome (decodePaymentRequired parse res) := by
  intro e h
  unfold decodePaymentRequired at h
  split at h
  · split at h
    · exact absurd h (by simp only [reduceCtorEq, not_false_eq_true])
    · rw [← Except.error.inj h]
      rfl
  · rw [← Except.error.inj h]
    rfl

/-- And what it returns is what the header denotes. -/
theorem decodePaymentRequired_isJson (hparse : ∀ text v, parse text = .ok v → IsJson v)
    (h : decodePaymentRequired parse res = .ok decoded) : IsJson decoded := by
  unfold decodePaymentRequired at h
  split at h
  · next header hheader =>
      split at h
      · next v hread =>
          obtain ⟨text, -, hv⟩ := bind_eq_ok.mp hread
          rw [← Except.ok.inj h]
          cases hparsed : parse text with
          | error message =>
              rw [hparsed] at hv
              exact absurd hv (by simp only [Except.mapError, reduceCtorEq, not_false_eq_true])
          | ok w =>
              rw [hparsed] at hv
              rw [← Except.ok.inj hv]
              exact hparse text w hparsed
      · exact absurd h (by simp only [throwNoUsablePaymentOption, reduceCtorEq, not_false_eq_true])
  · exact absurd h (by simp only [throwNoUsablePaymentOption, reduceCtorEq, not_false_eq_true])

/-- The amounts of options that came as JSON can be written back. -/
theorem amounts_of_isJson {accepts : List JsValue} (h : IsJson decoded)
    (haccepts : acceptsOf decoded = .ok accepts) :
    ∀ a ∈ accepts, ∃ text, (a.field "amount").stringify = .ok text := by
  intro a ha
  have harr := acceptsOf_eq_ok haccepts ha
  rcases h.field "accepts" with hmissing | hjson
  · rw [harr] at hmissing
    exact absurd hmissing (by simp only [reduceCtorEq, not_false_eq_true])
  · rw [harr] at hjson
    exact (hjson.of_mem ha).stringify_field "amount"

/-- What comes after decoding decides. -/
theorem typed_decoded_iff {α : Type} {f : JsValue → Except JsError α} :
    TypedOutcome (decodePaymentRequired parse res >>= f) ↔
      ∀ decoded, decodePaymentRequired parse res = .ok decoded → TypedOutcome (f decoded) := by
  cases hdecoded : decodePaymentRequired parse res with
  | error e =>
      refine iff_of_true ?_ (fun decoded h => absurd h (by simp only [reduceCtorEq,
        not_false_eq_true]))
      exact typed_error_iff.mpr (decodePaymentRequired_typed e hdecoded)
  | ok decoded =>
      constructor
      · intro h decoded' hsame
        rw [← Except.ok.inj hsame]
        exact h
      · intro h
        exact h decoded rfl

theorem select_decoded_iff (h : IsJson decoded) :
    TypedOutcome (selectRequirements decoded maxAmount allowedAssets ourCaip2) ↔
      ∃ accepts, Offers decoded accepts ∧ Selectable maxAmount allowedAssets ourCaip2 accepts := by
  constructor
  · intro htyped
    have haccepted : TypedOutcome (acceptsOf decoded) := by
      intro e he
      refine htyped e ?_
      unfold selectRequirements
      rw [he]
      rfl
    obtain ⟨accepts, haccepts⟩ := acceptsOf_typed haccepted
    exact ⟨accepts, acceptsOf_ok_iff.mp haccepts,
      (select_typed_iff haccepts (amounts_of_isJson h haccepts)).mp htyped⟩
  · rintro ⟨accepts, hoffers, hselectable⟩
    have haccepts := acceptsOf_ok_iff.mpr hoffers
    exact (select_typed_iff haccepts (amounts_of_isJson h haccepts)).mpr hselectable

/-- An object is asked for its version, and then for its options. -/
theorem assertV2Challenge_of_object (h : isObject decoded = true) :
    assertV2Challenge decoded =
      if !(decoded.field "x402Version").strictEq (.num 2) then (do
        let version ← (decoded.field "x402Version").toStr
        throwNoUsablePaymentOption (js "Unsupported x402 version " ++ version ++
          js ("; this server speaks x402 v2 " ++
            "(the only version the Stellar exact scheme uses).")))
      else match decoded.field "accepts" with
        | .arr (_ :: _) => .ok decoded
        | _ => throwNoUsablePaymentOption "The 402 challenge offered no payment options." := by
  cases decoded with
  | buffer bytes => rfl
  | arr items => rfl
  | obj fields => rfl
  | _ => exact absurd h (by simp only [isObject, Bool.false_eq_true, not_false_eq_true])

/-- Options of which there are none leave nothing to read. -/
theorem selectable_nil : Selectable maxAmount allowedAssets ourCaip2 [] := by
  refine ⟨fun a ha => absurd ha List.not_mem_nil, fun _ a ha => absurd ha List.not_mem_nil,
    fun candidate rest hsome => ?_, fun o _ hleast => absurd hleast.mem List.not_mem_nil⟩
  exact absurd hsome (List.cons_ne_nil candidate rest).symm

/-- Another version is refused as such exactly if it can be printed. -/
theorem version_refused_iff {α β : Type} {version : JsValue} {before after : JsString}
    {next : α → Except JsError β} :
    TypedOutcome ((do
      let text ← version.toStr
      throwNoUsablePaymentOption (before ++ text ++ after)) >>= next) ↔ Printable version := by
  cases htext : version.toStr with
  | error n =>
      refine iff_of_false (fun htyped => ?_) (fun hprint => ?_)
      · exact absurd (typed_error_iff.mp htyped) (by simp only [isTyped, Bool.false_eq_true,
          not_false_eq_true])
      · obtain ⟨s, hs⟩ := (toStr_isOk_iff version).mpr hprint
        rw [htext] at hs
        exact absurd hs (by simp only [reduceCtorEq, not_false_eq_true])
  | ok s => exact iff_of_true (typed_error_iff.mpr rfl) ((toStr_isOk_iff version).mp ⟨s, htext⟩)

theorem v2_decoded_iff (h : IsJson decoded) :
    TypedOutcome (assertV2Challenge decoded >>= fun challenge =>
      toGuardView challenge >>= fun view =>
        selectRequirements view maxAmount allowedAssets ourCaip2) ↔
      V2Safe maxAmount allowedAssets ourCaip2 decoded := by
  by_cases hobject : isObject decoded = true
  swap
  · -- Anything else is refused for what it is.
    refine iff_of_true ?_ (fun h => absurd h hobject)
    cases decoded with
    | buffer bytes => exact absurd rfl hobject
    | arr items => exact absurd rfl hobject
    | obj fields => exact absurd rfl hobject
    | _ => exact typed_error_iff.mpr rfl
  have hsafe : V2Safe maxAmount allowedAssets ourCaip2 decoded ↔
      (decoded.field "x402Version" ≠ .num 2 → Printable (decoded.field "x402Version")) ∧
      (decoded.field "x402Version" = .num 2 → ∀ accepts, decoded.field "accepts" = .arr accepts →
        Selectable maxAmount allowedAssets ourCaip2 accepts) :=
    ⟨fun h => h hobject, fun h _ => h⟩
  rw [hsafe, assertV2Challenge_of_object hobject]
  have hstrict : (decoded.field "x402Version").strictEq (.num 2) = true ↔
      decoded.field "x402Version" = .num 2 := by
    cases decoded.field "x402Version" <;> simp [JsValue.strictEq]
  by_cases hversion : decoded.field "x402Version" = .num 2
  · rw [hstrict.mpr hversion]
    simp only [Bool.not_true, Bool.false_eq_true, if_false, hversion, ne_eq, not_true_eq_false,
      false_implies, true_and, true_implies]
    split
    · next a rest harr =>
        have haccepts : acceptsOf decoded = .ok (a :: rest) := acceptsOf_of_arr harr
        have hcopied := copied_typed_iff maxAmount allowedAssets ourCaip2 haccepts
          (amounts_of_isJson h haccepts)
        constructor
        · intro htyped accepts hsame
          rw [harr, JsValue.arr.injEq] at hsame
          rw [← hsame]
          exact hcopied.mp htyped
        · intro hselectable
          exact hcopied.mpr (hselectable _ harr)
    · next hnone =>
        refine iff_of_true (typed_error_iff.mpr rfl) (fun accepts harr => ?_)
        -- The only other array is the empty one, from which nothing is read.
        cases accepts with
        | cons a rest => exact absurd harr (hnone a rest)
        | nil => exact selectable_nil
  · rw [Bool.eq_false_iff.mpr (mt hstrict.mp hversion)]
    simp only [Bool.not_false, if_true, hversion, ne_eq, not_false_eq_true, true_implies,
      false_implies, and_true]
    exact version_refused_iff

end Decoded

/-- Whatever the header holds, the two ways return an option or throw a typed error
    exactly when the value it decodes to can be read and printed as far as they
    read and print it. -/
theorem decode_select_typed_iff (parse : JsonParse)
    (hparse : ∀ text v, parse text = .ok v → IsJson v) (res : Response) (maxAmount : Int)
    (allowedAssets : Option (List JsString)) (ourCaip2 : JsString) :
    (TypedOutcome (decodeAndSelect parse res maxAmount allowedAssets ourCaip2) ↔
      ∀ decoded, decodePaymentRequired parse res = .ok decoded → ∃ accepts,
        Offers decoded accepts ∧ Selectable maxAmount allowedAssets ourCaip2 accepts) ∧
    (TypedOutcome (decodeAndSelectV2 parse res maxAmount allowedAssets ourCaip2) ↔
      ∀ decoded, decodePaymentRequired parse res = .ok decoded →
        V2Safe maxAmount allowedAssets ourCaip2 decoded) := by
  constructor
  · rw [decodeAndSelect, typed_decoded_iff]
    refine forall_congr' (fun decoded => forall_congr' (fun hdecoded => ?_))
    exact select_decoded_iff (decodePaymentRequired_isJson hparse hdecoded)
  · rw [decodeAndSelectV2, typed_decoded_iff]
    refine forall_congr' (fun decoded => forall_congr' (fun hdecoded => ?_))
    exact v2_decoded_iff (decodePaymentRequired_isJson hparse hdecoded)

/-- A challenge of the right version whose only option is missing. -/
def missingText : JsString :=
  js "\x7b\"x402Version\":2," ++ js "\"accepts\":[null]\x7d"

/-- The value it parses to. -/
def missingOption : JsValue :=
  .obj [(js "x402Version", .num 2), (js "accepts", .arr [.null])]

/-- `JSON.parse` on that text. -/
def missingParse : JsonParse := fun text =>
  if text = missingText then .ok missingOption else .error "Unexpected token"

/-- The challenge as a response. -/
def missingFirst : Response :=
  { status := 402, headers := [(js "payment-required", btoa (TextEncoder.encode missingText))] }

theorem missingParse_isJson : ∀ text v, missingParse text = .ok v → IsJson v := by
  intro text v h
  unfold missingParse at h
  split at h
  · rw [← Except.ok.inj h]
    refine .obj _ (fun e he => ?_)
    simp only [List.mem_cons, List.not_mem_nil, or_false] at he
    rcases he with rfl | rfl
    · exact .num 2
    · refine .arr _ (fun w hw => ?_)
      rw [List.mem_singleton.mp hw]
      exact .null
  · exact absurd h (by simp only [reduceCtorEq, not_false_eq_true])

theorem missing_decoded : decodePaymentRequired missingParse missingFirst = .ok missingOption := by
  have htext : (base64ToUtf8 (btoa (TextEncoder.encode missingText))).toOption.map id =
      some missingText := by decide +kernel
  obtain ⟨text, htext, rfl⟩ := ok_of_toOption_map htext
  exact decodePaymentRequired_of_text rfl htext (if_pos rfl)

/-- Reading it throws a `TypeError`, on either way. -/
theorem decode_select_untyped : ¬ ∀ (parse : JsonParse),
    (∀ text v, parse text = .ok v → IsJson v) → ∀ (res : Response) (maxAmount : Int)
    (allowedAssets : Option (List JsString)) (ourCaip2 : JsString),
    TypedOutcome (decodeAndSelect parse res maxAmount allowedAssets ourCaip2) ∧
      TypedOutcome (decodeAndSelectV2 parse res maxAmount allowedAssets ourCaip2) := by
  intro h
  have htyped := (h missingParse missingParse_isJson missingFirst 0 none "stellar:testnet").1
  rw [decodeAndSelect, missing_decoded] at htyped
  exact absurd (typed_error_iff.mp htyped) (by simp only [isTyped, Bool.false_eq_true,
    not_false_eq_true])

/-- The condition on the payer's way, which that value does not meet. -/
theorem decode_select_typed_iff_missing :
    ¬ TypedOutcome (decodeAndSelectV2 missingParse missingFirst 0 none "stellar:testnet") := by
  intro htyped
  have hsafe := (decode_select_typed_iff missingParse missingParse_isJson missingFirst 0 none
    "stellar:testnet").2.mp htyped missingOption missing_decoded rfl
  have hread := (hsafe.2 rfl _ rfl).readable .null (List.mem_singleton_self _)
  exact absurd hread (by simp only [JsValue.nullish, Bool.true_eq_false, not_false_eq_true])

end Payer

end VellarSdk
