import VellarSdk.Payer.ErrorTexts

/-!
# The Strings in a Refusal

Which string of a challenge the guards print depends on where the challenge fails:
the version it states, the schemes and networks it offers, the asset of an option
that is not allowed or too dear, or an amount that is no number. The results here
say so for every check, in terms of the challenge alone.

## Main definitions

* `ChallengeBreaks`: A response whose challenge is refused with a line break.
* `RefusalBreaks`: Options that are.

## Theorems

* `challenge_breaks_iff`: Decoding a challenge.
* `select_breaks_iff`: The choice among its options.
* `select_copies`: The choice among their copies is the same.
* `clear_breaks_iff`: Clearing one of them.
-/

namespace VellarSdk

namespace Payer

open Js X402

section Challenges

variable {parse : JsonParse} {res : Response}

/-- The responses whose challenge is refused with a line break: the parser's message
    about it has one, or the version that it states. -/
inductive ChallengeBreaks (parse : JsonParse) (res : Response) : Prop where
  | malformed (header text message : JsString)
      (hheader : present (res.header "PAYMENT-REQUIRED" <|> res.header "payment-required") =
        some header)
      (htext : base64ToUtf8 header = .ok text) (hparse : parse text = .error message)
      (hbreak : HasBreak message)
  | version (decoded : JsValue) (hdecoded : decodePaymentRequired parse res = .ok decoded)
      (hobject : isObject decoded = true) (hversion : decoded.field "x402Version" ≠ .num 2)
      (hbreak : TextBreaks (decoded.field "x402Version"))

/-- A header that cannot be read is refused with what the parser said of it. -/
theorem parseHeader_breaks_iff {header : JsString} :
    ThrowsBreak (parseHeader parse header) ↔
      ∃ text message, base64ToUtf8 header = .ok text ∧ parse text = .error message ∧
        HasBreak message := by
  have hdecoder : ¬ ThrowsBreak (base64ToUtf8 header) := by
    unfold base64ToUtf8
    split
    · exact not_throwsBreak_ok _
    · rw [throwsBreak_error_iff]
      decide
  rw [parseHeader, throwsBreak_bind, or_iff_right hdecoder]
  refine exists_congr (fun text => ?_)
  cases hparse : parse text with
  | error message =>
      simp only [Except.mapError, throwsBreak_error_iff, Except.error.injEq]
      constructor
      · rintro ⟨htext, hbreak⟩
        exact ⟨message, htext, rfl, hbreak⟩
      · rintro ⟨message', htext, rfl, hbreak⟩
        exact ⟨htext, hbreak⟩
  | ok v =>
      simp only [Except.mapError, not_throwsBreak_ok, and_false, reduceCtorEq, false_and,
        exists_false]

theorem decode_breaks_iff : ThrowsBreak (decodePaymentRequired parse res) ↔
    ∃ header text message,
      present (res.header "PAYMENT-REQUIRED" <|> res.header "payment-required") = some header ∧
      base64ToUtf8 header = .ok text ∧ parse text = .error message ∧ HasBreak message := by
  have hmissing : ¬ HasBreak (js "402 response carried no PAYMENT-REQUIRED header.") := by decide
  have hhead : ¬ HasBreak (js "Malformed PAYMENT-REQUIRED header: ") := by decide
  unfold decodePaymentRequired
  cases hheader : present (res.header "PAYMENT-REQUIRED" <|> res.header "payment-required") with
  | none =>
      simp only [throwNoUsablePaymentOption, throwsBreak_error_iff, hmissing, reduceCtorEq, false_and,
        exists_false]
  | some header =>
      have hread : ThrowsBreak (parseHeader parse header) ↔ _ := parseHeader_breaks_iff
      simp only [Option.some.injEq, exists_and_left, exists_eq_left']
      simp only [exists_and_left] at hread
      rw [← hread]
      cases parseHeader parse header with
      | error err =>
          simp only [throwNoUsablePaymentOption, throwsBreak_error_iff, hasBreak_append, hhead,
            false_or]
      | ok v => exact iff_of_false (not_throwsBreak_ok v) (not_throwsBreak_ok v)

theorem version_breaks_iff {decoded : JsValue} : ThrowsBreak (assertV2Challenge decoded) ↔
    isObject decoded = true ∧ decoded.field "x402Version" ≠ .num 2 ∧
      TextBreaks (decoded.field "x402Version") := by
  -- Only the version is quoted; the texts around it are the code's own.
  have hobject : ¬ HasBreak (js "The 402 challenge did not decode to an object.") := by decide
  have hnone : ¬ HasBreak (js "The 402 challenge offered no payment options.") := by decide
  have hhead : ¬ HasBreak (js "Unsupported x402 version ") := by decide
  have hend : ¬ HasBreak (js ("; this server speaks x402 v2 " ++
    "(the only version the Stellar exact scheme uses).")) := by decide +kernel
  by_cases hobj : isObject decoded = true
  · rw [assertV2Challenge_of_object hobj]
    by_cases hversion : decoded.field "x402Version" = .num 2
    · rw [hversion, if_neg (by decide)]
      refine iff_of_false ?_ (fun h => h.2.1 rfl)
      split
      · exact not_throwsBreak_ok decoded
      · rw [throwNoUsablePaymentOption, throwsBreak_error_iff]
        exact hnone
    · -- The comparison is strict, so another value is another version.
      have hstrict : (!(decoded.field "x402Version").strictEq (.num 2)) = true := by
        rw [Bool.not_eq_true', Bool.eq_false_iff]
        exact fun h => hversion (JsValue.eq_of_strictEq h)
      rw [if_pos hstrict]
      simp only [throwNoUsablePaymentOption]
      rw [throwsBreak_value (Q := False)]
      · simp only [or_false, hobj, ne_eq, hversion, not_false_eq_true, true_and]
        exact Iff.rfl
      · intro text
        simp only [hasBreak_append, hhead, hend, false_or, or_false]
  · refine iff_of_false ?_ (fun h => hobj h.1)
    cases decoded with
    | buffer bytes => exact absurd rfl hobj
    | arr items => exact absurd rfl hobj
    | obj fields => exact absurd rfl hobj
    | _ =>
        simp only [assertV2Challenge, throwNoUsablePaymentOption, throwsBreak_error_iff]
        exact hobject

/-- A challenge is refused with a line break exactly when the response is one of
    those. -/
theorem challenge_breaks_iff :
    ThrowsBreak (challengeOf parse res) ↔ ChallengeBreaks parse res := by
  rw [challengeOf, throwsBreak_bind, decode_breaks_iff]
  simp only [version_breaks_iff]
  constructor
  · rintro (⟨header, text, message, hheader, htext, hparse, hbreak⟩ |
      ⟨decoded, hdecoded, hobject, hversion, hbreak⟩)
    · exact .malformed header text message hheader htext hparse hbreak
    · exact .version decoded hdecoded hobject hversion hbreak
  · intro h
    cases h with
    | malformed header text message hheader htext hparse hbreak =>
        exact .inl ⟨header, text, message, hheader, htext, hparse, hbreak⟩
    | version decoded hdecoded hobject hversion hbreak =>
        exact .inr ⟨decoded, hdecoded, hobject, hversion, hbreak⟩

end Challenges

section Options

variable {config : PayerConfig} {accepts : List JsValue} {decoded : JsValue} {maxAmount : Int}

/-- The options that are refused with a line break. Which of their strings is printed
    depends on the first check that leaves none of them. -/
inductive RefusalBreaks (config : PayerConfig) (maxAmount : Int) (accepts : List JsValue) :
    Prop where
  /-- None is on the network, and the refusal lists the schemes and networks of all. -/
  | offered (hnone : networkOptions config.caip2 accepts = [])
      (hprint : ∀ a ∈ accepts, Printable (a.field "scheme") ∧ Printable (a.field "network"))
      (hbreak : HasBreak config.caip2 ∨
        ∃ a ∈ accepts, TextBreaks (a.field "scheme") ∨ TextBreaks (a.field "network"))
  /-- None of the sponsored ones is allowed, and it names the asset of the first. -/
  | disallowed (candidate : Ref JsValue) (rest : List (Ref JsValue))
      (hsome : sponsoredOptions config.caip2 accepts = candidate :: rest)
      (hnone : payerOptions config accepts = [])
      (hprint : Printable (candidate.1.field "asset"))
      (hbreak : TextBreaks (candidate.1.field "asset") ∨
        ∃ asset ∈ config.allowedAssets, HasBreak asset)
  /-- One of the eligible ones has no price, and it quotes its amount. -/
  | unpriced (first : Ref JsValue) (rest : List (Ref JsValue)) (b : Ref JsValue)
      (hsome : payerOptions config accepts = first :: rest)
      (hfirst : firstUnpriced priceOf first rest = some b)
      (hbreak : JsonBreaks (b.1.field "amount"))
  /-- The cheapest is too dear, and it names its asset. -/
  | dear (o : Ref JsValue) (hpriced : ∀ a ∈ payerOptions config accepts, Priced a)
      (hleast : FirstLeast amountIn (payerOptions config accepts) o) (hover : maxAmount < amountIn o)
      (hbreak : TextBreaks (o.1.field "asset"))

/-- The list of what is offered has the line breaks of its schemes and networks. -/
theorem offered_breaks_iff {offered : List JsString} (h : describeOffered accepts = .ok offered) :
    (∃ text ∈ offered, HasBreak text) ↔
      ∃ a ∈ accepts, TextBreaks (a.field "scheme") ∨ TextBreaks (a.field "network") := by
  have hslash : ¬ HasBreak (js "/") := by decide
  induction accepts generalizing offered with
  | nil =>
      rw [← Except.ok.inj h]
      simp only [List.not_mem_nil, false_and, exists_false]
  | cons a rest ih =>
      obtain ⟨scheme, hscheme, h⟩ := bind_eq_ok.mp h
      obtain ⟨schemeText, hschemeText, h⟩ := bind_eq_ok.mp h
      obtain ⟨network, hnetwork, h⟩ := bind_eq_ok.mp h
      obtain ⟨networkText, hnetworkText, h⟩ := bind_eq_ok.mp h
      obtain ⟨others, hothers, h⟩ := bind_eq_ok.mp h
      rw [(JsValue.prop_eq_ok hscheme).2] at hschemeText
      rw [(JsValue.prop_eq_ok hnetwork).2] at hnetworkText
      rw [← Except.ok.inj h]
      simp only [List.mem_cons, exists_eq_or_imp, hasBreak_append, hslash, or_false, ih hothers,
        TextBreaks, hschemeText, hnetworkText, Except.ok.injEq, exists_eq_left']

/-- The refusal of a whole offer. -/
theorem offer_breaks_iff {ourCaip2 : JsString} {offered : List JsString}
    (h : describeOffered accepts = .ok offered) :
    HasBreak (js "No exact/" ++ ourCaip2 ++ js " payment option offered. Server offered: " ++
      (if accepts.isEmpty then js "(none)" else (List.intersperse (js ", ") offered).flatten)) ↔
    HasBreak ourCaip2 ∨
      ∃ a ∈ accepts, TextBreaks (a.field "scheme") ∨ TextBreaks (a.field "network") := by
  have hhead : ¬ HasBreak (js "No exact/") := by decide
  have hmiddle : ¬ HasBreak (js " payment option offered. Server offered: ") := by decide
  have hnone : ¬ HasBreak (js "(none)") := by decide
  have hcomma : ¬ HasBreak (js ", ") := by decide
  simp only [hasBreak_append, hhead, hmiddle, false_or, or_false]
  refine or_congr Iff.rfl ?_
  cases accepts with
  | nil =>
      rw [if_pos List.isEmpty_nil]
      refine iff_of_false hnone ?_
      rintro ⟨a, ha, -⟩
      exact absurd ha List.not_mem_nil
  | cons a rest =>
      rw [if_neg (by simp only [List.isEmpty_cons, Bool.false_eq_true, not_false_eq_true]),
        hasBreak_intersperse hcomma, offered_breaks_iff h]

theorem not_hasBreak_unsponsored (onNetwork : List (Ref JsValue)) :
    ¬ HasBreak (unsponsoredMessage onNetwork) := by
  rw [unsponsoredMessage]
  split
  · decide +kernel
  · decide +kernel

/-- What is no amount is quoted. -/
theorem amount_breaks_iff {v : JsValue} :
    ThrowsBreak (parseAmount v) ↔ (parseAmount v).isOk = false ∧ JsonBreaks v := by
  have hhead : ¬ HasBreak (js "x402 requirement has a non-integer amount ") := by decide
  have hdot : ¬ HasBreak (js ".") := by decide
  have hundefined : ¬ HasBreak (js "undefined") := by decide
  -- What is refused is quoted as JSON, where it has one.
  have hrefuse : (parseAmount.refuse v).isOk = false ∧
      (ThrowsBreak (parseAmount.refuse v) ↔ JsonBreaks v) := by
    rw [parseAmount.refuse]
    cases htext : v.stringify with
    | error e =>
        refine ⟨rfl, iff_of_false (not_throwsBreak_liftM (.error e : Except NativeError Int)) ?_⟩
        rintro ⟨text, h, -⟩
        exact absurd (htext.symm.trans h) (by simp only [reduceCtorEq, not_false_eq_true])
    | ok text =>
        refine ⟨rfl, ?_⟩
        rw [throwsBreak_lift_bind]
        simp only [Except.ok.injEq, exists_eq_left', throwInvalidRequirements, throwsBreak_error_iff,
          hasBreak_append, hhead, hdot, false_or, or_false, JsonBreaks, htext]
        cases text with
        | none => simp only [Option.getD_none, hundefined, reduceCtorEq, false_and, exists_false]
        | some text => simp only [Option.getD_some, Option.some.injEq, exists_eq_left']
  -- Everything but a text of digits is refused.
  have hcase : parseAmount v = parseAmount.refuse v ∨ ∃ n, parseAmount v = .ok n := by
    cases v with
    | str s =>
        by_cases hdigits : isDigits s = true
        · exact .inr ⟨_, parseAmount_eq_ok.mpr ⟨s, rfl, hdigits, rfl⟩⟩
        · exact .inl (by rw [parseAmount, if_neg hdigits])
    | _ => exact .inl rfl
  rcases hcase with hcase | ⟨n, hn⟩
  · rw [hcase, hrefuse.1, hrefuse.2]
    simp only [true_and]
  · rw [hn]
    refine iff_of_false (not_throwsBreak_ok n) (fun h => ?_)
    exact absurd h.1 (by simp only [Except.isOk, Except.toBool, Bool.true_eq_false,
      not_false_eq_true])

/-- So is an amount of an option. -/
theorem price_breaks_iff {e : Ref JsValue} :
    ThrowsBreak (priceOf e) ↔ (priceOf e).isOk = false ∧ JsonBreaks (e.1.field "amount") :=
  amount_breaks_iff

/-- The choice among eligible options is refused with the first amount that is no
    price, or with the asset of one that is too dear. -/
theorem choose_breaks_iff {first : Ref JsValue} {rest : List (Ref JsValue)} :
    ThrowsBreak (chooseAmong maxAmount first rest) ↔
      (∃ b, firstUnpriced priceOf first rest = some b ∧ JsonBreaks (b.1.field "amount")) ∨
      ∃ o, (∀ a ∈ first :: rest, Priced a) ∧ FirstLeast amountIn (first :: rest) o ∧
        maxAmount < amountIn o ∧ TextBreaks (o.1.field "asset") := by
  have hpricedOf : ∀ a : Ref JsValue, Priced a ↔ (priceOf a).isOk = true :=
    fun a => priced_iff.trans isOk_iff.symm
  by_cases hpriced : ∀ a ∈ first :: rest, Priced a
  · obtain ⟨o, hleast⟩ := exists_firstLeast (f := amountIn) (List.cons_ne_nil first rest)
    have hnone : firstUnpriced priceOf first rest = none := by
      rw [firstUnpriced, List.find?_eq_none]
      intro a ha
      rw [(hpricedOf a).mp (hpriced a ((mem_readingOrder first rest a).mp ha))]
      exact Bool.false_ne_true
    rw [chooseAmong_priced hpriced hleast, hnone]
    simp only [reduceCtorEq, false_and, exists_false, false_or]
    by_cases hover : amountIn o > maxAmount
    · rw [if_pos hover, maxAmountExceeded_breaks_iff]
      constructor
      · exact fun hbreak => ⟨o, hpriced, hleast, hover, hbreak⟩
      · rintro ⟨o', -, hleast', -, hbreak⟩
        rwa [hleast'.unique hleast] at hbreak
    · rw [if_neg hover]
      refine iff_of_false (not_throwsBreak_ok o) ?_
      rintro ⟨o', -, hleast', hlt, -⟩
      rw [hleast'.unique hleast] at hlt
      exact hover hlt
  · have hfirst : ∃ b, firstUnpriced priceOf first rest = some b := by
      simp only [not_forall] at hpriced
      obtain ⟨a, ha, hunpriced⟩ := hpriced
      rw [← Option.isSome_iff_exists, firstUnpriced, List.find?_isSome]
      refine ⟨a, (mem_readingOrder first rest a).mpr ha, ?_⟩
      rw [Bool.not_eq_true', Bool.eq_false_iff]
      exact mt (hpricedOf a).mpr hunpriced
    obtain ⟨b, hb⟩ := hfirst
    have hunread : (priceOf b).isOk = false := by
      have hfound := List.find?_some hb
      rwa [Bool.not_eq_true'] at hfound
    obtain ⟨e, he⟩ : ∃ e, priceOf b = .error e := by
      cases hprice : priceOf b with
      | error e => exact ⟨e, rfl⟩
      | ok n =>
          rw [hprice] at hunread
          exact absurd hunread Bool.true_eq_false_eq_False
    -- It is reported by the reduction, or by the one who asks for the only price.
    have hthrown : chooseAmong maxAmount first rest = .error e := by
      cases rest with
      | nil =>
          obtain rfl : first = b := by
            have hfound := List.mem_of_find?_eq_some hb
            exact (List.mem_singleton.mp hfound).symm
          rw [chooseAmong, leastE]
          simp only [bind, Except.bind, he]
      | cons a rest =>
          rw [chooseAmong, leastE_error_iff.mpr ⟨b, hb, he⟩]
          rfl
    rw [hthrown, throwsBreak_error_iff, ← throwsBreak_error_iff (α := Int), ← he]
    rw [price_breaks_iff]
    simp only [hb, Option.some.injEq, exists_eq_left', hunread, true_and]
    refine (or_iff_left ?_).symm
    rintro ⟨o, hall, -⟩
    exact hpriced hall

/-- The choice among options that can be read is refused with a line break exactly
    when they are of those. -/
theorem select_breaks_iff (hoptions : acceptsOf decoded = .ok accepts)
    (hread : ∀ a ∈ accepts, a.nullish = false) :
    ThrowsBreak (selectRequirements decoded maxAmount (some config.allowedAssets) config.caip2) ↔
      RefusalBreaks config maxAmount accepts := by
  cases heligible : payerOptions config accepts with
  | cons first rest =>
      have hsponsored : sponsoredOptions config.caip2 accepts ≠ [] := by
        intro hnone
        rw [payerOptions, eligibleOptions_eq, hnone, allowedAmong_eq_filter, List.filter_nil]
          at heligible
        exact absurd heligible (by simp only [reduceCtorEq, not_false_eq_true])
      rw [select_eligible hoptions hread heligible, choose_breaks_iff]
      constructor
      · rintro (⟨b, hb, hbreak⟩ | ⟨o, hpriced, hleast, hover, hbreak⟩)
        · exact .unpriced first rest b heligible hb hbreak
        · exact .dear o (heligible ▸ hpriced) (heligible ▸ hleast) hover hbreak
      · intro h
        cases h with
        | offered hnone _ _ =>
            rw [sponsoredOptions, hnone, List.filter_nil] at hsponsored
            exact absurd rfl hsponsored
        | disallowed candidate rest _ hnone _ _ =>
            rw [hnone] at heligible
            exact absurd heligible (by simp only [reduceCtorEq, not_false_eq_true])
        | unpriced first' rest' b hsome hb hbreak =>
            rw [heligible, List.cons.injEq] at hsome
            rw [← hsome.1, ← hsome.2] at hb
            exact .inl ⟨b, hb, hbreak⟩
        | dear o hpriced hleast hover hbreak =>
            exact .inr ⟨o, heligible ▸ hpriced, heligible ▸ hleast, hover, hbreak⟩
  | nil =>
      have hnot : ∀ o, ¬ FirstLeast amountIn (payerOptions config accepts) o := by
        intro o hleast
        rw [heligible] at hleast
        exact List.not_mem_nil hleast.mem
      cases hsponsored : sponsoredOptions config.caip2 accepts with
      | cons candidate others =>
          rw [select_noneAllowed hoptions hread hsponsored heligible, disallowedAsset_breaks_iff]
          constructor
          · rintro ⟨hprint, hbreak⟩
            exact .disallowed candidate others hsponsored heligible hprint hbreak
          · intro h
            cases h with
            | offered hnone _ _ =>
                rw [sponsoredOptions, hnone, List.filter_nil] at hsponsored
                exact absurd hsponsored (by simp only [reduceCtorEq, not_false_eq_true])
            | disallowed candidate' rest' hsome _ hprint hbreak =>
                rw [hsponsored, List.cons.injEq] at hsome
                rw [hsome.1]
                exact ⟨hprint, hbreak⟩
            | unpriced first rest b hsome _ _ =>
                rw [heligible] at hsome
                exact absurd hsome (by simp only [reduceCtorEq, not_false_eq_true])
            | dear o _ hleast _ _ => exact absurd hleast (hnot o)
      | nil =>
          -- Only the refusal that lists the offer is left.
          have honly : RefusalBreaks config maxAmount accepts ↔
              networkOptions config.caip2 accepts = [] ∧
              (∀ a ∈ accepts, Printable (a.field "scheme") ∧ Printable (a.field "network")) ∧
              (HasBreak config.caip2 ∨
                ∃ a ∈ accepts, TextBreaks (a.field "scheme") ∨ TextBreaks (a.field "network")) := by
            constructor
            · intro h
              cases h with
              | offered hnone hprint hbreak => exact ⟨hnone, hprint, hbreak⟩
              | disallowed candidate rest hsome _ _ _ =>
                  rw [hsponsored] at hsome
                  exact absurd hsome (by simp only [reduceCtorEq, not_false_eq_true])
              | unpriced first rest b hsome _ _ =>
                  rw [heligible] at hsome
                  exact absurd hsome (by simp only [reduceCtorEq, not_false_eq_true])
              | dear o _ hleast _ _ => exact absurd hleast (hnot o)
            · rintro ⟨hnone, hprint, hbreak⟩
              exact .offered hnone hprint hbreak
          rw [honly]
          by_cases hnetwork : networkOptions config.caip2 accepts = []
          · rw [select_noneOnNetwork hoptions hread hnetwork, throwsBreak_lift_bind,
              ← describeOffered_isOk_iff hread]
            simp only [hnetwork, true_and, throwNoUsablePaymentOption, throwsBreak_error_iff]
            constructor
            · rintro ⟨offered, hoffered, hbreak⟩
              exact ⟨⟨offered, hoffered⟩, (offer_breaks_iff hoffered).mp hbreak⟩
            · rintro ⟨⟨offered, hoffered⟩, hbreak⟩
              exact ⟨offered, hoffered, (offer_breaks_iff hoffered).mpr hbreak⟩
          · rw [select_noneSponsored hoptions hread hnetwork hsponsored,
              throwNoUsablePaymentOption, throwsBreak_error_iff]
            exact iff_of_false (not_hasBreak_unsponsored _) (fun h => hnetwork h.1)

end Options

section Cleared

variable {config : PayerConfig} {accepts : List JsValue} {challenge view : JsValue}
  {maxAmount : Int}

/-- Options that cannot be printed as they were offered cannot be as copies. -/
theorem describeOffered_copies (hread : ∀ a ∈ accepts, a.nullish = false) :
    describeOffered (accepts.map guardViewOf) = describeOffered accepts := by
  induction accepts with
  | nil => rfl
  | cons a rest ih =>
      rw [List.forall_mem_cons] at hread
      have hprop : ∀ name ∈ guardFields, (guardViewOf a).prop name = a.prop name := by
        intro name hname
        have hview : (guardViewOf a).nullish = false := rfl
        rw [JsValue.prop, JsValue.prop, hview, hread.1, guardViewOf_field a hname]
      rw [List.map_cons, describeOffered, describeOffered, hprop _ (by decide), hprop _ (by decide),
        ih hread.2]

theorem unsponsoredMessage_copies (onNetwork : List (Ref JsValue)) :
    unsponsoredMessage (onNetwork.map copyOf) = unsponsoredMessage onNetwork := by
  have hsame : ∀ a : Ref JsValue,
      declaresSponsorship false (copyOf a).1 = declaresSponsorship false a.1 := by
    intro a
    rw [copyOf, declaresSponsorship, guardViewOf_sponsored, declaresSponsorship]
  rw [unsponsoredMessage, unsponsoredMessage, List.any_map]
  simp only [Function.comp_def, hsame]

theorem chooseAmong_copies (first : Ref JsValue) (rest : List (Ref JsValue)) :
    chooseAmong maxAmount (copyOf first) (rest.map copyOf) =
      (chooseAmong maxAmount first rest).map copyOf := by
  have hprice : (fun a => priceOf (copyOf a)) = priceOf := funext (fun a => priceOf_copyOf)
  have hreduce : leastE priceOf (copyOf first) (rest.map copyOf) =
      (leastE priceOf first rest).map copyOf := by
    rw [← leastE_map priceOf copyOf, hprice]
  rw [chooseAmong, chooseAmong, hreduce]
  cases leastE priceOf first rest with
  | error e => rfl
  | ok usable =>
      simp only [Except.map, bind, Except.bind, priceOf_copyOf]
      cases priceOf usable with
      | error e => rfl
      | ok required =>
          have hasset : (copyOf usable).1.field "asset" = usable.1.field "asset" :=
            guardViewOf_field usable.1 (by decide)
          dsimp only
          rw [hasset]
          split
          · simp only [throwMaxAmountExceeded]
            cases (usable.1.field "asset").toStr <;> rfl
          · rfl

/-- The guards decide about the copies what they would about the options. -/
theorem select_copies (hoptions : acceptsOf challenge = .ok accepts)
    (hviews : acceptsOf view = .ok (accepts.map guardViewOf))
    (hread : ∀ a ∈ accepts, a.nullish = false) (allowedAssets : Option (List JsString))
    (ourCaip2 : JsString) :
    selectRequirements view maxAmount allowedAssets ourCaip2 =
      (selectRequirements challenge maxAmount allowedAssets ourCaip2).map copyOf := by
  -- A copy of an option is an object, and has the fields that are looked at.
  have hviewed : ∀ a ∈ accepts.map guardViewOf, a.nullish = false :=
    List.forall_mem_map.mpr (fun _ _ => rfl)
  rw [select_of_readable hviews hviewed, select_of_readable hoptions hread, networkOptions_copies,
    sponsoredOptions_copies, eligibleOptions_copies, describeOffered_copies hread,
    unsponsoredMessage_copies, List.isEmpty_map, List.isEmpty_map]
  -- Check by check, the copies leave the copies of what the options leave.
  split
  · cases describeOffered accepts <;> rfl
  · cases sponsoredOptions ourCaip2 accepts with
    | nil => rfl
    | cons candidate rest =>
        have hasset : (copyOf candidate).1.field "asset" = candidate.1.field "asset" :=
          guardViewOf_field candidate.1 (by decide)
        simp only [List.map_cons, hasset]
        cases eligibleOptions allowedAssets ourCaip2 accepts with
        | nil =>
            simp only [List.map_nil, throwDisallowedAsset]
            cases (candidate.1.field "asset").toStr <;> rfl
        | cons first rest =>
            simp only [List.map_cons]
            exact chooseAmong_copies first rest

theorem not_acceptsOf_breaks : ¬ ThrowsBreak (acceptsOf challenge) := by
  rw [acceptsOf, throwsBreak_lift_bind]
  rintro ⟨listed, -, hbreak⟩
  split at hbreak
  · exact not_throwsBreak_ok _ hbreak
  · exact not_throwsBreak_typeError hbreak

/-- Nor does making the copies say anything. -/
theorem not_toGuardView_breaks : ¬ ThrowsBreak (toGuardView challenge) := by
  have hviews : ∀ l : List JsValue, ¬ ThrowsBreak (guardViews l) := by
    intro l
    by_cases hread : ∀ a ∈ l, a.nullish = false
    · rw [guardViews_ok_iff.mpr ⟨rfl, hread⟩]
      exact not_throwsBreak_ok _
    · rw [guardViews_of_missing hread]
      exact not_throwsBreak_typeError
  rw [toGuardView, throwsBreak_bind, or_iff_right not_acceptsOf_breaks]
  rintro ⟨accepts, -, hbreak⟩
  rw [throwsBreak_bind, or_iff_right (hviews accepts)] at hbreak
  obtain ⟨views, -, hbreak⟩ := hbreak
  exact not_throwsBreak_ok _ hbreak

/-- Clearing an option is refused as the choice among the options is. -/
theorem clear_of_select (hoptions : acceptsOf challenge = .ok accepts)
    (hread : ∀ a ∈ accepts, a.nullish = false) :
    ThrowsBreak (clearOneOption config challenge maxAmount) ↔ ThrowsBreak
      (selectRequirements challenge maxAmount (some config.allowedAssets) config.caip2) := by
  obtain ⟨view, hview, hviews⟩ := toGuardView_of_readable hoptions hread
  -- The guards select among copies, and say of them what they would say of the options.
  have hcopies : selectRequirements view maxAmount (some config.allowedAssets) config.caip2 = _ :=
    select_copies hoptions hviews hread _ _
  cases hselect : selectRequirements challenge maxAmount (some config.allowedAssets)
      config.caip2 with
  | error e =>
      have hcleared : clearOneOption config challenge maxAmount = .error e := by
        rw [hselect] at hcopies
        rw [clearOneOption, hview]
        simp only [bind, Except.bind, hcopies, Except.map]
      rw [hcleared, throwsBreak_error_iff, throwsBreak_error_iff]
  | ok chosen =>
      -- What is selected has a price, so nothing after the selection fails.
      have hselects := (selectRequirements_ok_iff hoptions hread).mp hselect
      rw [hselect] at hcopies
      have hcleared := clearOneOption_of_selected hview hoptions hselects.cheapest.mem
        (priceOf_of_priced (hselects.priced _ hselects.cheapest.mem)) hcopies
      rw [hcleared]
      exact iff_of_false (not_throwsBreak_ok _) (not_throwsBreak_ok _)

/-- An option is cleared with a line break in the refusal exactly when the options
    of the challenge are refused with one. -/
theorem clear_breaks_iff : ThrowsBreak (clearOneOption config challenge maxAmount) ↔
    ∃ accepts, acceptsOf challenge = .ok accepts ∧ (∀ a ∈ accepts, a.nullish = false) ∧
      RefusalBreaks config maxAmount accepts := by
  constructor
  · intro h
    have hcopied := h
    rw [clearOneOption, throwsBreak_bind, or_iff_right not_toGuardView_breaks] at hcopied
    obtain ⟨view, hview, -⟩ := hcopied
    obtain ⟨accepts, hoptions, hview⟩ := bind_eq_ok.mp hview
    obtain ⟨views, hviews, -⟩ := bind_eq_ok.mp hview
    have hread := (guardViews_ok_iff.mp hviews).2
    rw [clear_of_select hoptions hread, select_breaks_iff hoptions hread] at h
    exact ⟨accepts, hoptions, hread, h⟩
  · rintro ⟨accepts, hoptions, hread, h⟩
    rw [clear_of_select hoptions hread, select_breaks_iff hoptions hread]
    exact h

end Cleared

end Payer

end VellarSdk
