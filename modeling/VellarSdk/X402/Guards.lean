import VellarSdk.X402.Types

/-!
# The Guard Layer

The pure decision layer of the payers: decode a 402 challenge, pick the one
option worth paying for, and read what a paid response says about the
settlement. Everything here is a function of what the server sent, and the
server is not trusted, so a decoded header is an arbitrary value.

`selectRequirements` filters the options by scheme and network, then by
sponsored fees, then by the allowlist, and takes the cheapest of what is left.
The option it returns is an element of the array it was given, with its
identity, because the payer looks it up again in another array.

`classifySettlement` sorts a paid response into the three states the payer
keeps apart. It agrees with `isRetryableSettleFailure` on which responses are
evidence that nothing was spent, which `classify_notSpent_iff` states: the
payer uses the one on error statuses and the other on success statuses.

## Main definitions

* `base64ToUtf8`, `decodePaymentRequired`, `decodeSettleResponseHeader`,
  `extractRejectionReason`: Header decoding.
* `parseAmount`: The strict amount parser.
* `selectRequirements`: The choice of an option.
* `SettlementOutcome`, `classifySettlement`, `isRetryableSettleFailure`: What
  is known about whether money moved.
* `Settled`, `NonSpendEvidence`: A confirmation, and evidence to the contrary.

## Theorems

* `parseAmount_eq_ok`: A parsed amount was digits only.
* `cheapest_spec`: The fold takes an option of minimal amount.
* `selectRequirements_spec`: What a selected option satisfies.
* `classify_notSpent_iff`: The two retry predicates agree.
* `not_settled_of_evidence`: And neither of them covers a confirmed settlement.
-/

namespace VellarSdk

namespace X402

open Js

/-- `base64ToUtf8`: `atob`, then the bytes read as UTF-8. -/
def base64ToUtf8 (b64 : JsString) : Except JsError JsString :=
  match atob b64 with
  | some bytes => .ok (TextDecoder.decode bytes)
  | none => .error ⟨.foreign, js "Invalid character"⟩

/-- `JSON.parse(base64ToUtf8(header))`. -/
def parseHeader (parse : JsonParse) (header : JsString) : Except JsError JsValue := do
  let text ← base64ToUtf8 header
  (parse text).mapError (fun message => ⟨.native .syntaxError, message⟩)

/-- A header that is set to something other than the empty string. -/
def present (header : Option JsString) : Option JsString :=
  header.filter (fun h => !h.isEmpty)

/-- Decode the payment requirements of a 402. -/
def decodePaymentRequired (parse : JsonParse) (res : Response) : Except JsError JsValue :=
  match present (res.header "PAYMENT-REQUIRED" <|> res.header "payment-required") with
  | some header => match parseHeader parse header with
    | .ok v => .ok v
    | .error err =>
        throwNoUsablePaymentOption (js "Malformed PAYMENT-REQUIRED header: " ++ err.message)
  | none => throwNoUsablePaymentOption "402 response carried no PAYMENT-REQUIRED header."

/-- A header that came from a text decodes to what the text denotes. -/
theorem decodePaymentRequired_of_text {parse : JsonParse} {status : Nat} {header text : JsString}
    {v : JsValue} (hheader : header.isEmpty = false) (htext : base64ToUtf8 header = .ok text)
    (hparse : parse text = .ok v) :
    decodePaymentRequired parse
      { status := status, headers := [(js "payment-required", header)] } = .ok v := by
  have hfound : ({ status := status, headers := [(js "payment-required", header)] } :
      Response).header "PAYMENT-REQUIRED" = some header := rfl
  have hpresent : present (some header) = some header := by
    rw [present, Option.filter_some, hheader]
    rfl
  have hread : parseHeader parse header = .ok v := by
    rw [parseHeader, htext]
    simp only [bind, Except.bind, hparse, Except.mapError]
  simp only [decodePaymentRequired, hfound, Option.orElse_eq_orElse, Option.orElse_some, hpresent,
    hread]

/-- The facilitator's rejection reason, when it echoed one. -/
def extractRejectionReason (parse : JsonParse) (res : Response) : JsValue :=
  match present (res.header "PAYMENT-REQUIRED" <|> res.header "payment-required") with
  | some header => match parseHeader parse header with
    | .ok v => v.optProp "error"
    | .error _ => .undefined
  | none => .undefined

/-- The facilitator's settle result as sent, or `undefined`. -/
def decodeSettleResponseHeader (parse : JsonParse) (res : Response) : JsValue :=
  match present (res.header "X-PAYMENT-RESPONSE" <|> res.header "PAYMENT-RESPONSE" <|>
      res.header "x-payment-response") with
  | some header => match parseHeader parse header with
    | .ok v => v
    | .error _ => .undefined
  | none => .undefined

/-- Parse a requirement's amount: a non-empty run of digits, nothing else. -/
def parseAmount (amount : JsValue) : Except JsError Int :=
  match amount with
  | .str s => if isDigits s then JsValue.stringToBigInt s else refuse
  | _ => refuse
where
  refuse : Except JsError Int := do
    let text ← amount.stringify
    throwInvalidRequirements (js "x402 requirement has a non-integer amount " ++
      text.getD "undefined" ++ js ".")

/-- `a.scheme === "exact" && a.network === ourCaip2`. -/
def isExactOn (ourCaip2 : JsString) (a : JsValue) : Except NativeError Bool := do
  let scheme ← a.prop "scheme"
  -- `&&` reads the network only once the scheme matched.
  if scheme.strictEq (js "exact") then
    let network ← a.prop "network"
    return network.strictEq ourCaip2
  else return false

/-- `a.extra?.areFeesSponsored === b`. -/
def declaresSponsorship (b : Bool) (a : JsValue) : Bool :=
  ((a.field "extra").optProp "areFeesSponsored").strictEq (.bool b)

/-- `allowedAssets.includes(a.asset)`. -/
def assetIn (allowedAssets : List JsString) (a : JsValue) : Bool :=
  allowedAssets.any (fun asset => (JsValue.str asset).strictEq (a.field "asset"))

/-- What the server offered, for the refusal message. -/
def describeOffered : List JsValue → Except NativeError (List JsString)
  | [] => .ok []
  | a :: rest => do
      let scheme ← (← a.prop "scheme").toStr
      let network ← (← a.prop "network").toStr
      return (scheme ++ js "/" ++ network) :: (← describeOffered rest)

/-- The fold of `reduce`: keep the cheaper option, the earlier one on a tie. -/
def cheapest (best : Ref JsValue) : List (Ref JsValue) → Except JsError (Ref JsValue)
  | [] => .ok best
  | a :: rest => do
      -- Both amounts are parsed at every step, so one bad amount among several throws.
      let pa ← parseAmount (a.1.field "amount")
      let pb ← parseAmount (best.1.field "amount")
      cheapest (if pa < pb then a else best) rest

/-- `decoded.accepts ?? []`, on which array methods are then called. -/
def acceptsOf (decoded : JsValue) : Except JsError (List JsValue) := do
  let accepts ← decoded.prop "accepts"
  match accepts.orElse (.arr []) with
  | .arr items => return items
  | _ => throwTypeError

/-- Why options on the right network were refused for their fees. -/
def unsponsoredMessage (onNetwork : List (Ref JsValue)) : JsString :=
  if onNetwork.any (fun a => declaresSponsorship false a.1) then
    js ("Payment option(s) do not sponsor fees (areFeesSponsored=false); " ++
      "the exact flow requires sponsored fees.")
  else js ("Payment option(s) did not declare areFeesSponsored=true; " ++
    "the exact flow requires explicitly sponsored fees.")

/-- The candidates the allowlist keeps, all of them where there is none. -/
def allowedAmong (allowedAssets : Option (List JsString)) (candidates : List (Ref JsValue)) :
    List (Ref JsValue) :=
  match allowedAssets with
  | some assets => candidates.filter (fun a => assetIn assets a.1)
  | none => candidates

/-- Pick the one payment option this client can satisfy. `allowedAssets` is
    `none` where the caller gave no allowlist. -/
def selectRequirements (decoded : JsValue) (maxAmount : Int)
    (allowedAssets : Option (List JsString)) (ourCaip2 : JsString) :
    Except JsError (Ref JsValue) := do
  let options ← acceptsOf decoded
  let onNetwork ← (filterE (fun a : Ref JsValue => isExactOn ourCaip2 a.1) options.zipIdx :
    Except NativeError _)
  -- The reasons are ranked: wrong network first, then fees, then asset, then price.
  if onNetwork.isEmpty then
    let offered ← describeOffered options
    throwNoUsablePaymentOption (js "No exact/" ++ ourCaip2 ++
      js " payment option offered. Server offered: " ++
      (if options.isEmpty then js "(none)" else (List.intersperse (js ", ") offered).flatten))
  else match onNetwork.filter (fun a => declaresSponsorship true a.1) with
  | [] => throwNoUsablePaymentOption (unsponsoredMessage onNetwork)
  | candidate :: candidates => match allowedAmong allowedAssets (candidate :: candidates) with
    | [] => throwDisallowedAsset (candidate.1.field "asset") (allowedAssets.getD [])
    | first :: rest => do
        let usable ← cheapest first rest
        let required ← parseAmount (usable.1.field "amount")
        if required > maxAmount then
          throwMaxAmountExceeded required maxAmount (usable.1.field "asset")
        else return usable

theorem parseAmount_eq_ok {v : JsValue} {n : Int} :
    parseAmount v = .ok n ↔ ∃ s, v = .str s ∧ isDigits s = true ∧ n = digitsToNat 10 s := by
  have hrefuse : ∀ v, parseAmount.refuse v ≠ .ok n := by
    intro v h
    rcases bind_eq_ok.mp h with ⟨text, -, htext⟩
    exact absurd htext (by simp only [throwInvalidRequirements, reduceCtorEq, not_false_eq_true])
  constructor
  · intro h
    cases v with
    | str s =>
        by_cases hd : isDigits s = true
        · simp only [parseAmount, if_pos hd, JsValue.stringToBigInt_of_isDigits hd] at h
          exact ⟨s, rfl, hd, (Except.ok.inj h).symm⟩
        · simp only [parseAmount, if_neg hd] at h
          exact absurd h (hrefuse _)
    | _ => exact absurd h (hrefuse _)
  · rintro ⟨s, rfl, hd, rfl⟩
    simp only [parseAmount, if_pos hd, JsValue.stringToBigInt_of_isDigits hd]
    rfl

/-- Parsed amounts are never negative. -/
theorem parseAmount_nonneg {v : JsValue} {n : Int} (h : parseAmount v = .ok n) : 0 ≤ n := by
  rcases parseAmount_eq_ok.mp h with ⟨s, -, -, rfl⟩
  exact Int.natCast_nonneg _

theorem isExactOn_eq_true {ourCaip2 : JsString} {a : JsValue} :
    isExactOn ourCaip2 a = .ok true ↔
      a.field "scheme" = .str (js "exact") ∧ a.field "network" = .str ourCaip2 := by
  cases hn : a.nullish with
  | true =>
      -- Nothing can be read from a missing element, and it has no fields.
      have hfield : ∀ name, a.field name = .undefined := by
        cases a <;> simp_all [JsValue.nullish, JsValue.field]
      simp only [isExactOn, JsValue.prop, hn, if_true, hfield, bind, Except.bind, reduceCtorEq,
        false_and]
  | false =>
      simp only [isExactOn, JsValue.prop, hn, Bool.false_eq_true, if_false, bind, Except.bind]
      by_cases hs : (a.field "scheme").strictEq (js "exact") = true
      · rw [if_pos hs]
        simp only [pure, Except.pure, Except.ok.injEq, JsValue.strictEq_iff_of_str] at hs ⊢
        simp only [hs, true_and]
      · rw [if_neg hs]
        simp only [JsValue.strictEq_iff_of_str] at hs
        simp only [pure, Except.pure, Except.ok.injEq, Bool.false_eq_true, hs, false_and]

/-- A non-empty list of options is the array itself. -/
theorem acceptsOf_eq_ok {decoded a : JsValue} {items : List JsValue}
    (h : acceptsOf decoded = .ok items) (ha : a ∈ items) :
    decoded.field "accepts" = .arr items := by
  rcases bind_eq_ok.mp h with ⟨accepts, haccepts, h⟩
  rcases JsValue.prop_eq_ok (liftM_eq_ok.mp haccepts) with ⟨-, rfl⟩
  by_cases hn : (decoded.field "accepts").nullish = true
  · rw [JsValue.orElse, if_pos hn] at h
    rw [← Except.ok.inj h] at ha
    exact absurd ha List.not_mem_nil
  · rw [JsValue.orElse, if_neg hn] at h
    split at h
    · next items' harr =>
        rw [harr, Except.ok.inj h]
    · exact absurd h (by simp only [throwTypeError, reduceCtorEq, not_false_eq_true])

/-- The options `selectRequirements` chooses among. -/
structure Eligible (allowedAssets : Option (List JsString)) (ourCaip2 : JsString) (a : JsValue) :
    Prop where
  scheme : a.field "scheme" = .str (js "exact")
  network : a.field "network" = .str ourCaip2
  sponsored : (a.field "extra").optProp "areFeesSponsored" = .bool true
  allowed : ∀ assets, allowedAssets = some assets → ∃ asset ∈ assets, a.field "asset" = .str asset

theorem Eligible.readable {allowedAssets : Option (List JsString)} {ourCaip2 : JsString}
    {a : JsValue} (h : Eligible allowedAssets ourCaip2 a) : a.nullish = false :=
  JsValue.nullish_of_field h.scheme (by simp only [ne_eq, reduceCtorEq, not_false_eq_true])

theorem assetIn_iff {assets : List JsString} {a : JsValue} :
    assetIn assets a = true ↔ ∃ asset ∈ assets, a.field "asset" = .str asset := by
  simp only [assetIn, List.any_eq_true]
  refine exists_congr (fun asset => and_congr_right (fun _ => ?_))
  constructor
  · exact fun h => (JsValue.eq_of_strictEq h).symm
  · intro h
    rw [h]
    exact (JsValue.strictEq_iff_of_str _ _).mpr rfl

theorem declaresSponsorship_iff {b : Bool} {a : JsValue} :
    declaresSponsorship b a = true ↔ (a.field "extra").optProp "areFeesSponsored" = .bool b :=
  JsValue.strictEq_iff_of_bool _ _

/-- The fold takes an option of minimal amount, and only succeeds where every
    amount parses. -/
theorem cheapest_spec {best e : Ref JsValue} {l : List (Ref JsValue)} {n : Int}
    (h : cheapest best l = .ok e) (hn : parseAmount (e.1.field "amount") = .ok n) :
    e ∈ best :: l ∧
      ∀ a ∈ best :: l, ∃ m, parseAmount (a.1.field "amount") = .ok m ∧ n ≤ m := by
  induction l generalizing best with
  | nil =>
      simp only [cheapest, Except.ok.injEq] at h
      subst h
      refine ⟨List.mem_singleton_self _, fun a ha => ?_⟩
      rw [List.mem_singleton.mp ha]
      exact ⟨n, hn, le_refl n⟩
  | cons x rest ih =>
      rcases bind_eq_ok.mp h with ⟨px, hpx, h⟩
      rcases bind_eq_ok.mp h with ⟨pb, hpb, h⟩
      -- The hypothesis is about the survivor of the first pair and the rest.
      rcases ih h with ⟨hmem, hall⟩
      rcases hall _ List.mem_cons_self with ⟨m, hm, hnm⟩
      -- The survivor of the pair has the smaller of the two amounts.
      have hmin : m ≤ px ∧ m ≤ pb := by
        by_cases hlt : px < pb
        · rw [if_pos hlt, hpx, Except.ok.injEq] at hm
          omega
        · rw [if_neg hlt, hpb, Except.ok.injEq] at hm
          omega
      refine ⟨?_, fun a ha => ?_⟩
      · rcases List.mem_cons.mp hmem with rfl | hmem
        · by_cases hlt : px < pb
          · rw [if_pos hlt]
            exact List.mem_cons_of_mem _ List.mem_cons_self
          · rw [if_neg hlt]
            exact List.mem_cons_self
        · exact List.mem_cons_of_mem _ (List.mem_cons_of_mem _ hmem)
      · rcases List.mem_cons.mp ha with rfl | ha
        · exact ⟨pb, hpb, by omega⟩
        · rcases List.mem_cons.mp ha with rfl | ha
          · exact ⟨px, hpx, by omega⟩
          · exact hall a (List.mem_cons_of_mem _ ha)

/-- The allowlist keeps the candidates whose asset it names. -/
theorem mem_allowedAmong {allowedAssets : Option (List JsString)} {l : List (Ref JsValue)}
    {a : Ref JsValue} : a ∈ allowedAmong allowedAssets l ↔ a ∈ l ∧ ∀ assets,
      allowedAssets = some assets → ∃ asset ∈ assets, a.1.field "asset" = .str asset := by
  cases allowedAssets with
  | none => simp only [allowedAmong, reduceCtorEq, false_implies, implies_true, and_true]
  | some assets =>
      simp only [allowedAmong, List.mem_filter, assetIn_iff, Option.some.injEq, forall_eq']

/-- What a selected option satisfies: it is one of the options offered, it
    passes every filter, its amount is digits within the maximum, and no
    eligible option is cheaper. -/
theorem selectRequirements_spec {decoded : JsValue} {maxAmount : Int}
    {allowedAssets : Option (List JsString)} {ourCaip2 : JsString} {e : Ref JsValue}
    (h : selectRequirements decoded maxAmount allowedAssets ourCaip2 = .ok e) :
    ∃ options n, acceptsOf decoded = .ok options ∧ e ∈ options.zipIdx ∧
      Eligible allowedAssets ourCaip2 e.1 ∧ parseAmount (e.1.field "amount") = .ok n ∧
      n ≤ maxAmount ∧ ∀ a ∈ options, Eligible allowedAssets ourCaip2 a →
        ∃ m, parseAmount (a.field "amount") = .ok m ∧ n ≤ m := by
  rcases bind_eq_ok.mp h with ⟨options, hoptions, h⟩
  rcases bind_eq_ok.mp h with ⟨onNetwork, hon, h⟩
  rcases filterE_eq_ok (liftM_eq_ok.mp hon) with ⟨-, hmemOn⟩
  by_cases hempty : onNetwork.isEmpty = true
  · rw [if_pos hempty] at h
    rcases bind_eq_ok.mp h with ⟨_, -, h⟩
    exact absurd h (by simp only [throwNoUsablePaymentOption, reduceCtorEq, not_false_eq_true])
  rw [if_neg hempty] at h
  cases hcand : onNetwork.filter (fun a => declaresSponsorship true a.1) with
  | nil =>
      rw [hcand] at h
      exact absurd h (by simp only [throwNoUsablePaymentOption, reduceCtorEq, not_false_eq_true])
  | cons candidate candidates =>
  rw [hcand] at h
  cases hallowed : allowedAmong allowedAssets (candidate :: candidates) with
  | nil =>
      simp only [hallowed] at h
      rcases bind_eq_ok.mp h with ⟨_, -, h⟩
      exact absurd h (by simp only [reduceCtorEq, not_false_eq_true])
  | cons first rest =>
  simp only [hallowed] at h
  rcases bind_eq_ok.mp h with ⟨usable, husable, h⟩
  rcases bind_eq_ok.mp h with ⟨n, hn, h⟩
  by_cases hmax : n > maxAmount
  · rw [if_pos hmax] at h
    rcases bind_eq_ok.mp h with ⟨_, -, h⟩
    exact absurd h (by simp only [reduceCtorEq, not_false_eq_true])
  rw [if_neg hmax] at h
  have huse : usable = e := Except.ok.inj h
  subst huse
  rcases cheapest_spec husable hn with ⟨hmem, hmin⟩
  -- The list the fold ran over holds exactly the eligible options.
  have hiff : ∀ a : Ref JsValue, a ∈ first :: rest ↔
      a ∈ options.zipIdx ∧ Eligible allowedAssets ourCaip2 a.1 := by
    intro a
    rw [← hallowed, mem_allowedAmong, ← hcand, List.mem_filter, hmemOn, isExactOn_eq_true,
      declaresSponsorship_iff]
    constructor
    · exact fun ⟨⟨⟨ho, hs, hw⟩, hf⟩, ha⟩ => ⟨ho, hs, hw, hf, ha⟩
    · exact fun ⟨ho, he⟩ => ⟨⟨⟨ho, he.scheme, he.network⟩, he.sponsored⟩, he.allowed⟩
  refine ⟨options, n, hoptions, ((hiff usable).mp hmem).1, ((hiff usable).mp hmem).2, hn,
    by omega, fun a ha he => ?_⟩
  -- An option is found under its position, where the fold saw it.
  rcases List.mem_iff_getElem?.mp ha with ⟨i, hi⟩
  exact hmin (a, i) ((hiff (a, i)).mpr ⟨(mem_zipIdx_iff options (a, i)).mpr hi, he⟩)

/-- What is known about whether money moved. -/
inductive SettlementOutcome where
  | settled (transaction payer : JsValue)
  | notSpent (reason : JsValue)
  | indeterminate (reason : JsString) (raw : JsValue)

/-- Was this a settle failure in which nothing was spent? -/
def isRetryableSettleFailure (settle : JsValue) : Bool :=
  settle.truthy && (settle.field "success").strictEq (.bool false) &&
    !(settle.field "transaction").truthy

/-- The regular expression `^[0-9a-f]{64}$` under the `i` flag. -/
def isTransactionHash (s : JsString) : Bool :=
  s.length == 64 && s.all isHexDigit

/-- Classify a paid response. The hash test converts to a string, so a
    transaction that cannot be converted makes it throw. -/
def classifySettlement (parse : JsonParse) (res : Response) :
    Except JsError SettlementOutcome := do
  let settle := decodeSettleResponseHeader parse res
  -- No header, an unreadable one and a falsy value are one case.
  if !settle.truthy then
    return .indeterminate "the response carried no settlement information" .undefined
  else if (settle.field "success").strictEq (.bool false) &&
      !(settle.field "transaction").truthy then
    return .notSpent ((settle.field "errorReason").orElse
      (js "the facilitator reported failure before submission"))
  else
  -- Only `undefined` and `null` become the empty string.
  let tx := (settle.field "transaction").orElse (.str [])
  let text ← tx.toStr
  if !isTransactionHash text then
    if tx.strictEq (.str []) then
      return .indeterminate "the settlement reported success but carried no transaction hash"
        .undefined
    else return .indeterminate "the settlement carried a malformed transaction hash" tx
  -- Failed, but with a hash: it was submitted, so it may have settled.
  else if (settle.field "success").strictEq (.bool false) then
    return .indeterminate (js "the facilitator reported failure after submitting " ++ text ++
      js " — fees were charged") tx
  else return .settled tx (settle.field "payer")

/-- The response confirms a settlement. -/
def Settled (parse : JsonParse) (res : Response) : Prop :=
  ∃ transaction payer, classifySettlement parse res = .ok (.settled transaction payer)

instance (parse : JsonParse) (res : Response) : Decidable (Settled parse res) :=
  match h : classifySettlement parse res with
  | .ok (.settled transaction payer) => .isTrue ⟨transaction, payer, h⟩
  | .ok (.notSpent _) | .ok (.indeterminate _ _) | .error _ => .isFalse (by
      rintro ⟨transaction, payer, hs⟩
      rw [h] at hs
      exact absurd hs (by simp only [Except.ok.injEq, reduceCtorEq, not_false_eq_true]))

/-- The response carries positive evidence that nothing was spent: a settle
    result that says `success: false` and names no transaction. -/
def NonSpendEvidence (parse : JsonParse) (res : Response) : Prop :=
  (decodeSettleResponseHeader parse res).truthy = true ∧
    (decodeSettleResponseHeader parse res).field "success" = .bool false ∧
    ((decodeSettleResponseHeader parse res).field "transaction").truthy = false

theorem isRetryable_iff (parse : JsonParse) (res : Response) :
    isRetryableSettleFailure (decodeSettleResponseHeader parse res) = true ↔
      NonSpendEvidence parse res := by
  simp only [isRetryableSettleFailure, NonSpendEvidence, Bool.and_eq_true, Bool.not_eq_true',
    JsValue.strictEq_iff_of_bool, and_assoc]

/-- The two retry predicates agree: a response is classified as not spent
    exactly when its settle result is a retryable failure. -/
theorem classify_notSpent_iff (parse : JsonParse) (res : Response) :
    (∃ reason, classifySettlement parse res = .ok (.notSpent reason)) ↔
      NonSpendEvidence parse res := by
  rw [← isRetryable_iff, classifySettlement, isRetryableSettleFailure]
  generalize decodeSettleResponseHeader parse res = settle
  by_cases htruthy : settle.truthy = true
  · simp only [htruthy, Bool.not_true, Bool.false_eq_true, if_false, Bool.true_and]
    by_cases hfail : ((settle.field "success").strictEq (.bool false) &&
        !(settle.field "transaction").truthy) = true
    · simp only [hfail, if_true, iff_true]
      exact ⟨_, rfl⟩
    · simp only [hfail, Bool.false_eq_true, if_false, iff_false, not_exists]
      intro reason h
      rcases bind_eq_ok.mp h with ⟨text, -, h⟩
      -- Past the failure test every branch returns another outcome.
      split at h
      · split at h <;>
          exact absurd h (by simp only [pure, Except.pure, Except.ok.injEq, reduceCtorEq,
            not_false_eq_true])
      · split at h <;>
          exact absurd h (by simp only [pure, Except.pure, Except.ok.injEq, reduceCtorEq,
            not_false_eq_true])
  · simp only [htruthy, Bool.not_false, if_true, Bool.false_and, Bool.false_eq_true, iff_false,
      not_exists]
    intro reason h
    exact absurd h (by simp only [pure, Except.pure, Except.ok.injEq, reduceCtorEq,
      not_false_eq_true])

/-- Evidence that nothing was spent is no confirmation. -/
theorem not_settled_of_evidence {parse : JsonParse} {res : Response}
    (h : NonSpendEvidence parse res) : ¬ Settled parse res := by
  rintro ⟨tx, payer, hsettled⟩
  rcases (classify_notSpent_iff parse res).mpr h with ⟨reason, hnot⟩
  rw [hnot] at hsettled
  exact absurd hsettled (by simp only [Except.ok.injEq, reduceCtorEq, not_false_eq_true])

end X402

end VellarSdk
