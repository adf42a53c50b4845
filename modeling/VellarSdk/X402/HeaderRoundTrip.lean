import VellarSdk.Js.JsonRoundTrip
import VellarSdk.X402.HeaderText
import VellarSdk.X402.SettlementReading

/-!
# What the Seller Reads

The header of a payment, with its JSON read as well. In the payment that the client
sends the seller finds the option it had offered, field by field and in the order it
had written the fields in, beside the transaction that was signed for it.

The option goes through four texts on that way: the seller's JSON, its base64, the
client's JSON and its base64. What a text cannot hold is lost on the first of them, but
for a number that is too large to be finite, which is read as infinity and written as
`null`.

## Main definitions

* `parseJson`: `JSON.parse`, with the message of its error.

## Theorems

* `decodePaymentRequired_parsed`: What was decoded of a challenge is a value of JSON.
* `parse_paymentHeader`: A payment is read as what was written.
* `fetch_sends_payment`: A paid request comes after a payment that was built.
* `fetch_echoes_option`: The seller is sent what it offered.
-/

namespace VellarSdk

namespace X402

open Js Stellar Async

/-- `JSON.parse`, with the message of the `SyntaxError` it throws. -/
def parseJson (r : Rounding) (message : JsString → JsString) : JsonParse := fun text =>
  match jsonParse r text with
  | some v => .ok v
  | none => .error (message text)

theorem parseJson_eq_ok {r : Rounding} {message : JsString → JsString} {text : JsString}
    {v : JsValue} : parseJson r message text = .ok v ↔ jsonParse r text = some v := by
  unfold parseJson
  cases jsonParse r text with
  | some w => simp only [Except.ok.injEq, Option.some.injEq]
  | none => simp only [reduceCtorEq]

theorem parseHeader_of_text {parse : JsonParse} {header text : JsString} {v : JsValue}
    (htext : base64ToUtf8 header = .ok text) (hparse : parse text = .ok v) :
    parseHeader parse header = .ok v := by
  rw [parseHeader, htext]
  simp only [bind, Except.bind, hparse, Except.mapError]

/-- A header that was read is the JSON of its text. -/
theorem parseHeader_parsed {r : Rounding} {message : JsString → JsString} {header : JsString}
    {v : JsValue} (h : parseHeader (parseJson r message) header = .ok v) : Parsed r v := by
  obtain ⟨text, -, h⟩ := bind_eq_ok.mp h
  cases hparse : parseJson r message text with
  | error e =>
      rw [hparse] at h
      exact absurd h (by simp only [Except.mapError, reduceCtorEq, not_false_eq_true])
  | ok w =>
      rw [hparse] at h
      injection h with h
      exact jsonParse_spec (parseJson_eq_ok.mp (h ▸ hparse))

theorem decodePaymentRequired_parsed {r : Rounding} {message : JsString → JsString} {res : Response}
    {v : JsValue} (h : decodePaymentRequired (parseJson r message) res = .ok v) : Parsed r v := by
  unfold decodePaymentRequired at h
  split at h
  · next header =>
    split at h
    · next w hw =>
      injection h with h
      exact h ▸ parseHeader_parsed hw
    · exact absurd h (by simp only [throwNoUsablePaymentOption, reduceCtorEq, not_false_eq_true])
  · exact absurd h (by simp only [throwNoUsablePaymentOption, reduceCtorEq, not_false_eq_true])

theorem exact_two (r : Rounding) : r.Exact (2 : ℕ) := by
  have h := r.nearest_int 2 (by decide)
  exact h

/-- A payment is read as what was written of the requirements, with its
    transaction. -/
theorem parse_paymentHeader {r : Rounding} {message : JsString → JsString}
    {requirements echoed : JsValue} {transaction header : JsString}
    (hstorable : Storable r requirements) (hechoed : jsonView requirements = some echoed)
    (h : paymentHeader requirements transaction = .ok header) :
    parseHeader (parseJson r message) header = .ok (paymentPayload echoed transaction) := by
  obtain ⟨text, htext, -, hdecoded⟩ := paymentHeader_eq_ok h
  have hpayload : Storable r (paymentPayload requirements transaction) := by
    have henum : ∀ v w : JsValue, Enumerated [(js "x402Version", v), (js "accepted", requirements),
        (js "payload", w)] := by
      intro v w
      have hkeys : [js "x402Version", js "accepted", js "payload"].Pairwise Precedes := by
        decide +kernel
      exact hkeys
    refine .obj _ (henum _ _) ?_
    simp only [List.forall_mem_cons]
    refine ⟨.finite _ (exact_two r), hstorable, ?_, fun _ he => absurd he List.not_mem_nil⟩
    exact .obj _ (List.pairwise_singleton _ _) (List.forall_mem_singleton.mpr (.str transaction))
  have hview : jsonView (paymentPayload requirements transaction) =
      some (paymentPayload echoed transaction) := by
    simp only [paymentPayload, jsonView, viewFields, hechoed]
    rfl
  have hparse := jsonParse_stringify hpayload htext
  rw [hview] at hparse
  exact parseHeader_of_text hdecoded (parseJson_eq_ok.mpr hparse)

/-! ## Along a fetch -/

/-- A request that carries a payment: it was built for an option of the challenge. -/
def SentPayment (d : X402ClientDeps) (url : JsString) (init : X402FetchInit)
    (tr : List FetchEvent) (sent : RequestInit) : Prop :=
  ∃ first requirements building header amount, first.status = 402 ∧
    challengedFor d init.toX402PayOptions first = .ok requirements ∧
    Run buildHandler (buildSignedPayment d.toClientDeps requirements) () building
      (.done (.ok (header, amount))) () ∧
    tr = openedTrace url init first building ∧ sent = paidInit init header

theorem recordSpend_quiet (d : ClientDeps) (requirements : JsValue) (amount : Int) :
    (recordSpend d requirements amount).OnlyCalls
      (fun op => ∀ url sent, op ≠ .request url sent) := by
  unfold recordSpend
  by_cases htracked : (d.hasTracker && !d.budgetAttributes.isEmpty) = true
  swap
  · rw [if_neg htracked]
    trivial
  rw [if_pos htracked]
  refine onlyCalls_bind (ofBuild_quiet _) (fun request => ?_)
  cases matchingBudgetRule d.budgetAttributes request with
  | none => trivial
  | some rule =>
      by_cases hperiod : rule.1.periodMaxAmount.isSome = true
      · simp only [if_pos hperiod]
        exact onlyCalls_perform (fun _ _ => by simp only [ne_eq, reduceCtorEq, not_false_eq_true])
      · simp only [if_neg hperiod]
        trivial

/-- A fetch sends the request it was given, and another one only behind a payment that
    was built. -/
theorem fetch_sends_payment (d : X402ClientDeps) (url : JsString) (init : X402FetchInit) :
    Sat fetchHandler
      (fun tr _ op => ∀ url' sent, op = .request url' sent →
        (tr = [] ∧ sent = baseInit init) ∨ SentPayment d url init tr sent)
      (fun _ _ _ => True) (x402Fetch d url init) [] () := by
  -- Only a request says anything.
  have hquiet : ∀ (tr : List FetchEvent) (op : FetchOp), (∀ url' sent, op ≠ .request url' sent) →
      ∀ url' sent, op = .request url' sent →
        (tr = [] ∧ sent = baseInit init) ∨ SentPayment d url init tr sent :=
    fun _ _ hop url' sent heq => absurd heq (hop url' sent)
  unfold x402Fetch
  split
  · trivial
  refine (sat_await_bind rfl _).mpr ⟨?_, fun first => ?_, fun _ => trivial⟩
  · intro url' sent hop
    injection hop with _ hop
    exact .inl ⟨rfl, hop.symm⟩
  by_cases hstatus : first.status ≠ 402
  · rw [if_pos hstatus]
    trivial
  rw [if_neg hstatus]
  refine sat_lift_bind (fun requirements hchosen => ?_) (fun _ _ => trivial)
  refine (sat_bind _ _ _ _).mpr ?_
  -- While the payment is built nothing is requested.
  refine sat_ofBuild [⟨.request url (baseInit init), .ok first⟩] ?_ ?_
    (sat_of_runs (C := fun _ _ _ => True)
      (Q := fun tr _ r => Run buildHandler (buildSignedPayment d.toClientDeps requirements) () tr
        (.done r) ()) (fun _ _ _ _ _ => trivial) (fun _ _ _ hrun => hrun))
  · intro tr op _
    exact hquiet _ _ (by simp only [ne_eq, reduceCtorEq, not_false_eq_true, implies_true])
  · intro building r hbuild
    cases r with
    | error e => trivial
    | ok out =>
        rcases out with ⟨header, amount⟩
        refine (sat_await_bind rfl _).mpr ⟨?_, fun paid => ?_, fun _ => trivial⟩
        · intro url' sent hop
          injection hop with _ hop
          exact .inr ⟨first, requirements, building, header, amount, not_not.mp hstatus, hchosen,
            hbuild, rfl, hop.symm⟩
        -- What follows the paid request sends no other.
        by_cases hrefused : paid.status = 402 ∨ 400 ≤ paid.status
        · rw [if_pos hrefused]
          trivial
        rw [if_neg hrefused]
        refine (sat_bind _ _ _ _).mpr ?_
        refine (sat_of_onlyCalls (recordSpend_quiet _ _ _) _ _).imp ?_ (fun _ _ r _ => ?_)
        · exact fun tr _ op hop => hquiet tr op hop
        · cases r <;> trivial

/-- The client has built one transaction, and it is among the events of the fetch. -/
theorem mem_of_builtTransactions {tr : List BuildEvent} {built : BuiltTransaction}
    (h : builtTransactions tr = [built]) :
    ∃ args, (⟨.build args, .ok (some built)⟩ : BuildEvent) ∈ tr := by
  have hmem : built ∈ builtTransactions tr := h ▸ List.mem_singleton_self built
  unfold builtTransactions at hmem
  obtain ⟨⟨op, reply⟩, he, hsome⟩ := List.mem_filterMap.mp hmem
  cases op with
  | build args =>
      cases reply with
      | error e => exact absurd hsome (by simp only [reduceCtorEq, not_false_eq_true])
      | ok tx =>
          cases tx with
          | none => exact absurd hsome (by simp only [reduceCtorEq, not_false_eq_true])
          | some tx =>
              injection hsome with hsome
              exact ⟨args, hsome ▸ he⟩
  | _ => exact absurd hsome (by simp only [reduceCtorEq, not_false_eq_true])

/-- An option of a challenge that was decoded is a value of JSON. -/
theorem parsed_of_offered {r : Rounding} {decoded requirements : JsValue} {options : List JsValue}
    (h : Parsed r decoded) (haccepts : decoded.field "accepts" = .arr options)
    (hoffered : requirements ∈ options) : Parsed r requirements := by
  -- What was parsed has fields that were parsed, and so has a list of it.
  have hfield : Parsed r (.arr options) := by
    cases decoded with
    | obj fields =>
        obtain ⟨hjson, hstorable⟩ := h
        rw [JsValue.field] at haccepts
        cases hlookup : fields.lookup (js "accepts") with
        | none =>
            rw [hlookup] at haccepts
            exact absurd haccepts (by simp only [Option.getD_none, reduceCtorEq, not_false_eq_true])
        | some v =>
            rw [hlookup, Option.getD_some] at haccepts
            obtain ⟨before, after, rfl, -⟩ := List.lookup_eq_some_iff.mp hlookup
            have hmem : (js "accepts", v) ∈ before ++ (js "accepts", v) :: after :=
              List.mem_append_right _ List.mem_cons_self
            cases hjson with
            | obj _ hjson =>
                cases hstorable with
                | obj _ _ hstorable => exact haccepts ▸ ⟨hjson _ hmem, hstorable _ hmem⟩
    | _ => exact absurd haccepts (by simp only [JsValue.field, reduceCtorEq, not_false_eq_true])
  obtain ⟨hjson, hstorable⟩ := hfield
  cases hstorable with
  | arr _ hstorable => exact ⟨hjson.of_mem hoffered, hstorable _ hoffered⟩

/-- A value of JSON has a text. -/
theorem jsonView_of_isJson {v : JsValue} (h : IsJson v) : ∃ w, jsonView v = some w := by
  cases h with
  | num n => cases n <;> exact ⟨_, by rw [jsonView]⟩
  | _ => exact ⟨_, by rw [jsonView]⟩

/-- Wherever a fetch has sent a payment, the seller reads in its header the option of
    its own challenge that was chosen, as far as a text can hold it, and a transaction
    that was built for it. -/
theorem fetch_echoes_option (r : Rounding) (message : JsString → JsString) (d : X402ClientDeps)
    (hparse : d.parse = parseJson r message) (url : JsString) (init : X402FetchInit)
    (tr : List FetchEvent) (url' : JsString) (sent : RequestInit)
    (k : Except JsError Response → Fetch X402Response) (hpaid : tr ≠ [])
    (hrun : Run fetchHandler (x402Fetch d url init) () tr (.call (.request url' sent) k) ()) :
    ∃ first decoded options requirements echoed amount args built auth header,
      tr.head? = some ⟨.request url (baseInit init), .ok first⟩ ∧ first.status = 402 ∧
      ChosenFrom d init.toX402PayOptions first requirements decoded options amount ∧
      (⟨.client (.build args), .ok (some built)⟩ : FetchEvent) ∈ tr ∧
      sent = paidInit init header ∧
      parseHeader d.parse header = .ok (paymentPayload echoed (built.toXdr auth)) ∧
      jsonView requirements = some echoed ∧ (Lossless requirements → echoed = requirements) := by
  rcases (fetch_sends_payment d url init).at_call hrun url' sent rfl with ⟨hempty, -⟩ | hsent
  · exact absurd hempty hpaid
  obtain ⟨first, requirements, building, header, amount, hstatus, hchosen, hbuild, rfl, rfl⟩ :=
    hsent
  obtain ⟨decoded, options, amount', hfrom⟩ := challengedFor_spec hchosen
  obtain ⟨-, built, auth, hbuilt, hheader⟩ := buildSignedPayment_run hbuild
  obtain ⟨args, hargs⟩ := mem_of_builtTransactions hbuilt
  -- The option came out of a text, so it goes into one.
  have hdecoded := hfrom.decoded_eq
  rw [hparse] at hdecoded
  obtain ⟨hjson, hstorable⟩ := parsed_of_offered (decodePaymentRequired_parsed hdecoded)
    hfrom.accepts hfrom.offered
  obtain ⟨echoed, hechoed⟩ := jsonView_of_isJson hjson
  refine ⟨first, decoded, options, requirements, echoed, amount', args, built, auth, header, rfl,
    hstatus, hfrom, List.mem_cons_of_mem _ (List.mem_map_of_mem hargs), rfl, ?_, hechoed, ?_⟩
  · rw [hparse]
    exact parse_paymentHeader hstorable hechoed hheader
  · intro hlossless
    rw [jsonView_of_lossless _ hlossless, Option.some.injEq] at hechoed
    exact hechoed.symm

section Sample

/-- A wallet on the test network that reads JSON. -/
def readingDeps : X402ClientDeps :=
  { fetchDeps none with parse := parseJson exactRounding (fun _ => js "Unexpected token") }

/-- A fetch up to its paid request. -/
def readingRun :=
  (x402Fetch readingDeps "https://a" (fetchInit none)).replay fetchHandler
    (List.replicate 5 (fetchAnswer 0 fetchFirst)) ()

/-- Is this a request? -/
def FetchOp.requests : Option FetchOp → Bool
  | some (.request _ _) => true
  | _ => false

theorem fetch_echoes_option_sample : ∃ (tr : List FetchEvent) (sent : RequestInit),
    ∃ first decoded options requirements echoed amount args built auth header,
    tr.head? = some ⟨.request "https://a" (baseInit (fetchInit none)), .ok first⟩ ∧
    first.status = 402 ∧
    ChosenFrom readingDeps (fetchInit none).toX402PayOptions first requirements decoded options
      amount ∧
    (⟨.client (.build args), .ok (some built)⟩ : FetchEvent) ∈ tr ∧
    sent = paidInit (fetchInit none) header ∧
    parseHeader readingDeps.parse header = .ok (paymentPayload echoed (built.toXdr auth)) ∧
    jsonView requirements = some echoed ∧ (Lossless requirements → echoed = requirements) := by
  -- The run has come to the request with the payment.
  have hrequests : FetchOp.requests readingRun.2.1.pending = true := by decide +kernel
  have hpaid : readingRun.1.isEmpty = false := by decide +kernel
  cases hpending : readingRun.2.1.pending with
  | none =>
      rw [hpending] at hrequests
      exact absurd hrequests Bool.false_ne_true
  | some op =>
      rw [hpending] at hrequests
      cases op with
      | request url' sent =>
          obtain ⟨k, hrun⟩ := run_replay_call _ _ _ hpending
          have hne : readingRun.1 ≠ [] := List.isEmpty_eq_false_iff.mp hpaid
          exact ⟨_, sent, fetch_echoes_option exactRounding (fun _ => js "Unexpected token")
            readingDeps rfl "https://a" (fetchInit none) _ url' sent k hne hrun⟩
      | _ => exact absurd hrequests Bool.false_ne_true

end Sample

end X402

end VellarSdk
