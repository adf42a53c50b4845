import VellarSdk.Payer.OwnLines

/-!
# What the Server's Tools Let Through

Three promises about the replies of `x402_quote` and `x402_pay`, each of which
the code keeps on all but one kind of answer:

* A registered secret seed is in no reply and no log line. Redaction runs before
  control characters are stripped, so text that spells a seed with such
  characters in between passes it; and some strings of an answer are printed
  without redaction.
* Outside a fence, every line of a reply is one the server begins. Those strings
  are not sanitised either, and neither is the message of an error.
* A payment that settled is reported as one. Rendering the metadata throws on
  what is not a string, and the payment is then reported as not completed.

## Main definitions

* `Seller`: A seller of the sample runs.
* `ToolReply.ReportsSettlement`: The reply reports a settlement.

## Theorems

* `tools_hide_seed_iff`: When a reply hides a registered seed.
* `tools_own_lines_iff`: When every line outside a fence is the server's own.
* `pay_reports_settled_iff`: When a payment that settled is reported as one.
-/

namespace VellarSdk

namespace Payer

open Js X402 Async

section Samples

/-- The text of a challenge with this recipient and this metadata. -/
def offerText (payTo resource : JsString) : JsString :=
  js "\x7b\"x402Version\":2," ++ js "\"accepts\":[" ++ js "\x7b\"scheme\":\"exact\"," ++
    js "\"network\":" ++ js "\"stellar:testnet\"," ++ js "\"asset\":\"CUSDC\"," ++
    js "\"amount\":\"100\"," ++ js "\"payTo\":" ++ payTo ++ js ",\"extra\":\x7b" ++
    js "\"areFeesSponsored\"" ++ js ":true\x7d\x7d]," ++ js "\"resource\":" ++ resource ++ js "\x7d"

/-- The value it parses to. -/
def offerOf (payTo resource : JsValue) : JsValue :=
  .obj [(js "x402Version", .num 2), (js "accepts", .arr [.obj [(js "scheme", js "exact"),
    (js "network", js "stellar:testnet"), (js "asset", js "CUSDC"), (js "amount", js "100"),
    (js "payTo", payTo), (js "extra", .obj [(js "areFeesSponsored", .bool true)])]]),
    (js "resource", resource)]

/-- A seller: the text of its challenge, and the value it parses to. -/
structure Seller where
  text : JsString
  challenge : JsValue

/-- `JSON.parse` on the texts of this seller. -/
def Seller.parse (s : Seller) : JsonParse := fun text =>
  if text = s.text then .ok s.challenge
  else if text = sampleSettleText then .ok sampleSettle
  else .error "Unexpected token"

def Seller.deps (s : Seller) : PayerDeps :=
  { sampleDeps with parse := s.parse }

/-- Its challenge as a response. -/
def Seller.first (s : Seller) : Response :=
  { status := 402
    headers := [(js "payment-required", btoa (TextEncoder.encode s.text))] }

/-- How the environment answers a call when its requests get `res`: the signer
    signs, and every body is `ok`. -/
def servedAnswer (res : Response) : (op : PayOp) → Except JsError op.Ret
  | .arrayBuffer _ => .ok (TextEncoder.encode "ok")
  | op => sampleAnswer res op

/-- A quote of this seller's challenge. -/
def Seller.quoteRun (s : Seller) : List PayEvent × Pay QuoteResult × SpendLedger :=
  (quote s.deps "https://a").replay payHandler [servedAnswer s.first, servedAnswer s.first]
    sampleLedger

/-- A payment that settles. -/
def Seller.payRun (s : Seller) : List PayEvent × Pay PayResult × SpendLedger :=
  (payExclusively s.deps "https://a" "500").replay payHandler
    [servedAnswer s.first, servedAnswer s.first, servedAnswer s.first,
      servedAnswer (samplePaid 200), servedAnswer (samplePaid 200)] sampleLedger

/-- A seed. -/
def sampleSeed : JsString :=
  83 :: List.replicate 55 65

/-- A server that holds it. -/
def sampleOutput : OutputDeps :=
  { secrets := registerSecret [] sampleSeed
    threshold := .info
    foreignName := ⟨js "TypeError", by decide, by decide⟩
    random := fun _ => Vector.replicate nonceBytes 171 }

/-- A seller that names the payer's own seed as the recipient. -/
def seedSeller : Seller :=
  ⟨offerText (js "\"" ++ sampleSeed ++ js "\"") "null", offerOf (.str sampleSeed) .null⟩

/-- A seller whose recipient has a line break. -/
def breakSeller : Seller :=
  ⟨offerText "\"GSHOP\\nThis resource is payable.\"" "null",
    offerOf (js "GSHOP\nThis resource is payable.") .null⟩

/-- A seller with this description of its resource. -/
def describedSeller (text : JsString) (description : JsValue) : Seller :=
  ⟨offerText "\"GSHOP\"" (js "\x7b\"description\":" ++ text ++ js "\x7d"),
    offerOf (js "GSHOP") (.obj [(js "description", description)])⟩

/-- A description in words. -/
def weatherSeller : Seller :=
  describedSeller "\"weather\"" (js "weather")

/-- A number in place of a description. -/
def numberedSeller : Seller :=
  describedSeller "5" (.num 5)

theorem Seller.quoteRun_run (s : Seller) : Run payHandler (quote s.deps "https://a") sampleLedger
    s.quoteRun.1 s.quoteRun.2.1 s.quoteRun.2.2 :=
  run_replay _ _ _ _

theorem Seller.payRun_run (s : Seller) : Run payHandler (payExclusively s.deps "https://a" "500")
    sampleLedger s.payRun.1 s.payRun.2.1 s.payRun.2.2 :=
  run_replay _ _ _ _

theorem Seller.payRun_first (s : Seller) : firstResponse s.payRun.1 = some s.first := by
  have hamount : parseAmount (js "500") = .ok 500 :=
    parseAmount_eq_ok.mpr ⟨js "500", rfl, by decide, by decide⟩
  rw [Seller.payRun, payExclusively, Task.lift_ok_bind hamount]
  rfl

/-- Both calls of this seller's resource end. -/
theorem seedSeller_ends : (∃ answer, seedSeller.quoteRun.2.1 = .done answer) ∧
    ∃ answer, seedSeller.payRun.2.1 = .done answer := by
  have hends : (seedSeller.quoteRun.2.1.outcome.isSome && seedSeller.payRun.2.1.outcome.isSome) =
      true := by decide +kernel
  rw [Bool.and_eq_true, Option.isSome_iff_exists, Option.isSome_iff_exists] at hends
  rcases hends with ⟨⟨quoted, hquoted⟩, paid, hpaid⟩
  exact ⟨⟨quoted, Task.eq_done_of_outcome hquoted⟩, paid, Task.eq_done_of_outcome hpaid⟩

theorem sampleSeed_isSeed : isSeed sampleSeed = true := by
  decide

theorem sampleSeed_registered : sampleSeed ∈ sampleOutput.secrets :=
  mem_registerSecret (seed_ne_nil sampleSeed_isSeed) []

end Samples

/-- In every run, the reply and the log lines of either tool have a registered
    seed exactly when a string that is printed as it is has it, or sanitised text
    spells it once its control and format characters are deleted. -/
theorem tools_hide_seed_iff (d : PayerDeps) (o : OutputDeps) (l l' : SpendLedger)
    (seed url maxAmount : JsString) (tr : List PayEvent) (hseed : isSeed seed = true)
    (hmem : seed ∈ o.secrets) :
    (∀ answer, Run payHandler (quote d url) l tr (.done answer) l' →
      ((x402Quote o url answer).Hides seed ↔
        ¬ QuotePrints d l tr (fun v => seed <:+: v) (MetadataSpells o seed))) ∧
    (∀ answer, Run payHandler (payExclusively d url maxAmount) l tr (.done answer) l' →
      ((x402Pay o url answer).Hides seed ↔
        ¬ PayPrints d url maxAmount tr (fun v => seed <:+: v) (MetadataSpells o seed)
          (ContentSpells o seed))) := by
  -- Where there is no metadata, none is spelt out.
  have hnone : ¬ MetadataSpells o seed none := by
    rintro ⟨lines, hlines, hne, -⟩
    exact hne (Except.ok.inj hlines).symm
  constructor
  · intro answer hrun
    have hanswer := quote_answers hrun
    rw [quote_hides_iff hseed hmem, not_iff_not]
    cases answer with
    | error err => exact iff_of_false not_false (not_quotePrints hanswer)
    | ok result => exact quotePrints_iff hanswer (carried_seed hseed) hnone
  · intro answer hrun
    have hanswer := pay_answers hrun
    rw [pay_hides_iff hseed hmem, not_iff_not]
    cases answer with
    | error err => exact iff_of_false not_false (not_payPrints hanswer)
    | ok result => exact payPrints_iff hanswer (carried_seed hseed) hnone

/-- The seller that asks for the payer's seed, quoted and paid. -/
theorem tools_hide_seed_iff_sample :
    (∃ answer, seedSeller.quoteRun.2.1 = .done answer ∧
      ((x402Quote sampleOutput "https://a" answer).Hides sampleSeed ↔
        ¬ QuotePrints seedSeller.deps sampleLedger seedSeller.quoteRun.1
          (fun v => sampleSeed <:+: v) (MetadataSpells sampleOutput sampleSeed))) ∧
    ∃ answer, seedSeller.payRun.2.1 = .done answer ∧
      ((x402Pay sampleOutput "https://a" answer).Hides sampleSeed ↔
        ¬ PayPrints seedSeller.deps "https://a" "500" seedSeller.payRun.1
          (fun v => sampleSeed <:+: v) (MetadataSpells sampleOutput sampleSeed)
          (ContentSpells sampleOutput sampleSeed)) := by
  rcases seedSeller_ends with ⟨⟨quoted, hquoted⟩, paid, hpaid⟩
  have hquote := seedSeller.quoteRun_run
  have hpay := seedSeller.payRun_run
  rw [hquoted] at hquote
  rw [hpaid] at hpay
  refine ⟨⟨quoted, hquoted, ?_⟩, paid, hpaid, ?_⟩
  · exact (tools_hide_seed_iff _ _ _ _ _ _ "500" _ sampleSeed_isSeed sampleSeed_registered).1
      quoted hquote
  · exact (tools_hide_seed_iff _ _ _ _ _ _ _ _ sampleSeed_isSeed sampleSeed_registered).2
      paid hpay

/-- A quote that prints the payer's own seed, which the seller named as the
    recipient. -/
theorem quote_prints_seed : ¬ ∀ (d : PayerDeps) (o : OutputDeps) (l l' : SpendLedger)
    (seed url : JsString) (tr : List PayEvent) (answer : Except JsError QuoteResult),
    isSeed seed = true → seed ∈ o.secrets → Run payHandler (quote d url) l tr (.done answer) l' →
    (x402Quote o url answer).Hides seed := by
  intro hall
  have hcheck : seedSeller.quoteRun.2.1.outcome.map (fun answer =>
      decide (sampleSeed <:+: (x402Quote sampleOutput "https://a" answer).text)) = some true := by
    decide +kernel
  rcases Task.done_of_outcome_map hcheck with ⟨answer, hdone, hseed⟩
  have hrun := seedSeller.quoteRun_run
  rw [hdone] at hrun
  exact (hall _ sampleOutput _ _ sampleSeed _ _ answer sampleSeed_isSeed
    sampleSeed_registered hrun).1 (of_decide_eq_true hseed)

/-- In every run, the lines of either tool's reply outside a fence are the server's
    own exactly when no string that it prints as it is, or repeats in an error, has a
    line break. Which strings these are follows from the responses of the call, its
    arguments, and what the environment threw. The only secret that the payer registers
    is its own seed. -/
theorem tools_own_lines_iff (d : PayerDeps) (o : OutputDeps) (l l' : SpendLedger)
    (url maxAmount : JsString) (tr : List PayEvent)
    (hsecrets : ∀ secret ∈ o.secrets, isSeed secret = true) :
    (∀ answer, Run payHandler (quote d url) l tr (.done answer) l' →
      ((x402Quote o url answer).OwnLines ↔ ¬ QuoteFails d tr ∧ ¬ QuoteShows d l tr)) ∧
    (∀ answer, Run payHandler (payExclusively d url maxAmount) l tr (.done answer) l' →
      ((x402Pay o url answer).OwnLines ↔
        ¬ PayFails d url maxAmount l tr ∧ ¬ PayShows d url maxAmount tr)) :=
  ⟨fun _ hrun => quote_lines_iff hsecrets hrun, fun _ hrun => pay_lines_iff hsecrets hrun⟩

/-- The seller that asks for the payer's seed, whose replies are the server's own. -/
theorem tools_own_lines_iff_sample :
    (∃ answer, seedSeller.quoteRun.2.1 = .done answer ∧
      ((x402Quote sampleOutput "https://a" answer).OwnLines ↔
        ¬ QuoteFails seedSeller.deps seedSeller.quoteRun.1 ∧
          ¬ QuoteShows seedSeller.deps sampleLedger seedSeller.quoteRun.1)) ∧
    ∃ answer, seedSeller.payRun.2.1 = .done answer ∧
      ((x402Pay sampleOutput "https://a" answer).OwnLines ↔
        ¬ PayFails seedSeller.deps "https://a" "500" sampleLedger seedSeller.payRun.1 ∧
          ¬ PayShows seedSeller.deps "https://a" "500" seedSeller.payRun.1) := by
  rcases seedSeller_ends with ⟨⟨quoted, hquoted⟩, paid, hpaid⟩
  have hsecrets : ∀ secret ∈ sampleOutput.secrets, isSeed secret = true := by decide +kernel
  have hquote := seedSeller.quoteRun_run
  have hpay := seedSeller.payRun_run
  rw [hquoted] at hquote
  rw [hpaid] at hpay
  refine ⟨⟨quoted, hquoted, ?_⟩, paid, hpaid, ?_⟩
  · exact (tools_own_lines_iff _ _ _ _ _ "500" _ hsecrets).1 quoted hquote
  · exact (tools_own_lines_iff _ _ _ _ _ _ _ hsecrets).2 paid hpay

/-- A quote in which the recipient, as the seller named it, starts a line of its
    own. -/
theorem quote_line_forged : ¬ ∀ (d : PayerDeps) (o : OutputDeps) (l l' : SpendLedger)
    (url : JsString) (tr : List PayEvent) (answer : Except JsError QuoteResult),
    Run payHandler (quote d url) l tr (.done answer) l' → (x402Quote o url answer).OwnLines := by
  intro hall
  have hcheck : breakSeller.quoteRun.2.1.outcome.map (fun answer =>
      (x402Quote sampleOutput "https://a" answer).parts.any Part.isBroken) = some true := by
    decide +kernel
  rcases Task.done_of_outcome_map hcheck with ⟨answer, hdone, hbroken⟩
  have hrun := breakSeller.quoteRun_run
  rw [hdone] at hrun
  exact not_ownLines_of_isBroken hbroken (hall _ sampleOutput _ _ _ _ answer hrun)

section Reports

/-- The first line is what a text starts with. -/
theorem prefix_joinLines (line : JsString) (lines : List JsString) :
    line <+: joinLines (line :: lines) := by
  rcases lines with _ | ⟨next, lines⟩
  · rw [joinLines, List.intercalate_singleton]
  · rw [joinLines, List.intercalate_cons_cons]
    exact ⟨_, (List.append_assoc _ _ _).symm⟩

/-- The reply says that the payment settled, and in which transaction. -/
def ToolReply.ReportsSettlement (r : ToolReply) (hash : JsString) : Prop :=
  r.isError = false ∧ hash <:+: r.text ∧ ¬ js "Payment did not complete" <+: r.text

/-- A payment's own lines start with what was paid and in which transaction. -/
theorem paymentLines_settled {result : PayResult} {s : SettlementTexts} {parts : List Part}
    (hpaid : result.paid = true) (hs : settlementTexts result = .ok s)
    (h : paymentLines result = .ok parts) :
    ∃ behind rest, parts = say "Paid " behind :: say "Settlement transaction: " [(s.transaction, [])]
      :: rest := by
  rw [paymentLines, hpaid, hs] at h
  exact ⟨_, _, (Except.ok.inj h).symm⟩

/-- A rendered payment reports its settlement. -/
theorem reports_of_rendered {result : PayResult} {s : SettlementTexts} {parts rest : List Part}
    {logs : List JsString} (hpaid : result.paid = true) (hs : settlementTexts result = .ok s)
    (hhash : isTransactionHash s.transaction = true) (h : paymentLines result = .ok parts) :
    ToolReply.ReportsSettlement ⟨parts ++ rest, false, logs⟩ s.transaction := by
  rcases paymentLines_settled hpaid hs h with ⟨behind, more, rfl⟩
  rw [isTransactionHash, Bool.and_eq_true, beq_iff_eq, List.all_eq_true] at hhash
  refine ⟨rfl, ?_, ?_⟩
  · have hne : s.transaction ≠ [] := by
      intro hnil
      rw [hnil] at hhash
      exact absurd hhash.1 (by decide)
    have hnl : (10 : CodeUnit) ∉ s.transaction := by
      intro hmem
      exact absurd (hhash.2 10 hmem) (by decide)
    rw [ToolReply.text, joinLines, infix_intercalate_iff hnl hne]
    refine ⟨_, List.mem_map_of_mem (List.mem_append_left _ (List.mem_cons_of_mem _
      List.mem_cons_self)), ?_⟩
    exact ⟨js "Settlement transaction: ", [], by simp [say, Part.text, Template.text]⟩
  · intro hfailed
    have hpaidText : js "Paid " <+: ToolReply.text ⟨say "Paid " behind ::
        say "Settlement transaction: " [(s.transaction, [])] :: more ++ rest, false, logs⟩ :=
      List.IsPrefix.trans ⟨_, rfl⟩ (prefix_joinLines _ _)
    have hprefix := List.prefix_of_prefix_length_le hpaidText hfailed (by decide +kernel)
    exact absurd hprefix (by decide +kernel)

end Reports

/-- A payment that settled is reported as settled, with its transaction, exactly
    when the metadata of its challenge can be rendered. -/
theorem pay_reports_settled_iff (d : PayerDeps) (o : OutputDeps) (url maxAmount : JsString)
    (l l' : SpendLedger) (tr : List PayEvent) (result : PayResult) (first : Response)
    (challenge : JsValue)
    (hrun : Run payHandler (payExclusively d url maxAmount) l tr (.done (.ok result)) l')
    (hpaid : result.paid = true) (hfirst : firstResponse tr = some first)
    (hchallenge : challengeOf d.parse first = .ok challenge) :
    (∃ settlement hash, result.settlement = some settlement ∧
      settlement.transaction.toStr = .ok hash ∧ isTransactionHash hash = true ∧
      (x402Pay o url (.ok result)).ReportsSettlement hash) ↔ Renderable (resourceOf challenge) := by
  cases pay_answers hrun with
  | free _ _ _ _ _ _ hunpaid _ _ =>
      rw [hpaid] at hunpaid
      exact absurd hunpaid.symm Bool.false_ne_true
  | delivered first' res order bytes tx payer remaining settlement _ hfirst' hstatus hopened hread
      hclass _ hsettlement htransaction hasset hamount hnetwork hremaining hresource hcontent =>
      rw [hfirst, Option.some.injEq] at hfirst'
      subst hfirst'
      have horder : order.challenge = challenge :=
        Except.ok.inj (hopened.challenge.symm.trans hchallenge)
      rw [horder] at hresource
      rcases hopened.asset_str with ⟨asset, -, hasset'⟩
      rcases payValues_delivered hasset' hclass hpaid hsettlement htransaction hasset hamount
        hnetwork hremaining with ⟨hash, values, hhash, hhex, hvalues, -, -⟩
      rcases renderPayment_spec o result with
        ⟨hrender, values', said, fenced, content, -, hsaid, -, -, -, hrendered⟩ |
        ⟨hnot, err, hrendered, -⟩
      · rw [hresource] at hrender
        refine iff_of_true ⟨settlement, hash, hsettlement, by rw [htransaction, hhash], hhex, ?_⟩
          hrender
        -- What the reply says of the settlement is what the result says.
        have hs : settlementTexts result =
            .ok ⟨settlement.amount, asset, settlement.network, hash⟩ := by
          rw [settlementTexts, hsettlement]
          simp only [htransaction, hasset, hasset', hhash]
          rfl
        rw [x402Pay, hrendered, List.append_assoc]
        exact reports_of_rendered hpaid hs hhex hsaid
      · refine iff_of_false ?_ ?_
        · -- A reply that is an error reports nothing.
          rintro ⟨settlement', hash', -, -, -, hreport⟩
          have herror := hreport.1
          rw [x402Pay, hrendered] at herror
          exact absurd herror.symm Bool.false_ne_true
        · intro hrender
          rw [← hresource] at hrender
          exact hnot ⟨hrender, values, hvalues⟩

/-- The payment with this seller settled, and its reply is an error or is not. -/
def Seller.settles (s : Seller) (isError : Bool) : Bool :=
  match s.payRun.2.1.outcome with
  | some (.ok result) =>
      result.paid && (x402Pay sampleOutput "https://a" (.ok result)).isError == isError
  | _ => false

theorem Seller.settles_spec {s : Seller} {isError : Bool} (h : s.settles isError = true) :
    ∃ result challenge, Run payHandler (payExclusively s.deps "https://a" "500") sampleLedger
        s.payRun.1 (.done (.ok result)) s.payRun.2.2 ∧ result.paid = true ∧
      challengeOf s.deps.parse s.first = .ok challenge ∧
      (x402Pay sampleOutput "https://a" (.ok result)).isError = isError := by
  have hrun := s.payRun_run
  unfold Seller.settles at h
  split at h
  · next result hr =>
      rw [Bool.and_eq_true, beq_iff_eq] at h
      rw [Task.eq_done_of_outcome hr] at hrun
      -- What was paid for was opened by the challenge.
      cases pay_answers hrun with
      | free _ _ _ _ _ _ hunpaid _ _ =>
          rw [h.1] at hunpaid
          exact absurd hunpaid.symm Bool.false_ne_true
      | delivered first _ o _ _ _ _ _ _ hfirst _ hopened _ _ _ _ _ _ _ _ _ _ _ =>
          rw [s.payRun_first, Option.some.injEq] at hfirst
          rw [← hfirst] at hopened
          exact ⟨result, o.challenge, hrun, h.1, hopened.challenge, h.2⟩
  · exact absurd h Bool.false_ne_true

/-- A payment for a resource with a description is reported with its
    transaction. -/
theorem pay_reports_settled_iff_described : ∃ result settlement hash,
    Run payHandler (payExclusively weatherSeller.deps "https://a"
      "500") sampleLedger weatherSeller.payRun.1
      (.done (.ok result)) weatherSeller.payRun.2.2 ∧
    result.settlement = some settlement ∧ settlement.transaction.toStr = .ok hash ∧
    isTransactionHash hash = true ∧
    (x402Pay sampleOutput "https://a" (.ok result)).ReportsSettlement hash := by
  have hsettles : weatherSeller.settles false = true := by decide +kernel
  have hrender : (challengeOf weatherSeller.deps.parse weatherSeller.first).toOption.map (fun c =>
      (metadataLines sampleOutput (resourceOf c)).isOk) = some true := by decide +kernel
  rcases Seller.settles_spec hsettles with ⟨result, -, hrun, hpaid, -⟩
  rcases ok_of_toOption_map hrender with ⟨challenge, hchallenge, hrender⟩
  rcases (pay_reports_settled_iff _ sampleOutput _ _ _ _ _ result _ challenge hrun hpaid
    weatherSeller.payRun_first hchallenge).mpr ((metadataLines_isOk_iff _).mp hrender) with
    ⟨settlement, hash, hsettlement, hhash, hhex, hreport⟩
  exact ⟨result, settlement, hash, hrun, hsettlement, hhash, hhex, hreport⟩

/-- A payment that settled, reported as not completed because the description of
    the resource is a number. -/
theorem pay_settled_not_reported : ¬ ∀ (d : PayerDeps) (o : OutputDeps) (url maxAmount : JsString)
    (l l' : SpendLedger) (tr : List PayEvent) (result : PayResult) (first : Response)
    (challenge : JsValue),
    Run payHandler (payExclusively d url maxAmount) l tr (.done (.ok result)) l' →
    result.paid = true → firstResponse tr = some first →
    challengeOf d.parse first = .ok challenge →
    ∃ settlement hash, result.settlement = some settlement ∧
      settlement.transaction.toStr = .ok hash ∧ isTransactionHash hash = true ∧
      (x402Pay o url (.ok result)).ReportsSettlement hash := by
  intro hall
  have hsettles : numberedSeller.settles true = true := by decide +kernel
  rcases Seller.settles_spec hsettles with ⟨result, challenge, hrun, hpaid, hchallenge, herror⟩
  rcases hall _ sampleOutput _ _ _ _ _ result _ challenge hrun hpaid numberedSeller.payRun_first
    hchallenge with ⟨settlement, hash, -, -, -, hreport⟩
  rw [hreport.1] at herror
  exact absurd herror Bool.false_ne_true

end Payer

end VellarSdk
