import VellarSdk.Payer.Guarantees
import VellarSdk.Payer.Output

/-!
# The Tools of the Payer's Server

What the handlers of `x402_quote` and `x402_pay` make of the payer's answer: the
text the model reads, a flag for errors, and the log lines. Rendering stands in
the same `try` block as the call of the payer, so an error it throws is
reported as if the call had failed.

A text is a list of parts joined by line breaks. A part is either said by the
server itself, as a template with values in it, or a fenced block.

## Main definitions

* `Part`, `ToolReply`: The parts of a text, and a handler's reply.
* `renderResourceMetadata`: The metadata of a challenge, fenced.
* `renderQuote`, `renderPayment`: The text of an answer.
* `x402Quote`, `x402Pay`: The handlers.
* `Carried`, `Says`: The values that plain lines carry.
* `Renderable`: The metadata that can be rendered.
* `quoteValues`, `payValues`: The strings of an answer that are printed as they
  are.

## Theorems

* `Says.carried`: What plain lines carry is what their values carry.
* `metadataLines_isOk_iff`: Metadata is rendered exactly when it is renderable.
* `renderQuote_spec`, `renderPayment_spec`: What a rendered text is made of.
-/

namespace VellarSdk

namespace Payer

open Js X402

/-- A part of a reply: said by the server, or fenced. -/
inductive Part where
  | said (line : Template CodeUnit)
  | fenced (block : JsString)

def Part.text : Part → JsString
  | .said line => line.text
  | .fenced block => block

/-- What a handler gives back, and what it logged. -/
structure ToolReply where
  parts : List Part
  isError : Bool
  logs : List JsString

/-- The text of a reply: `parts.join("\n")`. -/
def ToolReply.text (r : ToolReply) : JsString :=
  joinLines (r.parts.map Part.text)

/-- A line of the server's own. -/
def say (head : JsString) (rest : List (JsString × JsString)) : Part :=
  .said ⟨head, rest⟩

/-- One field of the metadata. What is no string has no `split`, and none of
    what JSON can hold has one of its own to call. -/
def metadataField (d : OutputDeps) (name : JsString) : JsValue → Except JsError (Option JsString)
  | .undefined => return none
  | .str s => return some (name ++ js ": " ++ sanitizeMetadata d s)
  | _ => throwTypeError

/-- `v?.length`. -/
def lengthOf : JsValue → JsValue
  | .str s => .num (.finite s.length)
  | .arr items => .num (.finite items.length)
  | .buffer bytes => .num (.finite bytes.length)
  | v => v.field "length"

/-- `tags.join(", ")`, which only arrays have. -/
def joinTags : JsValue → Except JsError JsString
  | .arr items => do
      let texts ← (items.mapM JsValue.itemToStr : Except NativeError (List JsString))
      return (js ", ").intercalate texts
  | .buffer bytes => return (js ", ").intercalate (bytes.map (fun b => natToString b.toNat))
  | _ => throwTypeError

/-- `resource.tags?.length ? field("tags", resource.tags.join(", ")) : undefined`. -/
def tagsField (d : OutputDeps) (tags : JsValue) : Except JsError (Option JsString) :=
  if (lengthOf tags).truthy then do metadataField d "tags" (.str (← joinTags tags))
  else return none

/-- The lines of the metadata. Each field is sanitised before it is joined to
    the others. -/
def metadataLines (d : OutputDeps) (resource : Option JsValue) : Except JsError (List JsString) :=
  match resource with
  | none => return []
  | some r =>
      if !r.truthy then return []
      else do
        let service ← metadataField d "service" (r.field "serviceName")
        let description ← metadataField d "description" (r.field "description")
        let mimeType ← metadataField d "mimeType" (r.field "mimeType")
        let url ← metadataField d "url" (r.field "url")
        let tags ← tagsField d (r.field "tags")
        return service.toList ++ description.toList ++ mimeType.toList ++ url.toList ++ tags.toList

/-- Render server-supplied metadata inside the untrusted-data delimiter. -/
def renderResourceMetadata (d : OutputDeps) (i : Nat) (resource : Option JsValue) :
    Except JsError (List Part) := do
  let lines ← metadataLines d resource
  if lines.isEmpty then return []
  else do return [.fenced (← renderUntrusted d i "resource metadata" (joinLines lines) ⟨false, none⟩)]

/-- The strings of an option as a quote prints them. -/
structure OptionTexts where
  amount : JsString
  asset : JsString
  network : JsString
  payTo : JsString

/-- The selected option, put into strings. -/
def selectedTexts (result : QuoteResult) : Except JsError (Option OptionTexts) :=
  match result.selected with
  | none => return none
  | some s => do
      let amount ← s.amount.toStr
      let asset ← s.asset.toStr
      let network ← s.network.toStr
      let payTo ← s.payTo.toStr
      return some ⟨amount, asset, network, payTo⟩

/-- The price of the option a quote would pay. -/
def selectedLine (s : OptionTexts) : Part :=
  say "Would pay: " [(s.amount, js " base units of asset "), (s.asset, js " on "),
    (s.network, js " to "), (s.payTo, js ".")]

/-- What is left of the session ceiling. -/
def remainingLine (remaining : JsString) : Part :=
  say "Session ceiling remaining for that asset: " [(remaining, js " base units.")]

/-- Why a resource is not payable. An empty reason is none. -/
def refusalLines (refusal : JsString) : List Part :=
  if refusal.isEmpty then [] else [say "Reason: " [(refusal, [])]]

/-- What a quote says of more than one option. -/
def offeredLines (offered : Nat) : List Part :=
  if offered > 1 then
    [say "The server offered " [(natToString offered,
      js " options; the cheapest allowed one is shown.")]]
  else []

/-- The lines of a quote in the server's own voice. -/
def quoteLines (result : QuoteResult) : Except JsError (List Part) :=
  if !result.requiresPayment then
    return [say "No payment required. The resource answered HTTP "
      [(natToString result.status, js " without an x402 challenge.")]]
  else do
    let selected ← selectedTexts result
    return [say "Payment required (HTTP " [(natToString result.status, js ").")]] ++
      selected.toList.map selectedLine ++ result.sessionRemaining.toList.map remainingLine ++
      [if result.payable then say "This resource is payable." []
        else say "This resource is NOT payable." []] ++
      result.refusal.toList.flatMap refusalLines ++
      offeredLines (result.offered.getD []).length ++
      [say "No payment was made and nothing was signed by this call." []]

def renderQuote (d : OutputDeps) (result : QuoteResult) : Except JsError (List Part) := do
  let parts ← quoteLines result
  let metadata ← renderResourceMetadata d 0 result.resource
  return parts ++ metadata

/-- The strings of a settlement as a payment prints them. -/
structure SettlementTexts where
  amount : JsString
  asset : JsString
  network : JsString
  transaction : JsString

/-- The settlement, put into strings. -/
def settlementTexts (result : PayResult) : Except JsError SettlementTexts :=
  match result.settlement with
  -- `settlement!` asserts what a paid result has; without it, reading it throws.
  | none => throwTypeError
  | some s => do
      let asset ← s.asset.toStr
      let transaction ← s.transaction.toStr
      return ⟨s.amount, asset, s.network, transaction⟩

/-- What a payment says of more than one attempt. -/
def attemptsLines (attempts : Nat) : List Part :=
  if attempts > 1 then
    [say "Took " [(natToString attempts,
      js (" signed attempts — earlier attempts returned no settlement " ++
        "transaction, which means nothing was spent on them."))]]
  else []

/-- The lines of a payment in the server's own voice, up to its content. -/
def paymentLines (result : PayResult) : Except JsError (List Part) :=
  if !result.paid then
    return [say "No payment was required. The resource answered HTTP "
      [(natToString result.status, js " directly, so nothing was spent.")]]
  else do
    let s ← settlementTexts result
    return [say "Paid " [(s.amount, js " base units of asset "), (s.asset, js " on "),
        (s.network, js ".")],
      say "Settlement transaction: " [(s.transaction, [])]] ++
      attemptsLines (result.attempts.getD 0) ++ result.sessionRemaining.toList.map remainingLine

/-- What is said of the content of a response: its size and its type. -/
def contentLine (d : OutputDeps) (c : ResourceContent) : Part :=
  let contentType := sanitizeMetadata d c.contentType
  if c.binaryOmitted.getD false then
    say "The resource returned " [(natToString c.bytes, js " bytes of "), (contentType,
      js ", which is not text and was not inlined. The payment above still settled.")]
  else say "Content (" [(contentType, js ", "), (natToString c.bytes,
    if c.truncated.getD false then js " bytes, truncated):" else js " bytes):")]

/-- The content of a response. Text follows in a fenced block. -/
def contentLines (d : OutputDeps) (c : ResourceContent) : Except JsError (List Part) :=
  if c.binaryOmitted.getD false then return [contentLine d c]
  else do
    let block ← renderUntrusted d 1 "resource content" (c.text.getD []) ⟨false, none⟩
    return [contentLine d c, .fenced block]

def renderPayment (d : OutputDeps) (result : PayResult) : Except JsError (List Part) := do
  let parts ← paymentLines result
  let metadata ← renderResourceMetadata d 0 result.resource
  let content ← contentLines d result.content
  return parts ++ metadata ++ content

/-- A reply to a call that failed. -/
def failed (d : OutputDeps) (url message head : JsString) (err : JsError) (logs : List JsString) :
    ToolReply :=
  { parts := [say head [(formatError d err, [])]]
    isError := true
    logs := logs ++ log d .warn message
      [(js "url", .str url), (js "error", .str (formatError d err))] }

/-- The handler of `x402_quote`, once the payer has answered. -/
def x402Quote (d : OutputDeps) (url : JsString) : Except JsError QuoteResult → ToolReply
  | .error err => failed d url "quote failed" "Quote failed: " err []
  | .ok result =>
      let logs := log d .info "quote" [(js "url", .str url),
        (js "requiresPayment", .bool result.requiresPayment), (js "payable", .bool result.payable)]
      match renderQuote d result with
      | .ok parts => { parts := parts, isError := false, logs := logs }
      | .error err => failed d url "quote failed" "Quote failed: " err logs

/-- The handler of `x402_pay`, once the payer has answered. -/
def x402Pay (d : OutputDeps) (url : JsString) : Except JsError PayResult → ToolReply
  | .error err => failed d url "payment refused or failed" "Payment did not complete: " err []
  | .ok result =>
      let logs := log d .info "payment" [(js "url", .str url), (js "paid", .bool result.paid),
        (js "attempts", (result.attempts.map (fun n => JsValue.num (.finite n))).getD .undefined),
        (js "transaction", (result.settlement.map Settlement.transaction).getD .undefined)]
      match renderPayment d result with
      | .ok parts => { parts := parts, isError := false, logs := logs }
      | .error err =>
          failed d url "payment refused or failed" "Payment did not complete: " err logs

/-- The strings of a quote that are printed as they are. -/
def quoteValues (result : QuoteResult) : Except JsError (List JsString) :=
  if !result.requiresPayment then return []
  else do
    let selected ← selectedTexts result
    return selected.toList.flatMap (fun s => [s.amount, s.asset, s.network, s.payTo]) ++
      result.sessionRemaining.toList ++ result.refusal.toList

/-- The strings of a payment that are printed as they are. -/
def payValues (result : PayResult) : Except JsError (List JsString) :=
  if !result.paid then return []
  else do
    let s ← settlementTexts result
    return [s.amount, s.asset, s.network, s.transaction] ++ result.sessionRemaining.toList

section Lines

/-- A line break: what the single-line collapse takes out, but for the tab. -/
def isLineBreak (u : CodeUnit) : Bool :=
  isNewlineOrTab u && u != 9

/-- The text has a line break. -/
def HasBreak (v : JsString) : Prop :=
  ∃ u ∈ v, isLineBreak u = true

/-- The values in a part's line. -/
def Part.values : Part → List JsString
  | .said line => line.values
  | .fenced _ => []

/-- Fixed text without line breaks, too short for a seed or without its first
    letter. -/
def isPlainText (f : JsString) : Bool :=
  (f.length < 56 || !f.contains 83) && !f.any isLineBreak

/-- A line whose fixed text is plain and keeps its values apart. The arguments
    are the text before the first value and the text behind each. -/
def isPlainLine (head : JsString) (behind : List JsString) : Bool :=
  (behind.isEmpty || endsOutside isBase32 head) && Template.keepsApart isBase32 behind &&
    (head :: behind).all isPlainText

/-- A part that the server says in plain lines. -/
def Part.isPlain : Part → Bool
  | .said line => isPlainLine line.head (line.rest.map Prod.snd)
  | .fenced _ => false

/-- A property that a text has only by a value in it: hexadecimal digits never
    have it, and a plain line has it exactly when one of its values has. -/
structure Carried (P : JsString → Prop) : Prop where
  hex : ∀ v : JsString, (∀ u ∈ v, isHexDigit u = true) → ¬ P v
  line : ∀ part : Part, part.isPlain = true → (P part.text ↔ ∃ v ∈ part.values, P v)

variable {seed : JsString}

/-- A plain line has a seed exactly when one of its values has. -/
theorem seed_said_iff (h : isSeed seed = true) {part : Part} (hplain : part.isPlain = true) :
    seed <:+: part.text ↔ ∃ v ∈ part.values, seed <:+: v := by
  cases part with
  | fenced block => exact absurd hplain Bool.false_ne_true
  | said line =>
      rw [Part.isPlain, isPlainLine, Bool.and_eq_true, Bool.and_eq_true, List.isEmpty_map] at hplain
      rcases hplain with ⟨hsep, hfixed⟩
      have hnone : ¬ ∃ f ∈ line.fixed, seed <:+: f := by
        rintro ⟨f, hf, hseed⟩
        have hf := List.all_eq_true.mp hfixed f hf
        rw [isPlainText, Bool.and_eq_true, Bool.or_eq_true, decide_eq_true_eq, Bool.not_eq_true',
          List.contains_eq_mem, decide_eq_false_iff_not] at hf
        exact no_seed_inside h hf.1 hseed
      have hsep' : line.separated isBase32 = true := by
        rw [Template.separated, hsep.1, hsep.2]
        rfl
      rw [Part.text, Template.infix_text (seed_base32 h) (seed_ne_nil h) hsep', Part.values]
      simp only [hnone, false_or]

/-- And a line break exactly when one of its values has. -/
theorem lineBreak_said_iff {part : Part} (hplain : part.isPlain = true) :
    HasBreak part.text ↔ ∃ v ∈ part.values, HasBreak v := by
  cases part with
  | fenced block => exact absurd hplain Bool.false_ne_true
  | said line =>
      rw [Part.isPlain, isPlainLine, Bool.and_eq_true] at hplain
      have hnone : ∀ f ∈ line.fixed, ∀ u ∈ f, isLineBreak u = false := by
        intro f hf u hu
        have hf := List.all_eq_true.mp hplain.2 f hf
        rw [isPlainText, Bool.and_eq_true, Bool.not_eq_true', List.any_eq_false] at hf
        exact Bool.eq_false_iff.mpr (hf.2 u hu)
      constructor
      · rintro ⟨u, hu, hbreak⟩
        rcases Template.mem_text.mp hu with ⟨f, hf, huf⟩ | ⟨v, hv, huv⟩
        · rw [hnone f hf u huf] at hbreak
          exact absurd hbreak Bool.false_ne_true
        · exact ⟨v, hv, u, huv, hbreak⟩
      · rintro ⟨v, hv, u, hu, hbreak⟩
        exact ⟨u, Template.mem_text.mpr (.inr ⟨v, hv, hu⟩), hbreak⟩

theorem carried_seed (h : isSeed seed = true) : Carried (fun v => seed <:+: v) := by
  refine ⟨fun v hv => no_seed_inside h (.inr ?_), fun part hplain => seed_said_iff h hplain⟩
  intro hmem
  exact absurd (hv 83 hmem) (by decide)

theorem carried_lineBreak : Carried HasBreak := by
  refine ⟨?_, fun part hplain => lineBreak_said_iff hplain⟩
  rintro v hv ⟨u, hu, hbreak⟩
  have hlow : ∀ u : CodeUnit, isHexDigit u = true → isNewlineOrTab u = false := by
    intro u hu
    simp only [isHexDigit, isDigit, Bool.or_eq_true, Bool.and_eq_true, decide_eq_true_eq,
      UInt16.le_iff_toNat_le, UInt16.reduceToNat] at hu
    simp only [isNewlineOrTab, Bool.or_eq_false_iff, beq_eq_false_iff_ne, ne_eq,
      ← UInt16.toNat_inj, UInt16.reduceToNat]
    omega
  rw [isLineBreak, hlow u (hv u hu)] at hbreak
  exact absurd hbreak Bool.false_ne_true

variable {P : JsString → Prop}

theorem Carried.nil (h : Carried P) : ¬ P [] :=
  h.hex [] (fun _ hu => absurd hu List.not_mem_nil)

/-- No number has such a property. -/
theorem Carried.nat (h : Carried P) (n : Nat) : ¬ P (natToString n) := by
  refine h.hex _ (fun u hu => ?_)
  rw [isHexDigit, isDigit_natToString n u hu]
  rfl

/-- Nor has a number with a sign, which is a line around its digits. -/
theorem Carried.int (h : Carried P) (n : Int) : ¬ P (intToString n) := by
  rw [intToString]
  split
  · have hline := h.line (say "-" [(natToString n.natAbs, [])])
      (show isPlainLine (js "-") [[]] = true by decide)
    have htext : (say "-" [(natToString n.natAbs, [])]).text = js "-" ++ natToString n.natAbs := by
      simp [say, Part.text, Template.text]
    intro hP
    rw [← htext, hline] at hP
    rcases hP with ⟨v, hv, hP⟩
    rw [List.mem_singleton.mp hv] at hP
    exact h.nat _ hP
  · exact h.nat _

end Lines

section Rendered

/-- Parts that are plain lines, with these strings for their values, up to
    numbers and empty strings. -/
structure Says (parts : List Part) (values : List JsString) : Prop where
  plain : ∀ part ∈ parts, part.isPlain = true
  values_iff : ∀ P : JsString → Prop, Carried P →
    ((∃ part ∈ parts, ∃ v ∈ part.values, P v) ↔ ∃ v ∈ values, P v)

theorem Says.nil : Says [] [] :=
  ⟨fun part hpart => absurd hpart List.not_mem_nil, fun P hP => by simp⟩

theorem Says.append {parts parts' : List Part} {values values' : List JsString}
    (h : Says parts values) (h' : Says parts' values') :
    Says (parts ++ parts') (values ++ values') := by
  constructor
  · intro part hpart
    rcases List.mem_append.mp hpart with hpart | hpart
    · exact h.plain part hpart
    · exact h'.plain part hpart
  · intro P hP
    simp only [List.mem_append, or_and_right, exists_or, h.values_iff P hP, h'.values_iff P hP]

/-- A plain line whose values are all printed as they are. -/
theorem Says.line {head : JsString} {rest : List (JsString × JsString)}
    (h : isPlainLine head (rest.map Prod.snd) = true) :
    Says [say head rest] (rest.map Prod.fst) := by
  constructor
  · intro part hpart
    rw [List.mem_singleton.mp hpart]
    exact h
  · intro P hP
    simp only [List.mem_singleton, exists_eq_left]
    rfl

/-- What the lines carry is what their values carry. -/
theorem Says.carried {parts : List Part} {values : List JsString} (h : Says parts values)
    {P : JsString → Prop} (hP : Carried P) :
    (∃ part ∈ parts, P part.text) ↔ ∃ v ∈ values, P v := by
  rw [← h.values_iff P hP]
  constructor
  · rintro ⟨part, hpart, htext⟩
    exact ⟨part, hpart, (hP.line part (h.plain part hpart)).mp htext⟩
  · rintro ⟨part, hpart, hvalue⟩
    exact ⟨part, hpart, (hP.line part (h.plain part hpart)).mpr hvalue⟩

/-- Numbers do not count among the values. -/
theorem Says.numbers {parts : List Part} {values values' : List JsString}
    (h : Says parts values) (n : Nat)
    (hvalues : ∀ v, v ∈ values ↔ v = natToString n ∨ v ∈ values') : Says parts values' := by
  refine ⟨h.plain, fun P hP => ?_⟩
  rw [h.values_iff P hP]
  simp only [hvalues, or_and_right, exists_or, exists_eq_left, hP.nat n, false_or]

/-- A plain line about a number. -/
theorem Says.number {head behind : JsString} (h : isPlainLine head [behind] = true) (n : Nat) :
    Says [say head [(natToString n, behind)]] [] := by
  have hline : Says [say head [(natToString n, behind)]] [natToString n] := Says.line h
  exact hline.numbers n (fun v => by simp)

/-- A plain line without values. -/
theorem Says.fixed {head : JsString} (h : isPlainLine head [] = true) : Says [say head []] [] :=
  Says.line h

/-- Lines for the values that are there. -/
theorem Says.option {value : Option JsString} {line : JsString → Part}
    (h : ∀ v, Says [line v] [v]) : Says (value.toList.map line) value.toList := by
  cases value with
  | none => exact Says.nil
  | some v => exact h v

theorem says_selectedLine (s : OptionTexts) :
    Says [selectedLine s] [s.amount, s.asset, s.network, s.payTo] :=
  Says.line (show isPlainLine (js "Would pay: ") [js " base units of asset ", js " on ", js " to ",
    js "."] = true by decide)

theorem says_remainingLine (remaining : JsString) : Says [remainingLine remaining] [remaining] :=
  Says.line (show isPlainLine (js "Session ceiling remaining for that asset: ")
    [js " base units."] = true by decide)

theorem says_refusalLines (refusal : JsString) : Says (refusalLines refusal) [refusal] := by
  rw [refusalLines]
  split
  · next hempty =>
      refine ⟨Says.nil.plain, fun P hP => ?_⟩
      rw [List.isEmpty_iff.mp hempty]
      simp [hP.nil]
  · exact Says.line (show isPlainLine (js "Reason: ") [[]] = true by decide)

theorem says_offeredLines (offered : Nat) : Says (offeredLines offered) [] := by
  rw [offeredLines]
  split
  · exact Says.number (by decide) offered
  · exact Says.nil

theorem says_attemptsLines (attempts : Nat) : Says (attemptsLines attempts) [] := by
  rw [attemptsLines]
  split
  · exact Says.number (by decide +kernel) attempts
  · exact Says.nil

/-- A quote's own lines print the strings of the quote. -/
theorem says_quoteLines {result : QuoteResult} {parts : List Part}
    (h : quoteLines result = .ok parts) :
    ∃ values, quoteValues result = .ok values ∧ Says parts values := by
  rw [quoteLines] at h
  rw [quoteValues]
  by_cases hpay : (!result.requiresPayment) = true
  · rw [if_pos hpay] at h ⊢
    rw [← Except.ok.inj h]
    exact ⟨[], rfl, Says.number (by decide) result.status⟩
  · rw [if_neg hpay] at h ⊢
    rcases bind_eq_ok.mp h with ⟨selected, hselected, h⟩
    rw [← Except.ok.inj h]
    refine ⟨_, bind_eq_ok.mpr ⟨selected, hselected, rfl⟩, ?_⟩
    -- Part by part: what each line says, and which values it takes from the result.
    have hstatus : Says [say "Payment required (HTTP " [(natToString result.status, js ").")]] [] :=
      Says.number (by decide) result.status
    have hselected : Says (selected.toList.map selectedLine)
        (selected.toList.flatMap (fun s => [s.amount, s.asset, s.network, s.payTo])) := by
      cases selected with
      | none => exact Says.nil
      | some s => exact says_selectedLine s
    have hremaining : Says (result.sessionRemaining.toList.map remainingLine)
        result.sessionRemaining.toList := Says.option says_remainingLine
    have hverdict : Says [if result.payable then say "This resource is payable." []
        else say "This resource is NOT payable." []] [] := by
      split
      · exact Says.fixed (by decide)
      · exact Says.fixed (by decide)
    have hrefusal : Says (result.refusal.toList.flatMap refusalLines) result.refusal.toList := by
      cases result.refusal with
      | none => exact Says.nil
      | some r =>
          rw [Option.toList_some, List.flatMap_singleton]
          exact says_refusalLines r
    have hlast : Says [say "No payment was made and nothing was signed by this call." []] [] :=
      Says.fixed (by decide)
    have hall := (((((hstatus.append hselected).append hremaining).append hverdict).append
      hrefusal).append (says_offeredLines (result.offered.getD []).length)).append hlast
    simpa only [List.nil_append, List.append_nil] using hall

/-- A payment's own lines print the strings of its settlement. -/
theorem says_paymentLines {result : PayResult} {parts : List Part}
    (h : paymentLines result = .ok parts) :
    ∃ values, payValues result = .ok values ∧ Says parts values := by
  rw [paymentLines] at h
  rw [payValues]
  by_cases hpaid : (!result.paid) = true
  · rw [if_pos hpaid] at h ⊢
    rw [← Except.ok.inj h]
    exact ⟨[], rfl, Says.number (by decide) result.status⟩
  · rw [if_neg hpaid] at h ⊢
    rcases bind_eq_ok.mp h with ⟨s, hs, h⟩
    rw [← Except.ok.inj h]
    refine ⟨_, bind_eq_ok.mpr ⟨s, hs, rfl⟩, ?_⟩
    -- Part by part, as for a quote.
    have hpaidLine : Says [say "Paid " [(s.amount, js " base units of asset "), (s.asset, js " on "),
        (s.network, js ".")]] [s.amount, s.asset, s.network] :=
      Says.line (show isPlainLine (js "Paid ") [js " base units of asset ", js " on ", js "."] = true
        by decide)
    have htransaction : Says [say "Settlement transaction: " [(s.transaction, [])]]
        [s.transaction] :=
      Says.line (show isPlainLine (js "Settlement transaction: ") [[]] = true by decide)
    have hremaining : Says (result.sessionRemaining.toList.map remainingLine)
        result.sessionRemaining.toList := Says.option says_remainingLine
    have hall := ((hpaidLine.append htransaction).append
      (says_attemptsLines (result.attempts.getD 0))).append hremaining
    simpa only [List.append_nil, List.cons_append, List.nil_append] using hall

theorem quoteLines_of_values {result : QuoteResult} {values : List JsString}
    (h : quoteValues result = .ok values) : ∃ parts, quoteLines result = .ok parts := by
  rw [quoteValues] at h
  rw [quoteLines]
  by_cases hpay : (!result.requiresPayment) = true
  · rw [if_pos hpay]
    exact ⟨_, rfl⟩
  · rw [if_neg hpay] at h ⊢
    rcases bind_eq_ok.mp h with ⟨selected, hselected, -⟩
    exact ⟨_, bind_eq_ok.mpr ⟨selected, hselected, rfl⟩⟩

theorem paymentLines_of_values {result : PayResult} {values : List JsString}
    (h : payValues result = .ok values) : ∃ parts, paymentLines result = .ok parts := by
  rw [payValues] at h
  rw [paymentLines]
  by_cases hpaid : (!result.paid) = true
  · rw [if_pos hpaid]
    exact ⟨_, rfl⟩
  · rw [if_neg hpaid] at h ⊢
    rcases bind_eq_ok.mp h with ⟨s, hs, -⟩
    exact ⟨_, bind_eq_ok.mpr ⟨s, hs, rfl⟩⟩

end Rendered

section Metadata

/-- A metadata field that can be rendered: absent, or a string. -/
def IsText (v : JsValue) : Prop :=
  v = .undefined ∨ ∃ s, v = .str s

/-- Tags that can be rendered: none, or an array whose items all convert to
    strings. -/
def IsTags (v : JsValue) : Prop :=
  (lengthOf v).truthy = false ∨ (∃ items, v = .arr items ∧
    ∀ item ∈ items, item.itemToStr.isOk = true) ∨ ∃ bytes, v = .buffer bytes

/-- Metadata that can be rendered. -/
def Renderable (resource : Option JsValue) : Prop :=
  ∀ r, resource = some r → r.truthy = true →
    (∀ name ∈ [js "serviceName", js "description", js "mimeType", js "url"],
      IsText (r.field name)) ∧ IsTags (r.field "tags")

variable {d : OutputDeps}

theorem metadataField_isOk_iff (name : JsString) (v : JsValue) :
    (metadataField d name v).isOk = true ↔ IsText v := by
  cases v with
  | undefined => exact iff_of_true rfl (.inl rfl)
  | str s => exact iff_of_true rfl (.inr ⟨s, rfl⟩)
  | _ =>
      refine iff_of_false Bool.false_ne_true ?_
      rintro (h | ⟨s, h⟩)
      · exact absurd h (by simp only [reduceCtorEq, not_false_eq_true])
      · exact absurd h (by simp only [reduceCtorEq, not_false_eq_true])

theorem joinTags_isOk_iff (v : JsValue) : (joinTags v).isOk = true ↔
    (∃ items, v = .arr items ∧ ∀ item ∈ items, item.itemToStr.isOk = true) ∨
      ∃ bytes, v = .buffer bytes := by
  cases v with
  | arr items =>
      have hmap : (joinTags (.arr items)).isOk = true ↔
          (items.mapM JsValue.itemToStr).isOk = true := by
        rw [isOk_iff, isOk_iff]
        constructor
        · rintro ⟨text, h⟩
          rcases bind_eq_ok.mp h with ⟨texts, htexts, -⟩
          exact ⟨texts, liftM_eq_ok.mp htexts⟩
        · rintro ⟨texts, htexts⟩
          exact ⟨_, bind_eq_ok.mpr ⟨texts, liftM_eq_ok.mpr htexts, rfl⟩⟩
      rw [hmap, mapM_isOk_iff]
      simp only [JsValue.arr.injEq, exists_eq_left', reduceCtorEq, exists_false, or_false]
  | buffer bytes => exact iff_of_true rfl (.inr ⟨bytes, rfl⟩)
  | _ =>
      refine iff_of_false Bool.false_ne_true ?_
      rintro (⟨items, h, -⟩ | ⟨bytes, h⟩)
      · exact absurd h (by simp only [reduceCtorEq, not_false_eq_true])
      · exact absurd h (by simp only [reduceCtorEq, not_false_eq_true])

theorem tagsField_isOk_iff (v : JsValue) : (tagsField d v).isOk = true ↔ IsTags v := by
  rw [tagsField, IsTags, ← joinTags_isOk_iff]
  by_cases hlength : (lengthOf v).truthy = true
  · rw [if_pos hlength, hlength, isOk_iff, isOk_iff]
    constructor
    · rintro ⟨o, h⟩
      rcases bind_eq_ok.mp h with ⟨text, htext, -⟩
      exact .inr ⟨text, htext⟩
    · rintro (h | ⟨text, htext⟩)
      · exact absurd h.symm Bool.false_ne_true
      · exact ⟨_, bind_eq_ok.mpr ⟨text, htext, rfl⟩⟩
  · rw [if_neg hlength]
    exact iff_of_true rfl (.inl (Bool.eq_false_iff.mpr hlength))

/-- Metadata is rendered exactly when each of its fields can be. -/
theorem metadataLines_isOk_iff (resource : Option JsValue) :
    (metadataLines d resource).isOk = true ↔ Renderable resource := by
  cases resource with
  | none => exact iff_of_true rfl (fun r h => absurd h (by simp only [reduceCtorEq, not_false_eq_true]))
  | some r =>
      by_cases hr : r.truthy = true
      · -- There is only one resource to speak of.
        have hfields : Renderable (some r) ↔ (∀ name ∈ [js "serviceName", js "description",
            js "mimeType", js "url"], IsText (r.field name)) ∧ IsTags (r.field "tags") := by
          constructor
          · exact fun h => h r rfl hr
          · intro h r' hr' _
            rw [← Option.some.inj hr']
            exact h
        rw [hfields, isOk_iff, metadataLines]
        simp only [hr, Bool.not_true, Bool.false_eq_true, if_false]
        constructor
        · rintro ⟨lines, h⟩
          -- The fields are rendered one after the other, and the first that cannot be ends it.
          rcases bind_eq_ok.mp h with ⟨service, hservice, h⟩
          rcases bind_eq_ok.mp h with ⟨description, hdescription, h⟩
          rcases bind_eq_ok.mp h with ⟨mimeType, hmimeType, h⟩
          rcases bind_eq_ok.mp h with ⟨url, hurl, h⟩
          rcases bind_eq_ok.mp h with ⟨tags, htags, -⟩
          have htext : ∀ name v o, metadataField d name v = .ok o → IsText v :=
            fun name v o ho => (metadataField_isOk_iff name v).mp (isOk_iff.mpr ⟨o, ho⟩)
          refine ⟨?_, (tagsField_isOk_iff _).mp (isOk_iff.mpr ⟨tags, htags⟩)⟩
          simp only [List.forall_mem_cons, List.not_mem_nil, false_imp_iff, implies_true, and_true]
          exact ⟨htext _ _ _ hservice, htext _ _ _ hdescription, htext _ _ _ hmimeType,
            htext _ _ _ hurl⟩
        · rintro ⟨htexts, htags⟩
          simp only [List.forall_mem_cons, List.not_mem_nil, false_imp_iff, implies_true,
            and_true] at htexts
          rcases htexts with ⟨hservice, hdescription, hmimeType, hurl⟩
          have hfield : ∀ name v, IsText v → ∃ o, metadataField d name v = .ok o :=
            fun name v hv => isOk_iff.mp ((metadataField_isOk_iff name v).mpr hv)
          rcases hfield (js "service") _ hservice with ⟨service, hservice⟩
          rcases hfield (js "description") _ hdescription with ⟨description, hdescription⟩
          rcases hfield (js "mimeType") _ hmimeType with ⟨mimeType, hmimeType⟩
          rcases hfield (js "url") _ hurl with ⟨url, hurl⟩
          rcases isOk_iff.mp ((tagsField_isOk_iff (d := d) _).mpr htags) with ⟨tags, htags⟩
          exact ⟨_, bind_eq_ok.mpr ⟨service, hservice, bind_eq_ok.mpr ⟨description, hdescription,
            bind_eq_ok.mpr ⟨mimeType, hmimeType, bind_eq_ok.mpr ⟨url, hurl,
              bind_eq_ok.mpr ⟨tags, htags, rfl⟩⟩⟩⟩⟩⟩
      · rw [metadataLines]
        simp only [hr, Bool.not_false, if_true]
        exact iff_of_true rfl (fun r' h htruthy => absurd htruthy (Option.some.inj h ▸ hr))

end Metadata

section Fenced

variable {d : OutputDeps}

theorem renderUntrusted_ok (d : OutputDeps) (i : Nat) (label text : JsString)
    (opts : SanitizeOptions) : ∃ block, renderUntrusted d i label text opts = .ok block :=
  ⟨_, rfl⟩

/-- Rendered metadata is a fenced block around its lines, if there are any. -/
theorem renderResourceMetadata_eq_ok {i : Nat} {resource : Option JsValue} {parts : List Part} :
    renderResourceMetadata d i resource = .ok parts ↔
      ∃ lines, metadataLines d resource = .ok lines ∧
        (lines = [] ∧ parts = [] ∨ lines ≠ [] ∧ ∃ block, parts = [.fenced block] ∧
          renderUntrusted d i "resource metadata" (joinLines lines) ⟨false, none⟩ = .ok block) := by
  rw [renderResourceMetadata, bind_eq_ok]
  refine exists_congr (fun lines => and_congr_right (fun _ => ?_))
  rcases lines with _ | ⟨line, lines⟩
  · simp only [List.isEmpty_nil, if_true, ne_eq, not_true_eq_false, false_and, or_false, true_and]
    exact ⟨fun h => (Except.ok.inj h).symm, fun h => h ▸ rfl⟩
  · simp only [List.isEmpty_cons, Bool.false_eq_true, if_false, reduceCtorEq, false_and, false_or,
      ne_eq, not_false_eq_true, true_and]
    rw [bind_eq_ok]
    constructor
    · rintro ⟨block, hblock, h⟩
      exact ⟨block, (Except.ok.inj h).symm, hblock⟩
    · rintro ⟨block, rfl, hblock⟩
      exact ⟨block, hblock, rfl⟩

/-- The line about the content is plain and prints its sanitised type. -/
theorem says_contentLine (d : OutputDeps) (c : ResourceContent) :
    Says [contentLine d c] [sanitizeMetadata d c.contentType] := by
  by_cases hbinary : c.binaryOmitted.getD false = true
  · have hlines : Says [say "The resource returned " [(natToString c.bytes, js " bytes of "),
        (sanitizeMetadata d c.contentType,
          js ", which is not text and was not inlined. The payment above still settled.")]]
        [natToString c.bytes, sanitizeMetadata d c.contentType] :=
      Says.line (show isPlainLine (js "The resource returned ") [js " bytes of ",
        js ", which is not text and was not inlined. The payment above still settled."] = true
        by decide)
    rw [contentLine, if_pos hbinary]
    exact hlines.numbers c.bytes (fun v => by simp)
  · have hplain : isPlainLine (js "Content (") [js ", ",
        if c.truncated.getD false then js " bytes, truncated):" else js " bytes):"] = true := by
      split
      · decide
      · decide
    have hlines : Says [say "Content (" [(sanitizeMetadata d c.contentType, js ", "),
        (natToString c.bytes,
          if c.truncated.getD false then js " bytes, truncated):" else js " bytes):")]]
        [sanitizeMetadata d c.contentType, natToString c.bytes] := Says.line hplain
    rw [contentLine, if_neg hbinary]
    exact hlines.numbers c.bytes (fun v => by simp [or_comm])

/-- The content is always rendered: its line, and a fenced block unless it was
    left out. -/
theorem contentLines_eq (d : OutputDeps) (c : ResourceContent) :
    ∃ rest, contentLines d c = .ok (contentLine d c :: rest) ∧
      (c.binaryOmitted.getD false = true ∧ rest = [] ∨
        c.binaryOmitted.getD false = false ∧ ∃ block, rest = [.fenced block] ∧
          renderUntrusted d 1 "resource content" (c.text.getD []) ⟨false, none⟩ = .ok block) := by
  by_cases hbinary : c.binaryOmitted.getD false = true
  · exact ⟨[], if_pos hbinary, .inl ⟨hbinary, rfl⟩⟩
  · rcases renderUntrusted_ok d 1 "resource content" (c.text.getD []) ⟨false, none⟩ with
      ⟨block, hblock⟩
    refine ⟨[.fenced block], ?_, .inr ⟨Bool.eq_false_iff.mpr hbinary, block, rfl, hblock⟩⟩
    rw [contentLines, if_neg hbinary, hblock]
    rfl

end Fenced

section Outcomes

/-- An error it throws, if any, has no text: it is one of the language's own. -/
def Quiet {α : Type} (x : Except JsError α) : Prop :=
  ∀ err, x = .error err → err.message = []

theorem Quiet.ok {α : Type} (a : α) : Quiet (Except.ok a) :=
  fun _ h => absurd h (by simp only [reduceCtorEq, not_false_eq_true])

theorem Quiet.typeError {α : Type} : Quiet (throwTypeError : Except JsError α) :=
  fun _ h => (Except.error.inj h) ▸ rfl

theorem Quiet.lift {α : Type} (x : Except NativeError α) : Quiet (liftM x : Except JsError α) := by
  cases x with
  | ok a => exact Quiet.ok a
  | error e => exact fun _ h => (Except.error.inj h) ▸ rfl

theorem Quiet.bind {α β : Type} {x : Except JsError α} {f : α → Except JsError β} (h : Quiet x)
    (hf : ∀ a, Quiet (f a)) : Quiet (x >>= f) := by
  cases x with
  | ok a => exact hf a
  | error e => exact fun err herr => h err (Except.error.inj herr ▸ rfl)

theorem metadataField_quiet (d : OutputDeps) (name : JsString) (v : JsValue) :
    Quiet (metadataField d name v) := by
  cases v with
  | undefined => exact Quiet.ok _
  | str s => exact Quiet.ok _
  | _ => exact Quiet.typeError

theorem tagsField_quiet (d : OutputDeps) (v : JsValue) : Quiet (tagsField d v) := by
  have hjoin : Quiet (joinTags v) := by
    cases v with
    | arr items => exact (Quiet.lift _).bind (fun texts => Quiet.ok _)
    | buffer bytes => exact Quiet.ok _
    | _ => exact Quiet.typeError
  rw [tagsField]
  split
  · exact hjoin.bind (fun text => metadataField_quiet d _ _)
  · exact Quiet.ok _

theorem metadataLines_quiet (d : OutputDeps) (resource : Option JsValue) :
    Quiet (metadataLines d resource) := by
  cases resource with
  | none => exact Quiet.ok _
  | some r =>
      rw [metadataLines]
      split
      · exact Quiet.ok _
      · exact (metadataField_quiet d _ _).bind (fun _ => (metadataField_quiet d _ _).bind
          (fun _ => (metadataField_quiet d _ _).bind (fun _ => (metadataField_quiet d _ _).bind
            (fun _ => (tagsField_quiet d _).bind (fun _ => Quiet.ok _)))))

theorem renderResourceMetadata_quiet (d : OutputDeps) (i : Nat) (resource : Option JsValue) :
    Quiet (renderResourceMetadata d i resource) := by
  refine (metadataLines_quiet d resource).bind (fun lines => ?_)
  split
  · exact Quiet.ok _
  · rcases renderUntrusted_ok d i "resource metadata" (joinLines lines) ⟨false, none⟩ with
      ⟨block, hblock⟩
    rw [hblock]
    exact Quiet.ok _

theorem quoteLines_quiet (result : QuoteResult) : Quiet (quoteLines result) := by
  have hselected : Quiet (selectedTexts result) := by
    rw [selectedTexts]
    split
    · exact Quiet.ok _
    · exact (Quiet.lift _).bind (fun _ => (Quiet.lift _).bind (fun _ => (Quiet.lift _).bind
        (fun _ => (Quiet.lift _).bind (fun _ => Quiet.ok _))))
  rw [quoteLines]
  split
  · exact Quiet.ok _
  · exact hselected.bind (fun _ => Quiet.ok _)

theorem paymentLines_quiet (result : PayResult) : Quiet (paymentLines result) := by
  have hsettlement : Quiet (settlementTexts result) := by
    rw [settlementTexts]
    split
    · exact Quiet.typeError
    · exact (Quiet.lift _).bind (fun _ => (Quiet.lift _).bind (fun _ => Quiet.ok _))
  rw [paymentLines]
  split
  · exact Quiet.ok _
  · exact hsettlement.bind (fun _ => Quiet.ok _)

/-- Metadata is rendered exactly when it can be. -/
theorem renderResourceMetadata_isOk_iff (d : OutputDeps) (i : Nat) (resource : Option JsValue) :
    (renderResourceMetadata d i resource).isOk = true ↔ Renderable resource := by
  rw [← metadataLines_isOk_iff (d := d), isOk_iff, isOk_iff]
  constructor
  · rintro ⟨parts, hparts⟩
    rcases renderResourceMetadata_eq_ok.mp hparts with ⟨lines, hlines, -⟩
    exact ⟨lines, hlines⟩
  · rintro ⟨lines, hlines⟩
    by_cases hnil : lines = []
    · exact ⟨[], renderResourceMetadata_eq_ok.mpr ⟨lines, hlines, .inl ⟨hnil, rfl⟩⟩⟩
    · rcases renderUntrusted_ok d i "resource metadata" (joinLines lines) ⟨false, none⟩ with
        ⟨block, hblock⟩
      exact ⟨_, renderResourceMetadata_eq_ok.mpr
        ⟨lines, hlines, .inr ⟨hnil, block, rfl, hblock⟩⟩⟩

/-- A quote is rendered as its own lines and its metadata, unless one of its
    strings or of its metadata cannot be, and then nothing is said of why. -/
theorem renderQuote_spec (d : OutputDeps) (result : QuoteResult) :
    (Renderable result.resource ∧ ∃ values said fenced, quoteValues result = .ok values ∧
        Says said values ∧ renderResourceMetadata d 0 result.resource = .ok fenced ∧
        renderQuote d result = .ok (said ++ fenced)) ∨
      (¬ (Renderable result.resource ∧ ∃ values, quoteValues result = .ok values) ∧
        ∃ err, renderQuote d result = .error err ∧ err.message = []) := by
  -- What fails has no text in one of its parts, and the error of that says nothing.
  rcases hrender : renderQuote d result with err | parts
  · right
    refine ⟨?_, err, rfl, ?_⟩
    · rintro ⟨hresource, values, hvalues⟩
      rcases quoteLines_of_values hvalues with ⟨said, hsaid⟩
      rcases isOk_iff.mp ((renderResourceMetadata_isOk_iff d 0 _).mpr hresource) with
        ⟨fenced, hfenced⟩
      have hok : renderQuote d result = .ok (said ++ fenced) :=
        bind_eq_ok.mpr ⟨said, hsaid, bind_eq_ok.mpr ⟨fenced, hfenced, rfl⟩⟩
      rw [hok] at hrender
      exact absurd hrender (by simp only [reduceCtorEq, not_false_eq_true])
    · exact ((quoteLines_quiet result).bind (fun _ =>
        (renderResourceMetadata_quiet d 0 _).bind (fun _ => Quiet.ok _))) err hrender
  · left
    rcases bind_eq_ok.mp hrender with ⟨said, hsaid, hrest⟩
    rcases bind_eq_ok.mp hrest with ⟨fenced, hfenced, hparts⟩
    rcases says_quoteLines hsaid with ⟨values, hvalues, hlines⟩
    refine ⟨?_, values, said, fenced, hvalues, hlines, hfenced, ?_⟩
    · exact (renderResourceMetadata_isOk_iff d 0 _).mp (isOk_iff.mpr ⟨fenced, hfenced⟩)
    · rw [Except.ok.inj hparts]

/-- A payment is rendered as its own lines, its metadata and its content, under
    the same condition. -/
theorem renderPayment_spec (d : OutputDeps) (result : PayResult) :
    (Renderable result.resource ∧ ∃ values said fenced content, payValues result = .ok values ∧
        paymentLines result = .ok said ∧ Says said values ∧
        renderResourceMetadata d 0 result.resource = .ok fenced ∧
        contentLines d result.content = .ok content ∧
        renderPayment d result = .ok (said ++ fenced ++ content)) ∨
      (¬ (Renderable result.resource ∧ ∃ values, payValues result = .ok values) ∧
        ∃ err, renderPayment d result = .error err ∧ err.message = []) := by
  rcases contentLines_eq d result.content with ⟨rest, hcontent, -⟩
  -- As for a quote; the content can always be rendered.
  rcases hrender : renderPayment d result with err | parts
  · right
    refine ⟨?_, err, rfl, ?_⟩
    · rintro ⟨hresource, values, hvalues⟩
      rcases paymentLines_of_values hvalues with ⟨said, hsaid⟩
      rcases isOk_iff.mp ((renderResourceMetadata_isOk_iff d 0 _).mpr hresource) with
        ⟨fenced, hfenced⟩
      have hok : renderPayment d result = .ok (said ++ fenced ++ _) :=
        bind_eq_ok.mpr ⟨said, hsaid, bind_eq_ok.mpr ⟨fenced, hfenced,
          bind_eq_ok.mpr ⟨_, hcontent, rfl⟩⟩⟩
      rw [hok] at hrender
      exact absurd hrender (by simp only [reduceCtorEq, not_false_eq_true])
    · refine ((paymentLines_quiet result).bind (fun _ =>
        (renderResourceMetadata_quiet d 0 _).bind (fun _ => Quiet.bind ?_ (fun _ => Quiet.ok _))))
        err hrender
      rw [hcontent]
      exact Quiet.ok _
  · left
    rcases bind_eq_ok.mp hrender with ⟨said, hsaid, hrest⟩
    rcases bind_eq_ok.mp hrest with ⟨fenced, hfenced, hrest⟩
    rcases bind_eq_ok.mp hrest with ⟨content, hcontent', hparts⟩
    rcases says_paymentLines hsaid with ⟨values, hvalues, hlines⟩
    refine ⟨?_, values, said, fenced, content, hvalues, hsaid, hlines, hfenced, hcontent', ?_⟩
    · exact (renderResourceMetadata_isOk_iff d 0 _).mp (isOk_iff.mpr ⟨fenced, hfenced⟩)
    · rw [Except.ok.inj hparts]

end Outcomes

end Payer

end VellarSdk
