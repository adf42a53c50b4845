import VellarSdk.Payer.Answers
import VellarSdk.Payer.Server

/-!
# What a Reply Carries

When a reply of the tools has a secret in it, and when a line break outside its
fences. Both are properties that a text has only by a value in it, so the answer
of the payer decides: the strings that are printed as they are, and the text that
is sanitised on its way into a fence.

The strings of an answer come from the responses of the call. The guards leave
little freedom in them: an amount is digits, a transaction is a hash, and asset
and network are configured. What a seller is free to choose is the recipient of
a quote and what the guards say when they refuse.

## Main definitions

* `ToolReply.Hides`, `ToolReply.OwnLines`: A reply without a secret, and one
  without lines of others.
* `QuoteLeaks`, `PayLeaks`: The answers that let a seed through.
* `QuoteBreaks`, `PayBreaks`: The answers that let a line break through.
* `QuotePrints`, `PayPrints`: The calls that print something.

## Theorems

* `quote_hides_iff`, `pay_hides_iff`: When a reply hides a registered seed.
* `quote_ownLines_iff`, `pay_ownLines_iff`: When its lines are the server's own.
* `quotePrints_iff`, `payPrints_iff`: What an answer prints, by its call.
-/

namespace VellarSdk

namespace Payer

open Js X402 Async

section Secrets

/-- The secret is neither in the text of a reply nor in a log line. -/
def ToolReply.Hides (r : ToolReply) (secret : JsString) : Prop :=
  ¬ secret <:+: r.text ∧ ∀ line ∈ r.logs, ¬ secret <:+: line

/-- The metadata spells the secret once its control and format characters are
    deleted. -/
def MetadataSpells (d : OutputDeps) (secret : JsString) (resource : Option JsValue) : Prop :=
  ∃ lines, metadataLines d resource = .ok lines ∧ lines ≠ [] ∧
    Spelled secret (redact d.secrets (joinLines lines)) ⟨false, none⟩

/-- So does the content of a response, in its type or in its text. -/
def ContentSpells (d : OutputDeps) (secret : JsString) (c : ResourceContent) : Prop :=
  Spelled secret (redact d.secrets c.contentType) ⟨true, some (JsNum.ofNat metadataMaxChars)⟩ ∨
    (c.binaryOmitted.getD false = false ∧
      Spelled secret (redact d.secrets (c.text.getD [])) ⟨false, none⟩)

/-- The answers to a quote that let the secret through: a string that is
    printed as it is has it, or the metadata spells it. -/
def QuoteLeaks (d : OutputDeps) (secret : JsString) : Except JsError QuoteResult → Prop
  | .error _ => False
  | .ok result => Renderable result.resource ∧ ∃ values, quoteValues result = .ok values ∧
      ((∃ v ∈ values, secret <:+: v) ∨ MetadataSpells d secret result.resource)

/-- The answers to a payment that do. -/
def PayLeaks (d : OutputDeps) (secret : JsString) : Except JsError PayResult → Prop
  | .error _ => False
  | .ok result => Renderable result.resource ∧ ∃ values, payValues result = .ok values ∧
      ((∃ v ∈ values, secret <:+: v) ∨ MetadataSpells d secret result.resource ∨
        ContentSpells d secret result.content)

variable {d : OutputDeps} {seed : JsString} (h : isSeed seed = true)
include h

/-- A seed of the joined text is in one of the parts. -/
theorem seed_joined_iff (parts : List Part) :
    seed <:+: joinLines (parts.map Part.text) ↔ ∃ part ∈ parts, seed <:+: part.text := by
  rw [joinLines, infix_intercalate_iff (not_mem_seed h (by decide)) (seed_ne_nil h)]
  simp only [List.mem_map, exists_exists_and_eq_and]

theorem seed_metadata_iff {i : Nat} {resource : Option JsValue} {parts : List Part}
    (hparts : renderResourceMetadata d i resource = .ok parts) :
    (∃ part ∈ parts, seed <:+: part.text) ↔ MetadataSpells d seed resource := by
  rcases renderResourceMetadata_eq_ok.mp hparts with ⟨lines, hlines, hcase⟩
  have honly : MetadataSpells d seed resource ↔ lines ≠ [] ∧
      Spelled seed (redact d.secrets (joinLines lines)) ⟨false, none⟩ := by
    constructor
    · rintro ⟨lines', hlines', hspelled⟩
      rw [hlines, Except.ok.injEq] at hlines'
      subst hlines'
      exact hspelled
    · exact fun hspelled => ⟨lines, hlines, hspelled⟩
  rw [honly]
  rcases hcase with ⟨hnil, rfl⟩ | ⟨hne, block, rfl, hblock⟩
  · simp [hnil]
  · simp only [List.mem_singleton, exists_eq_left, Part.text, ne_eq, hne, not_false_eq_true,
      true_and]
    exact seed_fenced_iff h (by decide) hblock

theorem seed_content_iff {c : ResourceContent} {parts : List Part}
    (hparts : contentLines d c = .ok parts) :
    (∃ part ∈ parts, seed <:+: part.text) ↔ ContentSpells d seed c := by
  rcases contentLines_eq d c with ⟨rest, hrest, hcase⟩
  rw [hrest, Except.ok.injEq] at hparts
  have hline := (says_contentLine d c).carried (carried_seed h)
  simp only [List.mem_singleton, exists_eq_left] at hline
  rw [← hparts, ContentSpells, ← seed_sanitized_iff h]
  simp only [List.mem_cons, exists_eq_or_imp, hline]
  refine or_congr Iff.rfl ?_
  rcases hcase with ⟨hbinary, rfl⟩ | ⟨hbinary, block, rfl, hblock⟩
  · simp [hbinary]
  · simp only [List.mem_singleton, exists_eq_left, Part.text, hbinary, true_and]
    exact seed_fenced_iff h (by decide) hblock

variable (hmem : seed ∈ d.secrets)
include hmem

/-- A reply to a call that failed hides the seed. -/
theorem failed_hides {url message head : JsString} (hhead : isPlainLine head [[]] = true)
    (err : JsError) {logs : List JsString} (hlogs : ∀ line ∈ logs, ¬ seed <:+: line) :
    (failed d url message head err logs).Hides seed := by
  constructor
  · have hlines : Says [say head [(formatError d err, [])]] [formatError d err] := Says.line hhead
    rw [ToolReply.text, seed_joined_iff h]
    simp only [failed]
    rw [hlines.carried (carried_seed h)]
    simp only [List.mem_singleton, exists_eq_left]
    exact formatError_hides h hmem err
  · intro line hline
    rcases List.mem_append.mp hline with hline | hline
    · exact hlogs line hline
    · exact log_hides h hmem _ _ _ line hline

/-- A quote's reply hides a registered seed unless its answer lets it through. -/
theorem quote_hides_iff (url : JsString) (answer : Except JsError QuoteResult) :
    (x402Quote d url answer).Hides seed ↔ ¬ QuoteLeaks d seed answer := by
  have hhead : isPlainLine (js "Quote failed: ") [[]] = true := by decide
  cases answer with
  | error err =>
      refine iff_of_true (failed_hides h hmem hhead err ?_) not_false
      exact fun line hline => absurd hline List.not_mem_nil
  | ok result =>
      rcases renderQuote_spec d result with
        ⟨hresource, values, said, fenced, hvalues, hlines, hfenced, hrender⟩ |
        ⟨hnot, err, hrender, -⟩
      · rw [ToolReply.Hides, x402Quote, hrender]
        simp only [ToolReply.text]
        rw [and_iff_left (log_hides h hmem _ _ _), not_iff_not, seed_joined_iff h]
        simp only [List.mem_append, or_and_right, exists_or]
        rw [hlines.carried (carried_seed h), seed_metadata_iff h hfenced]
        simp only [QuoteLeaks, hresource, true_and, hvalues, Except.ok.injEq, exists_eq_left']
      · rw [x402Quote, hrender]
        refine iff_of_true (failed_hides h hmem hhead err (log_hides h hmem _ _ _)) ?_
        rintro ⟨hresource, values, hvalues, -⟩
        exact hnot ⟨hresource, values, hvalues⟩

/-- So does the reply to a payment. -/
theorem pay_hides_iff (url : JsString) (answer : Except JsError PayResult) :
    (x402Pay d url answer).Hides seed ↔ ¬ PayLeaks d seed answer := by
  have hhead : isPlainLine (js "Payment did not complete: ") [[]] = true := by decide
  cases answer with
  | error err =>
      refine iff_of_true (failed_hides h hmem hhead err ?_) not_false
      exact fun line hline => absurd hline List.not_mem_nil
  | ok result =>
      rcases renderPayment_spec d result with
        ⟨hresource, values, said, fenced, content, hvalues, -, hlines, hfenced, hcontent, hrender⟩ |
        ⟨hnot, err, hrender, -⟩
      · rw [ToolReply.Hides, x402Pay, hrender]
        simp only [ToolReply.text]
        rw [and_iff_left (log_hides h hmem _ _ _), not_iff_not, seed_joined_iff h]
        simp only [List.mem_append, or_and_right, exists_or]
        rw [hlines.carried (carried_seed h), seed_metadata_iff h hfenced, seed_content_iff h hcontent]
        simp only [PayLeaks, hresource, true_and, hvalues, Except.ok.injEq, exists_eq_left', or_assoc]
      · rw [x402Pay, hrender]
        refine iff_of_true (failed_hides h hmem hhead err (log_hides h hmem _ _ _)) ?_
        rintro ⟨hresource, values, hvalues, -⟩
        exact hnot ⟨hresource, values, hvalues⟩

end Secrets

section Breaks

/-- Every line outside a fence is one that the server begins. -/
def ToolReply.OwnLines (r : ToolReply) : Prop :=
  ∀ line, .said line ∈ r.parts → ∀ u ∈ line.text, isLineBreak u = false

/-- The answers to a quote that let a line break through: one in the redacted
    message of an error, or in a string that is printed as it is. -/
def QuoteBreaks (d : OutputDeps) : Except JsError QuoteResult → Prop
  | .error err => HasBreak (redact d.secrets err.message)
  | .ok result => Renderable result.resource ∧ ∃ values, quoteValues result = .ok values ∧
      ∃ v ∈ values, HasBreak v

/-- The answers to a payment that do. -/
def PayBreaks (d : OutputDeps) : Except JsError PayResult → Prop
  | .error err => HasBreak (redact d.secrets err.message)
  | .ok result => Renderable result.resource ∧ ∃ values, payValues result = .ok values ∧
      ∃ v ∈ values, HasBreak v

/-- A part outside a fence that has a line break. -/
def Part.isBroken : Part → Bool
  | .said line => line.text.any isLineBreak
  | .fenced _ => false

/-- Some line of the server's own has a line break. -/
def Breaks (parts : List Part) : Prop :=
  ∃ line, .said line ∈ parts ∧ HasBreak line.text

theorem ownLines_iff (r : ToolReply) : r.OwnLines ↔ ¬ Breaks r.parts := by
  constructor
  · rintro hown ⟨line, hline, u, hu, hbreak⟩
    rw [hown line hline u hu] at hbreak
    exact absurd hbreak Bool.false_ne_true
  · intro hnot line hline u hu
    exact Bool.eq_false_iff.mpr (fun hbreak => hnot ⟨line, hline, u, hu, hbreak⟩)

/-- A reply with a broken part has a line that is not the server's own. -/
theorem not_ownLines_of_isBroken {r : ToolReply} (h : r.parts.any Part.isBroken = true) :
    ¬ r.OwnLines := by
  intro hown
  rcases List.any_eq_true.mp h with ⟨part, hpart, hbreak⟩
  cases part with
  | fenced block => exact absurd hbreak Bool.false_ne_true
  | said line =>
      rcases List.any_eq_true.mp hbreak with ⟨u, hu, hbreak⟩
      rw [hown line hpart u hu] at hbreak
      exact absurd hbreak Bool.false_ne_true

theorem breaks_append (parts parts' : List Part) :
    Breaks (parts ++ parts') ↔ Breaks parts ∨ Breaks parts' := by
  simp only [Breaks, List.mem_append, or_and_right, exists_or]

/-- Plain lines break exactly when one of their values has a line break. -/
theorem breaks_says_iff {parts : List Part} {values : List JsString} (hlines : Says parts values) :
    Breaks parts ↔ ∃ v ∈ values, HasBreak v := by
  rw [← hlines.carried carried_lineBreak]
  constructor
  · rintro ⟨line, hline, hbreak⟩
    exact ⟨.said line, hline, hbreak⟩
  · rintro ⟨part, hpart, hbreak⟩
    have hplain := hlines.plain part hpart
    cases part with
    | said line => exact ⟨line, hpart, hbreak⟩
    | fenced block => exact absurd hplain Bool.false_ne_true

theorem metadata_unbroken {d : OutputDeps} {i : Nat} {resource : Option JsValue}
    {parts : List Part} (hparts : renderResourceMetadata d i resource = .ok parts) :
    ¬ Breaks parts := by
  rintro ⟨line, hline, -⟩
  rcases renderResourceMetadata_eq_ok.mp hparts with ⟨lines, -, ⟨-, rfl⟩ | ⟨-, block, rfl, -⟩⟩
  · exact absurd hline List.not_mem_nil
  · exact absurd (List.mem_singleton.mp hline) (by simp only [reduceCtorEq, not_false_eq_true])

/-- The type of the content is on one line, and the rest of it is fenced. -/
theorem content_unbroken {d : OutputDeps} {c : ResourceContent} {parts : List Part}
    (hparts : contentLines d c = .ok parts) : ¬ Breaks parts := by
  rcases contentLines_eq d c with ⟨rest, hrest, hcase⟩
  rw [hrest, Except.ok.injEq] at hparts
  rw [← hparts, ← List.singleton_append, breaks_append, breaks_says_iff (says_contentLine d c)]
  rintro (⟨v, hv, u, hu, hbreak⟩ | ⟨line, hline, -⟩)
  · rw [List.mem_singleton.mp hv, sanitizeMetadata, X402.sanitizeMetadata] at hu
    rw [isLineBreak, newline_not_mem_singleLine rfl hu] at hbreak
    exact absurd hbreak Bool.false_ne_true
  · rcases hcase with ⟨-, rfl⟩ | ⟨-, block, rfl, -⟩
    · exact absurd hline List.not_mem_nil
    · exact absurd (List.mem_singleton.mp hline) (by simp only [reduceCtorEq, not_false_eq_true])

theorem lineBreak_formatError_iff (d : OutputDeps) (err : JsError) :
    HasBreak (formatError d err) ↔
      HasBreak (redact d.secrets err.message) := by
  -- The name of an error is a word, so a line break can only come from its message.
  have hname : ∀ u ∈ errorName d err.kind ++ js ": ", isLineBreak u = false := by
    have hword : ∀ u : CodeUnit, isWordChar u = true → isNewlineOrTab u = false := by
      intro u hu
      simp only [isWordChar, isDigit, Bool.or_eq_true, Bool.and_eq_true, decide_eq_true_eq,
        beq_iff_eq, UInt16.le_iff_toNat_le, ← UInt16.toNat_inj, UInt16.reduceToNat] at hu
      simp only [isNewlineOrTab, Bool.or_eq_false_iff, beq_eq_false_iff_ne, ne_eq,
        ← UInt16.toNat_inj, UInt16.reduceToNat]
      omega
    have hcolon : ∀ u ∈ js ": ", isLineBreak u = false := by decide
    intro u hu
    rcases List.mem_append.mp hu with hu | hu
    · rw [isLineBreak, hword u ((errorName_spec d err.kind).2 u hu), Bool.false_and]
    · exact hcolon u hu
  simp only [formatError]
  split
  · constructor
    · rintro ⟨u, hu, hbreak⟩
      rcases List.mem_append.mp hu with hu | hu
      · rw [hname u hu] at hbreak
        exact absurd hbreak Bool.false_ne_true
      · exact ⟨u, hu, hbreak⟩
    · rintro ⟨u, hu, hbreak⟩
      exact ⟨u, List.mem_append_right _ hu, hbreak⟩
  · exact Iff.rfl

/-- A reply to a call that failed breaks exactly when the message does. -/
theorem failed_ownLines_iff {d : OutputDeps} {url message head : JsString}
    (hhead : isPlainLine head [[]] = true) (err : JsError) (logs : List JsString) :
    (failed d url message head err logs).OwnLines ↔
      ¬ HasBreak (redact d.secrets err.message) := by
  have hlines : Says [say head [(formatError d err, [])]] [formatError d err] := Says.line hhead
  rw [ownLines_iff, failed, breaks_says_iff hlines, ← lineBreak_formatError_iff]
  simp only [List.mem_singleton, exists_eq_left]

theorem not_hasBreak_nil : ¬ HasBreak [] := by
  rintro ⟨u, hu, -⟩
  exact absurd hu List.not_mem_nil

/-- Rendering that throws says nothing of the answer. -/
theorem redact_nil (secrets : List JsString) : redact secrets [] = [] := by
  have hfold : secrets.foldl redactSecret [] = [] := by
    induction secrets with
    | nil => rfl
    | cons secret secrets ih =>
        have hone : redactSecret [] secret = [] := by
          rw [redactSecret]
          split <;> rfl
        rw [List.foldl_cons, hone, ih]
  rw [redact, hfold]
  rfl

theorem quote_ownLines_iff (d : OutputDeps) (url : JsString)
    (answer : Except JsError QuoteResult) :
    (x402Quote d url answer).OwnLines ↔ ¬ QuoteBreaks d answer := by
  have hhead : isPlainLine (js "Quote failed: ") [[]] = true := by decide
  cases answer with
  | error err => exact failed_ownLines_iff hhead err []
  | ok result =>
      rcases renderQuote_spec d result with
        ⟨hresource, values, said, fenced, hvalues, hlines, hfenced, hrender⟩ |
        ⟨hnot, err, hrender, hmessage⟩
      · rw [ownLines_iff, x402Quote, hrender]
        simp only
        rw [breaks_append, breaks_says_iff hlines, or_iff_left (metadata_unbroken hfenced)]
        simp only [QuoteBreaks, hresource, true_and, hvalues, Except.ok.injEq, exists_eq_left']
      · rw [x402Quote, hrender]
        simp only
        rw [failed_ownLines_iff hhead, hmessage, redact_nil]
        refine iff_of_true not_hasBreak_nil ?_
        rintro ⟨hresource, values, hvalues, -⟩
        exact hnot ⟨hresource, values, hvalues⟩

theorem pay_ownLines_iff (d : OutputDeps) (url : JsString) (answer : Except JsError PayResult) :
    (x402Pay d url answer).OwnLines ↔ ¬ PayBreaks d answer := by
  have hhead : isPlainLine (js "Payment did not complete: ") [[]] = true := by decide
  cases answer with
  | error err => exact failed_ownLines_iff hhead err []
  | ok result =>
      rcases renderPayment_spec d result with
        ⟨hresource, values, said, fenced, content, hvalues, -, hlines, hfenced, hcontent, hrender⟩ |
        ⟨hnot, err, hrender, hmessage⟩
      · rw [ownLines_iff, x402Pay, hrender]
        simp only
        rw [breaks_append, breaks_append, breaks_says_iff hlines,
          or_iff_left (content_unbroken hcontent), or_iff_left (metadata_unbroken hfenced)]
        simp only [PayBreaks, hresource, true_and, hvalues, Except.ok.injEq, exists_eq_left']
      · rw [x402Pay, hrender]
        simp only
        rw [failed_ownLines_iff hhead, hmessage, redact_nil]
        refine iff_of_true not_hasBreak_nil ?_
        rintro ⟨hresource, values, hvalues, -⟩
        exact hnot ⟨hresource, values, hvalues⟩

end Breaks

section Printed

/-- The values that a quote of this challenge prints as they are, but for
    numbers: those of the option it would pay, or the reason for which there is
    none. -/
def quotePrinted (d : PayerDeps) (l : SpendLedger) (challenge : JsValue) : List JsValue :=
  match pricedOption d l challenge with
  | .error err => [.str err.message]
  | .ok (chosen, _, _) => [chosen.field "asset", chosen.field "network", chosen.field "payTo"]

variable {P : JsString → Prop} {d : PayerDeps} {l : SpendLedger}

/-- The refusal of a price over the ceiling names the asset, and numbers. -/
theorem Carried.refusal (h : Carried P) {amount remaining : Int} {asset v : JsString}
    {refusal : Option JsString}
    (hrefusal : overCeilingRefusal amount remaining (.str asset) = .ok refusal)
    (hv : v ∈ refusal.toList) (hP : P v) : P asset := by
  rw [overCeilingRefusal] at hrefusal
  split at hrefusal
  · rw [← Except.ok.inj hrefusal, Option.toList_some, List.mem_singleton] at hv
    -- The line is made of fixed texts, two numbers and the asset.
    have hline := h.line (say "The price " [(intToString amount,
        js " exceeds this session's remaining ceiling ("), (intToString remaining, js ") for asset "),
        (asset, js ".")])
      (show isPlainLine (js "The price ") [js " exceeds this session's remaining ceiling (",
        js ") for asset ", js "."] = true by decide)
    have htext : v = (say "The price " [(intToString amount,
        js " exceeds this session's remaining ceiling ("), (intToString remaining, js ") for asset "),
        (asset, js ".")]).text := by
      rw [hv]
      simp [say, Part.text, Template.text]
    rw [htext, hline] at hP
    rcases hP with ⟨w, hw, hP⟩
    simp only [say, Part.values, Template.values, List.map_cons, List.map_nil, List.mem_cons,
      List.not_mem_nil, or_false] at hw
    rcases hw with rfl | rfl | rfl
    · exact absurd hP (h.int _)
    · exact absurd hP (h.int _)
    · exact hP
  · rw [← Except.ok.inj hrefusal] at hv
    exact absurd hv List.not_mem_nil

/-- The strings of the quote are those of its challenge, up to what a text can
    carry, or neither can be put into strings. -/
def Prints (d : PayerDeps) (l : SpendLedger) (challenge : JsValue) (result : QuoteResult) : Prop :=
  (∃ values texts, quoteValues result = .ok values ∧
    (quotePrinted d l challenge).mapM JsValue.toStr = .ok texts ∧
    ∀ P : JsString → Prop, Carried P → ((∃ v ∈ values, P v) ↔ ∃ t ∈ texts, P t)) ∨
  (∀ values, quoteValues result ≠ .ok values) ∧
    ∀ texts, (quotePrinted d l challenge).mapM JsValue.toStr ≠ .ok texts

/-- A priced option has the configured asset and network, and its amount is
    digits. -/
theorem pricedOption_spec {challenge chosen : JsValue} {amount remaining : Int}
    (h : pricedOption d l challenge = .ok (chosen, amount, remaining)) :
    ∃ digits asset, chosen.field "amount" = .str digits ∧ (∀ u ∈ digits, isDigit u = true) ∧
      chosen.field "asset" = .str asset ∧ chosen.field "network" = .str d.config.caip2 := by
  rcases bind_eq_ok.mp h with ⟨cleared, hcleared, hrest⟩
  rcases bind_eq_ok.mp hrest with ⟨remaining', -, heq⟩
  have hchosen : cleared.1 = chosen := (Prod.mk.inj (Except.ok.inj heq)).1
  have hspec := clearOneOption_spec hcleared
  rw [hchosen] at hspec
  rcases hspec.eligible.allowed _ rfl with ⟨asset, -, hasset⟩
  rcases parseAmount_eq_ok.mp hspec.parsed with ⟨digits, hdigits, hdigit, -⟩
  exact ⟨digits, asset, hdigits, ((isDigits_iff _).mp hdigit).2, hasset, hspec.eligible.network⟩

/-- The strings of a quote are those of the option it would pay. -/
theorem quoteValues_priced {chosen challenge : JsValue} {amount remaining : Int}
    {selected : QuotedOption} {result : QuoteResult}
    (hpriced : pricedOption d l challenge = .ok (chosen, amount, remaining))
    (hpay : result.requiresPayment = true) (hdescribed : describeOption chosen = .ok selected)
    (hselected : result.selected = some selected)
    (hremaining : result.sessionRemaining = some (intToString remaining))
    (hrefusal : overCeilingRefusal amount remaining (chosen.field "asset") = .ok result.refusal) :
    Prints d l challenge result := by
  rcases pricedOption_spec hpriced with ⟨digits, asset, hdigits, hdigit, hasset, hnetwork⟩
  -- What is described of the option is what the guards have checked, and the recipient.
  have hsel : selected.amount = .str digits ∧ selected.asset = .str asset ∧
      selected.network = .str d.config.caip2 ∧ selected.payTo = chosen.field "payTo" := by
    rw [describeOption] at hdescribed
    split at hdescribed
    · exact absurd hdescribed (by simp only [throwTypeError, reduceCtorEq, not_false_eq_true])
    · rw [← Except.ok.inj hdescribed]
      exact ⟨hdigits, hasset, hnetwork, rfl⟩
  -- The reply and the property depend on the recipient in the same way: they need its text.
  have hvalues : ∀ payTo : Except NativeError JsString, (chosen.field "payTo").toStr = payTo →
      quoteValues result = (do
        let payTo ← (payTo : Except JsError JsString)
        return [digits, asset, d.config.caip2, payTo] ++ [intToString remaining] ++
          result.refusal.toList) := by
    intro payTo hpayTo
    rw [quoteValues, selectedTexts, hselected, hremaining, hpay]
    simp only [hsel.1, hsel.2.1, hsel.2.2.1, hsel.2.2.2, hpayTo]
    cases payTo with
    | error err => rfl
    | ok payTo => rfl
  have hprinted : ∀ payTo : Except NativeError JsString, (chosen.field "payTo").toStr = payTo →
      (quotePrinted d l challenge).mapM JsValue.toStr = (do
        let payTo ← payTo
        return [asset, d.config.caip2, payTo]) := by
    intro payTo hpayTo
    simp only [quotePrinted, hpriced, hasset, hnetwork, List.mapM_cons, List.mapM_nil, hpayTo]
    cases payTo with
    | error err => rfl
    | ok payTo => rfl
  cases hpayTo : (chosen.field "payTo").toStr with
  | error err =>
      refine .inr ⟨fun values h => ?_, fun texts h => ?_⟩
      · rw [hvalues _ hpayTo] at h
        rcases bind_eq_ok.mp h with ⟨_, h, -⟩
        exact absurd (liftM_eq_ok.mp h) (by simp only [reduceCtorEq, not_false_eq_true])
      · rw [hprinted _ hpayTo] at h
        rcases bind_eq_ok.mp h with ⟨_, h, -⟩
        exact absurd h (by simp only [reduceCtorEq, not_false_eq_true])
  | ok payTo =>
      refine .inl ⟨_, _, hvalues _ hpayTo, hprinted _ hpayTo, fun P hP => ?_⟩
      have hnone : ¬ P digits := hP.hex _ (fun u hu => by rw [isHexDigit, hdigit u hu]; rfl)
      rw [hasset] at hrefusal
      constructor
      · rintro ⟨v, hv, hPv⟩
        simp only [List.cons_append, List.nil_append, List.mem_cons] at hv
        -- Amounts are digits, and the refusal says nothing that was not said.
        rcases hv with rfl | rfl | rfl | rfl | rfl | hv
        · exact absurd hPv hnone
        · exact ⟨v, by simp, hPv⟩
        · exact ⟨_, by simp, hPv⟩
        · exact ⟨v, by simp, hPv⟩
        · exact absurd hPv (hP.int _)
        · exact ⟨asset, by simp, hP.refusal hrefusal hv hPv⟩
      · rintro ⟨t, ht, hPt⟩
        refine ⟨t, ?_, hPt⟩
        simp only [List.mem_cons, List.not_mem_nil, or_false] at ht
        rcases ht with rfl | rfl | rfl
        · simp
        · simp
        · simp

/-- The strings of a refused quote are the reason. -/
theorem quoteValues_refused {challenge : JsValue} {err : JsError} {result : QuoteResult}
    (hpriced : pricedOption d l challenge = .error err) (hpay : result.requiresPayment = true)
    (hselected : result.selected = none) (hremaining : result.sessionRemaining = none)
    (hrefusal : result.refusal = some err.message) : Prints d l challenge result := by
  refine .inl ⟨[err.message], [err.message], ?_, ?_, fun P _ => Iff.rfl⟩
  · rw [quoteValues, selectedTexts, hselected, hremaining, hrefusal, hpay]
    rfl
  · rw [quotePrinted, hpriced]
    rfl

/-- So either list may be asked for what it carries. -/
theorem Prints.iff {challenge : JsValue} {result : QuoteResult} (h : Prints d l challenge result)
    (hP : Carried P) (X : Prop) :
    (∃ values, quoteValues result = .ok values ∧ ((∃ v ∈ values, P v) ∨ X)) ↔
      ∃ texts, (quotePrinted d l challenge).mapM JsValue.toStr = .ok texts ∧
        ((∃ t ∈ texts, P t) ∨ X) := by
  rcases h with ⟨values, texts, hvalues, htexts, hsame⟩ | ⟨hvalues, htexts⟩
  · simp only [hvalues, htexts, Except.ok.injEq, exists_eq_left', hsame P hP]
  · refine iff_of_false ?_ ?_
    · rintro ⟨values, h, -⟩
      exact hvalues values h
    · rintro ⟨texts, h, -⟩
      exact htexts texts h

/-- A call whose quote prints a string with the property, or metadata with the
    other one. -/
def QuotePrints (d : PayerDeps) (l : SpendLedger) (tr : List PayEvent) (P : JsString → Prop)
    (M : Option JsValue → Prop) : Prop :=
  ∃ first challenge, firstResponse tr = some first ∧ Challenged d first challenge ∧
    Renderable (resourceOf challenge) ∧
    ∃ texts, (quotePrinted d l challenge).mapM JsValue.toStr = .ok texts ∧
      ((∃ t ∈ texts, P t) ∨ M (resourceOf challenge))

theorem challenged_unique {first : Response} {challenge challenge' : JsValue}
    (h : Challenged d first challenge) (h' : Challenged d first challenge') :
    challenge = challenge' :=
  Except.ok.inj (h.decoded.symm.trans h'.decoded)

/-- What an answered quote prints is what its call prints. -/
theorem quotePrints_iff {tr : List PayEvent} {result : QuoteResult} {M : Option JsValue → Prop}
    (h : QuoteAnswer d l tr (.ok result)) (hP : Carried P) (hM : ¬ M none) :
    (Renderable result.resource ∧ ∃ values, quoteValues result = .ok values ∧
      ((∃ v ∈ values, P v) ∨ M result.resource)) ↔ QuotePrints d l tr P M := by
  -- The challenge is read from the first response, so there is only one it can be.
  have hchallenged : ∀ first challenge, firstResponse tr = some first →
      Challenged d first challenge → result.resource = resourceOf challenge →
      Prints d l challenge result →
      ((Renderable result.resource ∧ ∃ values, quoteValues result = .ok values ∧
        ((∃ v ∈ values, P v) ∨ M result.resource)) ↔ QuotePrints d l tr P M) := by
    intro first challenge hfirst hc hresource hprints
    rw [hprints.iff hP, hresource]
    constructor
    · rintro ⟨hrender, htexts⟩
      exact ⟨first, challenge, hfirst, hc, hrender, htexts⟩
    · rintro ⟨first', challenge', hfirst', hc', hrender, htexts⟩
      rw [hfirst, Option.some.injEq] at hfirst'
      subst hfirst'
      rw [challenged_unique hc hc']
      exact ⟨hrender, htexts⟩
  cases h with
  | free first _ hfirst hstatus hpay hresource =>
      rw [hresource, quoteValues, hpay]
      refine iff_of_false ?_ ?_
      · rintro ⟨-, values, hvalues, ⟨v, hv, -⟩ | hm⟩
        · rw [← Except.ok.inj hvalues] at hv
          exact absurd hv List.not_mem_nil
        · exact hM hm
      · rintro ⟨first', challenge, hfirst', hc, -⟩
        rw [hfirst, Option.some.injEq] at hfirst'
        rw [hfirst'] at hstatus
        exact hstatus hc.status
  | refused first challenge err _ hfirst hc hpriced hpay hresource hselected hremaining hrefusal =>
      exact hchallenged first challenge hfirst hc hresource
        (quoteValues_refused hpriced hpay hselected hremaining hrefusal)
  | priced first challenge chosen amount remaining selected _ hfirst hc hpriced hpay hresource
      hdescribed hselected hremaining hrefusal =>
      exact hchallenged first challenge hfirst hc hresource
        (quoteValues_priced hpriced hpay hdescribed hselected hremaining hrefusal)

/-- A quote that throws prints nothing of its challenge. -/
theorem not_quotePrints {tr : List PayEvent} {err : JsError} {M : Option JsValue → Prop}
    (h : QuoteAnswer d l tr (.error err)) : ¬ QuotePrints d l tr P M := by
  cases h with
  | failed _ hnone =>
      rintro ⟨first, challenge, hfirst, hc, -⟩
      exact hnone first challenge hfirst hc

/-- A call whose payment prints a string with the first property, metadata with
    the second or content with the third. -/
def PayPrints (d : PayerDeps) (url maxAmount : JsString) (tr : List PayEvent)
    (P : JsString → Prop) (M : Option JsValue → Prop) (N : ResourceContent → Prop) : Prop :=
  ∃ first res bytes, firstResponse tr = some first ∧ bodiesRead tr = [(res, bytes)] ∧
    (first.status ≠ 402 ∧ N (contentOf res bytes d.config.maxResponseBytes) ∨
      first.status = 402 ∧ ∃ o asset, Opened d url maxAmount first o ∧ o.asset = .str asset ∧
        Renderable (resourceOf o.challenge) ∧
        ((P asset ∨ P d.config.network) ∨ M (resourceOf o.challenge) ∨
          N (contentOf res bytes d.config.maxResponseBytes)))

/-- The strings of a settlement that can carry anything are the asset and the
    network. -/
theorem payValues_delivered {o : Order} {tx payer : JsValue} {res : Response} {remaining : Int}
    {asset : JsString} {settlement : Settlement} {result : PayResult}
    (hasset' : o.asset = .str asset)
    (hclass : classifySettlement d.parse res = .ok (.settled tx payer))
    (hpaid : result.paid = true) (hsettlement : result.settlement = some settlement)
    (htransaction : settlement.transaction = tx) (hasset : settlement.asset = o.asset)
    (hamount : settlement.amount = intToString o.amount)
    (hnetwork : settlement.network = d.config.network)
    (hremaining : result.sessionRemaining = some (intToString remaining)) :
    ∃ hash values, tx.toStr = .ok hash ∧ isTransactionHash hash = true ∧
      payValues result = .ok values ∧ hash ∈ values ∧
      ∀ P : JsString → Prop, Carried P → ((∃ v ∈ values, P v) ↔ P asset ∨ P d.config.network) := by
  rcases classify_settled_transaction hclass with ⟨hash, hhash, hhex⟩
  refine ⟨hash, [intToString o.amount, asset, d.config.network, hash] ++ [intToString remaining],
    hhash, hhex, ?_, by simp, fun P hP => ?_⟩
  · rw [payValues, settlementTexts, hsettlement, hremaining, hpaid]
    simp only [htransaction, hasset, hasset', hamount, hnetwork, hhash]
    rfl
  · have hnone : ¬ P hash := by
      rw [isTransactionHash, Bool.and_eq_true] at hhex
      exact hP.hex _ (List.all_eq_true.mp hhex.2)
    simp only [List.cons_append, List.nil_append, List.mem_cons, List.not_mem_nil, or_false,
      exists_eq_or_imp, exists_eq_left, hP.int, hnone, false_or, or_false]

/-- What an answered payment prints is what its call prints. -/
theorem payPrints_iff {url maxAmount : JsString} {tr : List PayEvent} {result : PayResult}
    {M : Option JsValue → Prop} {N : ResourceContent → Prop}
    (h : PayAnswer d url maxAmount tr (.ok result)) (hP : Carried P) (hM : ¬ M none) :
    (Renderable result.resource ∧ ∃ values, payValues result = .ok values ∧
      ((∃ v ∈ values, P v) ∨ M result.resource ∨ N result.content)) ↔
      PayPrints d url maxAmount tr P M N := by
  cases h with
  | free first bytes _ hfirst hstatus hread hpaid hresource hcontent =>
      -- Nothing was paid, so nothing but the content is shown.
      have hvalues : payValues result = .ok [] := by
        rw [payValues, hpaid]
        rfl
      rw [hvalues, hresource, hcontent]
      constructor
      · rintro ⟨-, values, hvalues', ⟨v, hv, -⟩ | hm | hn⟩
        · rw [← Except.ok.inj hvalues'] at hv
          exact absurd hv List.not_mem_nil
        · exact absurd hm hM
        · exact ⟨first, first, bytes, hfirst, hread, .inl ⟨hstatus, hn⟩⟩
      · rintro ⟨first', res, bytes', hfirst', hread', hcase⟩
        rw [hfirst, Option.some.injEq] at hfirst'
        rw [hread, List.cons.injEq, Prod.mk.injEq] at hread'
        subst hfirst'
        rcases hread' with ⟨⟨rfl, rfl⟩, -⟩
        rcases hcase with ⟨-, hn⟩ | ⟨heq, -⟩
        · refine ⟨fun r hr => ?_, [], rfl, .inr (.inr hn)⟩
          exact absurd hr (by simp only [reduceCtorEq, not_false_eq_true])
        · exact absurd heq hstatus
  | delivered first res o bytes tx payer remaining settlement _ hfirst hstatus hopened hread hclass
      hpaid hsettlement htransaction hasset hamount hnetwork hremaining hresource hcontent =>
      rcases hopened.asset_str with ⟨asset, -, hasset'⟩
      rcases payValues_delivered hasset' hclass hpaid hsettlement htransaction hasset hamount hnetwork
        hremaining with ⟨hash, values, -, -, hvalues, -, hcarried⟩
      rw [hvalues, hresource, hcontent]
      simp only [Except.ok.injEq, exists_eq_left', hcarried P hP]
      constructor
      · rintro ⟨hrender, hcase⟩
        exact ⟨first, res, bytes, hfirst, hread, .inr ⟨hstatus, o, asset, hopened, hasset', hrender,
          hcase⟩⟩
      · rintro ⟨first', res', bytes', hfirst', hread', hcase⟩
        rw [hfirst, Option.some.injEq] at hfirst'
        rw [hread, List.cons.injEq, Prod.mk.injEq] at hread'
        subst hfirst'
        rcases hread' with ⟨⟨rfl, rfl⟩, -⟩
        rcases hcase with ⟨hne, -⟩ | ⟨-, o', asset', hopened', hasset'', hrender, hcase⟩
        · exact absurd hstatus hne
        · rw [opened_unique hopened hopened'] at hasset' ⊢
          rw [hasset', JsValue.str.injEq] at hasset''
          rw [hasset'']
          exact ⟨hrender, hcase⟩

/-- A payment that throws prints nothing of its responses. -/
theorem not_payPrints {url maxAmount : JsString} {tr : List PayEvent} {err : JsError}
    {M : Option JsValue → Prop} {N : ResourceContent → Prop}
    (h : PayAnswer d url maxAmount tr (.error err)) : ¬ PayPrints d url maxAmount tr P M N := by
  cases h with
  | failed _ hread =>
      rintro ⟨first, res, bytes, -, hread', -⟩
      rw [hread] at hread'
      exact absurd hread' (by simp only [reduceCtorEq, not_false_eq_true])

end Printed

end Payer

end VellarSdk
