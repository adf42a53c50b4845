import VellarSdk.Payer.FailedCalls
import VellarSdk.Payer.ServerReplies

/-!
# The Server's Own Lines

When every line of a reply outside its fences is one that the server begins. An
answered quote prints the asset, the network and the recipient of the option it
would pay, or the reason for which there is none; an answered payment prints its
asset and the network. A call that failed prints its error, redacted. Redaction
leaves every line break where it is, as long as the secrets are seeds.

## Main definitions

* `QuoteShows`: The challenges of which a quote prints a line break.
* `PayShows`: The payments that print one.

## Theorems

* `quoteShows_iff`, `payShows_iff`: What an answered call prints.
* `hasBreak_redact_iff`: Redaction neither makes a line break nor takes one out.
* `quote_lines_iff`, `pay_lines_iff`: When the lines of a reply are the server's own.
-/

namespace VellarSdk

namespace Payer

open Js X402 Async

/-- The challenges of which a quote prints a line break, though it does not fail. -/
inductive QuoteShows (d : PayerDeps) (l : SpendLedger) (tr : List PayEvent) : Prop where
  /-- In the reason for which there is nothing to pay. -/
  | refused (first : Response) (challenge : JsValue) (accepts : List JsValue)
      (hfirst : firstResponse tr = some first) (hc : Challenged d first challenge)
      (hrender : Renderable (resourceOf challenge)) (haccepts : acceptsOf challenge = .ok accepts)
      (hbreak : RefusalBreaks d.config noPriceLimit accepts)
  /-- In an asset that has no ceiling. -/
  | unbudgeted (first : Response) (challenge : JsValue) (accepts : List JsValue) (o : Ref JsValue)
      (hfirst : firstResponse tr = some first) (hc : Challenged d first challenge)
      (hrender : Renderable (resourceOf challenge)) (haccepts : acceptsOf challenge = .ok accepts)
      (hselects : Selects noPriceLimit (payerOptions d.config accepts) o)
      (hnone : l.ceilings.get (o.1.field "asset") = none) (hbreak : TextBreaks (o.1.field "asset"))
  /-- In the option that would be paid. -/
  | option (first : Response) (challenge : JsValue) (accepts : List JsValue) (o : Ref JsValue)
      (ceiling : Int) (hfirst : firstResponse tr = some first) (hc : Challenged d first challenge)
      (hrender : Renderable (resourceOf challenge)) (haccepts : acceptsOf challenge = .ok accepts)
      (hselects : Selects noPriceLimit (payerOptions d.config accepts) o)
      (hsome : l.ceilings.get (o.1.field "asset") = some ceiling)
      (hprint : Printable (o.1.field "payTo"))
      (hbreak : TextBreaks (o.1.field "asset") ∨ HasBreak d.config.caip2 ∨
        TextBreaks (o.1.field "payTo"))

/-- The payments that print a line break in their asset or their network, though they do
    not fail. -/
inductive PayShows (d : PayerDeps) (url maxAmount : JsString) (tr : List PayEvent) : Prop where
  | settled (first res : Response) (bytes : Bytes) (o : Order) (asset : JsString)
      (hfirst : firstResponse tr = some first) (hstatus : first.status = 402)
      (hopened : Opened d url maxAmount first o) (hread : bodiesRead tr = [(res, bytes)])
      (hasset : o.asset = .str asset) (hrender : Renderable (resourceOf o.challenge))
      (hbreak : HasBreak asset ∨ HasBreak d.config.network)

section Quotes

variable {d : PayerDeps} {l : SpendLedger} {tr : List PayEvent} {challenge : JsValue}
  {accepts : List JsValue}

/-- The options of a challenge that can be priced are all there. -/
theorem Challenged.readable {first : Response} (h : Challenged d first challenge)
    (haccepts : acceptsOf challenge = .ok accepts) : ∀ a ∈ accepts, a.nullish = false := by
  obtain ⟨accepts', offered, haccepts', hoffered⟩ := h.offered
  obtain rfl : accepts = accepts' := Except.ok.inj (haccepts.symm.trans haccepts')
  exact describeOptions_isOk.mp ⟨offered, hoffered⟩

/-- An asset without a ceiling is refused by name. -/
theorem remaining_breaks_iff {asset : JsValue} : ThrowsBreak (l.remainingFor asset) ↔
    l.ceilings.get asset = none ∧ TextBreaks asset := by
  have hunknown : ThrowsBreak (throwSessionCeilingExceeded asset 0 0 0 : Except JsError Int) ↔
      TextBreaks asset := sessionCeiling_breaks_iff
  rw [SpendLedger.remainingFor, throwsBreak_bind, SpendLedger.ceilingFor]
  cases l.ceilings.get asset with
  | none =>
      simp only [hunknown, true_and]
      refine or_iff_left ?_
      rintro ⟨ceiling, hok, -⟩
      exact SpendLedger.throwSessionCeilingExceeded_ne_ok hok
  | some ceiling =>
      simp only [reduceCtorEq, false_and, iff_false, not_or]
      refine ⟨not_throwsBreak_ok ceiling, ?_⟩
      rintro ⟨_, -, hbreak⟩
      exact not_throwsBreak_ok _ hbreak

/-- What a quote prints of a challenge when it can pay nothing, and when it can. -/
theorem printed_breaks_iff (d : PayerDeps) (l : SpendLedger) (challenge : JsValue) :
    (∃ texts, (quotePrinted d l challenge).mapM JsValue.toStr = .ok texts ∧
      ∃ t ∈ texts, HasBreak t) ↔
    ThrowsBreak (pricedOption d l challenge) ∨ ∃ chosen amount remaining,
      pricedOption d l challenge = .ok (chosen, amount, remaining) ∧
        Printable (chosen.field "payTo") ∧ (TextBreaks (chosen.field "asset") ∨
          HasBreak d.config.caip2 ∨ TextBreaks (chosen.field "payTo")) := by
  rw [quotePrinted]
  cases hpriced : pricedOption d l challenge with
  | error err =>
      have htexts : [JsValue.str err.message].mapM JsValue.toStr = .ok [err.message] := rfl
      simp only [htexts, throwsBreak_error_iff, reduceCtorEq, false_and, exists_false, or_false,
        Except.ok.injEq, exists_eq_left', List.mem_singleton, exists_eq_left]
  | ok priced =>
      obtain ⟨chosen, amount, remaining⟩ := priced
      obtain ⟨digits, asset, -, -, hasset, hnetwork⟩ := pricedOption_spec hpriced
      -- The asset and the network are texts, so the receiver alone can fail to print.
      have htexts : [chosen.field "asset", chosen.field "network", chosen.field "payTo"].mapM
          JsValue.toStr = (chosen.field "payTo").toStr.map (fun payTo =>
            [asset, d.config.caip2, payTo]) := by
        rw [hasset, hnetwork]
        simp only [List.mapM_cons, List.mapM_nil]
        cases (chosen.field "payTo").toStr <;> rfl
      -- There is one priced option, so what is said of some such option is said of it.
      have honly : (∃ chosen' amount' remaining', (Except.ok (chosen, amount, remaining) :
          Except JsError (JsValue × Int × Int)) = .ok (chosen', amount', remaining') ∧
            Printable (chosen'.field "payTo") ∧ (TextBreaks (chosen'.field "asset") ∨
              HasBreak d.config.caip2 ∨ TextBreaks (chosen'.field "payTo"))) ↔
          Printable (chosen.field "payTo") ∧ (HasBreak asset ∨ HasBreak d.config.caip2 ∨
            TextBreaks (chosen.field "payTo")) := by
        rw [← textBreaks_str asset, ← hasset]
        constructor
        · rintro ⟨chosen', amount', remaining', h, hbreak⟩
          obtain rfl : chosen = chosen' := (Prod.mk.inj (Except.ok.inj h)).1
          exact hbreak
        · exact fun hbreak => ⟨chosen, amount, remaining, rfl, hbreak⟩
      rw [honly, ← toStr_isOk_iff]
      simp only [htexts, not_throwsBreak_ok, false_or, TextBreaks]
      cases (chosen.field "payTo").toStr with
      | error e =>
          simp only [Except.map, reduceCtorEq, false_and, exists_false]
      | ok payTo =>
          simp only [Except.map, Except.ok.injEq, exists_eq', exists_eq_left', true_and,
            List.mem_cons, List.not_mem_nil, or_false, exists_eq_or_imp, exists_eq_left]

/-- What is cleared is the option that the guards select. -/
theorem cleared_selects_iff {challenge chosen : JsValue} {accepts : List JsValue} {amount : Int}
    (haccepts : acceptsOf challenge = .ok accepts) (hread : ∀ a ∈ accepts, a.nullish = false) :
    clearOneOption d.config challenge noPriceLimit = .ok (chosen, amount) ↔
      ∃ i, Selects noPriceLimit (payerOptions d.config accepts) (chosen, i) ∧
        amount = amountIn (chosen, i) := by
  rw [clearOneOption_ok_iff]
  constructor
  · rintro ⟨accepts', i, haccepts', -, hselects⟩
    obtain rfl : accepts = accepts' := Except.ok.inj (haccepts.symm.trans haccepts')
    exact ⟨i, hselects⟩
  · rintro ⟨i, hselects⟩
    exact ⟨accepts, i, haccepts, hread, hselects⟩

theorem quoteShows_iff : QuotePrints d l tr HasBreak (fun _ => False) ↔ QuoteShows d l tr := by
  simp only [QuotePrints, or_false, printed_breaks_iff]
  constructor
  · rintro ⟨first, challenge, hfirst, hc, hrender, hprinted⟩
    obtain ⟨accepts, -, haccepts, -⟩ := hc.offered
    have hread := hc.readable haccepts
    -- What throws does so in the selection or for want of a ceiling.
    rcases hprinted with hthrows | ⟨chosen, amount, remaining, hpriced, hprint, hbreak⟩
    · rw [pricedOption, throwsBreak_bind, clear_breaks_iff] at hthrows
      rcases hthrows with ⟨accepts', haccepts', -, hbreak⟩ | ⟨⟨chosen, amount⟩, hcleared, hthrows⟩
      · exact .refused first challenge accepts' hfirst hc hrender haccepts' hbreak
      · rw [throwsBreak_bind, remaining_breaks_iff] at hthrows
        obtain ⟨i, hselects, -⟩ := (cleared_selects_iff haccepts hread).mp hcleared
        rcases hthrows with ⟨hnone, hbreak⟩ | ⟨remaining, -, hbreak⟩
        · exact .unbudgeted first challenge accepts (chosen, i) hfirst hc hrender haccepts hselects
            hnone hbreak
        · exact absurd hbreak (not_throwsBreak_ok _)
    · obtain ⟨⟨chosen', amount'⟩, hcleared, hpriced⟩ := bind_eq_ok.mp hpriced
      obtain ⟨remaining', hremaining, hpriced⟩ := bind_eq_ok.mp hpriced
      obtain rfl : chosen' = chosen := (Prod.mk.inj (Except.ok.inj hpriced)).1
      obtain ⟨i, hselects, -⟩ := (cleared_selects_iff haccepts hread).mp hcleared
      obtain ⟨ceiling, hceiling, -⟩ := bind_eq_ok.mp hremaining
      exact .option first challenge accepts (chosen', i) ceiling hfirst hc hrender haccepts hselects
        (SpendLedger.ceilingFor_eq_ok.mp hceiling) hprint hbreak
  · intro h
    -- Each way of the seller's makes the same quote.
    cases h with
    | refused first challenge accepts hfirst hc hrender haccepts hbreak =>
        refine ⟨first, challenge, hfirst, hc, hrender, .inl ?_⟩
        rw [pricedOption, throwsBreak_bind, clear_breaks_iff]
        exact .inl ⟨accepts, haccepts, hc.readable haccepts, hbreak⟩
    | unbudgeted first challenge accepts o hfirst hc hrender haccepts hselects hnone hbreak =>
        refine ⟨first, challenge, hfirst, hc, hrender, .inl ?_⟩
        rw [pricedOption, throwsBreak_bind]
        refine .inr ⟨(o.1, amountIn o), ?_, ?_⟩
        · exact (cleared_selects_iff haccepts (hc.readable haccepts)).mpr ⟨o.2, hselects, rfl⟩
        · exact throwsBreak_bind.mpr (.inl (remaining_breaks_iff.mpr ⟨hnone, hbreak⟩))
    | option first challenge accepts o ceiling hfirst hc hrender haccepts hselects hsome hprint
        hbreak =>
        obtain ⟨remaining, hremaining⟩ : ∃ remaining,
            l.remainingFor (o.1.field "asset") = .ok remaining :=
          ⟨_, bind_eq_ok.mpr ⟨ceiling, SpendLedger.ceilingFor_eq_ok.mpr hsome, rfl⟩⟩
        refine ⟨first, challenge, hfirst, hc, hrender,
          .inr ⟨o.1, amountIn o, remaining, ?_, hprint, hbreak⟩⟩
        refine bind_eq_ok.mpr ⟨(o.1, amountIn o), ?_, bind_eq_ok.mpr ⟨remaining, hremaining, rfl⟩⟩
        exact (cleared_selects_iff haccepts (hc.readable haccepts)).mpr ⟨o.2, hselects, rfl⟩

end Quotes

theorem payShows_iff {d : PayerDeps} {url maxAmount : JsString} {tr : List PayEvent} :
    PayPrints d url maxAmount tr HasBreak (fun _ => False) (fun _ => False) ↔
      PayShows d url maxAmount tr := by
  constructor
  · rintro ⟨first, res, bytes, hfirst, hread, ⟨-, hnone⟩ |
      ⟨hstatus, o, asset, hopened, hasset, hrender, hbreak | hnone | hnone⟩⟩
    · exact hnone.elim
    · exact .settled first res bytes o asset hfirst hstatus hopened hread hasset hrender hbreak
    · exact hnone.elim
    · exact hnone.elim
  · intro h
    cases h with
    | settled first res bytes o asset hfirst hstatus hopened hread hasset hrender hbreak =>
        exact ⟨first, res, bytes, hfirst, hread,
          .inr ⟨hstatus, o, asset, hopened, hasset, hrender, .inl hbreak⟩⟩

section Replies

variable {d : PayerDeps} {l l' : SpendLedger} {tr : List PayEvent} {out : OutputDeps}

/-- Redacting seeds neither makes a line break nor takes one out. -/
theorem hasBreak_redact_iff {secrets : List JsString}
    (hsecrets : ∀ secret ∈ secrets, isSeed secret = true) (text : JsString) :
    HasBreak (redact secrets text) ↔ HasBreak text := by
  have hclear : ∀ u : CodeUnit, isLineBreak u = true → isBase32 u = false ∧ u ∉ redacted := by
    intro u hu
    have hpiece : ∀ v ∈ redacted, isLineBreak v = false := by decide
    refine ⟨?_, fun hmem => ?_⟩
    · simp only [isLineBreak, isNewlineOrTab, Bool.and_eq_true, Bool.or_eq_true, beq_iff_eq, bne_iff_ne,
        ne_eq, ← UInt16.toNat_inj, UInt16.reduceToNat] at hu
      simp only [isBase32, Bool.or_eq_false_iff, Bool.and_eq_false_iff, decide_eq_false_iff_not,
        UInt16.le_iff_toNat_le, UInt16.reduceToNat]
      omega
    · rw [hpiece u hmem] at hu
      exact absurd hu Bool.false_ne_true
  refine exists_congr (fun u => and_congr_left (fun hu => ?_))
  exact mem_redact_iff hsecrets (hclear u hu).1 (hclear u hu).2 text

variable (hsecrets : ∀ secret ∈ out.secrets, isSeed secret = true)
include hsecrets

/-- When the lines of a quote's reply are the server's own. -/
theorem quote_lines_iff {url : JsString} {answer : Except JsError QuoteResult}
    (hrun : Run payHandler (quote d url) l tr (.done answer) l') :
    (x402Quote out url answer).OwnLines ↔ ¬ QuoteFails d tr ∧ ¬ QuoteShows d l tr := by
  rw [quote_ownLines_iff, ← quote_fails_iff hrun, ← quoteShows_iff, ← not_or, not_iff_not]
  have hanswer := quote_answers hrun
  cases answer with
  | error err =>
      rw [or_iff_left (not_quotePrints hanswer), throwsBreak_error_iff]
      exact hasBreak_redact_iff hsecrets err.message
  | ok result =>
      rw [or_iff_right (not_throwsBreak_ok result)]
      refine Iff.trans ?_ (quotePrints_iff (M := fun _ => False) hanswer carried_lineBreak not_false)
      simp only [QuoteBreaks, or_false]

/-- When those of a payment's reply are. -/
theorem pay_lines_iff {url maxAmount : JsString} {answer : Except JsError PayResult}
    (hrun : Run payHandler (payExclusively d url maxAmount) l tr (.done answer) l') :
    (x402Pay out url answer).OwnLines ↔
      ¬ PayFails d url maxAmount l tr ∧ ¬ PayShows d url maxAmount tr := by
  rw [pay_ownLines_iff, ← pay_fails_iff hrun, ← payShows_iff, ← not_or, not_iff_not]
  have hanswer := pay_answers hrun
  cases answer with
  | error err =>
      rw [or_iff_left (not_payPrints hanswer), throwsBreak_error_iff]
      exact hasBreak_redact_iff hsecrets err.message
  | ok result =>
      rw [or_iff_right (not_throwsBreak_ok result)]
      refine Iff.trans ?_ (payPrints_iff (M := fun _ => False) (N := fun _ => False) hanswer
        carried_lineBreak not_false)
      simp only [PayBreaks, or_false]

end Replies

end Payer

end VellarSdk
