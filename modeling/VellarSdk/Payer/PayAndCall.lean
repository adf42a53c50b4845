import Mathlib.Data.List.Sort
import VellarSdk.Payer.Payer
import VellarSdk.X402.Selection

/-!
# Search and Pay

Search the Bazaar, take the cheapest result under a ceiling, and pay it.

`selectCandidates` goes over what the search returned. Of each entry that has a
URL it takes the first option this server could pay, if there is one, and moves
on to the next entry; the options after that one are not looked at. What it took
is sorted by amount, and `chooseCandidate` takes the first that is not over the
ceiling. `payAndCall` is the async body around it.

The search response is seller-supplied JSON, so reading it can throw: an entry
may be missing, and `accepts` may be something that cannot be gone over.

## Main definitions

* `readAmount`, `optionAmount`: The amount of an option this server could pay.
* `firstPayable`, `candidatesOf`, `selectCandidates`: The candidates of a search.
* `chooseCandidate`: The one that is paid.
* `payAndCall`: Search, choose and pay.
* `PayableOption`, `Lists`: The options of a search, without the scan.
* `FirstPayable`: The option the scan takes from an entry.
* `CheapestComesFirst`: A cheapest payable option is one the scan takes.

## Theorems

* `optionAmount_eq_some`: Which options are payable.
* `mem_candidatesOf`: Which candidates a scan finds.
* `chooseCandidate_cases`: Which candidate is chosen.
* `payAndCall_chooses`: What a run does with a search response.
* `payAndCall_cheapest_iff`: When a run pays the cheapest payable result.
-/

namespace VellarSdk

namespace Payer

open Js X402 Async

/-- A candidate that survived filtering, with the option that made it
    payable. -/
structure Candidate where
  url : JsValue
  amount : Int
  asset : JsValue

/-- The characters of a string: surrogates stay together in pairs. -/
def characters : JsString → List JsString
  | u :: v :: rest =>
      if 0xD800 ≤ u ∧ u ≤ 0xDBFF ∧ 0xDC00 ≤ v ∧ v ≤ 0xDFFF then [u, v] :: characters rest
      else [u] :: characters (v :: rest)
  | [u] => [[u]]
  | [] => []

/-- What `for (const x of v)` goes over. -/
def iterate : JsValue → Except NativeError (List JsValue)
  | .arr items => .ok items
  | .str s => .ok ((characters s).map JsValue.str)
  | .buffer bytes => .ok (bytes.map (fun b => .num (.finite b.toNat)))
  | _ => .error .typeError

/-- The member access `v.length`, of something that can be gone over. -/
def resultCount : JsValue → Nat
  | .arr items => items.length
  | .str s => s.length
  | .buffer bytes => bytes.length
  | _ => 0

/-- `BigInt(accept.amount)`, where it is not negative. A non-integer amount is a
    malformed entry, not a free resource. -/
def readAmount (v : JsValue) : Except NativeError (Option Int) :=
  match v.toBigInt with
  | .error _ => return none
  | .ok amount => if amount < 0 then return none else return some amount

/-- The amount of an option this server could pay, and nothing where it could
    not. -/
def optionAmount (config : PayerConfig) (a : JsValue) : Except NativeError (Option Int) := do
  let network ← a.prop "network"
  if !network.strictEq config.caip2 then return none
  else if !(a.field "scheme").strictEq (js "exact") then return none
  else if !(a.field "asset").truthy || !assetIn config.allowedAssets a then return none
  else if !declaresSponsorship true a then return none
  else if (a.field "amount").strictEq .undefined then return none
  else readAmount (a.field "amount")

/-- The inner loop: one option per resource is enough. -/
def firstPayable (config : PayerConfig) (url : JsValue) :
    List JsValue → Except NativeError (Option Candidate)
  | [] => .ok none
  | a :: rest => do
      match ← optionAmount config a with
      | some amount => return some { url := url, amount := amount, asset := a.field "asset" }
      | none => firstPayable config url rest

/-- The outer loop. -/
def candidatesOf (config : PayerConfig) : List JsValue → Except NativeError (List Candidate)
  | [] => .ok []
  | r :: rest => do
      let url ← r.prop "resource"
      if !url.truthy then candidatesOf config rest
      else do
        let accepts ← iterate ((r.field "accepts").orElse (.arr []))
        let found ← firstPayable config url accepts
        return found.toList ++ (← candidatesOf config rest)

/-- Filter a search response to what this server could actually pay, cheapest
    first. Candidates of one amount stay in order. -/
def selectCandidates (config : PayerConfig) (data : JsValue) :
    Except NativeError (List Candidate × Nat) := do
  let resources := (← data.prop "resources").orElse (.arr [])
  let payable ← candidatesOf config (← iterate resources)
  return (payable.insertionSort (fun x y => x.amount ≤ y.amount), resultCount resources)

/-- `throw new NoPayableResultError(message, { resultsFound, … })`. -/
def throwNoPayableResult {α : Type} (message : JsString) (resultsFound : Nat)
    (cheapestAmount : Option Int) (cheapestAsset : Option JsValue) : Except JsError α :=
  .error ⟨.noPayableResult resultsFound cheapestAmount cheapestAsset, message⟩

/-- Nothing is payable at all. -/
def nonePayableMessage (resultsFound : Nat) : JsString :=
  js "no result is payable by this server. " ++ natToString resultsFound ++
    js (" result(s) were found, but none offered an 'exact' option on the configured network " ++
      "in an allowed asset with sponsored fees.")

/-- Everything costs more than the ceiling. -/
def noneUnderMessage (ceiling amount : Int) (asset : JsString) : JsString :=
  js "nothing is under max_amount " ++ intToString ceiling ++
    js ". The cheapest payable result costs " ++ intToString amount ++ js " base units of " ++
    asset ++ js ". Nothing was signed and nothing was spent."

/-- The first of the candidates under the ceiling, with the number of results
    found and of those under it. -/
def chooseUnder (ceiling : Int) (resultsFound : Nat) :
    List Candidate → Except JsError (Candidate × Nat × Nat)
  | [] => throwNoPayableResult (nonePayableMessage resultsFound) resultsFound none none
  | cheapest :: rest =>
      match (cheapest :: rest).filter (fun c => c.amount ≤ ceiling) with
      | [] => do
          -- The cheapest price is named, so that it can be asked for.
          let asset ← cheapest.asset.toStr
          throwNoPayableResult (noneUnderMessage ceiling cheapest.amount asset) resultsFound
            (some cheapest.amount) (some cheapest.asset)
      | chosen :: affordable => return (chosen, resultsFound, (chosen :: affordable).length)

/-- The candidate that is paid. -/
def chooseCandidate (config : PayerConfig) (data : JsValue) (ceiling : Int) :
    Except JsError (Candidate × Nat × Nat) := do
  let selected ← selectCandidates config data
  chooseUnder ceiling selected.2 selected.1

/-- The calls of a search and payment. -/
inductive BazaarOp where
  /-- `fetchImpl(url)`. -/
  | search (url : JsString)
  /-- `res.json()`. -/
  | json (res : Response)
  /-- `payer.pay(url, maxAmount)`. -/
  | pay (url : JsValue) (maxAmount : JsString)

/-- What each call returns. -/
@[reducible] def BazaarOp.Ret : BazaarOp → Type
  | .search _ => Response
  | .json _ => JsValue
  | .pay _ _ => PayResult

/-- The body of a search and payment. -/
abbrev Bazaar := Task BazaarOp BazaarOp.Ret JsError

/-- A call of a search and payment, with its reply. -/
abbrev BazaarEvent := Event BazaarOp BazaarOp.Ret JsError

/-- Every call is answered by the network. -/
def bazaarHandler : Handler BazaarOp BazaarOp.Ret JsError Unit where
  exec _ := none

/-- What a search and payment is given. The URL of a search on a base, which the
    platform builds, is a parameter. -/
structure PayAndCallDeps where
  config : PayerConfig
  ledger : SpendLedger
  facilitatorUrl : Option JsString
  envFacilitatorUrl : Option JsString
  searchUrl : (base query : JsString) → Except JsError JsString

/-- `DEFAULT_FACILITATOR_URL`. -/
def defaultFacilitatorUrl : JsString := "https://vellar-facilitator.onrender.com"

/-- The facilitator that is searched. -/
def PayAndCallDeps.base (d : PayAndCallDeps) : JsString :=
  (d.facilitatorUrl.orElse (fun _ => d.envFacilitatorUrl)).getD defaultFacilitatorUrl

/-- The answer of a search and payment. -/
structure PayAndCallResult extends PayResult where
  selectedUrl : JsValue
  query : JsString
  resultsFound : Nat
  resultsPayable : Nat

/-- Has one of the assets room for even the smallest spend? -/
def anyRoom (l : SpendLedger) : List JsString → Except JsError Bool
  | [] => .ok false
  | asset :: rest => do
      let remaining ← l.remainingFor asset
      if remaining > 0 then return true else anyRoom l rest

/-- `res.ok`. -/
def isOkStatus (res : Response) : Bool :=
  200 ≤ res.status && res.status ≤ 299

/-- The one read of the facilitator's API. -/
def searchBazaar (d : PayAndCallDeps) (url : JsString) : Bazaar JsValue :=
  tryCatch (do
    let res ← (Task.perform (BazaarOp.search url) : Bazaar Response)
    if !isOkStatus res then
      throwPlain (js "the Bazaar returned HTTP " ++ natToString res.status)
    else Task.perform (BazaarOp.json res))
  (fun err => throwPlain (js "could not reach the Bazaar at " ++ d.base ++ js ": " ++ err.message ++
    js (". If this is the hosted instance it may be cold-starting, which takes roughly 45 " ++
      "seconds; retry once before concluding it is down.")))

/-- Search the Bazaar, select the cheapest payable result under `maxAmount`, and
    pay it. -/
def payAndCall (d : PayAndCallDeps) (query maxAmount : JsString) : Bazaar PayAndCallResult := do
  if !isDigits maxAmount then
    throwPlain "max_amount must be a non-negative integer in the asset's base units"
  else do
    let ceiling ← (liftM (JsValue.stringToBigInt maxAmount) : Except JsError Int)
    -- A call that could not pay anything never reaches the network.
    let room ← anyRoom d.ledger d.config.allowedAssets
    if !room then
      throwPlain ("session ceiling exhausted for every allowed asset. This limit is set at " ++
        "startup and cannot be raised by a tool call.")
    else do
      let url ← d.searchUrl d.base query
      let data ← searchBazaar d url
      let (chosen, resultsFound, resultsPayable) ← chooseCandidate d.config data ceiling
      let result ← (Task.perform (BazaarOp.pay chosen.url maxAmount) : Bazaar PayResult)
      return { toPayResult := result, selectedUrl := chosen.url, query := query
               resultsFound := resultsFound, resultsPayable := resultsPayable }

/-- An option this server could pay, with its amount. -/
structure PayableOption (config : PayerConfig) (a : JsValue) (amount : Int) : Prop where
  network : a.field "network" = .str config.caip2
  scheme : a.field "scheme" = .str (js "exact")
  allowed : ∃ asset ∈ config.allowedAssets, asset ≠ [] ∧ a.field "asset" = .str asset
  sponsored : (a.field "extra").optProp "areFeesSponsored" = .bool true
  parsed : (a.field "amount").toBigInt = .ok amount
  nonneg : 0 ≤ amount

/-- An entry of a search response: its URL, and the options it lists. -/
def IsEntry (data url : JsValue) (accepts : List JsValue) : Prop :=
  ∃ resources r, iterate ((data.field "resources").orElse (.arr [])) = .ok resources ∧
    r ∈ resources ∧ r.field "resource" = url ∧ url.truthy = true ∧
    iterate ((r.field "accepts").orElse (.arr [])) = .ok accepts

/-- A search response lists a payable option. -/
def Lists (config : PayerConfig) (data url a : JsValue) (amount : Int) : Prop :=
  ∃ accepts, IsEntry data url accepts ∧ a ∈ accepts ∧ PayableOption config a amount

/-- The first of several options that this server could pay. -/
def FirstPayable (config : PayerConfig) (accepts : List JsValue) (a : JsValue) (amount : Int) :
    Prop :=
  ∃ before after, accepts = before ++ a :: after ∧ PayableOption config a amount ∧
    ∀ b ∈ before, ∀ n, ¬ PayableOption config b n

/-- A candidate of a search response: the first payable option of an entry. -/
def IsCandidate (config : PayerConfig) (data : JsValue) (c : Candidate) : Prop :=
  ∃ accepts a, IsEntry data c.url accepts ∧ FirstPayable config accepts a c.amount ∧
    c.asset = a.field "asset"

/-- The first payable option of some entry costs no more than any payable
    option. -/
def CheapestComesFirst (config : PayerConfig) (data : JsValue) : Prop :=
  ∀ url a n, Lists config data url a n → ∃ url' accepts b m, IsEntry data url' accepts ∧
    FirstPayable config accepts b m ∧ m ≤ n

/-- The candidate is a payable option of the response, under the ceiling, and no
    payable option under the ceiling is cheaper. -/
structure CheapestUnder (config : PayerConfig) (data : JsValue) (ceiling : Int) (c : Candidate) :
    Prop where
  listed : ∃ a, Lists config data c.url a c.amount ∧ c.asset = a.field "asset"
  under : c.amount ≤ ceiling
  least : ∀ url a n, Lists config data url a n → n ≤ ceiling → c.amount ≤ n

/-- No payable option of the response is under the ceiling, and the amount is
    the least of theirs. -/
structure NothingUnder (config : PayerConfig) (data : JsValue) (ceiling amount : Int) :
    Prop where
  dearer : ∀ url a n, Lists config data url a n → ceiling < n
  listed : ∃ url a, Lists config data url a amount
  least : ∀ url a n, Lists config data url a n → amount ≤ n

/-- What follows a search is right about the response: the candidate it pays is
    the cheapest one, and where it refuses for the price there is none. -/
structure ChoosesCheapest (config : PayerConfig) (data : JsValue) (ceiling : Int)
    (t : Bazaar PayAndCallResult) : Prop where
  pays : ∀ url m k, t = .call (.pay url m) k → ∃ chosen n affordable,
    chooseCandidate config data ceiling = .ok (chosen, n, affordable) ∧ chosen.url = url ∧
    CheapestUnder config data ceiling chosen
  refuses : ∀ n amount asset text,
    t = .done (.error ⟨.noPayableResult n (some amount) asset,
      noneUnderMessage ceiling amount text⟩) → NothingUnder config data ceiling amount

section Scan

variable {config : PayerConfig} {data url a : JsValue} {amount ceiling : Int}

theorem assetIn_truthy_iff {assets : List JsString} : ((a.field "asset").truthy = true ∧
    assetIn assets a = true) ↔ ∃ asset ∈ assets, asset ≠ [] ∧ a.field "asset" = .str asset := by
  rw [assetIn_iff]
  constructor
  · rintro ⟨htruthy, asset, hmem, hasset⟩
    refine ⟨asset, hmem, ?_, hasset⟩
    rintro rfl
    rw [hasset] at htruthy
    exact absurd htruthy (by decide)
  · rintro ⟨asset, hmem, hne, hasset⟩
    refine ⟨?_, asset, hmem, hasset⟩
    rw [hasset, JsValue.truthy]
    simpa only [Bool.not_eq_true', List.isEmpty_eq_false_iff] using hne

/-- An option that is skipped has no amount. -/
theorem skip_if {skipped : Bool} {x : Except NativeError (Option Int)} :
    (if skipped = true then pure none else x) = .ok (some amount) ↔
      skipped = false ∧ x = .ok (some amount) := by
  cases skipped with
  | true =>
      refine iff_of_false ?_ (fun h => absurd h.1 (by decide))
      simp only [if_true, pure, Except.pure, Except.ok.injEq, reduceCtorEq, not_false_eq_true]
  | false => simp only [Bool.false_eq_true, if_false, true_and]

/-- The last checks of an option, on its amount. -/
theorem readAmount_iff {v : JsValue} :
    readAmount v = .ok (some amount) ↔ v.toBigInt = .ok amount ∧ 0 ≤ amount := by
  rw [readAmount]
  cases v.toBigInt with
  | error e =>
      refine iff_of_false ?_ (fun h => ?_)
      · simp only [pure, Except.pure, Except.ok.injEq, reduceCtorEq, not_false_eq_true]
      · exact absurd h.1 (by simp only [reduceCtorEq, not_false_eq_true])
  | ok n =>
      rw [Except.ok.injEq]
      by_cases hneg : n < 0
      · simp only [if_pos hneg]
        refine iff_of_false ?_ (by omega)
        simp only [pure, Except.pure, Except.ok.injEq, reduceCtorEq, not_false_eq_true]
      · simp only [if_neg hneg, pure, Except.pure, Except.ok.injEq, Option.some.injEq]
        omega

/-- The scan gives an amount to the payable options, and to no others. -/
theorem optionAmount_eq_some :
    optionAmount config a = .ok (some amount) ↔ PayableOption config a amount := by
  unfold optionAmount
  rw [bind_eq_ok]
  constructor
  · rintro ⟨network, hread, h⟩
    rcases JsValue.prop_eq_ok hread with ⟨-, rfl⟩
    simp only [skip_if, Bool.not_eq_false', Bool.or_eq_false_iff, JsValue.strictEq_iff_of_str,
      readAmount_iff, declaresSponsorship_iff] at h
    rcases h with ⟨hnetwork, hscheme, hasset, hsponsored, -, hparsed, hnonneg⟩
    exact ⟨hnetwork, hscheme, assetIn_truthy_iff.mp hasset, hsponsored, hparsed, hnonneg⟩
  · intro h
    -- An option that has fields is not missing, and an amount that is read is there.
    have hread : a.prop "network" = .ok (a.field "network") := by
      rw [JsValue.prop, JsValue.nullish_of_field h.network (by simp only [ne_eq, reduceCtorEq,
        not_false_eq_true]), if_neg Bool.false_ne_true]
    have hpresent : (a.field "amount").strictEq .undefined = false := by
      rw [← Bool.not_eq_true]
      intro hmissing
      have hparsed := h.parsed
      rw [JsValue.eq_of_strictEq hmissing] at hparsed
      exact absurd hparsed (by simp only [JsValue.toBigInt, reduceCtorEq, not_false_eq_true])
    refine ⟨a.field "network", hread, ?_⟩
    simp only [skip_if, Bool.not_eq_false', Bool.or_eq_false_iff, JsValue.strictEq_iff_of_str,
      readAmount_iff, declaresSponsorship_iff]
    exact ⟨h.network, h.scheme, assetIn_truthy_iff.mpr h.allowed, h.sponsored, hpresent, h.parsed,
      h.nonneg⟩

/-- An option is put in front: it is taken if it is payable, and otherwise
    passed over. -/
theorem firstPayable_cons {b : JsValue} {rest : List JsValue} :
    FirstPayable config (b :: rest) a amount ↔ (b = a ∧ PayableOption config a amount) ∨
      ((∀ n, ¬ PayableOption config b n) ∧ FirstPayable config rest a amount) := by
  constructor
  · rintro ⟨before, after, hsplit, hpayable, hnone⟩
    cases before with
    | nil =>
        rw [List.nil_append, List.cons.injEq] at hsplit
        exact .inl ⟨hsplit.1, hpayable⟩
    | cons c before =>
        rw [List.cons_append, List.cons.injEq] at hsplit
        obtain ⟨rfl, rfl⟩ := hsplit
        rw [List.forall_mem_cons] at hnone
        exact .inr ⟨hnone.1, before, after, rfl, hpayable, hnone.2⟩
  · rintro (⟨rfl, hpayable⟩ | ⟨hb, before, after, rfl, hpayable, hnone⟩)
    · exact ⟨[], rest, rfl, hpayable, fun b hb => absurd hb List.not_mem_nil⟩
    · exact ⟨b :: before, after, rfl, hpayable, List.forall_mem_cons.mpr ⟨hb, hnone⟩⟩

theorem FirstPayable.mem {accepts : List JsValue} (h : FirstPayable config accepts a amount) :
    a ∈ accepts := by
  obtain ⟨before, after, rfl, -, -⟩ := h
  exact List.mem_append_right before List.mem_cons_self

/-- The inner loop takes the first payable option. -/
theorem firstPayable_spec {accepts : List JsValue} {found : Option Candidate}
    (h : firstPayable config url accepts = .ok found) (c : Candidate) :
    found = some c ↔ c.url = url ∧ ∃ a, FirstPayable config accepts a c.amount ∧
      c.asset = a.field "asset" := by
  induction accepts with
  | nil =>
      rw [← Except.ok.inj h]
      refine iff_of_false (by simp only [reduceCtorEq, not_false_eq_true]) ?_
      rintro ⟨-, a, hfirst, -⟩
      exact absurd hfirst.mem List.not_mem_nil
  | cons b rest ih =>
      simp only [firstPayable_cons]
      rcases bind_eq_ok.mp h with ⟨read, hread, hrest⟩
      cases read with
      | some n =>
          injection hrest with hrest
          rw [← hrest, Option.some.injEq]
          -- The option can be paid, so it is the first and the loop stops here.
          have hpayable := optionAmount_eq_some.mp hread
          constructor
          · rintro rfl
            exact ⟨rfl, b, .inl ⟨rfl, hpayable⟩, rfl⟩
          · rintro ⟨hurl, a, ⟨rfl, ha⟩ | ⟨hnone, -⟩, hasset⟩
            · have hsame := ha.parsed
              rw [hpayable.parsed, Except.ok.injEq] at hsame
              rw [hsame, ← hurl, ← hasset]
            · exact absurd hpayable (hnone n)
      | none =>
          -- The option cannot be paid, so the first is among the others.
          have hnone : ∀ n, ¬ PayableOption config b n := by
            intro n hn
            rw [optionAmount_eq_some.mpr hn] at hread
            exact absurd hread (by simp only [Except.ok.injEq, reduceCtorEq, not_false_eq_true])
          rw [ih hrest]
          refine and_congr_right (fun _ => exists_congr (fun a => and_congr_left (fun _ => ?_)))
          constructor
          · exact fun hfirst => .inr ⟨hnone, hfirst⟩
          · rintro (⟨rfl, ha⟩ | ⟨-, hfirst⟩)
            · exact absurd ha (hnone c.amount)
            · exact hfirst

/-- The outer loop takes the first payable option of every entry with a URL. -/
theorem mem_candidatesOf {resources : List JsValue} {found : List Candidate}
    (h : candidatesOf config resources = .ok found) (c : Candidate) :
    c ∈ found ↔ ∃ r ∈ resources, r.field "resource" = c.url ∧ c.url.truthy = true ∧
      ∃ accepts a, iterate ((r.field "accepts").orElse (.arr [])) = .ok accepts ∧
        FirstPayable config accepts a c.amount ∧ c.asset = a.field "asset" := by
  induction resources generalizing found with
  | nil =>
      rw [← Except.ok.inj h]
      refine iff_of_false List.not_mem_nil ?_
      rintro ⟨r, hr, -⟩
      exact absurd hr List.not_mem_nil
  | cons r rest ih =>
      rcases bind_eq_ok.mp h with ⟨url, hurl, hentry⟩
      rcases JsValue.prop_eq_ok hurl with ⟨-, rfl⟩
      simp only [List.exists_mem_cons_iff]
      by_cases htruthy : (r.field "resource").truthy = true
      · rw [if_neg (by rw [htruthy]; decide)] at hentry
        rcases bind_eq_ok.mp hentry with ⟨accepts, haccepts, hscan⟩
        rcases bind_eq_ok.mp hscan with ⟨first, hfirst, hothers⟩
        rcases bind_eq_ok.mp hothers with ⟨others, hothers, hret⟩
        rw [← Except.ok.inj hret, List.mem_append, Option.mem_toList, firstPayable_spec hfirst,
          ih hothers]
        refine or_congr_left ?_
        constructor
        · rintro ⟨hurl, a, hpayable, hasset⟩
          exact ⟨hurl.symm, hurl ▸ htruthy, accepts, a, haccepts, hpayable, hasset⟩
        · rintro ⟨hurl, -, accepts', a, haccepts', hpayable, hasset⟩
          obtain rfl := Except.ok.inj (haccepts.symm.trans haccepts')
          exact ⟨hurl.symm, a, hpayable, hasset⟩
      · rw [if_pos (by rw [Bool.not_eq_true', ← Bool.not_eq_true]; exact htruthy)] at hentry
        rw [ih hentry]
        -- An entry without a URL adds nothing.
        refine (or_iff_right ?_).symm
        rintro ⟨hurl, hc, -⟩
        exact htruthy (hurl ▸ hc)

/-- A list with a payable option has a first one. -/
theorem exists_firstPayable {accepts : List JsValue} (ha : a ∈ accepts)
    (hpayable : PayableOption config a amount) : ∃ b m, FirstPayable config accepts b m := by
  induction accepts with
  | nil => exact absurd ha List.not_mem_nil
  | cons b rest ih =>
      simp only [firstPayable_cons]
      by_cases hb : ∃ m, PayableOption config b m
      · rcases hb with ⟨m, hm⟩
        exact ⟨b, m, .inl ⟨rfl, hm⟩⟩
      · rw [not_exists] at hb
        rcases List.mem_cons.mp ha with rfl | ha
        · exact absurd hpayable (hb amount)
        · rcases ih ha with ⟨c, m, hfirst⟩
          exact ⟨c, m, .inr ⟨hb, hfirst⟩⟩

/-- What the scan found, in the order it is looked at. -/
theorem selectCandidates_spec {payable : List Candidate} {resultsFound : Nat}
    (h : selectCandidates config data = .ok (payable, resultsFound)) :
    (∀ c, c ∈ payable ↔ IsCandidate config data c) ∧
      payable.Pairwise (fun x y => x.amount ≤ y.amount) := by
  rcases bind_eq_ok.mp h with ⟨resources, hresources, hscan⟩
  rcases JsValue.prop_eq_ok hresources with ⟨-, rfl⟩
  rcases bind_eq_ok.mp hscan with ⟨entries, hentries, hfound⟩
  rcases bind_eq_ok.mp hfound with ⟨found, hfound, hret⟩
  injection hret with hret
  injection hret with hsorted
  rw [← hsorted]
  constructor
  · intro c
    rw [List.mem_insertionSort, mem_candidatesOf hfound]
    constructor
    · rintro ⟨r, hr, hurl, htruthy, accepts, a, haccepts, hfirst, hasset⟩
      exact ⟨accepts, a, ⟨entries, r, hentries, hr, hurl, htruthy, haccepts⟩, hfirst, hasset⟩
    · rintro ⟨accepts, a, ⟨entries', r, hentries', hr, hurl, htruthy, haccepts⟩, hfirst, hasset⟩
      obtain rfl := Except.ok.inj (hentries.symm.trans hentries')
      exact ⟨r, hr, hurl, htruthy, accepts, a, haccepts, hfirst, hasset⟩
  · refine List.pairwise_insertionSort _ found

/-- How the choice ends: the response cannot be gone over, there is no
    candidate, or the cheapest one is chosen or too dear. -/
theorem chooseCandidate_cases (config : PayerConfig) (data : JsValue) (ceiling : Int) :
    (∃ e, selectCandidates config data = .error e ∧
      chooseCandidate config data ceiling = .error ⟨.native e, []⟩) ∨
    ((∀ c, ¬ IsCandidate config data c) ∧ ∃ n, chooseCandidate config data ceiling =
      .error ⟨.noPayableResult n none none, nonePayableMessage n⟩) ∨
    ∃ c n, IsCandidate config data c ∧
      (∀ c', IsCandidate config data c' → c.amount ≤ c'.amount) ∧
      ((c.amount ≤ ceiling ∧ ∃ k, chooseCandidate config data ceiling = .ok (c, n, k)) ∨
        (ceiling < c.amount ∧ ∃ asset, c.asset = .str asset ∧
          chooseCandidate config data ceiling =
            .error ⟨.noPayableResult n (some c.amount) (some c.asset),
              noneUnderMessage ceiling c.amount asset⟩)) := by
  unfold chooseCandidate
  cases hselected : selectCandidates config data with
  | error e => exact .inl ⟨e, rfl, rfl⟩
  | ok selected =>
      rcases selected with ⟨payable, n⟩
      rcases selectCandidates_spec hselected with ⟨hmem, hsorted⟩
      refine .inr ?_
      cases payable with
      | nil =>
          refine .inl ⟨fun c hc => ?_, n, rfl⟩
          exact absurd ((hmem c).mpr hc) List.not_mem_nil
      | cons cheapest rest =>
          have hle : ∀ c ∈ cheapest :: rest, cheapest.amount ≤ c.amount :=
            List.forall_mem_cons.mpr ⟨le_refl _, (List.pairwise_cons.mp hsorted).1⟩
          have hcheapest := (hmem cheapest).mp List.mem_cons_self
          refine .inr ⟨cheapest, n, hcheapest, fun c hc => hle c ((hmem c).mpr hc), ?_⟩
          by_cases hunder : cheapest.amount ≤ ceiling
          · refine .inl ⟨hunder, (cheapest :: rest.filter (fun c => c.amount ≤ ceiling)).length, ?_⟩
            change chooseUnder ceiling n (cheapest :: rest) = _
            have hkept : (cheapest :: rest).filter (fun c => c.amount ≤ ceiling) =
                cheapest :: rest.filter (fun c => c.amount ≤ ceiling) :=
              List.filter_cons_of_pos (decide_eq_true hunder)
            rw [chooseUnder, hkept]
            rfl
          · -- What is sorted after it costs no less.
            rcases hcheapest with ⟨accepts, a, -, ⟨before, after, -, hpayable, -⟩, hasset⟩
            rcases hpayable.allowed with ⟨asset, -, -, hstr⟩
            refine .inr ⟨by omega, asset, hasset.trans hstr, ?_⟩
            have hnone : (cheapest :: rest).filter (fun c => c.amount ≤ ceiling) = [] := by
              rw [List.filter_eq_nil_iff]
              intro c hc
              have := hle c hc
              rw [decide_eq_true_eq]
              omega
            change chooseUnder ceiling n (cheapest :: rest) = _
            rw [chooseUnder, hnone, hasset, hstr]
            rfl

theorem IsCandidate.lists {c : Candidate} (h : IsCandidate config data c) :
    ∃ a, Lists config data c.url a c.amount ∧ c.asset = a.field "asset" := by
  rcases h with ⟨accepts, a, hentry, hfirst, hasset⟩
  have hmem := hfirst.mem
  obtain ⟨before, after, -, hpayable, -⟩ := hfirst
  exact ⟨a, ⟨accepts, hentry, hmem, hpayable⟩, hasset⟩

/-- The cheapest candidate is the cheapest payable option exactly where the
    cheapest of those comes first. -/
theorem cheapest_iff {c : Candidate} (hc : IsCandidate config data c)
    (hle : ∀ c', IsCandidate config data c' → c.amount ≤ c'.amount) :
    (∀ url a n, Lists config data url a n → c.amount ≤ n) ↔ CheapestComesFirst config data := by
  constructor
  · intro hleast url a n hlists
    rcases hc with ⟨accepts, b, hentry, hfirst, -⟩
    exact ⟨c.url, accepts, b, c.amount, hentry, hfirst, hleast url a n hlists⟩
  · intro hcomes url a n hlists
    rcases hcomes url a n hlists with ⟨url', accepts, b, m, hentry, hfirst, hmn⟩
    have hcandidate := hle ⟨url', m, b.field "asset"⟩ ⟨accepts, b, hentry, hfirst, rfl⟩
    exact hcandidate.trans hmn

/-- A refusal that names no price is right about any response. -/
theorem choosesCheapest_unpriced {n : Nat} {asset : Option JsValue} {message : JsString} :
    ChoosesCheapest config data ceiling
      (.done (.error ⟨.noPayableResult n none asset, message⟩)) := by
  refine ⟨fun url m k h => absurd h (by simp only [reduceCtorEq, not_false_eq_true]),
    fun n' amount asset' text h => absurd h ?_⟩
  simp only [Task.done.injEq, Except.error.injEq, JsError.mk.injEq,
    ErrorKind.noPayableResult.injEq, reduceCtorEq, false_and, and_false, not_false_eq_true]

/-- A payment is for the cheapest option exactly if the candidate it is for is
    the cheapest of all that is listed. -/
theorem choosesCheapest_pays_iff {c : Candidate} {n k : Nat} {m : JsString}
    {rest : Except JsError (BazaarOp.pay c.url m).Ret → Bazaar PayAndCallResult}
    (hc : IsCandidate config data c) (hunder : c.amount ≤ ceiling)
    (hchosen : chooseCandidate config data ceiling = .ok (c, n, k)) :
    ChoosesCheapest config data ceiling (.call (.pay c.url m) rest) ↔
      ∀ url a n, Lists config data url a n → c.amount ≤ n := by
  constructor
  · intro h url a m hlists
    rcases h.pays _ _ _ rfl with ⟨chosen', _, _, hsame, -, hcheapest⟩
    rw [hchosen, Except.ok.injEq, Prod.mk.injEq] at hsame
    obtain ⟨rfl, -⟩ := hsame
    by_cases hm : m ≤ ceiling
    · exact hcheapest.least url a m hlists hm
    · omega
  · intro hleast
    refine ⟨fun url m rest' hcall => ?_, fun n' amount asset text h =>
      absurd h (by simp only [reduceCtorEq, not_false_eq_true])⟩
    have hurl : c.url = url := by
      injection hcall with hop
      injection hop
    exact ⟨c, n, k, hchosen, hurl, hc.lists, hunder,
      fun url' a m' hlists _ => hleast url' a m' hlists⟩

/-- A refusal for the price of a candidate above the ceiling is right exactly if
    the candidate is the cheapest of all that is listed. -/
theorem choosesCheapest_refuses_iff {c : Candidate} {n : Nat} {asset : Option JsValue}
    {text : JsString} (hc : IsCandidate config data c) (hover : ceiling < c.amount) :
    ChoosesCheapest config data ceiling
        (.done (.error ⟨.noPayableResult n (some c.amount) asset,
          noneUnderMessage ceiling c.amount text⟩)) ↔
      ∀ url a n, Lists config data url a n → c.amount ≤ n := by
  constructor
  · intro h
    exact (h.refuses _ _ _ _ rfl).least
  · intro hleast
    refine ⟨fun url m k h => absurd h (by simp only [reduceCtorEq, not_false_eq_true]),
      fun n' amount asset' text h => ?_⟩
    rw [Task.done.injEq, Except.error.injEq, JsError.mk.injEq, ErrorKind.noPayableResult.injEq,
      Option.some.injEq] at h
    obtain ⟨⟨-, rfl, -⟩, -⟩ := h
    rcases hc.lists with ⟨a, hlists, -⟩
    exact ⟨fun url a' m hlists' => lt_of_lt_of_le hover (hleast url a' m hlists'),
      ⟨c.url, a, hlists⟩, hleast⟩

/-- Where no entry has a first payable option, none is listed. -/
theorem cheapestComesFirst_of_none (hnone : ∀ c, ¬ IsCandidate config data c) :
    CheapestComesFirst config data := by
  rintro url a m ⟨accepts, hentry, ha, hpayable⟩
  rcases exists_firstPayable ha hpayable with ⟨b, m', hfirst⟩
  exact absurd ⟨accepts, b, hentry, hfirst, rfl⟩ (hnone ⟨url, m', b.field "asset"⟩)

end Scan

/-- Where the calls of a search and payment stand: the payment is for the
    candidate chosen from what was read last. -/
def BazaarStage (d : PayAndCallDeps) (maxAmount : JsString) (tr : List BazaarEvent) :
    BazaarOp → Prop
  | .search _ => tr = []
  | .json res => ∃ url, tr = [⟨.search url, .ok res⟩]
  | .pay url m => ∃ searched res data ceiling chosen n k,
      tr = [⟨.search searched, .ok res⟩, ⟨.json res, .ok data⟩] ∧
      JsValue.stringToBigInt maxAmount = .ok ceiling ∧
      chooseCandidate d.config data ceiling = .ok (chosen, n, k) ∧ url = chosen.url ∧ m = maxAmount

/-- The search response, where that is what was read last. -/
def searchRead (tr : List BazaarEvent) : Option JsValue :=
  match tr.getLast? with
  | some ⟨.json _, .ok data⟩ => some data
  | _ => none

/-- A search and payment that ended with the search did so because no candidate
    was chosen. -/
def BazaarEnded (d : PayAndCallDeps) (maxAmount : JsString) (tr : List BazaarEvent)
    (r : Except JsError PayAndCallResult) : Prop :=
  ∀ data, searchRead tr = some data → ∃ ceiling e,
    JsValue.stringToBigInt maxAmount = .ok ceiling ∧
    chooseCandidate d.config data ceiling = .error e ∧ r = .error e

section Searching

variable {d : PayAndCallDeps} {query maxAmount : JsString}

theorem bazaarEnded_of_unread {tr : List BazaarEvent} (h : searchRead tr = none)
    (r : Except JsError PayAndCallResult) : BazaarEnded d maxAmount tr r := by
  intro data hread
  rw [h] at hread
  exact absurd hread (by simp only [reduceCtorEq, not_false_eq_true])

/-- Where the calls of the search stand, and how it ends: with what was read, or
    without having read anything. -/
theorem searchBazaar_sat (url : JsString) :
    Sat bazaarHandler (fun tr _ op => BazaarStage d maxAmount tr op)
      (fun tr _ r => (∃ res data, tr = [⟨.search url, .ok res⟩, ⟨.json res, .ok data⟩] ∧
        r = .ok data) ∨ (searchRead tr = none ∧ ∃ e, r = .error e))
      (searchBazaar d url) [] () := by
  unfold searchBazaar
  refine (sat_bind _ _ _ _).mpr ((sat_attempt _ _ _).mpr ?_)
  refine (sat_await_bind rfl _).mpr ⟨rfl, fun res => ?_, fun e => .inr ⟨rfl, _, rfl⟩⟩
  by_cases hok : (!isOkStatus res) = true
  · rw [if_pos hok]
    exact .inr ⟨rfl, _, rfl⟩
  · rw [if_neg hok]
    refine (sat_await rfl _).mpr ⟨⟨url, rfl⟩, fun r => ?_⟩
    cases r with
    | ok data => exact .inl ⟨res, data, rfl, rfl⟩
    | error e => exact .inr ⟨rfl, _, rfl⟩

/-- Where the calls of a search and payment stand, and how it ends. -/
theorem payAndCall_sat :
    Sat bazaarHandler (fun tr _ op => BazaarStage d maxAmount tr op)
      (fun tr _ r => BazaarEnded d maxAmount tr r) (payAndCall d query maxAmount) [] () := by
  -- Before the search is answered there is nothing to say.
  have hearly : ∀ r, BazaarEnded d maxAmount [] r := bazaarEnded_of_unread rfl
  unfold payAndCall
  by_cases hdigits : (!isDigits maxAmount) = true
  · rw [if_pos hdigits]
    exact hearly _
  rw [if_neg hdigits]
  refine sat_lift_bind (fun ceiling hceiling => ?_) (fun e _ => hearly _)
  refine sat_lift_bind (fun room _ => ?_) (fun e _ => hearly _)
  by_cases hroom : (!room) = true
  · rw [if_pos hroom]
    exact hearly _
  rw [if_neg hroom]
  refine sat_lift_bind (fun url _ => ?_) (fun e _ => hearly _)
  refine (sat_bind _ _ _ _).mpr ?_
  refine (searchBazaar_sat url).imp (fun _ _ _ hC => hC) (fun tr s r hread => ?_)
  rcases hread with ⟨res, data, rfl, rfl⟩ | ⟨hunread, e, rfl⟩
  swap
  · exact bazaarEnded_of_unread hunread _
  refine sat_lift_bind (fun chosen hchosen => ?_) (fun e he => ?_)
  · -- A candidate was chosen, and what is called is its payment.
    rcases chosen with ⟨chosen, n, k⟩
    refine (sat_await_bind rfl _).mpr ⟨?_, fun result => bazaarEnded_of_unread rfl _,
      fun e => bazaarEnded_of_unread rfl _⟩
    exact ⟨url, res, data, ceiling, chosen, n, k, rfl, liftM_eq_ok.mp hceiling,
      hchosen, rfl, rfl⟩
  · -- None was, which is the end of it.
    intro data' hread
    obtain rfl := Option.some.inj hread
    exact ⟨ceiling, e, liftM_eq_ok.mp hceiling, he, rfl⟩

/-- What a run does once it has read the search response: it pays the candidate
    it chose, or ends without one. -/
theorem payAndCall_chooses {tr : List BazaarEvent} {t : Bazaar PayAndCallResult} {data : JsValue}
    (hrun : Run bazaarHandler (payAndCall d query maxAmount) () tr t ())
    (hread : searchRead tr = some data) :
    ∃ ceiling, JsValue.stringToBigInt maxAmount = .ok ceiling ∧
      ((∃ chosen n k rest, chooseCandidate d.config data ceiling = .ok (chosen, n, k) ∧
        t = .call (.pay chosen.url maxAmount) rest) ∨
      ∃ e, chooseCandidate d.config data ceiling = .error e ∧ t = .done (.error e)) := by
  cases t with
  | done r =>
      rcases payAndCall_sat.at_done hrun data hread with ⟨ceiling, e, hceiling, hchosen, rfl⟩
      exact ⟨ceiling, hceiling, .inr ⟨e, hchosen, rfl⟩⟩
  | call op rest =>
      -- Only the payment comes after the search is answered.
      have hstage := payAndCall_sat.at_call hrun
      cases op with
      | search url =>
          rw [show tr = [] from hstage] at hread
          exact absurd hread.symm (Option.some_ne_none data)
      | json res' =>
          rcases hstage with ⟨url, rfl⟩
          exact absurd hread.symm (Option.some_ne_none data)
      | pay url m =>
          rcases hstage with ⟨searched, res, data', ceiling, chosen, n, k, rfl, hceiling, hchosen,
            rfl, rfl⟩
          obtain rfl := Option.some.inj hread
          exact ⟨ceiling, hceiling, .inl ⟨chosen, n, k, rest, hchosen, rfl⟩⟩

/-- Whatever the search returns: where it can be gone over, the candidate that
    is paid is the cheapest payable option under the ceiling, and a refusal for
    the price is true and names the least of the prices, exactly if some cheapest
    payable option is the first payable one of its entry. -/
theorem payAndCall_cheapest_iff (d : PayAndCallDeps) (query maxAmount : JsString)
    (tr : List BazaarEvent) (t : Bazaar PayAndCallResult) (data : JsValue)
    (hrun : Run bazaarHandler (payAndCall d query maxAmount) () tr t ())
    (hread : searchRead tr = some data) :
    ∃ ceiling, JsValue.stringToBigInt maxAmount = .ok ceiling ∧
      ((∃ e, selectCandidates d.config data = .error e ∧ t = .done (.error ⟨.native e, []⟩)) ∨
        (ChoosesCheapest d.config data ceiling t ↔ CheapestComesFirst d.config data)) := by
  rcases payAndCall_chooses hrun hread with ⟨ceiling, hceiling, hend⟩
  refine ⟨ceiling, hceiling, ?_⟩
  rcases chooseCandidate_cases d.config data ceiling with
    ⟨e, hscan, hchosen⟩ | ⟨hnone, n, hchosen⟩ | ⟨c, n, hc, hle, ⟨hunder, k, hchosen⟩ |
      ⟨hover, asset, -, hchosen⟩⟩
  · -- The response cannot be gone over.
    rcases hend with ⟨_, _, _, _, hok, -⟩ | ⟨e', he', rfl⟩
    · rw [hchosen] at hok
      exact absurd hok (by simp only [reduceCtorEq, not_false_eq_true])
    · rw [hchosen, Except.error.injEq] at he'
      exact .inl ⟨e, hscan, by rw [he']⟩
  · -- There is no payable option at all, and the refusal says nothing of a price.
    rcases hend with ⟨_, _, _, _, hok, -⟩ | ⟨e', he', rfl⟩
    · rw [hchosen] at hok
      exact absurd hok (by simp only [reduceCtorEq, not_false_eq_true])
    · rw [hchosen, Except.error.injEq] at he'
      subst he'
      exact .inr (iff_of_true choosesCheapest_unpriced (cheapestComesFirst_of_none hnone))
  · -- The cheapest candidate is paid.
    rcases hend with ⟨chosen, n', k', rest, hok, rfl⟩ | ⟨e', he', -⟩
    · rw [hchosen, Except.ok.injEq, Prod.mk.injEq] at hok
      obtain ⟨rfl, -⟩ := hok
      exact .inr ((choosesCheapest_pays_iff hc hunder hchosen).trans (cheapest_iff hc hle))
    · rw [hchosen] at he'
      exact absurd he' (by simp only [reduceCtorEq, not_false_eq_true])
  · -- The cheapest candidate is too dear, and its price is named.
    rcases hend with ⟨_, _, _, _, hok, -⟩ | ⟨e', he', rfl⟩
    · rw [hchosen] at hok
      exact absurd hok (by simp only [reduceCtorEq, not_false_eq_true])
    · rw [hchosen, Except.error.injEq] at he'
      subst he'
      exact .inr ((choosesCheapest_refuses_iff hc hover).trans (cheapest_iff hc hle))

end Searching

section Sample

/-- A payer of one asset. -/
def bazaarDeps : PayAndCallDeps :=
  { config := ⟨"testnet", "stellar:testnet", ["CUSDC"], 262144⟩
    ledger := createSpendLedger [(.str "CUSDC", 1000)]
    facilitatorUrl := some "https://a"
    envFacilitatorUrl := none
    searchUrl := fun base query => .ok (base ++ query) }

/-- An entry that lists options of these amounts. -/
def bazaarEntry (amounts : List JsString) : JsValue :=
  .obj [(js "resource", js "https://b"),
    (js "accepts", .arr (amounts.map (offeredOption "CUSDC")))]

/-- A search response with that entry. -/
def bazaarResponse (amounts : List JsString) : JsValue :=
  .obj [(js "resources", .arr [bazaarEntry amounts])]

/-- A facilitator that returns it. -/
def bazaarAnswer (data : JsValue) : (o : BazaarOp) → Except JsError o.Ret
  | .search _ => .ok { status := 200, headers := [] }
  | .json _ => .ok data
  | .pay _ _ => .error ⟨.plain, []⟩

/-- A search and payment up to the end of the search. -/
def bazaarRun (amounts : List JsString) (maxAmount : JsString) :=
  (payAndCall bazaarDeps "q" maxAmount).replay bazaarHandler
    (List.replicate 2 (bazaarAnswer (bazaarResponse amounts))) ()

theorem bazaarRun_run (amounts : List JsString) (maxAmount : JsString) :
    Run bazaarHandler (payAndCall bazaarDeps "q" maxAmount) () (bazaarRun amounts maxAmount).1
      (bazaarRun amounts maxAmount).2.1 () :=
  run_replay_unit _ _ _

/-- An option of such an entry is listed with its amount. -/
theorem bazaar_lists (amounts : List JsString) {amount : JsString} {n : Int} (h : amount ∈ amounts)
    (hn : JsValue.stringToBigInt amount = .ok n) (hnonneg : 0 ≤ n) :
    Lists bazaarDeps.config (bazaarResponse amounts) (.str "https://b")
      (offeredOption "CUSDC" amount) n :=
  ⟨_, ⟨_, bazaarEntry amounts, rfl, List.mem_singleton_self _, rfl, rfl, rfl⟩,
    List.mem_map_of_mem h, rfl, rfl,
    ⟨js "CUSDC", List.mem_singleton_self _, by decide, rfl⟩, rfl, hn, hnonneg⟩

/-- The cheaper option comes first and is paid. -/
theorem payAndCall_cheapest_iff_first : ∃ ceiling,
    ChoosesCheapest bazaarDeps.config (bazaarResponse ["5", "10"]) ceiling
      (bazaarRun ["5", "10"] "7").2.1 := by
  have hcomes : CheapestComesFirst bazaarDeps.config (bazaarResponse ["5", "10"]) := by
    rintro url a n ⟨accepts, ⟨entries, r, hentries, hr, -, -, haccepts⟩, ha, hpayable⟩
    obtain rfl := Except.ok.inj hentries
    obtain rfl := List.mem_singleton.mp hr
    obtain rfl := Except.ok.inj haccepts
    -- The cheaper one comes first and can be paid.
    have hfive : PayableOption bazaarDeps.config (offeredOption "CUSDC" "5") 5 :=
      ⟨rfl, rfl, ⟨js "CUSDC", List.mem_singleton_self _, by decide, rfl⟩, rfl, rfl, by decide⟩
    refine ⟨.str "https://b", _, offeredOption "CUSDC" "5", 5,
      ⟨_, bazaarEntry ["5", "10"], rfl, List.mem_singleton_self _, rfl, rfl, rfl⟩,
      ⟨[], [offeredOption "CUSDC" "10"], rfl, hfive, fun b hb => absurd hb List.not_mem_nil⟩, ?_⟩
    have hparsed := hpayable.parsed
    simp only [List.map_cons, List.map_nil, List.mem_cons, List.not_mem_nil, or_false] at ha
    -- Neither of the two costs less.
    rcases ha with rfl | rfl
    · rw [← Except.ok.inj hparsed]
      decide
    · rw [← Except.ok.inj hparsed]
      decide
  rcases payAndCall_cheapest_iff bazaarDeps "q" "7" _ _ (bazaarResponse ["5", "10"])
    (bazaarRun_run ["5", "10"] "7") rfl with ⟨ceiling, -, ⟨e, hscan, -⟩ | hiff⟩
  · have hok : (selectCandidates bazaarDeps.config (bazaarResponse ["5", "10"])).isOk = true := rfl
    rw [hscan] at hok
    exact absurd hok Bool.false_ne_true
  · exact ⟨ceiling, hiff.mpr hcomes⟩

/-- The cheaper option comes second, and the call is refused for the price of the
    first. -/
theorem payAndCall_shadows_cheapest : ¬ ∀ (d : PayAndCallDeps) (query maxAmount : JsString)
    (tr : List BazaarEvent) (t : Bazaar PayAndCallResult) (data : JsValue) (ceiling : Int),
    Run bazaarHandler (payAndCall d query maxAmount) () tr t () → searchRead tr = some data →
    JsValue.stringToBigInt maxAmount = .ok ceiling →
    ChoosesCheapest d.config data ceiling t := by
  intro hall
  have hrefused : (bazaarRun ["10", "5"] "7").2.1 = .done (.error
    ⟨.noPayableResult 1 (some 10) (some (.str "CUSDC")), noneUnderMessage 7 10 "CUSDC"⟩) := rfl
  have hchooses := hall bazaarDeps "q" "7" _ _ (bazaarResponse ["10", "5"]) 7
    (bazaarRun_run ["10", "5"] "7") rfl rfl
  have hnothing := hchooses.refuses 1 10 _ _ hrefused
  have hfive : js "5" ∈ [js "10", js "5"] := by decide
  have hlists := bazaar_lists ["10", "5"] hfive rfl (by decide)
  exact absurd (hnothing.dearer _ _ 5 hlists) (by decide)

end Sample

end Payer

end VellarSdk
