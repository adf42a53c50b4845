import VellarSdk.X402.Types

/-!
# Attribute Budgets

Spend ceilings scoped to a merchant, a category and a time window. The first
rule that matches a payment decides: the payment must fit its ceiling for one
payment and, when the rule has one and a tracker is there to tell what was
spent, its ceiling for the period. No rules at all permit everything.

## Main definitions

* `BudgetAttributeRule`, `BudgetAttributeRequest`: A rule and a payment.
* `assertValidBudgetAttributeRules`: The check of a configuration.
* `matchingBudgetRule`: The rule that decides about a payment.
* `assertRuleCeiling`, `assertPeriodCeiling`: Its two ceilings.

## Theorems

* `assertValidBudgetAttributeRules_period`: A configuration's ceilings for the
  period are positive.
* `matchingBudgetRule_of_windowless`: Without windows the time does not matter.
-/

namespace VellarSdk

namespace X402

open Js

/-- The hours and days a rule is active in, in UTC. -/
structure BudgetTimeWindow where
  startHourUtc : Option Nat
  endHourUtc : Option Nat
  daysUtc : Option (List Nat)

/-- A budget rule. -/
structure BudgetAttributeRule where
  merchant : JsString
  category : Option JsString
  maxAmount : Int
  window : Option BudgetTimeWindow
  periodMaxAmount : Option Int

/-- A payment as the rules see it. The time is in milliseconds since the
    epoch. -/
structure BudgetAttributeRequest where
  merchant : JsValue
  category : Option JsString
  amount : Int
  time : Int

/-- `throw new InvalidBudgetAttributeRuleError(message)`. -/
def throwInvalidBudgetAttributeRule {α : Type} (message : JsString) : Except JsError α :=
  .error ⟨.invalidBudgetAttributeRule, message⟩

/-- The regular expression `^[GC][A-Z2-7]{55}$`. -/
def isContractOrAccount : JsString → Bool
  | first :: rest => (first == 71 || first == 67) && rest.length == 55 &&
      rest.all (fun u => (65 ≤ u && u ≤ 90) || (50 ≤ u && u ≤ 55))
  | [] => false

/-- One bound of a window's hours. -/
def assertValidHour (name : JsString) (value : Option Nat) : Except JsError Unit :=
  match value with
  | some hour =>
      if hour > 23 then
        throwInvalidBudgetAttributeRule (js "budget rule window." ++ name ++
          js " must be an integer 0–23: got " ++ natToString hour)
      else .ok ()
  | none => .ok ()

/-- The days of a window. -/
def assertValidDays : List Nat → Except JsError Unit
  | [] => .ok ()
  | day :: rest =>
      if day > 6 then
        throwInvalidBudgetAttributeRule (js ("budget rule window.daysUtc entries must be " ++
          "integers 0–6 (Sunday–Saturday): got ") ++ natToString day)
      else assertValidDays rest

/-- The window of a rule. -/
def assertValidWindow (window : Option BudgetTimeWindow) : Except JsError Unit :=
  match window with
  | some w => do
      assertValidHour "startHourUtc" w.startHourUtc
      assertValidHour "endHourUtc" w.endHourUtc
      assertValidDays (w.daysUtc.getD [])
  | none => .ok ()

/-- The merchant of a rule. -/
def assertValidMerchant (merchant : JsString) : Except JsError Unit :=
  if merchant ≠ js "*" ∧ isContractOrAccount merchant = false then
    throwInvalidBudgetAttributeRule (js ("budget rule merchant must be a Stellar address " ++
      "(G…/C…) or \"*\": got ") ++ JsValue.quote merchant)
  else .ok ()

/-- An amount of a rule. -/
def assertPositive (amount : Int) (message : JsString) : Except JsError Unit :=
  if amount ≤ 0 then throwInvalidBudgetAttributeRule (message ++ intToString amount) else .ok ()

/-- One rule of a configuration. -/
def assertValidBudgetAttributeRule (rule : BudgetAttributeRule) : Except JsError Unit := do
  assertValidMerchant rule.merchant
  assertPositive rule.maxAmount "budget rule maxAmount must be positive: got "
  match rule.periodMaxAmount with
  | some periodMaxAmount =>
      assertPositive periodMaxAmount "budget rule periodMaxAmount must be positive when set: got "
  | none => .ok ()
  assertValidWindow rule.window

/-- The rules of a configuration, checked when a client is created. -/
def assertValidBudgetAttributeRules : List BudgetAttributeRule → Except JsError Unit
  | [] => .ok ()
  | rule :: rest => do
      assertValidBudgetAttributeRule rule
      assertValidBudgetAttributeRules rest

/-- The ceilings of the period that a configuration has are positive. -/
theorem assertValidBudgetAttributeRules_period {rules : List BudgetAttributeRule}
    (h : assertValidBudgetAttributeRules rules = .ok ()) {rule : BudgetAttributeRule}
    (hrule : rule ∈ rules) {periodMaxAmount : Int}
    (hperiod : rule.periodMaxAmount = some periodMaxAmount) : 0 < periodMaxAmount := by
  induction rules with
  | nil => exact absurd hrule List.not_mem_nil
  | cons first rest ih =>
      rcases bind_eq_ok.mp h with ⟨_, hfirst, hrest⟩
      rcases List.mem_cons.mp hrule with rfl | hrule
      · unfold assertValidBudgetAttributeRule at hfirst
        rcases bind_eq_ok.mp hfirst with ⟨_, -, hfirst⟩
        rcases bind_eq_ok.mp hfirst with ⟨_, -, hfirst⟩
        rw [hperiod] at hfirst
        rcases bind_eq_ok.mp hfirst with ⟨_, hpositive, -⟩
        unfold assertPositive at hpositive
        by_contra hle
        rw [if_pos (not_lt.mp hle)] at hpositive
        exact absurd hpositive (by simp only [throwInvalidBudgetAttributeRule, reduceCtorEq,
          not_false_eq_true])
      · exact ih hrest hrule

/-- `Date.prototype.getUTCHours`. -/
def utcHours (time : Int) : Int :=
  time / 3600000 % 24

/-- `Date.prototype.getUTCDay`. The epoch was a Thursday. -/
def utcDay (time : Int) : Int :=
  (time / 86400000 + 4) % 7

/-- Does the rule's category, if it names one, fit? -/
def matchesCategory (rule : BudgetAttributeRule) (request : BudgetAttributeRequest) : Bool :=
  match rule.category with
  | none => true
  | some category => category == js "*" || request.category == some category

/-- Is the time within the window? A window from a later to an earlier hour
    wraps past midnight. -/
def matchesWindow (window : Option BudgetTimeWindow) (time : Int) : Bool :=
  match window with
  | none => true
  | some w =>
      (match w.daysUtc with
        -- An empty list of days matches on no day.
        | some days => days.any (fun day => (day : Int) == utcDay time)
        | none => true) &&
      match w.startHourUtc, w.endHourUtc with
      | some start, some stop =>
          if start ≤ stop then decide ((start : Int) ≤ utcHours time ∧ utcHours time ≤ stop)
          else decide ((start : Int) ≤ utcHours time ∨ utcHours time ≤ stop)
      -- The hours count only when both ends are given.
      | _, _ => true

/-- Does the rule match the payment? -/
def BudgetAttributeRule.isMatch (rule : BudgetAttributeRule) (request : BudgetAttributeRequest) :
    Bool :=
  (rule.merchant == js "*" || (JsValue.str rule.merchant).strictEq request.merchant) &&
    matchesCategory rule request && matchesWindow rule.window request.time

/-- The first rule that matches, with its identity, which trackers go by. -/
def matchingBudgetRule (rules : List BudgetAttributeRule) (request : BudgetAttributeRequest) :
    Option (Ref BudgetAttributeRule) :=
  rules.zipIdx.find? (fun rule => rule.1.isMatch request)

/-- Without windows the time of a payment does not matter. -/
theorem matchingBudgetRule_of_windowless {rules : List BudgetAttributeRule}
    (h : ∀ rule ∈ rules, rule.window = none) (request : BudgetAttributeRequest) (time : Int) :
    matchingBudgetRule rules { request with time := time } = matchingBudgetRule rules request := by
  have hsame : ∀ rule ∈ rules.zipIdx,
      rule.1.isMatch { request with time := time } = rule.1.isMatch request := by
    intro rule hrule
    have hwindow := h rule.1 (List.mem_of_getElem? ((mem_zipIdx_iff rules rule).mp hrule))
    simp only [BudgetAttributeRule.isMatch, matchesCategory, hwindow, matchesWindow]
  unfold matchingBudgetRule
  generalize rules.zipIdx = l at hsame
  induction l with
  | nil => rfl
  | cons rule rest ih =>
      rw [List.find?_cons, List.find?_cons, hsame rule List.mem_cons_self,
        ih (fun r hr => hsame r (List.mem_cons_of_mem rule hr))]

/-- The rule that matches is one of the rules. -/
theorem mem_of_matchingBudgetRule {rules : List BudgetAttributeRule}
    {request : BudgetAttributeRequest} {rule : Ref BudgetAttributeRule}
    (h : matchingBudgetRule rules request = some rule) : rule ∈ rules.zipIdx :=
  List.mem_of_find?_eq_some h

/-- `throw new BudgetAttributeDeniedError(request, rules, reason)`. -/
def throwBudgetAttributeDenied {α : Type} (request : BudgetAttributeRequest)
    (rules : List BudgetAttributeRule) (reason : JsString) : Except JsError α := do
  let merchant ← request.merchant.toStr
  let category := match request.category with
    -- The template tests the category for truth, so an empty one is not named.
    | some c => if c.isEmpty then [] else js " (category " ++ c ++ js ")"
    | none => []
  .error ⟨.budgetAttributeDenied request.merchant request.category request.amount,
    js "x402 attribute-scoped budget denied a payment of " ++ intToString request.amount ++
      js " to " ++ merchant ++ category ++ js ": " ++ reason ++ js " (" ++
      natToString rules.length ++ js (" rule(s) configured). This is a client-side guard — it is " ++
        "independent of, and does not substitute for, an on-chain spending-limit policy.")⟩

/-- The ceiling for one payment. Returns the deciding rule, if there are rules
    at all. -/
def assertRuleCeiling (rules : List BudgetAttributeRule) (request : BudgetAttributeRequest) :
    Except JsError (Option (Ref BudgetAttributeRule)) :=
  if rules.isEmpty then .ok none
  else match matchingBudgetRule rules request with
    -- Rules that do not mention a payment deny it.
    | none => throwBudgetAttributeDenied request rules
        "no configured budget rule matches this merchant/category/time"
    | some rule =>
        if request.amount > rule.1.maxAmount then
          throwBudgetAttributeDenied request rules
            (js "payment exceeds the matching rule's per-payment ceiling of " ++
              intToString rule.1.maxAmount)
        else .ok (some rule)

/-- The ceiling for the period, given what was spent in it. -/
def assertPeriodCeiling (rules : List BudgetAttributeRule) (request : BudgetAttributeRequest)
    (periodMaxAmount spent : Int) : Except JsError Unit :=
  if spent + request.amount > periodMaxAmount then
    throwBudgetAttributeDenied request rules
      (js "payment would exceed the matching rule's period ceiling of " ++
        intToString periodMaxAmount ++ js " (already spent " ++ intToString spent ++
        js " this period)")
  else .ok ()

/-- A window from 22 to 6 covers three in the morning and not noon. -/
example : matchesWindow (some ⟨some 22, some 6, none⟩) (3 * 3600000) = true ∧
    matchesWindow (some ⟨some 22, some 6, none⟩) (12 * 3600000) = false := by decide

end X402

end VellarSdk
