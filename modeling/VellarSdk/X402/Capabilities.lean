import VellarSdk.Stellar.Xdr

/-!
# Capability Rules

What a signer's configuration lets it sign: a list of rules, each naming a
contract and a function, or `"*"` for any. No rules at all means no scoping.
Rules are validated when a signer is created, so that a mistyped one fails there
and neither denies nor admits anything by accident.

The request that is held against the rules is read from the root of an entry's
invocation. A root that creates a contract forms no request.

## Main definitions

* `CapabilityRule`, `CapabilityRequest`: A rule, and what is asked of it.
* `assertValidCapabilityRules`: Validation at creation.
* `evaluateCapability`, `assertCapability`: Does a rule permit the request?
* `capabilityRequestFor`: The request of an entry.
* `Permits`, `NamedByRule`: The rules permit what the entry's root invokes.

## Theorems

* `evaluateCapability_iff`: What a list of rules permits.
* `permits_iff`: What it takes of an entry to be permitted.
-/

namespace VellarSdk

namespace X402

open Js Stellar

/-- One contract and function that a signer may authorise. -/
structure CapabilityRule where
  resourceType : JsString
  action : JsString
  deriving DecidableEq

/-- What a signer is asked to authorise. -/
structure CapabilityRequest where
  resourceType : JsString
  action : JsString
  deriving DecidableEq

/-- `throw new InvalidCapabilityRuleError(message)`. -/
def throwInvalidCapabilityRule {α : Type} (message : JsString) : Except JsError α :=
  .error ⟨.invalidCapabilityRule, message⟩

/-- `throw new CapabilityDeniedError(request, rules)`. -/
def throwCapabilityDenied {α : Type} (request : CapabilityRequest) (rules : List CapabilityRule) :
    Except JsError α :=
  .error ⟨.capabilityDenied request.resourceType request.action
      (rules.map (fun rule => (rule.resourceType, rule.action))),
    js "x402 signer capability check denied " ++ request.action ++ js " on " ++
      request.resourceType ++ js ": no configured capability rule permits it (" ++
      natToString rules.length ++ js (" rule(s) configured). This is a client-side guard on " ++
        "what this signer will sign — it is independent of, and does not substitute for, an " ++
        "on-chain SignerLimits/Policy restriction on the key.")⟩

/-- The character class of base 32. -/
def isBase32 (u : CodeUnit) : Bool :=
  (65 ≤ u && u ≤ 90) || (50 ≤ u && u ≤ 55)

/-- `/^C[A-Z2-7]{55}$/`. -/
def isContractId : JsString → Bool
  | 67 :: rest => rest.length == 55 && rest.all isBase32
  | _ => false

/-- `/^[A-Za-z0-9_]{1,32}$/`. -/
def isSorobanSymbol (s : JsString) : Bool :=
  1 ≤ s.length && s.length ≤ 32 && s.all isWordChar

/-- Validate a list of rules. -/
def assertValidCapabilityRules : List CapabilityRule → Except JsError Unit
  | [] => .ok ()
  | rule :: rules =>
      if rule.resourceType ≠ js "*" ∧ !isContractId rule.resourceType then
        throwInvalidCapabilityRule
          (js "capability rule resourceType must be a contract id (C…) or \"*\": got " ++
            JsValue.quote rule.resourceType)
      else if rule.action ≠ js "*" ∧ !isSorobanSymbol rule.action then
        throwInvalidCapabilityRule
          (js "capability rule action must be a Soroban function-name symbol or \"*\": got " ++
            JsValue.quote rule.action)
      else assertValidCapabilityRules rules

/-- Does any rule permit the request? -/
def evaluateCapability (rules : List CapabilityRule) (request : CapabilityRequest) : Bool :=
  -- No rules means that scoping was never asked for.
  if rules.length = 0 then true
  else rules.any (fun rule =>
    (rule.resourceType == js "*" || rule.resourceType == request.resourceType) &&
      (rule.action == js "*" || rule.action == request.action))

/-- Enforce the rules. -/
def assertCapability (rules : List CapabilityRule) (request : CapabilityRequest) :
    Except JsError Unit :=
  if !evaluateCapability rules request then throwCapabilityDenied request rules else .ok ()

/-- The contract and function at the root of an entry, unless it is no call. -/
def capabilityRequestFor (sdk : StellarSdk) (entry : SorobanAuthorizationEntry) :
    Except JsError (Option CapabilityRequest) :=
  match entry.rootInvocation.function with
  | .contractFn call => do
      let resourceType ← sdk.addressToString call.contractAddress
      return some ⟨resourceType, bufferToString call.functionName⟩
  | _ => .ok none

/-- A rule permits what the root of the entry invokes. -/
def Permits (sdk : StellarSdk) (rules : List CapabilityRule) (entry : SorobanAuthorizationEntry) :
    Prop :=
  ∃ request, capabilityRequestFor sdk entry = .ok (some request) ∧
    evaluateCapability rules request = true

/-- The root of the entry calls a contract, and a rule names the contract, or
    any, and the function, or any. -/
def NamedByRule (sdk : StellarSdk) (rules : List CapabilityRule)
    (entry : SorobanAuthorizationEntry) : Prop :=
  ∃ call contract, entry.rootInvocation.function = .contractFn call ∧
    sdk.addressToString call.contractAddress = .ok contract ∧ ∃ rule ∈ rules,
      (rule.resourceType = js "*" ∨ rule.resourceType = contract) ∧
      (rule.action = js "*" ∨ rule.action = bufferToString call.functionName)

/-- What a list of rules permits. -/
theorem evaluateCapability_iff {rules : List CapabilityRule} (hrules : rules ≠ [])
    (request : CapabilityRequest) :
    evaluateCapability rules request = true ↔ ∃ rule ∈ rules,
      (rule.resourceType = js "*" ∨ rule.resourceType = request.resourceType) ∧
      (rule.action = js "*" ∨ rule.action = request.action) := by
  have hlength : rules.length ≠ 0 := fun h => hrules (List.length_eq_zero_iff.mp h)
  rw [evaluateCapability, if_neg hlength, List.any_eq_true]
  simp only [Bool.and_eq_true, Bool.or_eq_true, beq_iff_eq]

/-- What it takes of an entry to be permitted. -/
theorem permits_iff {sdk : StellarSdk} {rules : List CapabilityRule} (hrules : rules ≠ [])
    {entry : SorobanAuthorizationEntry} :
    Permits sdk rules entry ↔ NamedByRule sdk rules entry := by
  constructor
  · rintro ⟨request, hrequest, hpermits⟩
    rw [capabilityRequestFor] at hrequest
    -- A root that is no call forms no request.
    split at hrequest
    · next call hcall =>
        rcases bind_eq_ok.mp hrequest with ⟨contract, hcontract, hret⟩
        injection hret with hret
        injection hret with hret
        subst hret
        exact ⟨call, contract, hcall, hcontract, (evaluateCapability_iff hrules _).mp hpermits⟩
    · injection hrequest with hrequest
      exact absurd hrequest (by simp only [reduceCtorEq, not_false_eq_true])
  · rintro ⟨call, contract, hcall, hcontract, hrule⟩
    refine ⟨⟨contract, bufferToString call.functionName⟩, ?_,
      (evaluateCapability_iff hrules _).mpr hrule⟩
    rw [capabilityRequestFor, hcall]
    exact bind_eq_ok.mpr ⟨contract, hcontract, rfl⟩

end X402

end VellarSdk
