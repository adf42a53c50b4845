import VellarSdk.Js.Array
import VellarSdk.Js.Map
import VellarSdk.Js.Number

/-!
# x402 Wire Types

What crosses the wire in an x402 payment, and the errors the payers raise.

An error is its class, with the fields the class declares, and its message. The
message is built by the constructor from a template, and the values put into it
are whatever the server sent, so a constructor can itself throw: `toStr` fails
on an object that hides `toString`. Each class therefore has a `throw…` helper
that builds the message first.

A response is what the guards read of it: its status and its headers. Its body
is read by an awaited call, which can fail like any other.

## Main definitions

* `ErrorKind`, `JsError`: The errors, by class.
* `Response`: A response as the guards read it.
* `JsonParse`: `JSON.parse`, which the development takes as given.
-/

namespace VellarSdk

namespace X402

open Js

/-- The error classes, with the fields they declare. -/
inductive ErrorKind where
  /-- Raised by the language itself. -/
  | native (e : NativeError)
  /-- Raised by code outside the repository: `fetch`, a signer, a decoder. -/
  | foreign
  /-- `new Error(message)`. -/
  | plain
  | maxAmountExceeded (required maxAmount : Int) (asset : JsValue)
  | disallowedAsset (asset : JsValue) (allowedAssets : List JsString)
  | noUsablePaymentOption
  | paymentRejected (reason : JsValue)
  | invalidRequirements
  | sessionCeilingExceeded (asset : JsValue) (attempted spent ceiling : Int)
  | settlementFailed (attempts : Nat) (lastReason : JsValue)
  | indeterminateSettlement (reason : JsString) (asset : JsValue) (amount : Int)
      (rawTransaction : JsValue)
  | authEntryMismatch (field : JsString) (expected : JsValue) (actual : JsString)
  | unworkableTimeout (maxTimeoutSeconds : JsValue) (ledgers : JsNum)
  | smartAccountAuth (detail : JsString)
  | invalidCapabilityRule
  | capabilityDenied (resourceType action : JsString) (rules : List (JsString × JsString))
  | budgetAttributeDenied (merchant : JsValue) (category : Option JsString) (amount : Int)
  | invalidBudgetAttributeRule
  | noPayableResult (resultsFound : Nat) (cheapestAmount : Option Int)
      (cheapestAsset : Option JsValue)

/-- A thrown error: its class and its message. The text of a native error is
    the engine's and is left empty. -/
structure JsError where
  kind : ErrorKind
  message : JsString

/-- Native errors escape as they are. -/
instance : MonadLift (Except NativeError) (Except JsError) where
  -- The engine's text is not modelled, so the message is empty.
  monadLift x := x.mapError (fun e => ⟨.native e, []⟩)

theorem liftM_eq_ok {α : Type} {x : Except NativeError α} {a : α} :
    (liftM x : Except JsError α) = .ok a ↔ x = .ok a := by
  cases x with
  | error e => simp only [liftM, monadLift, MonadLift.monadLift, Except.mapError, reduceCtorEq]
  | ok b => simp only [liftM, monadLift, MonadLift.monadLift, Except.mapError, Except.ok.injEq]

/-- A plain `TypeError`. -/
def throwTypeError {α : Type} : Except JsError α :=
  .error ⟨.native .typeError, []⟩

/-- `throw new Error(message)`. -/
def throwPlain {α : Type} (message : JsString) : Except JsError α :=
  .error ⟨.plain, message⟩

/-- `throw new NoUsablePaymentOptionError(message)`. -/
def throwNoUsablePaymentOption {α : Type} (message : JsString) : Except JsError α :=
  .error ⟨.noUsablePaymentOption, message⟩

/-- `throw new InvalidRequirementsError(message)`. -/
def throwInvalidRequirements {α : Type} (message : JsString) : Except JsError α :=
  .error ⟨.invalidRequirements, message⟩

/-- `throw new PaymentRejectedError(message, reason)`. -/
def throwPaymentRejected {α : Type} (message : JsString) (reason : JsValue) : Except JsError α :=
  .error ⟨.paymentRejected reason, message⟩

/-- `throw new MaxAmountExceededError(required, maxAmount, asset)`. -/
def throwMaxAmountExceeded {α : Type} (required maxAmount : Int) (asset : JsValue) :
    Except JsError α := do
  let a ← asset.toStr
  .error ⟨.maxAmountExceeded required maxAmount asset,
    js "x402 payment of " ++ intToString required ++ js " (" ++ a ++ js ") exceeds maxAmount " ++
      intToString maxAmount ++ js "; refusing to sign."⟩

/-- `throw new DisallowedAssetError(asset, allowedAssets)`. -/
def throwDisallowedAsset {α : Type} (asset : JsValue) (allowedAssets : List JsString) :
    Except JsError α := do
  let a ← asset.toStr
  .error ⟨.disallowedAsset asset allowedAssets,
    js "x402 requested asset " ++ a ++ js " is not in allowedAssets [" ++
      (List.intersperse (js ", ") allowedAssets).flatten ++ js "]."⟩

/-- `throw new SessionCeilingExceededError(asset, attempted, spent, ceiling)`. -/
def throwSessionCeilingExceeded {α : Type} (asset : JsValue) (attempted spent ceiling : Int) :
    Except JsError α := do
  let a ← asset.toStr
  .error ⟨.sessionCeilingExceeded asset attempted spent ceiling,
    js "x402 payment of " ++ intToString attempted ++
      js " would exceed this session's ceiling for asset " ++ a ++ js ": " ++ intToString spent ++
      js " already spent of " ++ intToString ceiling ++ js ". Refusing to sign."⟩

/-- The part of a template that names a value only when it is truthy:
    `${v ? `…${v}…` : otherwise}`. -/
def whenTruthy (v : JsValue) (pre post otherwise : JsString) : Except NativeError JsString :=
  if v.truthy then do return pre ++ (← v.toStr) ++ post else return otherwise

/-- `throw new SettlementFailedError(attempts, lastReason)`. -/
def throwSettlementFailed {α : Type} (attempts : Nat) (lastReason : JsValue) :
    Except JsError α := do
  let detail ← whenTruthy lastReason (js ": ") [] []
  .error ⟨.settlementFailed attempts lastReason,
    js "x402 settlement did not complete after " ++ natToString attempts ++ js " attempt(s)" ++
      detail ++ js ". No transaction hash was returned, which means nothing was spent."⟩

/-- `throw new IndeterminateSettlementError(reason, asset, amount, raw)`. -/
def throwIndeterminateSettlement {α : Type} (reason : JsString) (asset : JsValue) (amount : Int)
    (rawTransaction : JsValue) : Except JsError α := do
  let a ← asset.toStr
  let advice ← whenTruthy rawTransaction (js " The server reported \"")
    (js ("\", which is not a valid transaction hash — " ++
      "check the payer account on-chain before paying again."))
    (js " Check the payer account on-chain before paying again.")
  .error ⟨.indeterminateSettlement reason asset amount rawTransaction,
    js "The payment may have completed, but this could not be confirmed: " ++ reason ++
      js ". It was NOT retried, because retrying could pay a second time. " ++
      intToString amount ++ js " base units of " ++ a ++
      js " have been counted against this session's ceiling as a precaution." ++ advice⟩

/-- `throw new AuthEntryMismatchError(field, expected, actual)`. -/
def throwAuthEntryMismatch {α : Type} (field : JsString) (expected : JsValue)
    (actual : JsString) : Except JsError α := do
  let e ← expected.toStr
  .error ⟨.authEntryMismatch field expected actual,
    js ("Refusing to sign: the authorization entry does not match the intended payment. ") ++
      field ++ js " expected " ++ e ++ js ", got " ++ actual ++
      js (". The entry came from the RPC's simulation — a mismatch means the RPC returned " ++
        "something other than the payment that was cleared, and signing it would authorise " ++
        "that instead.")⟩

/-- Is this an `IndeterminateSettlementError`? -/
def JsError.isIndeterminate (e : JsError) : Bool :=
  match e.kind with
  -- `instanceof` goes by class, whatever the message says.
  | .indeterminateSettlement _ _ _ _ => true
  | _ => false

/-- Header names are stored in lower case and looked up without regard to
    case. -/
abbrev Headers := List (JsString × JsString)

/-- A response as the guards read it. -/
structure Response where
  status : Nat
  headers : Headers
  deriving DecidableEq

/-- `res.headers.get(name)`. -/
def Response.header (res : Response) (name : JsString) : Option JsString :=
  res.headers.lookup (toAsciiLower name)

/-- `JSON.parse`: the value a text denotes, or the message of the
    `SyntaxError`. Every result of this development holds for any function in
    this place. -/
abbrev JsonParse := JsString → Except JsString JsValue

end X402

end VellarSdk
