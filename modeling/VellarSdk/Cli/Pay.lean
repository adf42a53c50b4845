import VellarSdk.Async.Task
import VellarSdk.Js.Least
import VellarSdk.X402.Types

/-!
# The Pay Command

The `pay` command of the command line: check the options, probe the resource,
choose the cheapest option of the challenge, hold its price against `--max`, and
have the client of the x402 library sign.

The library is handed the whole challenge, and a client that was built without a
selector signs the first option it supports. So two rules choose: the command
compares the price of the cheapest option, and the library signs the first.
`pay_signs_chosen_iff` says when the two are one.

## Main definitions

* `CliOp`: The calls the command makes.
* `selectRequirement`: The option the command chooses.
* `clientSelects`: The option the library signs.
* `pay`: The command.

## Theorems

* `pay_reaches`: What holds when the command has the challenge signed.
* `cheapestOption_eq_leastE`: The first of the cheapest options is chosen.
* `pay_signs_chosen_iff`: When the option that is signed is the chosen one.
-/

namespace VellarSdk

namespace Cli

open Js X402 Async

/-- A response to `fetch`. -/
structure FetchReply where
  response : Response
  statusText : JsString

/-- `res.ok`. -/
def FetchReply.ok (reply : FetchReply) : Bool :=
  200 ≤ reply.response.status && reply.response.status ≤ 299

/-- The calls the command makes. -/
inductive CliOp where
  | readFile (path : JsString)
  /-- `fetch`, with the payment of the second request. -/
  | fetch (method : JsString) (body : Option JsString) (payment : Option JsValue)
  /-- `res.text()`. -/
  | text (res : FetchReply)
  /-- The signer, the scheme and the client around them. -/
  | createClient (secret : JsString) (networkId rpcUrl : JsValue)
  /-- `client.createPaymentPayload(required)`. -/
  | createPaymentPayload (required : JsValue)

/-- What each call returns. -/
@[reducible] def CliOp.Ret : CliOp → Type
  | .readFile _ => JsString
  | .fetch _ _ _ => FetchReply
  | .text _ => JsString
  | .createClient _ _ _ => Unit
  | .createPaymentPayload _ => JsValue

/-- An async body of the command. -/
abbrev CliTask := Task CliOp CliOp.Ret JsError

/-- Nothing is answered by the command's own state. -/
def cliHandler : Handler CliOp CliOp.Ret JsError Unit where
  exec _ := none

/-- A line of output: text, or a value printed as indented JSON. -/
inductive Line where
  | text (s : JsString)
  | json (v : JsValue)

/-- How the command ends. -/
structure Exit where
  code : Nat
  out : List Line
  err : List JsString

/-- An error message and `process.exit(1)`. -/
def refuse (message : JsString) : Exit :=
  { code := 1, out := [], err := [message] }

/-- What the command takes from its runtime: `JSON.parse`, the text that base 64
    encodes, and the public key of a secret. -/
structure CliEnv where
  parse : JsonParse
  base64ToText : JsString → JsString
  publicKey : JsString → Except JsError JsString

/-- The options of the command. -/
structure PayOptions where
  secret : Option JsString
  secretFile : Option JsString
  max : JsString
  network : JsString
  rpcUrl : Option JsString
  method : JsString
  body : Option JsString
  json : Bool

/-- `RPC_URLS`. -/
def rpcUrls : List (JsString × JsValue) :=
  [(js "testnet", .str "https://soroban-testnet.stellar.org"),
    (js "mainnet", .str "https://mainnet.sorobanrpc.com")]

/-- `NETWORK_IDS`. -/
def networkIds : List (JsString × JsValue) :=
  [(js "testnet", .str "stellar:testnet"), (js "mainnet", .str "stellar:pubnet")]

/-- `ALLOWED_METHODS`. -/
def allowedMethods : List JsString :=
  ["GET", "POST", "PUT", "PATCH", "DELETE"].map js

/-- `toUpperCase`, on the letters whose upper case can be part of a method. -/
def toUpperCase (s : JsString) : JsString :=
  s.flatMap (fun u =>
    -- The long s and the two ligatures with it are upper-cased into ASCII.
    if 97 ≤ u && u ≤ 122 then [u - 32]
    else if u = 0x17F then [83]
    else if u = 0xFB05 || u = 0xFB06 then [83, 84]
    else [u])

/-- `safeJsonParse`. -/
def safeJsonParse (parse : JsonParse) (text : JsString) : JsValue :=
  match parse text with
  | .ok v => v
  | .error _ => .null

/-- Decode the challenge: the header, encoded or not, and else the body. -/
def decodeChallenge (env : CliEnv) (header : Option JsString) (body : JsString) : JsValue :=
  let fromBody := safeJsonParse env.parse body
  match header with
  | none => fromBody
  | some header =>
      -- The header wins, base 64 first; an unreadable one falls through to the body.
      if header.isEmpty then fromBody
      else match env.parse (env.base64ToText header) with
        | .ok v => v
        | .error _ => match env.parse header with
          | .ok v => v
          | .error _ => fromBody

/-- `v.length`. -/
def lengthOf : JsValue → JsValue
  | .arr items => .num (.finite items.length)
  | .str s => .num (.finite s.length)
  | v => v.optProp "length"

/-- The elements of an array, to call `filter` on. -/
def itemsOf : JsValue → Except JsError (List (Ref JsValue))
  | .arr items => .ok items.zipIdx
  | _ => throwTypeError

/-- `a.network === network`. -/
def isOnNetwork (network : JsValue) (a : Ref JsValue) : Except NativeError Bool := do
  let n ← a.1.prop "network"
  return n.strictEq network

/-- `a.scheme === "exact"`. -/
def isExact (a : Ref JsValue) : Except NativeError Bool := do
  let scheme ← a.1.prop "scheme"
  return scheme.strictEq (.str "exact")

/-- `BigInt(a.amount ?? "0")`. -/
def priceOf (a : Ref JsValue) : Except NativeError Int :=
  ((a.1.field "amount").orElse (.str "0")).toBigInt

/-- The first of the cheapest options. -/
def cheapestOption (lo : Ref JsValue) : List (Ref JsValue) → Except NativeError (Ref JsValue)
  | [] => .ok lo
  | a :: rest => do
      let price ← priceOf a
      -- Strictly cheaper, so the earliest of equal options stays.
      let lowest ← priceOf lo
      cheapestOption (if price < lowest then a else lo) rest

/-- The distinct values of a list, as a `Set` has them. -/
def distinct : List JsValue → List JsValue
  | [] => []
  | v :: rest => v :: (distinct rest).filter (fun w => !v.strictEq w)

/-- The schemes that the seller offers. -/
def offeredSchemes (options : List (Ref JsValue)) : Except NativeError JsString := do
  let names ← (distinct (options.map (fun a => (a.1.field "scheme").orElse (.str "unknown")))).mapM
    JsValue.toStr
  return (List.intersperse (js ", ") names).flatten

/-- What the command chose, or why it chose nothing. -/
inductive Selection where
  | chosen (option : Ref JsValue)
  | refused (reason : JsString)

/-- Pick the requirement to pay: the cheapest option of the `exact` scheme on
    the network. -/
def selectRequirement (accepts : List (Ref JsValue)) (network : JsValue) :
    Except NativeError Selection := do
  let onNetwork ← filterE (isOnNetwork network) accepts
  if onNetwork.length = 0 then do
    let name ← network.toStr
    return .refused (js "no payment option for " ++ name)
  else do
    let exact ← filterE isExact onNetwork
    match exact with
    | [] => do
        let schemes ← offeredSchemes onNetwork
        return .refused (js "no \'exact\' option (seller offers: " ++ schemes ++ js ")")
    | first :: rest => do
        let chosen ← cheapestOption first rest
        return .chosen chosen

/-- What the options came to. -/
structure Order where
  secret : JsString
  publicKey : JsString
  maxAmount : Int
  method : JsString
  body : Option JsString

/-- Retry with the payment attached. -/
def deliver (env : CliEnv) (opts : PayOptions) (order : Order) (chosen : Ref JsValue) (price : Int)
    (payload : JsValue) : CliTask Exit := do
  let paid ← Task.perform (CliOp.fetch order.method order.body (some payload))
  let text ← Task.perform (CliOp.text paid)
  let extensions : JsValue := match paid.response.header "extension-responses" with
    | some s => .str s
    | none => .null
  let body := safeJsonParse env.parse text
  let printed : Line := .json (.obj [(js "response", body), (js "extensionResponses", extensions)])
  -- Only 200 unlocks.
  if paid.response.status ≠ 200 then
    if opts.json then return { code := 1, out := [printed], err := [] }
    else return { code := 1, out := [], err :=
      [js "Not unlocked: HTTP " ++ natToString paid.response.status, text,
        js ("\n  Roughly one settle in three fails on testnet with an empty transaction " ++
          "field.\n  An empty transaction means nothing was spent: retry, signing a " ++
          "fresh payload.\n  A non-empty transaction means fees were charged: do not retry.")] }
  else if opts.json then return { code := 0, out := [printed], err := [] }
  else do
    let transaction := (body.optProp "settlement").optProp "transaction"
    if !transaction.truthy then return { code := 0, out := [.text text], err := [] }
    else do
      let asset ← (((chosen.1.field "asset").orElse (.str "?")).toStr : Except JsError JsString)
      let settlement ← (transaction.toStr : Except JsError JsString)
      let more ← (whenTruthy extensions (js "Extensions: ") [] [] : Except JsError JsString)
      return { code := 0, out := [.text text], err :=
        [js "Payer:      " ++ order.publicKey,
          js "Paid:       " ++ intToString price ++ js " base units of " ++ asset,
          js "Settlement: " ++ settlement] ++ (if more.isEmpty then [] else [more]) ++ [js "---"] }

/-- Enforce the ceiling, and have the challenge signed. -/
def payChosen (env : CliEnv) (opts : PayOptions) (order : Order) (required networkId : JsValue)
    (chosen : Ref JsValue) : CliTask Exit := do
  let price ← (priceOf chosen : Except JsError Int)
  if price > order.maxAmount then
    return refuse (js "Refused: price " ++ intToString price ++ js " exceeds --max " ++
      intToString order.maxAmount ++ js " (base units). Nothing was signed.")
  else if !((chosen.1.field "extra").optProp "areFeesSponsored").strictEq (.bool true) then
    return refuse (js ("Refused: the seller does not advertise sponsored fees " ++
      "(extra.areFeesSponsored is not true). Nothing was signed."))
  else do
    let rpcUrl ← (tableLookup rpcUrls (.str opts.network) : Except JsError JsValue)
    let url : JsValue := match opts.rpcUrl with
      | some u => .str u
      | none => rpcUrl
    -- No selector is passed, and below the whole challenge is, not the option.
    Task.perform (CliOp.createClient order.secret networkId url)
    let payload ← (Task.perform (CliOp.createPaymentPayload required)).attempt
    match payload with
    | .error err =>
        return { code := 1, out := [], err := [js "Could not build the payment: " ++ err.message,
          js "  Common causes: no trustline to the asset, or an empty balance."] }
    | .ok payload => deliver env opts order chosen price payload

/-- Choose an option of the challenge. -/
def choose (env : CliEnv) (opts : PayOptions) (order : Order) (required : JsValue) : CliTask Exit :=
  let accepts := required.optProp "accepts"
  if !(lengthOf accepts).truthy then
    return refuse (js "Got a 402 but could not decode the payment challenge.")
  else do
    let networkId ← (tableLookup networkIds (.str opts.network) : Except JsError JsValue)
    let items ← itemsOf accepts
    let selection ← (selectRequirement items networkId : Except JsError Selection)
    match selection with
    | .refused reason => return refuse (js "Error: " ++ reason)
    | .chosen chosen => payChosen env opts order required networkId chosen

/-- The unpaid probe. -/
def probe (env : CliEnv) (opts : PayOptions) (order : Order) : CliTask Exit := do
  let unpaid ← Task.perform (CliOp.fetch order.method order.body none)
  if unpaid.ok then do
    let text ← Task.perform (CliOp.text unpaid)
    return { code := 0, out := [.text text]
             err := [js "(No payment was required, so nothing was spent.)"] }
  else if unpaid.response.status ≠ 402 then
    return refuse (js "Unexpected status: " ++ natToString unpaid.response.status ++ js " " ++
      unpaid.statusText)
  else do
    let text ← Task.perform (CliOp.text unpaid)
    choose env opts order
      (decodeChallenge env (unpaid.response.header "payment-required") text)

/-- The body of the requests: none for `GET`, and otherwise what was given, if
    it is JSON. -/
def requestBody (env : CliEnv) (opts : PayOptions) (method : JsString) :
    Except JsString (Option JsString) :=
  match opts.body with
  | none => .ok (if method = js "GET" then none else some (js "\x7b\x7d"))
  | some body =>
      match safeJsonParse env.parse body with
      | .null =>
          -- A failed parse gives null too, so only the text `null` itself may.
          if trim body ≠ js "null" then
            .error (js "Error: --body must be valid JSON, got \'" ++ body ++ js "\'")
          else .ok (if method = js "GET" then none else some body)
      | _ => .ok (if method = js "GET" then none else some body)

/-- Check the options that are left once there is a secret. -/
def withSecret (env : CliEnv) (opts : PayOptions) (secret : JsString) : CliTask Exit :=
  match env.publicKey secret with
  | .error _ =>
      return refuse (js "Error: invalid Stellar secret key (expected an S... seed).")
  | .ok publicKey =>
      match (JsValue.str opts.max).toBigInt with
      | .error _ =>
          return refuse (js "Error: --max must be an integer in base units, got \'" ++ opts.max ++
            js "\'")
      | .ok maxAmount =>
          let method := toUpperCase opts.method
          if !allowedMethods.contains method then
            return refuse (js "Error: --method must be one of GET, POST, PUT, PATCH, DELETE, " ++
              js "got \'" ++ opts.method ++ js "\'")
          else match requestBody env opts method with
            | .error message => return refuse message
            | .ok body => probe env opts ⟨secret, publicKey, maxAmount, method, body⟩

/-- The secret, from the file if there is one. -/
def readSecret (opts : PayOptions) : CliTask JsString :=
  match opts.secretFile with
  | some path =>
      if path.isEmpty then return opts.secret.getD []
      else do
        let text ← Task.perform (CliOp.readFile path)
        return trim text
  | none => return opts.secret.getD []

/-- What the command does inside its `try`. -/
def payBody (env : CliEnv) (opts : PayOptions) : CliTask Exit := do
  let rpcUrl ← (tableLookup rpcUrls (.str opts.network) : Except JsError JsValue)
  -- An inherited name such as `constructor` passes here, and then finds no option.
  if !rpcUrl.truthy then
    return refuse (js "Error: --network must be \'testnet\' or \'mainnet\', got \'" ++
      opts.network ++ js "\'")
  else do
    let secret ← readSecret opts
    if secret.isEmpty then
      return refuse (js "Error: provide --secret-file (preferred), --secret, or the " ++
        js "VELLAR_SECRET env var.")
    else withSecret env opts secret

/-- The command. -/
def pay (env : CliEnv) (opts : PayOptions) : CliTask Exit :=
  tryCatch (payBody env opts) (fun err => return refuse (js "Error: " ++ err.message))

/-- The options that a client for the network and the `exact` scheme
    supports. -/
def supportedOptions (network : JsValue) (accepts : List (Ref JsValue)) : List (Ref JsValue) :=
  accepts.filter (fun a => (a.1.field "scheme").strictEq (.str "exact") &&
    (a.1.field "network").strictEq network)

/-- The option that a client without a selector signs: the first it supports. -/
def clientSelects (network : JsValue) (accepts : List (Ref JsValue)) : Option (Ref JsValue) :=
  (supportedOptions network accepts).head?

/-- `a.extra?.areFeesSponsored === true`. -/
def Sponsored (a : Ref JsValue) : Prop :=
  ((a.1.field "extra").optProp "areFeesSponsored").strictEq (.bool true) = true

/-- How the command reads the network and the challenge. -/
def Reads (opts : PayOptions) (required networkId : JsValue) (items : List (Ref JsValue)) : Prop :=
  tableLookup networkIds (.str opts.network) = .ok networkId ∧
    itemsOf (required.optProp "accepts") = .ok items

/-- The chosen option passed the checks of the command. -/
structure Cleared (opts : PayOptions) (networkId : JsValue) (items : List (Ref JsValue))
    (chosen : Ref JsValue) (price : Int) : Prop where
  selected : selectRequirement items networkId = .ok (.chosen chosen)
  priced : priceOf chosen = .ok price
  ceiling : ∃ maxAmount, (JsValue.str opts.max).toBigInt = .ok maxAmount ∧ price ≤ maxAmount
  sponsored : Sponsored chosen

/-- The option that will be signed is the one that passed the checks, and its
    price is not negative. -/
def SignsChosen (opts : PayOptions) (required : JsValue) : Prop :=
  ∃ networkId items chosen price, Reads opts required networkId items ∧
    Cleared opts networkId items chosen price ∧ clientSelects networkId items = some chosen ∧
    0 ≤ price

/-- No option that the client supports is cheaper than the first of them, whose
    price is not negative. -/
def FirstIsCheapest (opts : PayOptions) (required : JsValue) : Prop :=
  ∃ networkId items first rest price, Reads opts required networkId items ∧
    supportedOptions networkId items = first :: rest ∧ priceOf first = .ok price ∧ 0 ≤ price ∧
    ∀ a ∈ rest, ∃ other, priceOf a = .ok other ∧ price ≤ other

theorem isOnNetwork_eq_ok {network : JsValue} {a : Ref JsValue} {b : Bool}
    (h : isOnNetwork network a = .ok b) : (a.1.field "network").strictEq network = b := by
  rcases bind_eq_ok.mp h with ⟨n, hn, hret⟩
  injection hret with hret
  rw [← (JsValue.prop_eq_ok hn).2, hret]

theorem isExact_eq_ok {a : Ref JsValue} {b : Bool} (h : isExact a = .ok b) :
    (a.1.field "scheme").strictEq (.str "exact") = b := by
  rcases bind_eq_ok.mp h with ⟨scheme, hscheme, hret⟩
  injection hret with hret
  rw [← (JsValue.prop_eq_ok hscheme).2, hret]

/-- The choice is made among the options that the client supports. -/
theorem selectRequirement_chosen {items : List (Ref JsValue)} {network : JsValue}
    {chosen : Ref JsValue} (h : selectRequirement items network = .ok (.chosen chosen)) :
    ∃ first rest, supportedOptions network items = first :: rest ∧
      cheapestOption first rest = .ok chosen := by
  rcases bind_eq_ok.mp h with ⟨onNetwork, hnetwork, h₁⟩
  split at h₁
  · rcases bind_eq_ok.mp h₁ with ⟨_, -, hret⟩
    injection hret with hret
    exact absurd hret (by simp only [reduceCtorEq, not_false_eq_true])
  rcases bind_eq_ok.mp h₁ with ⟨exact, hexact, h₂⟩
  -- The two filters of the command keep what the client's one does.
  have hsupported : supportedOptions network items = exact := by
    rw [filterE_eq_filter (fun _ _ => isExact_eq_ok) hexact,
      filterE_eq_filter (fun _ _ => isOnNetwork_eq_ok) hnetwork, List.filter_filter]
    rfl
  cases exact with
  | nil =>
      rcases bind_eq_ok.mp h₂ with ⟨_, -, hret⟩
      injection hret with hret
      exact absurd hret (by simp only [reduceCtorEq, not_false_eq_true])
  | cons first rest =>
      rcases bind_eq_ok.mp h₂ with ⟨r, hr, hret⟩
      injection hret with hret
      injection hret with hret
      exact ⟨first, rest, hsupported, hret ▸ hr⟩

theorem cheapestOption_eq_leastE (lo : Ref JsValue) (rest : List (Ref JsValue)) :
    cheapestOption lo rest = leastE priceOf lo rest := by
  induction rest generalizing lo with
  | nil => rfl
  | cons a rest ih =>
      rw [cheapestOption, leastE]
      simp only [ih]

/-- A call that hands a challenge to the client is made after the checks. -/
def AfterChecks (opts : PayOptions) (o : CliOp) : Prop :=
  ∀ required, o = .createPaymentPayload required → ∃ networkId items chosen price,
    Reads opts required networkId items ∧ Cleared opts networkId items chosen price

section Reached

variable {env : CliEnv} {opts : PayOptions} {order : Order}

theorem afterChecks_fetch {method : JsString} {body : Option JsString} {payment : Option JsValue} :
    AfterChecks opts (.fetch method body payment) :=
  fun _ h => absurd h (by simp only [reduceCtorEq, not_false_eq_true])

theorem afterChecks_text {res : FetchReply} : AfterChecks opts (.text res) :=
  fun _ h => absurd h (by simp only [reduceCtorEq, not_false_eq_true])

theorem deliver_onlyCalls {chosen : Ref JsValue} {price : Int} {payload : JsValue} :
    (deliver env opts order chosen price payload).OnlyCalls (AfterChecks opts) := by
  refine onlyCalls_bind (onlyCalls_perform afterChecks_fetch) (fun paid => ?_)
  refine onlyCalls_bind (onlyCalls_perform afterChecks_text) (fun text => ?_)
  dsimp only
  split
  · split <;> trivial
  split
  · trivial
  split
  · trivial
  refine onlyCalls_lift_bind (fun _ _ => ?_)
  refine onlyCalls_lift_bind (fun _ _ => ?_)
  exact onlyCalls_lift_bind (fun _ _ => trivial)

theorem payChosen_onlyCalls {required networkId : JsValue} {items : List (Ref JsValue)}
    {chosen : Ref JsValue} (hreads : Reads opts required networkId items)
    (hselected : selectRequirement items networkId = .ok (.chosen chosen))
    (hmax : (JsValue.str opts.max).toBigInt = .ok order.maxAmount) :
    (payChosen env opts order required networkId chosen).OnlyCalls (AfterChecks opts) := by
  refine onlyCalls_lift_bind (fun price hprice => ?_)
  split
  · trivial
  next hceiling =>
  split
  · trivial
  next hsponsored =>
  -- Both refusals were passed, so all checks hold of the chosen option.
  have hcleared : Cleared opts networkId items chosen price :=
    { selected := hselected, priced := liftM_eq_ok.mp hprice
      ceiling := ⟨order.maxAmount, hmax, not_lt.mp hceiling⟩
      sponsored := by simpa only [Sponsored, Bool.not_eq_true', Bool.not_eq_false] using hsponsored }
  refine onlyCalls_lift_bind (fun _ _ => ?_)
  refine onlyCalls_bind (onlyCalls_perform ?_) (fun _ => ?_)
  · exact fun _ h => absurd h (by simp only [reduceCtorEq, not_false_eq_true])
  refine onlyCalls_bind (onlyCalls_attempt (onlyCalls_perform ?_)) (fun payload => ?_)
  · intro required' h
    injection h with h
    exact h ▸ ⟨networkId, items, chosen, price, hreads, hcleared⟩
  · cases payload with
    | error e => trivial
    | ok payload => exact deliver_onlyCalls

theorem choose_onlyCalls {required : JsValue}
    (hmax : (JsValue.str opts.max).toBigInt = .ok order.maxAmount) :
    (choose env opts order required).OnlyCalls (AfterChecks opts) := by
  unfold choose
  dsimp only
  split
  · trivial
  refine onlyCalls_lift_bind (fun networkId hnetwork => ?_)
  refine onlyCalls_lift_bind (fun items hitems => ?_)
  refine onlyCalls_lift_bind (fun selection hselection => ?_)
  cases selection with
  | refused reason => trivial
  | chosen chosen =>
      have hreads : Reads opts required networkId items := ⟨liftM_eq_ok.mp hnetwork, hitems⟩
      exact payChosen_onlyCalls hreads (liftM_eq_ok.mp hselection) hmax

theorem probe_onlyCalls (hmax : (JsValue.str opts.max).toBigInt = .ok order.maxAmount) :
    (probe env opts order).OnlyCalls (AfterChecks opts) := by
  refine onlyCalls_bind (onlyCalls_perform afterChecks_fetch) (fun unpaid => ?_)
  split
  · exact onlyCalls_bind (onlyCalls_perform afterChecks_text) (fun _ => trivial)
  split
  · trivial
  exact onlyCalls_bind (onlyCalls_perform afterChecks_text) (fun _ => choose_onlyCalls hmax)

theorem withSecret_onlyCalls {secret : JsString} :
    (withSecret env opts secret).OnlyCalls (AfterChecks opts) := by
  unfold withSecret
  split
  · trivial
  split
  · trivial
  next maxAmount hmax =>
  dsimp only
  split
  · trivial
  split
  · trivial
  · exact probe_onlyCalls hmax

/-- The command hands a challenge over only after its checks. -/
theorem pay_reaches : (pay env opts).OnlyCalls (AfterChecks opts) := by
  -- The `catch` around the command only prints.
  refine onlyCalls_tryCatch (onlyCalls_lift_bind (fun rpcUrl _ => ?_)) (fun _ => trivial)
  split
  · trivial
  refine onlyCalls_bind ?_ (fun secret => ?_)
  · unfold readSecret
    split
    · split
      · trivial
      · refine onlyCalls_bind (onlyCalls_perform ?_) (fun _ => trivial)
        exact fun _ h => absurd h (by simp only [reduceCtorEq, not_false_eq_true])
    · trivial
  · split
    · trivial
    · exact withSecret_onlyCalls

end Reached

/-- If the signed option is the chosen one, the first is as cheap as any. -/
theorem SignsChosen.firstIsCheapest {opts : PayOptions} {required : JsValue}
    (h : SignsChosen opts required) : FirstIsCheapest opts required := by
  rcases h with ⟨networkId, items, chosen, price, hreads, hcleared, hsigned, hnonneg⟩
  rcases selectRequirement_chosen hcleared.selected with ⟨first, rest, hsupported, hcheapest⟩
  rw [clientSelects, hsupported, List.head?_cons, Option.some.injEq] at hsigned
  subst hsigned
  rw [cheapestOption_eq_leastE] at hcheapest
  have hrest := (List.forall_mem_cons.mp (leastE_le hcheapest hcleared.priced)).2
  exact ⟨networkId, items, first, rest, price, hreads, hsupported, hcleared.priced, hnonneg, hrest⟩

/-- Whenever the command has a challenge signed, the option that will be signed
    is the chosen one, at a price from zero to the ceiling and with sponsored
    fees, exactly when the first option that the client supports is as cheap as
    any and its price is not negative. -/
theorem pay_signs_chosen_iff (env : CliEnv) (opts : PayOptions)
    (tr : List (Event CliOp CliOp.Ret JsError)) (t : CliTask Exit) (required : JsValue)
    (hrun : Run cliHandler (pay env opts) () tr t ())
    (hcall : t.pending = some (.createPaymentPayload required)) :
    SignsChosen opts required ↔ FirstIsCheapest opts required := by
  have hreached : ∃ networkId items chosen price, Reads opts required networkId items ∧
      Cleared opts networkId items chosen price := by
    cases t with
    | done r => exact absurd hcall (by simp only [Task.pending, reduceCtorEq, not_false_eq_true])
    | call o k =>
        injection hcall with ho
        exact (onlyCalls_run pay_reaches hrun).2.1 required ho
  constructor
  · exact SignsChosen.firstIsCheapest
  · rintro ⟨networkId, items, first, rest, price, hreads, hsupported, hprice, hnonneg, hrest⟩
    -- The run passed the checks with some option, and the first one is that option.
    rcases hreached with ⟨networkId', items', chosen, price', hreads', hcleared⟩
    obtain rfl : networkId' = networkId := Except.ok.inj (hreads'.1.symm.trans hreads.1)
    obtain rfl : items' = items := Except.ok.inj (hreads'.2.symm.trans hreads.2)
    rcases selectRequirement_chosen hcleared.selected with ⟨first', rest', hsupported', hcheapest⟩
    rw [hsupported, List.cons.injEq] at hsupported'
    rcases hsupported' with ⟨rfl, rfl⟩
    rw [cheapestOption_eq_leastE, leastE_eq_first hprice hrest, Except.ok.injEq] at hcheapest
    subst hcheapest
    have hsame : price = price' := Except.ok.inj (hprice.symm.trans hcleared.priced)
    refine ⟨_, _, first, price', hreads', hcleared, ?_, hsame ▸ hnonneg⟩
    rw [clientSelects, hsupported, List.head?_cons]

section Sample

/-- An `exact` option of a seller on the test network. -/
def sampleOption (amount : JsString) : JsValue :=
  .obj [(js "scheme", .str "exact"), (js "network", .str "stellar:testnet"),
    (js "amount", .str amount), (js "maxTimeoutSeconds", .num 60),
    (js "extra", .obj [(js "areFeesSponsored", .bool true)])]

/-- A challenge with options of these amounts. -/
def sampleChallenge (amounts : List JsString) : JsValue :=
  .obj [(js "x402Version", .num 2), (js "accepts", .arr (amounts.map sampleOption))]

/-- The challenge as text. -/
def sampleText (amounts : List JsString) : JsString :=
  match (sampleChallenge amounts).stringify with
  | .ok (some text) => text
  | _ => []

/-- A runtime that parses the challenge and knows one key. -/
def sampleEnv (amounts : List JsString) : CliEnv where
  parse text := if text = sampleText amounts then .ok (sampleChallenge amounts) else .error []
  base64ToText _ := []
  publicKey secret :=
    if secret = js "S" ++ List.replicate 51 65 ++ js "BSU2" then
      .ok (js "GA5WUJ54Z23KILLC" ++ js "UOUNAKTPBVZWKMQV" ++ js "O4O6EQ5GHLAERIML" ++ js "LHNCSKYH")
    else .error ⟨.foreign, []⟩

/-- Pay at most two million base units. -/
def sampleOptions : PayOptions :=
  { secret := some (js "S" ++ List.replicate 51 65 ++ js "BSU2"), secretFile := none
    max := js "2000000", network := js "testnet", rpcUrl := none, method := js "GET"
    body := none, json := false }

/-- A seller who answers with the challenge in the body. -/
def sampleAnswer (amounts : List JsString) : (o : CliOp) → Except JsError o.Ret
  | .readFile _ => .ok []
  | .fetch _ _ _ => .ok ⟨⟨402, []⟩, js "Payment Required"⟩
  | .text _ => .ok (sampleText amounts)
  | .createClient _ _ _ => .ok ()
  | .createPaymentPayload _ => .ok .null

/-- The command up to the signature. -/
def sampleRun (amounts : List JsString) :=
  (pay (sampleEnv amounts) sampleOptions).replay cliHandler
    (List.replicate 3 (sampleAnswer amounts)) ()

theorem sampleRun_run (amounts : List JsString) :
    Run cliHandler (pay (sampleEnv amounts) sampleOptions) () (sampleRun amounts).1
      (sampleRun amounts).2.1 () :=
  run_replay cliHandler _ (List.replicate 3 (sampleAnswer amounts)) ()

/-- The prices of the options that the client supports, once the command has a
    challenge signed. -/
def pricesAtSigning (t : CliTask Exit) : List (Except NativeError Int) :=
  match t.pending with
  | some (.createPaymentPayload required) =>
      match itemsOf (required.optProp "accepts") with
      | .ok items => (supportedOptions (.str "stellar:testnet") items).map priceOf
      | .error _ => []
  | _ => []

theorem pricesAtSigning_cons {t : CliTask Exit} {price : Except NativeError Int}
    {prices : List (Except NativeError Int)} (h : pricesAtSigning t = price :: prices) :
    ∃ required items, t.pending = some (.createPaymentPayload required) ∧
      Reads sampleOptions required (.str "stellar:testnet") items ∧
      (supportedOptions (.str "stellar:testnet") items).map priceOf = price :: prices := by
  unfold pricesAtSigning at h
  split at h
  · next required hpending =>
      split at h
      · next items hitems => exact ⟨required, items, hpending, ⟨rfl, hitems⟩, h⟩
      · exact absurd h (by simp only [reduceCtorEq, not_false_eq_true])
  · exact absurd h (by simp only [reduceCtorEq, not_false_eq_true])

/-- With one option the signed one is the chosen one. -/
theorem pay_signs_chosen_iff_sample : ∃ required,
    (sampleRun [js "1000000"]).2.1.pending = some (.createPaymentPayload required) ∧
    SignsChosen sampleOptions required := by
  have hprices : pricesAtSigning (sampleRun [js "1000000"]).2.1 = [.ok 1000000] := by
    decide +kernel
  rcases pricesAtSigning_cons hprices with ⟨required, items, hcall, hreads, hmap⟩
  rcases List.map_eq_singleton_iff.mp hmap with ⟨first, hsupported, hprice⟩
  refine ⟨required, hcall, (pay_signs_chosen_iff (sampleEnv [js "1000000"]) sampleOptions _ _
    required (sampleRun_run _) hcall).mpr ?_⟩
  exact ⟨_, items, first, [], 1000000, hreads, hsupported, hprice, by decide,
    fun _ ha => absurd ha List.not_mem_nil⟩

/-- With a dearer option first, the command compares the price of the second
    and the first is signed. -/
theorem pay_signs_another : ¬ ∀ (env : CliEnv) (opts : PayOptions)
    (tr : List (Event CliOp CliOp.Ret JsError)) (t : CliTask Exit) (required : JsValue),
    Run cliHandler (pay env opts) () tr t () →
    t.pending = some (.createPaymentPayload required) → SignsChosen opts required := by
  intro hall
  have hprices : pricesAtSigning (sampleRun [js "5000000", js "1000000"]).2.1 =
      [.ok 5000000, .ok 1000000] := by decide +kernel
  rcases pricesAtSigning_cons hprices with ⟨required, items, hcall, hreads, hmap⟩
  have hsigns := hall (sampleEnv [js "5000000", js "1000000"]) sampleOptions _ _ required
    (sampleRun_run _) hcall
  -- Agreement would make five million at most one million.
  rcases hsigns.firstIsCheapest with
    ⟨networkId, items', first, rest, price, hreads', hsupported, hprice, -, hrest⟩
  obtain rfl : networkId = .str "stellar:testnet" :=
    Except.ok.inj (hreads'.1.symm.trans hreads.1)
  obtain rfl : items' = items := Except.ok.inj (hreads'.2.symm.trans hreads.2)
  rw [hsupported, List.map_cons, List.cons.injEq, hprice, Except.ok.injEq] at hmap
  rcases List.map_eq_singleton_iff.mp hmap.2 with ⟨second, rfl, hsecond⟩
  rcases hrest second (List.mem_singleton_self second) with ⟨other, hother, hle⟩
  rw [hsecond, Except.ok.injEq] at hother
  rw [hmap.1, ← hother] at hle
  exact absurd hle (by decide)

end Sample

end Cli

end VellarSdk
