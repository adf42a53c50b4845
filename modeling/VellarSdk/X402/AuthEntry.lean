import VellarSdk.Stellar.Native

/-!
# What an Entry Authorises

The check that an authorization entry is the payment that was cleared. Entries
come back from the RPC's simulation, so all of an entry is untrusted: its
contract, its function, its arguments and what hangs under it.

The amount is compared after two conversions, `scValToNative` and `BigInt`, and
the second accepts more than integers. An argument of another type that they
read as the amount passes for it, and `assertAuthEntryInvocation_exact_iff` says
that this is the only way in which the check and the intended payment differ.
`ScVal.amount` says which arguments these are.

## Main definitions

* `ExpectedInvocation`: The payment we intended.
* `assertAuthEntryInvocation`: The check.
* `IsTransfer`: An entry that is exactly the intended payment.
* `CoercedAmount`: An entry that is not, but whose amount is read as its own.

## Theorems

* `assertAuthEntryInvocation_eq_ok`: What the check accepts.
* `assertAuthEntryInvocation_exact_iff`: When it accepts exactly the intended
  payment.
-/

namespace VellarSdk

namespace X402

open Js Stellar

/-- The payment we intended, to compare the entry against. The contract and
    the recipient come from the seller's requirements. -/
structure ExpectedInvocation where
  contract : JsValue
  functionName : JsString
  fromAddress : JsString
  toAddress : JsValue
  amount : Int

/-- The address a value holds. -/
def addressOf (sdk : StellarSdk) (value : ScVal) (field : JsString) : Except JsError JsString :=
  match value with
  | .address a => match sdk.addressToString a with
    | .ok text => .ok text
    | .error _ => throwAuthEntryMismatch field (js "an address") (js "a non-address ScVal")
  | _ => throwAuthEntryMismatch field (js "an address") (js "a non-address ScVal")

/-- `BigInt(scValToNative(value))`. -/
def amountOf (sdk : StellarSdk) (value : ScVal) : Except JsError Int := do
  -- `BigInt` takes strings, booleans and every width of integer.
  let native ← sdk.scValToNative value
  (native.toBigInt : Except NativeError Int)

/-- The first argument is the payer. -/
def assertFrom (sdk : StellarSdk) (expected : ExpectedInvocation) (arg : ScVal) :
    Except JsError Unit := do
  let sender ← addressOf sdk arg (js "from")
  if sender ≠ expected.fromAddress then
    throwAuthEntryMismatch (js "from") expected.fromAddress sender
  else return ()

/-- The second argument is the recipient, which the on-chain policy does not
    check. -/
def assertTo (sdk : StellarSdk) (expected : ExpectedInvocation) (arg : ScVal) :
    Except JsError Unit := do
  let recipient ← addressOf sdk arg (js "to")
  if !(JsValue.str recipient).strictEq expected.toAddress then
    throwAuthEntryMismatch (js "to (recipient)") expected.toAddress recipient
  else return ()

/-- The third argument is the amount. -/
def assertAmount (sdk : StellarSdk) (expected : ExpectedInvocation) (arg : ScVal) :
    Except JsError Unit :=
  match amountOf sdk arg with
  | .error _ =>
      throwAuthEntryMismatch (js "amount") (intToString expected.amount) (js "a non-numeric ScVal")
  | .ok amount =>
      if amount ≠ expected.amount then
        throwAuthEntryMismatch (js "amount") (intToString expected.amount) (intToString amount)
      else return ()

/-- The arguments are those of the intended transfer. -/
def assertArgs (sdk : StellarSdk) (expected : ExpectedInvocation) (args : List ScVal) :
    Except JsError Unit :=
  match args with
  | [arg0, arg1, arg2] => do
      assertFrom sdk expected arg0
      assertTo sdk expected arg1
      assertAmount sdk expected arg2
  | _ => throwAuthEntryMismatch (js "argument count") (js "3") (natToString args.length)

/-- The call is of the intended contract and function. -/
def assertCallee (sdk : StellarSdk) (expected : ExpectedInvocation) (call : ContractCall) :
    Except JsError Unit := do
  let contract ← sdk.addressToString call.contractAddress
  if !(JsValue.str contract).strictEq expected.contract then
    throwAuthEntryMismatch (js "contract") expected.contract contract
  else if bufferToString call.functionName ≠ expected.functionName then
    throwAuthEntryMismatch (js "function") expected.functionName
      (bufferToString call.functionName)
  else return ()

/-- Assert an auth entry authorises the intended payment, or throw. -/
def assertAuthEntryInvocation (sdk : StellarSdk) (entry : SorobanAuthorizationEntry)
    (expected : ExpectedInvocation) : Except JsError Unit :=
  match entry.rootInvocation.function with
  | .contractFn call => do
      assertCallee sdk expected call
      assertArgs sdk expected call.args
      -- A signature over the root covers everything under it.
      if entry.rootInvocation.subInvocations.length ≠ 0 then
        throwAuthEntryMismatch (js "sub-invocations") (js "none")
          (natToString entry.rootInvocation.subInvocations.length ++
            js " (signing would authorise them too)")
      else return ()
  | fn => throwAuthEntryMismatch (js "function type") (js "a contract call") fn.switchName

theorem throwAuthEntryMismatch_ne_ok {α : Type} {field : JsString} {expected : JsValue}
    {actual : JsString} {a : α} :
    (throwAuthEntryMismatch field expected actual : Except JsError α) ≠ .ok a := by
  intro h
  rcases bind_eq_ok.mp h with ⟨_, -, h⟩
  exact absurd h (by simp only [reduceCtorEq, not_false_eq_true])

/-- A guard passes exactly when its condition does not hold. -/
theorem guard_eq_ok {p : Prop} [Decidable p] {field : JsString} {expected : JsValue}
    {actual : JsString} :
    (if p then throwAuthEntryMismatch field expected actual else return () :
      Except JsError Unit) = .ok () ↔ ¬ p := by
  by_cases hp : p
  · rw [if_pos hp]
    exact iff_of_false throwAuthEntryMismatch_ne_ok (not_not_intro hp)
  · rw [if_neg hp]
    exact iff_of_true rfl hp

theorem addressOf_eq_ok {sdk : StellarSdk} {value : ScVal} {field text : JsString} :
    addressOf sdk value field = .ok text ↔
      ∃ a, value = .address a ∧ sdk.addressToString a = .ok text := by
  cases value with
  | address a =>
      simp only [addressOf, ScVal.address.injEq, exists_eq_left']
      cases sdk.addressToString a with
      | error e => simp only [throwAuthEntryMismatch_ne_ok, reduceCtorEq]
      | ok text' => exact Iff.rfl
  | _ => simp only [addressOf, throwAuthEntryMismatch_ne_ok, reduceCtorEq, false_and,
      exists_false]

section Spec

variable {sdk : StellarSdk} {expected : ExpectedInvocation}

theorem assertFrom_eq_ok {arg : ScVal} : assertFrom sdk expected arg = .ok () ↔
    ∃ a, arg = .address a ∧ sdk.addressToString a = .ok expected.fromAddress := by
  rw [assertFrom, bind_eq_ok]
  constructor
  · rintro ⟨sender, hsender, hguard⟩
    rw [guard_eq_ok, not_not] at hguard
    rw [hguard] at hsender
    exact addressOf_eq_ok.mp hsender
  · intro h
    exact ⟨_, addressOf_eq_ok.mpr h, guard_eq_ok.mpr (not_not_intro rfl)⟩

theorem assertTo_eq_ok {arg : ScVal} : assertTo sdk expected arg = .ok () ↔
    ∃ b text, arg = .address b ∧ sdk.addressToString b = .ok text ∧
      expected.toAddress = .str text := by
  rw [assertTo, bind_eq_ok]
  constructor
  · rintro ⟨recipient, hrecipient, hguard⟩
    rcases addressOf_eq_ok.mp hrecipient with ⟨b, hb, htext⟩
    rw [guard_eq_ok, Bool.not_eq_true', Bool.not_eq_false] at hguard
    exact ⟨b, recipient, hb, htext, (JsValue.eq_of_strictEq hguard).symm⟩
  · rintro ⟨b, text, hb, htext, hto⟩
    refine ⟨text, addressOf_eq_ok.mpr ⟨b, hb, htext⟩, guard_eq_ok.mpr ?_⟩
    rw [hto, (JsValue.strictEq_iff_of_str _ _).mpr rfl]
    simp only [Bool.not_true, Bool.false_eq_true, not_false_eq_true]

theorem assertAmount_eq_ok {arg : ScVal} :
    assertAmount sdk expected arg = .ok () ↔ amountOf sdk arg = .ok expected.amount := by
  unfold assertAmount
  cases amountOf sdk arg with
  | error e => simp only [throwAuthEntryMismatch_ne_ok, reduceCtorEq]
  | ok amount => simp only [guard_eq_ok, not_not, Except.ok.injEq]

theorem assertCallee_eq_ok {call : ContractCall} : assertCallee sdk expected call = .ok () ↔
    ∃ text, sdk.addressToString call.contractAddress = .ok text ∧
      expected.contract = .str text ∧
      bufferToString call.functionName = expected.functionName := by
  rw [assertCallee, bind_eq_ok]
  refine exists_congr (fun text => and_congr_right (fun _ => ?_))
  -- The contract is compared first, and a mismatch hides the function.
  by_cases hc : (JsValue.str text).strictEq expected.contract = true
  · rw [if_neg (by simp only [hc, Bool.not_true, Bool.false_eq_true, not_false_eq_true]),
      guard_eq_ok, not_not]
    exact (and_iff_right (JsValue.eq_of_strictEq hc).symm).symm
  · rw [if_pos (by simpa only [Bool.not_eq_true', Bool.not_eq_true] using hc)]
    refine iff_of_false throwAuthEntryMismatch_ne_ok (fun h => hc ?_)
    rw [h.1]
    exact (JsValue.strictEq_iff_of_str _ _).mpr rfl

/-- The arguments the check accepts. -/
theorem assertArgs_eq_ok {args : List ScVal} : assertArgs sdk expected args = .ok () ↔
    ∃ a b amount text, args = [.address a, .address b, amount] ∧
      sdk.addressToString a = .ok expected.fromAddress ∧ sdk.addressToString b = .ok text ∧
      expected.toAddress = .str text ∧ amountOf sdk amount = .ok expected.amount := by
  constructor
  · intro h
    unfold assertArgs at h
    split at h
    · next arg0 arg1 arg2 =>
        rcases bind_eq_ok.mp h with ⟨_, hfrom, h⟩
        rcases bind_eq_ok.mp h with ⟨_, hto, hamount⟩
        rcases assertFrom_eq_ok.mp hfrom with ⟨a, rfl, ha⟩
        rcases assertTo_eq_ok.mp hto with ⟨b, text, rfl, hb, htext⟩
        exact ⟨a, b, arg2, text, rfl, ha, hb, htext, assertAmount_eq_ok.mp hamount⟩
    · exact absurd h throwAuthEntryMismatch_ne_ok
  · rintro ⟨a, b, amount, text, rfl, ha, hb, htext, hamount⟩
    exact bind_eq_ok.mpr ⟨(), assertFrom_eq_ok.mpr ⟨a, rfl, ha⟩, bind_eq_ok.mpr
      ⟨(), assertTo_eq_ok.mpr ⟨b, text, rfl, hb, htext⟩, assertAmount_eq_ok.mpr hamount⟩⟩

/-- An entry whose root calls the intended contract and function on the
    intended addresses and the given amount, with nothing under it. -/
def CallsWith (sdk : StellarSdk) (expected : ExpectedInvocation)
    (entry : SorobanAuthorizationEntry) (amount : ScVal) : Prop :=
  ∃ call a b contract recipient,
    entry.rootInvocation = .mk (.contractFn call) [] ∧
    sdk.addressToString call.contractAddress = .ok contract ∧
    expected.contract = .str contract ∧
    bufferToString call.functionName = expected.functionName ∧
    call.args = [.address a, .address b, amount] ∧
    sdk.addressToString a = .ok expected.fromAddress ∧
    sdk.addressToString b = .ok recipient ∧ expected.toAddress = .str recipient

/-- What the check accepts. -/
theorem assertAuthEntryInvocation_eq_ok {entry : SorobanAuthorizationEntry} :
    assertAuthEntryInvocation sdk entry expected = .ok () ↔
      ∃ amount, CallsWith sdk expected entry amount ∧
        amountOf sdk amount = .ok expected.amount := by
  rcases entry with ⟨credentials, fn, subs⟩
  cases fn with
  | contractFn call =>
      constructor
      · intro h
        rcases bind_eq_ok.mp h with ⟨_, hcallee, h⟩
        rcases bind_eq_ok.mp h with ⟨_, hargs, h⟩
        rcases assertCallee_eq_ok.mp hcallee with ⟨contract, hcontract, hexpected, hname⟩
        rcases assertArgs_eq_ok.mp hargs with ⟨a, b, amount, text, hargs, ha, hb, htext, hamount⟩
        -- The last guard is the one on the tree below the root.
        have hsubs : subs = [] := List.length_eq_zero_iff.mp (not_not.mp (guard_eq_ok.mp h))
        rw [hsubs]
        exact ⟨amount, ⟨call, a, b, contract, text, rfl, hcontract, hexpected, hname, hargs, ha,
          hb, htext⟩, hamount⟩
      · rintro ⟨amount, ⟨call', a, b, contract, text, hroot, hcontract, hexpected, hname, hargs,
          ha, hb, htext⟩, hamount⟩
        injection hroot with hfn hsubs
        injection hfn with hcall
        subst hcall hsubs
        refine bind_eq_ok.mpr ⟨(), assertCallee_eq_ok.mpr ⟨contract, hcontract, hexpected, hname⟩,
          bind_eq_ok.mpr ⟨(), assertArgs_eq_ok.mpr ⟨a, b, amount, text, hargs, ha, hb, htext,
            hamount⟩, guard_eq_ok.mpr (not_not_intro rfl)⟩⟩
  | createContractHostFn _ | createContractV2HostFn _ =>
      refine iff_of_false throwAuthEntryMismatch_ne_ok ?_
      rintro ⟨_, ⟨_, _, _, _, _, hroot, -⟩, -⟩
      injection hroot with hfn _
      exact absurd hfn (by simp only [reduceCtorEq, not_false_eq_true])

end Spec

/-- The entry is exactly the intended payment. -/
def IsTransfer (sdk : StellarSdk) (expected : ExpectedInvocation)
    (entry : SorobanAuthorizationEntry) : Prop :=
  ∃ n : BitVec 128, CallsWith sdk expected entry (.i128 n) ∧ n.toInt = expected.amount

/-- The entry is the intended payment but for its amount, which is no `i128` and
    yet read as the intended one. -/
def CoercedAmount (sdk : StellarSdk) (expected : ExpectedInvocation)
    (entry : SorobanAuthorizationEntry) : Prop :=
  ∃ arg, CallsWith sdk expected entry arg ∧ (∀ n, arg ≠ .i128 n) ∧
    arg.amount = some expected.amount

/-- The conversions of the check read a value as its amount. -/
theorem amountOf_eq_ok {sdk : StellarSdk} (h : NativeConversion sdk) {arg : ScVal} {n : Int} :
    amountOf sdk arg = .ok n ↔ arg.amount = some n := by
  rw [← read_iff_amount h, amountOf, bind_eq_ok]
  exact exists_congr (fun native => and_congr_right (fun _ => liftM_eq_ok))

theorem CallsWith.amount_eq {sdk : StellarSdk} {expected : ExpectedInvocation}
    {entry : SorobanAuthorizationEntry} {amount amount' : ScVal}
    (h : CallsWith sdk expected entry amount) (h' : CallsWith sdk expected entry amount') :
    amount = amount' := by
  rcases h with ⟨call, a, b, _, _, hroot, -, -, -, hargs, -⟩
  rcases h' with ⟨call', a', b', _, _, hroot', -, -, -, hargs', -⟩
  rw [hroot] at hroot'
  injection hroot' with hfn _
  injection hfn with hcall
  rw [← hcall, hargs] at hargs'
  simp only [List.cons.injEq, and_true] at hargs'
  exact hargs'.2.2

/-- The check accepts an entry exactly when it is the intended payment, unless
    the entry has something in the place of the amount that is no `i128` and is
    read as the amount: an integer of another width, a boolean, a text that
    spells the number, or an array of at most one element. -/
theorem assertAuthEntryInvocation_exact_iff (sdk : StellarSdk) (entry : SorobanAuthorizationEntry)
    (expected : ExpectedInvocation) (hnative : NativeConversion sdk) :
    (assertAuthEntryInvocation sdk entry expected = .ok () ↔ IsTransfer sdk expected entry) ↔
      ¬ CoercedAmount sdk expected entry := by
  have hinteger : ∀ n : BitVec 128, (ScVal.i128 n).amount = some n.toInt := fun _ => rfl
  rw [assertAuthEntryInvocation_eq_ok]
  simp only [amountOf_eq_ok hnative]
  constructor
  · rintro hexact ⟨arg, hcall, hother, hread⟩
    rcases hexact.mp ⟨arg, hcall, hread⟩ with ⟨n, hcall', -⟩
    exact hother n (hcall.amount_eq hcall')
  · intro hnot
    constructor
    · rintro ⟨arg, hcall, hread⟩
      -- Only an argument that is no `i128` can be accepted by conversion alone.
      by_cases hother : ∀ n, arg ≠ .i128 n
      · exact absurd ⟨arg, hcall, hother, hread⟩ hnot
      · rcases not_forall_not.mp hother with ⟨n, rfl⟩
        rw [hinteger, Option.some.injEq] at hread
        exact ⟨n, hcall, hread⟩
    · rintro ⟨n, hcall, hn⟩
      exact ⟨.i128 n, hcall, by rw [hinteger, hn]⟩

/-- Three contracts: a token, a wallet and a seller, by the byte that fills
    their id. -/
def sampleContract (b : UInt8) : ScAddress :=
  .contract (List.replicate 32 b)

/-- Their addresses as text. -/
def sampleAddress (b : UInt8) : JsString :=
  if b = 0 then js "C" ++ List.replicate 51 65 ++ js "BSC4"
  else if b = 1 then js "CAAQ" ++ (List.replicate 6 (js "CAIBAEAQ")).flatten ++ js "C526"
  else js "CABAEAQC" ++ (List.replicate 5 (js "AIBAEAQC")).flatten ++ js "AIBAFNSZ"

/-- A transfer of 100 base units from the wallet to the seller. -/
def sampleExpected : ExpectedInvocation :=
  { contract := sampleAddress 0, functionName := "transfer", fromAddress := sampleAddress 1
    toAddress := sampleAddress 2, amount := 100 }

/-- An entry for that transfer with any amount, and nothing under it. -/
def sampleEntry (amount : ScVal) : SorobanAuthorizationEntry :=
  { credentials := .address ⟨sampleContract 1, 7, JsNum.ofNat 0, .void⟩
    rootInvocation := .mk (.contractFn ⟨sampleContract 0, TextEncoder.encode "transfer",
      [.address (sampleContract 1), .address (sampleContract 2), amount]⟩) [] }

/-- The invocation of the sample transfer, in XDR up to its arguments' end. -/
def sampleCallBytes : Bytes :=
  [0, 0, 0, 0, 0, 0, 0, 1] ++ List.replicate 32 0 ++ [0, 0, 0, 8] ++
    TextEncoder.encode "transfer" ++ [0, 0, 0, 3, 0, 0, 0, 18, 0, 0, 0, 1] ++
    List.replicate 32 1 ++ [0, 0, 0, 18, 0, 0, 0, 1] ++ List.replicate 32 2 ++
    [0, 0, 0, 10] ++ List.replicate 15 0 ++ [100]

/-- The XDR of an unsigned entry for the sample transfer, by its nonce. -/
def sampleEntryBytes (nonce : UInt8) : Bytes :=
  [0, 0, 0, 1, 0, 0, 0, 1] ++ List.replicate 32 1 ++ List.replicate 7 0 ++ [nonce] ++
    [0, 0, 0, 0, 0, 0, 0, 1] ++ sampleCallBytes ++ [0, 0, 0, 0]

/-- The entry itself. -/
def sampleEntryOf (nonce : UInt8) : SorobanAuthorizationEntry :=
  { sampleEntry (.i128 100) with
    credentials := .address ⟨sampleContract 1, nonce.toBitVec.setWidth 64, JsNum.ofNat 0, .void⟩ }

/-- The nonce of a sample entry. -/
def sampleNonce (entry : SorobanAuthorizationEntry) : Option UInt8 :=
  match entry.credentials with
  | .address credentials => [7, 8].find? (fun n => n.toBitVec.setWidth 64 = credentials.nonce)
  | _ => none

/-- The public key of the secret that is all zeros. -/
def samplePublicKey : Bytes :=
  [59, 106, 39, 188, 206, 182, 164, 45, 98, 163, 168, 208, 42, 111, 13, 115,
    101, 50, 21, 119, 29, 226, 67, 166, 58, 192, 72, 161, 139, 89, 218, 41]

/-- The hash that a signature of the first sample entry is over, valid to
    ledger 1012 on the test network. -/
def sampleHash : Bytes :=
  [193, 230, 202, 217, 174, 51, 4, 77, 191, 180, 96, 77, 147, 11, 114, 147,
    245, 138, 85, 208, 249, 172, 213, 116, 6, 44, 237, 220, 22, 127, 156, 189]

/-- The text of the three contracts. -/
def sampleAddressToString (a : ScAddress) : Except JsError JsString :=
  if a = sampleContract 0 then .ok (sampleAddress 0)
  else if a = sampleContract 1 then .ok (sampleAddress 1)
  else if a = sampleContract 2 then .ok (sampleAddress 2)
  else .error ⟨.foreign, js "Unsupported address"⟩

mutual

/-- `scValToNative`. Maps and structures are left without their fields. -/
def sampleNative : ScVal → Except JsError JsValue
  | .void => .ok .null
  | .ledgerKeyContractInstance => .ok .undefined
  | .bool b => .ok (.bool b)
  | .u32 n => .ok (.num (.finite (n.toNat : Int)))
  | .i32 n => .ok (.num (.finite n.toInt))
  | .u64 n | .timepoint n | .duration n => .ok (.bigint n.toNat)
  | .i64 n => .ok (.bigint n.toInt)
  | .u128 n => .ok (.bigint n.toNat)
  | .i128 n => .ok (.bigint n.toInt)
  | .u256 n => .ok (.bigint n.toNat)
  | .i256 n => .ok (.bigint n.toInt)
  | .bytes b => .ok (.buffer b)
  | .string b | .symbol b => .ok (.str (TextDecoder.decode b))
  | .vec none => .ok (.arr [])
  | .vec (some items) => do
      let natives ← sampleNatives items
      return .arr natives
  | .address a => do
      let text ← sampleAddressToString a
      return .str text
  | .map _ | .error _ | .contractInstance _ | .ledgerKeyNonce _ => .ok (.obj [])

/-- The elements of an array. -/
def sampleNatives : List ScVal → Except JsError (List JsValue)
  | [] => .ok []
  | v :: rest => do
      let native ← sampleNative v
      let natives ← sampleNatives rest
      return native :: natives

end

/-- The SDK on the three contracts, on values and on entries for the sample
    transfer with the nonces 7 and 8. -/
def sampleSdk : StellarSdk where
  addressToString := sampleAddressToString
  addressFromString s :=
    if s = sampleAddress 0 then .ok (sampleContract 0)
    else if s = sampleAddress 1 then .ok (sampleContract 1)
    else if s = sampleAddress 2 then .ok (sampleContract 2)
    else .error ⟨.foreign, js "Unsupported address type"⟩
  scValToNative := sampleNative
  nativeToAddress
    | .str s =>
        if s = sampleAddress 0 then .ok (.address (sampleContract 0))
        else if s = sampleAddress 1 then .ok (.address (sampleContract 1))
        else if s = sampleAddress 2 then .ok (.address (sampleContract 2))
        else .error ⟨.foreign, js "Unsupported address type"⟩
    | _ => .error ⟨.foreign, js "Unsupported address type"⟩
  nativeToI128 n := .ok (.i128 (BitVec.ofInt 128 n))
  entryToXdr entry :=
    match sampleNonce entry with
    | some nonce => .ok (btoa (sampleEntryBytes nonce))
    | none => .error ⟨.foreign, []⟩
  entryFromXdr text :=
    match [7, 8].find? (fun nonce => btoa (sampleEntryBytes nonce) = text) with
    | some nonce => .ok (sampleEntryOf nonce)
    | none => .error ⟨.foreign, []⟩
  rawPublicKey secret :=
    if secret = js "S" ++ List.replicate 51 65 ++ js "BSU2" then .ok samplePublicKey
    else .error ⟨.foreign, js "invalid encoded string"⟩
  preimageHash entry ledger passphrase :=
    if sampleNonce entry = some 7 ∧ ledger = JsNum.ofNat 1012 ∧
        passphrase.strictEq (.str "Test SDF Network ; September 2015") then .ok sampleHash
    else .error ⟨.foreign, []⟩

theorem sampleSdk_addressToString (b : UInt8) (hb : b = 0 ∨ b = 1 ∨ b = 2) :
    sampleSdk.addressToString (sampleContract b) = .ok (sampleAddress b) := by
  rcases hb with rfl | rfl | rfl <;> rfl

/-- Its conversion is the documented one. -/
theorem sampleSdk_native : NativeConversion sampleSdk where
  void := rfl
  instanceKey := rfl
  bool _ := rfl
  number v n h := by
    cases v with
    | u32 k | i32 k =>
        rw [← Option.some.inj h]
        rfl
    | _ => exact absurd h (by simp only [ScVal.number, reduceCtorEq, not_false_eq_true])
  bigint v n h := by
    cases v with
    | u64 k | i64 k | timepoint k | duration k | u128 k | i128 k | u256 k | i256 k =>
        rw [← Option.some.inj h]
        rfl
    | _ => exact absurd h (by simp only [ScVal.bigint, reduceCtorEq, not_false_eq_true])
  bytes _ := rfl
  string _ := rfl
  symbol _ := rfl
  vec items := by
    -- The sample's own recursion is `mapM`.
    have hnatives : ∀ l : List ScVal, sampleNatives l = l.mapM sampleNative := by
      intro l
      induction l with
      | nil => rfl
      | cons v rest ih => rw [sampleNatives, List.mapM_cons, ih]
    cases items with
    | none => rfl
    | some l =>
        change sampleNative (.vec (some l)) = _
        rw [sampleNative, hnatives]
        rfl
  map _ v h := ⟨[], (Except.ok.inj h).symm⟩
  error _ v h := ⟨[], (Except.ok.inj h).symm⟩
  contractInstance _ v h := ⟨[], (Except.ok.inj h).symm⟩
  nonceKey _ v h := ⟨[], (Except.ok.inj h).symm⟩
  address _ := rfl
  letter a text h := by
    change sampleAddressToString a = .ok text at h
    unfold sampleAddressToString at h
    split at h
    · exact ⟨67, _, (Except.ok.inj h).symm, by decide⟩
    split at h
    · exact ⟨67, _, (Except.ok.inj h).symm, by decide⟩
    split at h
    · exact ⟨67, _, (Except.ok.inj h).symm, by decide⟩
    · exact absurd h (by simp only [reduceCtorEq, not_false_eq_true])

/-- The sample entry calls what is expected. -/
theorem sampleEntry_calls (amount : ScVal) :
    CallsWith sampleSdk sampleExpected (sampleEntry amount) amount := by
  have hname : bufferToString (TextEncoder.encode "transfer") = js "transfer" := by decide +kernel
  exact ⟨_, sampleContract 1, sampleContract 2, sampleAddress 0, sampleAddress 2, rfl,
    sampleSdk_addressToString 0 (by decide), rfl, hname, rfl,
    sampleSdk_addressToString 1 (by decide), sampleSdk_addressToString 2 (by decide), rfl⟩

/-- The check is exact on the transfer itself. -/
theorem assertAuthEntryInvocation_exact_iff_sample :
    (assertAuthEntryInvocation sampleSdk (sampleEntry (.i128 100)) sampleExpected = .ok () ↔
      IsTransfer sampleSdk sampleExpected (sampleEntry (.i128 100))) ↔
      ¬ CoercedAmount sampleSdk sampleExpected (sampleEntry (.i128 100)) :=
  assertAuthEntryInvocation_exact_iff sampleSdk _ _ sampleSdk_native

/-- The text `"100"` passes for the amount 100. -/
theorem assertAuthEntryInvocation_accepts_text : ¬ ∀ (sdk : StellarSdk)
    (entry : SorobanAuthorizationEntry) (expected : ExpectedInvocation), NativeConversion sdk →
    (assertAuthEntryInvocation sdk entry expected = .ok () ↔ IsTransfer sdk expected entry) := by
  intro hall
  have hexact := hall sampleSdk (sampleEntry (.string (TextEncoder.encode "100")))
    sampleExpected sampleSdk_native
  have hconverts : amountOf sampleSdk (.string (TextEncoder.encode "100")) = .ok 100 := rfl
  rcases hexact.mp (assertAuthEntryInvocation_eq_ok.mpr ⟨_, sampleEntry_calls _, hconverts⟩) with
    ⟨n, hcall, -⟩
  have hsame := (sampleEntry_calls (.string (TextEncoder.encode "100"))).amount_eq hcall
  exact absurd hsame (by simp only [reduceCtorEq, not_false_eq_true])

end X402

end VellarSdk
