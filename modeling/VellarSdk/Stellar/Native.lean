import VellarSdk.Js.Array
import VellarSdk.Stellar.Xdr

/-!
# Contract Values as Integers

What JavaScript makes of a contract value that stands where an amount should.
The source reads it as `BigInt(scValToNative(v))`. `scValToNative` turns every
kind of value into something, and `BigInt` reads most of that as an integer: an
integer of any width is one, a boolean counts as zero or one, text counts as
what it spells, and an array goes through its text, so that an array of one
element counts as that element and an empty one as zero.

`ScVal.amount` says this value by value, without either conversion, and
`read_iff_amount` that it is what they amount to.

## Main definitions

* `ScVal.number`, `ScVal.bigint`: The integers, by what they convert to.
* `ScVal.amountInVec`: The integer read from the only element of an array.
* `ScVal.amount`: The integer read from a value.
* `NativeConversion`: What `scValToNative` is documented to do.
* `ReadInVec`, `Read`: The two conversions, in an array and alone.

## Theorems

* `amountInVec_iff`: What is read from an array element.
* `read_iff_amount`: What is read from a value.
-/

namespace VellarSdk

namespace Stellar

open Js X402

namespace ScVal

/-- An integer of 32 bits, which converts to a number. -/
def number : ScVal → Option Int
  | .u32 n => some n.toNat
  | .i32 n => some n.toInt
  | _ => none

/-- A wider integer, which converts to a `bigint`. -/
def bigint : ScVal → Option Int
  | .u64 n | .timepoint n | .duration n => some n.toNat
  | .i64 n => some n.toInt
  | .u128 n => some n.toNat
  | .i128 n => some n.toInt
  | .u256 n => some n.toNat
  | .i256 n => some n.toInt
  | _ => none

/-- The integer read from a value that is the only element of an array. What
    converts to `null` or `undefined` is empty text there, and that is zero. -/
def amountInVec : ScVal → Option Int
  | .void | .ledgerKeyContractInstance => some 0
  | .string b | .symbol b => (JsValue.stringToBigInt (TextDecoder.decode b)).toOption
  | .bytes b => (JsValue.stringToBigInt (bufferToString b)).toOption
  | .vec none | .vec (some []) => some 0
  | .vec (some [v]) => v.amountInVec
  -- Two elements have a comma between them.
  | .vec (some (_ :: _ :: _)) => none
  | v => v.number <|> v.bigint

/-- The integer read from a value. -/
def amount : ScVal → Option Int
  | .void | .ledgerKeyContractInstance => none
  | .bool b => some (if b then 1 else 0)
  | v => v.amountInVec

end ScVal

/-- What `scValToNative` is documented to do. Strings and symbols are read as
    UTF-8, maps and structures become objects, and an address becomes its text,
    which begins with the letter of its kind. -/
structure NativeConversion (sdk : StellarSdk) : Prop where
  void : sdk.scValToNative .void = .ok .null
  instanceKey : sdk.scValToNative .ledgerKeyContractInstance = .ok .undefined
  bool : ∀ b, sdk.scValToNative (.bool b) = .ok (.bool b)
  number : ∀ (v : ScVal) (n : Int), v.number = some n → sdk.scValToNative v = .ok (.num (.finite n))
  bigint : ∀ (v : ScVal) (n : Int), v.bigint = some n → sdk.scValToNative v = .ok (.bigint n)
  bytes : ∀ b, sdk.scValToNative (.bytes b) = .ok (.buffer b)
  string : ∀ b, sdk.scValToNative (.string b) = .ok (.str (TextDecoder.decode b))
  symbol : ∀ b, sdk.scValToNative (.symbol b) = .ok (.str (TextDecoder.decode b))
  vec : ∀ items, sdk.scValToNative (.vec items) = (do
    let natives ← (items.getD []).mapM sdk.scValToNative
    return .arr natives)
  map : ∀ entries v, sdk.scValToNative (.map entries) = .ok v → ∃ fields, v = .obj fields
  error : ∀ b v, sdk.scValToNative (.error b) = .ok v → ∃ fields, v = .obj fields
  contractInstance : ∀ b v, sdk.scValToNative (.contractInstance b) = .ok v →
    ∃ fields, v = .obj fields
  nonceKey : ∀ n v, sdk.scValToNative (.ledgerKeyNonce n) = .ok v → ∃ fields, v = .obj fields
  address : ∀ a, sdk.scValToNative (.address a) = (do
    let text ← sdk.addressToString a
    return .str text)
  letter : ∀ a text, sdk.addressToString a = .ok text →
    ∃ u rest, text = u :: rest ∧ 65 ≤ u ∧ u ≤ 90

/-- The integer `BigInt` reads from the text of an array element. -/
def ReadInVec (sdk : StellarSdk) (v : ScVal) (n : Int) : Prop :=
  ∃ native text, sdk.scValToNative v = .ok native ∧ native.itemToStr = .ok text ∧
    JsValue.stringToBigInt text = .ok n

section Reading

variable {sdk : StellarSdk} {v : ScVal} {n : Int}

/-- A value that converts to something with a text is read from that text. -/
theorem readInVec_iff {native : JsValue} {text : JsString} (hv : sdk.scValToNative v = .ok native)
    (htext : native.itemToStr = .ok text) :
    ReadInVec sdk v n ↔ (JsValue.stringToBigInt text).toOption = some n := by
  have hoption : JsValue.stringToBigInt text = .ok n ↔
      (JsValue.stringToBigInt text).toOption = some n := by
    cases JsValue.stringToBigInt text with
    | error e => simp only [Except.toOption, reduceCtorEq]
    | ok m => simp only [Except.toOption, Except.ok.injEq, Option.some.injEq]
  rw [← hoption]
  constructor
  · rintro ⟨native', text', hv', htext', hn⟩
    rw [hv, Except.ok.injEq] at hv'
    rw [← hv', htext, Except.ok.injEq] at htext'
    rwa [htext']
  · intro hn
    exact ⟨native, text, hv, htext, hn⟩

/-- An integer is read as itself. -/
theorem readInVec_integer {native : JsValue} {m : Int} (hv : sdk.scValToNative v = .ok native)
    (htext : native.itemToStr = .ok (intToString m)) : ReadInVec sdk v n ↔ some m = some n := by
  rw [readInVec_iff hv htext, JsValue.stringToBigInt_intToString]
  exact Iff.rfl

/-- A text that begins with a letter or a bracket is not read. -/
theorem not_readInVec_first {native : JsValue} {u : CodeUnit} {s : JsString}
    (hv : sdk.scValToNative v = .ok native) (htext : native.itemToStr = .ok (u :: s))
    (hu : 65 ≤ u ∧ u ≤ 122) : ¬ ReadInVec sdk v n := by
  have hle : 65 ≤ u.toNat ∧ u.toNat ≤ 122 := hu
  have hspace : isWhiteSpace u = false := by
    simp only [isWhiteSpace, Bool.or_eq_false_iff, Bool.and_eq_false_iff,
      decide_eq_false_iff_not, beq_eq_false_iff_ne, ne_eq, UInt16.le_iff_toNat_le,
      ← UInt16.toNat_inj, UInt16.reduceToNat]
    omega
  have hdigit : isDigit u = false := by
    simp only [isDigit, Bool.and_eq_false_iff, decide_eq_false_iff_not, UInt16.le_iff_toNat_le,
      UInt16.reduceToNat]
    omega
  have hsign : u ≠ 43 ∧ u ≠ 45 := by
    simp only [ne_eq, ← UInt16.toNat_inj, UInt16.reduceToNat]
    omega
  rw [readInVec_iff hv htext, JsValue.stringToBigInt_of_first hspace hdigit hsign]
  simp only [Except.toOption, reduceCtorEq, not_false_eq_true]

/-- An object is not read: its text is in brackets, if it has one. -/
theorem not_readInVec_obj (h : ∀ native, sdk.scValToNative v = .ok native →
    ∃ fields, native = .obj fields) : ¬ ReadInVec sdk v n := by
  intro hread
  rcases hread with ⟨native, text, hv, htext, hn⟩
  rcases h native hv with ⟨fields, rfl⟩
  have hobject : JsValue.itemToStr (.obj fields) = .ok (js "[object Object]") := by
    rw [JsValue.itemToStr] at htext ⊢
    by_cases hown : (fields.lookup (js "toString")).isSome = true
    · rw [if_pos hown] at htext
      exact absurd htext (by simp only [reduceCtorEq, not_false_eq_true])
    · rw [if_neg hown]
  exact not_readInVec_first (u := 91) hv hobject (by decide) ⟨_, text, hv, htext, hn⟩

/-- An array of one element is read as the element. -/
theorem readInVec_single (h : NativeConversion sdk) (w : ScVal) :
    ReadInVec sdk (.vec (some [w])) n ↔ ReadInVec sdk w n := by
  have hvec := h.vec (some [w])
  rw [Option.getD_some, List.mapM_cons, List.mapM_nil] at hvec
  cases hw : sdk.scValToNative w with
  | error e =>
      rw [hw] at hvec
      -- An element that cannot be converted fails the whole vector.
      have herror : sdk.scValToNative (.vec (some [w])) = .error e := hvec
      refine iff_of_false ?_ ?_
      · rintro ⟨_, _, hv, -⟩
        rw [herror] at hv
        exact absurd hv (by simp only [reduceCtorEq, not_false_eq_true])
      · rintro ⟨_, _, hv, -⟩
        rw [hw] at hv
        exact absurd hv (by simp only [reduceCtorEq, not_false_eq_true])
  | ok native =>
      rw [hw] at hvec
      -- The join of one item is the text of that item.
      have harray : sdk.scValToNative (.vec (some [w])) = .ok (.arr [native]) := hvec
      constructor
      · rintro ⟨_, text, hv, htext, hn⟩
        rw [harray, Except.ok.injEq] at hv
        rw [← hv, JsValue.itemToStr, JsValue.joinItems] at htext
        exact ⟨native, text, hw, htext, hn⟩
      · rintro ⟨native', text, hv, htext, hn⟩
        rw [hw, Except.ok.injEq] at hv
        refine ⟨_, text, harray, ?_, hn⟩
        rw [JsValue.itemToStr, JsValue.joinItems, hv]
        exact htext

/-- An array of more elements is not read: its text has a comma in it. -/
theorem not_readInVec_pair (h : NativeConversion sdk) (w w' : ScVal) (rest : List ScVal) :
    ¬ ReadInVec sdk (.vec (some (w :: w' :: rest))) n := by
  rintro ⟨native, text, hv, htext, hn⟩
  rw [h.vec, Option.getD_some] at hv
  rcases bind_eq_ok.mp hv with ⟨natives, hnatives, hret⟩
  rw [List.mapM_cons] at hnatives
  rcases bind_eq_ok.mp hnatives with ⟨a, -, hnatives⟩
  rcases bind_eq_ok.mp hnatives with ⟨tail, htail, hcons⟩
  rw [List.mapM_cons] at htail
  rcases bind_eq_ok.mp htail with ⟨b, -, htail⟩
  rcases bind_eq_ok.mp htail with ⟨tail', -, hcons'⟩
  rw [← Except.ok.inj hret, ← Except.ok.inj hcons, ← Except.ok.inj hcons', JsValue.itemToStr,
    JsValue.joinItems] at htext
  rcases bind_eq_ok.mp htext with ⟨s, -, htext⟩
  rcases bind_eq_ok.mp htext with ⟨t, -, htext⟩
  -- Two items are joined by a comma, and no number has one.
  have hcomma : (44 : CodeUnit) ∈ text := by
    rw [← Except.ok.inj htext]
    exact List.mem_append_left _ (List.mem_append_right _ (List.mem_singleton_self 44))
  rw [JsValue.stringToBigInt_of_comma hcomma] at hn
  exact absurd hn (by simp only [reduceCtorEq, not_false_eq_true])

/-- An address is not read. -/
theorem not_readInVec_address (h : NativeConversion sdk) (a : ScAddress) :
    ¬ ReadInVec sdk (.address a) n := by
  rintro ⟨native, text, hv, htext, hn⟩
  have haddress := h.address a
  cases ha : sdk.addressToString a with
  | error e =>
      rw [ha] at haddress
      rw [haddress] at hv
      exact absurd hv (by simp only [bind, Except.bind, reduceCtorEq, not_false_eq_true])
  | ok letters =>
      rw [ha] at haddress
      rcases h.letter a letters ha with ⟨u, rest, rfl, hu⟩
      exact not_readInVec_first haddress rfl ⟨hu.1, UInt16.le_trans hu.2 (by decide)⟩
        ⟨native, text, hv, htext, hn⟩

/-- Integers of 32 bits are far below the exponent form, and are numbers. -/
theorem number_le {m : Int} (h : v.number = some m) : m.natAbs ≤ 2 ^ 32 := by
  cases v with
  | u32 k =>
      rw [← Option.some.inj h]
      exact le_of_lt k.isLt
  | i32 k =>
      have hle := BitVec.le_toInt k
      have hlt := BitVec.toInt_lt (x := k)
      rw [← Option.some.inj h]
      omega
  | _ => exact absurd h (by simp only [ScVal.number, reduceCtorEq, not_false_eq_true])

/-- An integer of any width is read as itself. -/
theorem readInVec_of_integer (h : NativeConversion sdk) {m : Int}
    (hm : (v.number <|> v.bigint) = some m) : ReadInVec sdk v n ↔ some m = some n := by
  cases hnumber : v.number with
  | some k =>
      rw [hnumber] at hm
      have hk : k = m := Option.some.inj hm
      subst hk
      refine readInVec_integer (h.number v k hnumber) ?_
      rw [JsValue.itemToStr,
        JsNumber.toStr_int (lt_of_le_of_lt (number_le hnumber) (by decide))]
  | none =>
      rw [hnumber] at hm
      refine readInVec_integer (h.bigint v m hm) ?_
      rw [JsValue.itemToStr]

/-- What is read from an array element, by kind of value. Only an array of one
    element is read by what it holds. -/
theorem amountInVec_iff (h : NativeConversion sdk) (v : ScVal) :
    ReadInVec sdk v n ↔ v.amountInVec = some n := by
  -- In a vector a value counts by its text, and by cases that is what `amountInVec` reads.
  match v with
  | .void => exact readInVec_iff h.void rfl
  | .ledgerKeyContractInstance => exact readInVec_iff h.instanceKey rfl
  | .string b => exact readInVec_iff (h.string b) rfl
  | .symbol b => exact readInVec_iff (h.symbol b) rfl
  | .bytes b => exact readInVec_iff (h.bytes b) rfl
  | .vec none => exact readInVec_iff (h.vec none) rfl
  | .vec (some []) => exact readInVec_iff (h.vec (some [])) rfl
  | .vec (some [w]) =>
      rw [readInVec_single h, ScVal.amountInVec]
      exact amountInVec_iff h w
  | .vec (some (w :: w' :: rest)) =>
      -- Two items are joined by a comma, which no number has.
      refine iff_of_false (not_readInVec_pair h w w' rest) ?_
      simp only [ScVal.amountInVec, reduceCtorEq, not_false_eq_true]
  | .u32 k | .i32 k | .u64 k | .i64 k | .timepoint k | .duration k | .u128 k | .i128 k |
    .u256 k | .i256 k => exact readInVec_of_integer h rfl
  | .bool true =>
      exact iff_of_false (not_readInVec_first (u := 116) (h.bool true) rfl (by decide))
        (Option.some_ne_none n).symm
  | .bool false =>
      exact iff_of_false (not_readInVec_first (u := 102) (h.bool false) rfl (by decide))
        (Option.some_ne_none n).symm
  | .address a => exact iff_of_false (not_readInVec_address h a) (Option.some_ne_none n).symm
  | .map entries =>
      exact iff_of_false (not_readInVec_obj (h.map entries)) (Option.some_ne_none n).symm
  | .error b => exact iff_of_false (not_readInVec_obj (h.error b)) (Option.some_ne_none n).symm
  | .contractInstance b =>
      exact iff_of_false (not_readInVec_obj (h.contractInstance b)) (Option.some_ne_none n).symm
  | .ledgerKeyNonce k =>
      exact iff_of_false (not_readInVec_obj (h.nonceKey k)) (Option.some_ne_none n).symm
termination_by structural v

/-- The integer `BigInt` reads from a value. -/
def Read (sdk : StellarSdk) (v : ScVal) (n : Int) : Prop :=
  ∃ native, sdk.scValToNative v = .ok native ∧ native.toBigInt = .ok n

/-- A value that converts to an integer is read as that one. -/
theorem read_iff {native : JsValue} {m : Int} (hv : sdk.scValToNative v = .ok native)
    (hm : native.toBigInt = .ok m) : Read sdk v n ↔ some m = some n := by
  rw [Option.some.injEq]
  constructor
  · rintro ⟨native', hv', hn⟩
    rw [hv, Except.ok.injEq] at hv'
    rw [← hv', hm, Except.ok.injEq] at hn
    exact hn
  · rintro rfl
    exact ⟨native, hv, hm⟩

/-- What `BigInt` refuses is not read. -/
theorem not_read {native : JsValue} {e : NativeError} (hv : sdk.scValToNative v = .ok native)
    (he : native.toBigInt = .error e) : ¬ Read sdk v n := by
  rintro ⟨native', hv', hn⟩
  rw [hv, Except.ok.injEq] at hv'
  rw [← hv', he] at hn
  exact absurd hn (by simp only [reduceCtorEq, not_false_eq_true])

/-- An integer of any width is read as itself. -/
theorem read_of_integer (h : NativeConversion sdk) {m : Int}
    (hm : (v.number <|> v.bigint) = some m) : Read sdk v n ↔ some m = some n := by
  cases hnumber : v.number with
  | some k =>
      rw [hnumber] at hm
      have hk : k = m := Option.some.inj hm
      subst hk
      refine read_iff (h.number v k hnumber) ?_
      exact JsValue.toBigInt_intCast ((number_le hnumber).trans (by decide))
  | none =>
      rw [hnumber] at hm
      exact read_iff (h.bigint v m hm) rfl

/-- The values `BigInt` reads through their text, alone as in an array. -/
def ByText : JsValue → Prop
  | .str _ | .buffer _ | .arr _ | .obj _ => True
  | _ => False

/-- Such values are read alone as in an array. -/
theorem read_of_text (hv : ∀ native, sdk.scValToNative v = .ok native → ByText native) :
    Read sdk v n ↔ ReadInVec sdk v n := by
  refine exists_congr (fun native => ?_)
  constructor
  · -- `BigInt` of these takes the text first, so both read the same.
    rintro ⟨hnative, hn⟩
    cases native with
    | str s => exact ⟨s, hnative, rfl, hn⟩
    | buffer b => exact ⟨bufferToString b, hnative, rfl, hn⟩
    | arr items =>
        rcases bind_eq_ok.mp hn with ⟨text, htext, hn⟩
        exact ⟨text, hnative, htext, hn⟩
    | obj fields =>
        rcases bind_eq_ok.mp hn with ⟨text, htext, hn⟩
        exact ⟨text, hnative, htext, hn⟩
    | _ => exact absurd (hv _ hnative) (by simp only [ByText, not_false_eq_true])
  · rintro ⟨text, hnative, htext, hn⟩
    refine ⟨hnative, ?_⟩
    cases native with
    | str s =>
        rw [Except.ok.inj htext]
        exact hn
    | buffer b => exact bind_eq_ok.mpr ⟨text, htext, hn⟩
    | arr items => exact bind_eq_ok.mpr ⟨text, htext, hn⟩
    | obj fields => exact bind_eq_ok.mpr ⟨text, htext, hn⟩
    | _ => exact absurd (hv _ hnative) (by simp only [ByText, not_false_eq_true])

theorem byText_of_native {native : JsValue} (hv : sdk.scValToNative v = .ok native)
    (hnative : ByText native) : ∀ native', sdk.scValToNative v = .ok native' → ByText native' := by
  intro native' hv'
  rw [hv, Except.ok.injEq] at hv'
  rwa [← hv']

theorem read_of_obj (h : ∀ native, sdk.scValToNative v = .ok native →
    ∃ fields, native = .obj fields) : Read sdk v n ↔ ReadInVec sdk v n := by
  refine read_of_text (fun native hnative => ?_)
  rcases h native hnative with ⟨fields, rfl⟩
  trivial

/-- What is read from a value is its amount. -/
theorem read_iff_amount (h : NativeConversion sdk) (v : ScVal) :
    Read sdk v n ↔ v.amount = some n := by
  -- A number is itself, and everything that counts by its text is as in a vector.
  cases v with
  | void => exact iff_of_false (not_read h.void rfl) (Option.some_ne_none n).symm
  | ledgerKeyContractInstance =>
      exact iff_of_false (not_read h.instanceKey rfl) (Option.some_ne_none n).symm
  | bool b => exact read_iff (h.bool b) rfl
  | u32 k | i32 k | u64 k | i64 k | timepoint k | duration k | u128 k | i128 k | u256 k
  | i256 k => exact read_of_integer h rfl
  | string b => exact (read_of_text (byText_of_native (h.string b) trivial)).trans (amountInVec_iff h _)
  | symbol b => exact (read_of_text (byText_of_native (h.symbol b) trivial)).trans (amountInVec_iff h _)
  | bytes b => exact (read_of_text (byText_of_native (h.bytes b) trivial)).trans (amountInVec_iff h _)
  | vec items =>
      refine (read_of_text (fun native hnative => ?_)).trans (amountInVec_iff h _)
      rw [h.vec] at hnative
      rcases bind_eq_ok.mp hnative with ⟨natives, -, hret⟩
      rw [← Except.ok.inj hret]
      trivial
  | address a =>
      refine (read_of_text (fun native hnative => ?_)).trans (amountInVec_iff h _)
      rw [h.address] at hnative
      rcases bind_eq_ok.mp hnative with ⟨text, -, hret⟩
      rw [← Except.ok.inj hret]
      trivial
  | map entries => exact (read_of_obj (h.map entries)).trans (amountInVec_iff h _)
  | error b => exact (read_of_obj (h.error b)).trans (amountInVec_iff h _)
  | contractInstance b =>
      exact (read_of_obj (h.contractInstance b)).trans (amountInVec_iff h _)
  | ledgerKeyNonce k => exact (read_of_obj (h.nonceKey k)).trans (amountInVec_iff h _)

end Reading

/-- Text in a vector counts as the number it spells, in any base; two texts
    count as nothing. -/
example : (ScVal.vec (some [.string (TextEncoder.encode " 0x64 ")])).amount = some 100 ∧
    (ScVal.vec (some [.bool true])).amount = none ∧
    (ScVal.vec (some [.u32 1, .u32 0])).amount = none := by decide +kernel

end Stellar

end VellarSdk
