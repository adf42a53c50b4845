import VellarSdk.Js.Double
import VellarSdk.Js.Encoding

/-!
# JavaScript Values

The values the untrusted side of the protocol can produce, and the conversions
the source applies to them without checking their type first. A decoded header
is whatever `JSON.parse` returns, so a field typed `string` in the source can
hold an array, a number or nothing, and what happens then is decided by
JavaScript's coercions.

Two of those coercions can throw. Reading a property of `null` or `undefined`
is a `TypeError`, and so is turning an object into a string when a field of its
own hides `toString`: parsed JSON holds no functions, so the hidden method is
never callable. Everything else converts silently, which is what makes the
coercions worth modelling: an array holding one string of digits is a number
to `BigInt`, and an array holding one hash is a hash to a regular expression.

A number is held as the rational value of the shortest decimal that names it,
the one `Number.prototype.toString` prints, with the two infinities an
overflowing literal parses to. Its exact value is that of the double nearest to
the decimal, and above `2 ^ 53` the two differ: printing shows the decimal, while
`BigInt` takes the value. Objects are compared by reference and two parsed
objects are never the same one, so `strictEq` is false on them.

## Main definitions

* `JsNumber`, `JsValue`: Numbers and values.
* `JsNumber.double`: The double nearest to a rational.
* `JsValue.prop`, `JsValue.optProp`: The member accesses `v.name`, `v?.name`.
* `JsValue.truthy`, `JsValue.orElse`: Truthiness and `??`.
* `JsValue.withField`: The spread `{ ...v, name: w }`.
* `JsValue.strictEq`: The operator `===`.
* `JsValue.toStr`: `ToString`, as template literals and `RegExp.test` apply it.
* `JsValue.toBigInt`: The call `BigInt(v)`.
* `JsValue.stringify`: `JSON.stringify`.

## Theorems

* `strictEq_iff_of_str`, `strictEq_iff_of_bool`: Only the same string, or the
  same boolean, is identical to one.
* `field_withField`, `field_withField_of_ne`: A field that was just set is read
  back, and the others as they were.
* `prop_eq_ok`: A property read succeeds on everything but `null` and
  `undefined`.
* `stringToBigInt_of_isDigits`: A run of digits is read as the number it
  denotes.
* `stringToBigInt_intToString`: An integer is read back from its text.
* `stringToBigInt_of_first`, `stringToBigInt_of_comma`: Texts that are no
  integers.
* `JsNumber.toStr_int`: A whole number prints as its integer.
* `JsNumber.double_intCast`, `toBigInt_intCast`: The integers up to `2 ^ 53` are
  numbers, and convert to themselves.
-/

namespace VellarSdk

namespace Js

/-- The errors the language itself raises. -/
inductive NativeError where
  | typeError
  | syntaxError
  | rangeError
  deriving DecidableEq, Repr

/-- A JavaScript number other than `NaN`, which no JSON text denotes. -/
inductive JsNumber where
  | finite (q : ℚ)
  | infinity (negative : Bool)
  deriving DecidableEq

instance (n : Nat) : OfNat JsNumber n := ⟨.finite n⟩

/-- A JavaScript value. Objects list their own fields in enumeration order. -/
inductive JsValue where
  | undefined
  | null
  | bool (b : Bool)
  | num (n : JsNumber)
  | bigint (n : Int)
  | str (s : JsString)
  | buffer (bytes : Bytes)
  | arr (items : List JsValue)
  | obj (fields : List (JsString × JsValue))

namespace JsNumber

/-- The double nearest to a rational, or the infinity of its sign when that would be
    too large. -/
def double (q : ℚ) : JsNumber :=
  if |nearestDouble q| < 2 ^ 1024 then .finite (nearestDouble q) else .infinity (q < 0)

/-- A rational that is a double, and not too large, is its own. -/
theorem double_eq_self {q : ℚ} (hdouble : nearestDouble q = q) (hq : |q| < 2 ^ 1024) :
    double q = .finite q := by
  rw [double, hdouble, if_pos hq]

/-- The integers up to `2 ^ 53` are numbers. -/
theorem double_intCast {n : Int} (h : n.natAbs ≤ 2 ^ 53) : double n = .finite n := by
  refine double_eq_self (nearestDouble_intCast h) ?_
  have hle : |(n : ℚ)| ≤ 2 ^ 53 := by
    rw [← Int.cast_abs, Int.abs_eq_natAbs]
    exact_mod_cast h
  exact hle.trans_lt (pow_lt_pow_right₀ one_lt_two (by decide))

/-- The number of decimal places a rational needs, searched up to `fuel`. -/
def decimalPlaces (q : ℚ) : Nat → Nat → Nat
  | 0, j => j
  | fuel + 1, j => if 10 ^ j % q.den = 0 then j else decimalPlaces q fuel (j + 1)

/-- Strip the trailing zeros of a natural number, counting them. -/
def stripZeros : Nat → Nat → Nat × Nat
  | 0, n => (n, 0)
  | fuel + 1, n =>
      if n % 10 = 0 ∧ n ≠ 0 then ((stripZeros fuel (n / 10)).1, (stripZeros fuel (n / 10)).2 + 1)
      else (n, 0)

/-- The layout of `Number.prototype.toString` for the decimal whose digits are
    `digits` and whose point stands after the first `point` of them. Up to 21 places
    before the point and six zeros behind it are written out; anything further away is
    written with an exponent. -/
def layout (digits : JsString) (point : Int) : JsString :=
  let k : Int := digits.length
  -- The point stands behind the digits, among them, before them, or too far away.
  if k ≤ point ∧ point ≤ 21 then digits ++ List.replicate (point - k).toNat 48
  else if 0 < point ∧ point ≤ 21 then
    digits.take point.toNat ++ js "." ++ digits.drop point.toNat
  else if -6 < point ∧ point ≤ 0 then
    js "0." ++ List.replicate (-point).toNat 48 ++ digits
  else
    digits.take 1 ++ (if digits.length = 1 then [] else js "." ++ digits.drop 1) ++ js "e" ++
      (if point - 1 < 0 then js "-" else js "+") ++ natToString (point - 1).natAbs

/-- `Number.prototype.toString`. The digits are those of the decimal without the zeros
    at either end, and the zeros at the end say where the point is. -/
def toStr : JsNumber → JsString
  | .infinity negative => if negative then js "-Infinity" else js "Infinity"
  | .finite q =>
      if q = 0 then js "0"
      else
        let places := decimalPlaces q q.den 0
        let (s, zeros) := stripZeros (q.num.natAbs * 10 ^ places)
          (q.num.natAbs * 10 ^ places / q.den)
        let digits := natToString s
        (if q < 0 then js "-" else []) ++
          layout digits ((digits.length : Int) + zeros - places)

/-- The digits that are left and the zeros that were counted make up the number. -/
theorem stripZeros_spec (fuel n : Nat) :
    (stripZeros fuel n).1 * 10 ^ (stripZeros fuel n).2 = n := by
  induction fuel generalizing n with
  | zero => rw [stripZeros, Nat.pow_zero, Nat.mul_one]
  | succ fuel ih =>
      rw [stripZeros]
      by_cases h : n % 10 = 0 ∧ n ≠ 0
      · rw [if_pos h, Nat.pow_succ, ← Nat.mul_assoc, ih]
        omega
      · rw [if_neg h, Nat.pow_zero, Nat.mul_one]

/-- Digits followed by zeros, short of the exponent form. -/
theorem layout_whole {s zeros : Nat} (hs : 0 < s) (h : s * 10 ^ zeros < 10 ^ 21) :
    layout (natToString s) ((natToString s).length + zeros) = natToString (s * 10 ^ zeros) := by
  -- There are at most 21 digits and zeros together.
  have hzeros : zeros < 21 := by
    have hle : 10 ^ zeros ≤ s * 10 ^ zeros := Nat.le_mul_of_pos_left _ hs
    exact (Nat.pow_lt_pow_iff_right (show 1 < 10 by omega)).mp (lt_of_le_of_lt hle h)
  have hsplit : 10 ^ 21 = 10 ^ (21 - zeros) * 10 ^ zeros := by
    rw [← Nat.pow_add]
    congr 1
    omega
  have hlength : (natToString s).length ≤ 21 - zeros := by
    refine length_natToString_le (by omega) ?_
    rw [hsplit] at h
    exact lt_of_mul_lt_mul_right h (Nat.zero_le _)
  rw [layout, if_pos (by omega), natToString_mul_pow hs]
  congr 2
  omega

/-- A whole number prints as its integer, short of the exponent form. -/
theorem toStr_int {n : Int} (h : n.natAbs < 10 ^ 21) :
    (JsNumber.finite n).toStr = intToString n := by
  by_cases hn : n = 0
  · subst hn
    rfl
  -- A whole number has no places behind the point.
  have hplaces : decimalPlaces (n : ℚ) (n : ℚ).den 0 = 0 := by
    rw [Rat.den_intCast, decimalPlaces, if_pos]
    rw [Rat.den_intCast, Nat.mod_one]
  have hnum : (n : ℚ).num.natAbs * 10 ^ 0 / (n : ℚ).den = n.natAbs := by
    rw [Rat.den_intCast, Rat.num_intCast, Nat.pow_zero, Nat.mul_one, Nat.div_one]
  have hzero : ¬ (n : ℚ) = 0 := by exact_mod_cast hn
  have hsign : (n : ℚ) < 0 ↔ n < 0 := by exact_mod_cast Iff.rfl
  simp only [toStr, if_neg hzero, hplaces, hnum, hsign]
  -- What is printed are the digits without their zeros, and then the zeros.
  have hstrip := stripZeros_spec ((n : ℚ).num.natAbs * 10 ^ 0) n.natAbs
  generalize stripZeros ((n : ℚ).num.natAbs * 10 ^ 0) n.natAbs = stripped at hstrip ⊢
  rcases stripped with ⟨s, zeros⟩
  have hs : 0 < s := by
    rcases Nat.eq_zero_or_pos s with rfl | hs
    · rw [Nat.zero_mul] at hstrip
      omega
    · exact hs
  have hlayout := layout_whole hs (by rwa [hstrip])
  rw [hstrip] at hlayout
  rw [Nat.cast_zero, sub_zero, hlayout, intToString]
  by_cases hneg : n < 0
  · rw [if_pos hneg, if_pos hneg]
  · rw [if_neg hneg, if_neg hneg, List.nil_append]

end JsNumber

namespace JsValue

instance : Coe JsString JsValue := ⟨.str⟩

/-- `v == null`, which the source also asks for by `?.` and `??`. -/
def nullish : JsValue → Bool
  | .undefined | .null => true
  | _ => false

/-- The operator `v ?? d`. The empty string and zero are kept, as `||` would not. -/
def orElse (v d : JsValue) : JsValue :=
  if v.nullish then d else v

/-- Truthiness: what an `if` and the operators `!`, `&&` and `||` ask of a value. -/
def truthy : JsValue → Bool
  | .undefined | .null => false
  | .bool b => b
  -- Negative zero is held as zero, and both are falsy.
  | .num n => n ≠ 0
  | .bigint n => n ≠ 0
  | .str s => !s.isEmpty
  | .buffer _ | .arr _ | .obj _ => true

/-- A field of an object. None of the names the source reads is defined on a
    primitive or an array, so those answer `undefined`. -/
def field (name : JsString) : JsValue → JsValue
  | .obj fields => (fields.lookup name).getD .undefined
  | _ => .undefined

/-- The member access `v.name`, a `TypeError` on `null` and `undefined`. -/
def prop (v : JsValue) (name : JsString) : Except NativeError JsValue :=
  if v.nullish then .error .typeError else .ok (v.field name)

/-- The optional access `v?.name`. -/
def optProp (v : JsValue) (name : JsString) : JsValue :=
  if v.nullish then .undefined else v.field name

/-- What has a field can be read. -/
theorem nullish_of_field {v w : JsValue} {name : JsString} (h : v.field name = w)
    (hw : w ≠ .undefined) : v.nullish = false := by
  cases v with
  | undefined => exact absurd h.symm hw
  | null => exact absurd h.symm hw
  | _ => rfl

/-- The fields of an object with one of them set, as `{ ...v, name: w }` sets
    it: an existing field keeps its place. -/
def setFields : List (JsString × JsValue) → JsString → JsValue → List (JsString × JsValue)
  | [], name, w => [(name, w)]
  | (k, v) :: rest, name, w =>
      if name == k then (k, w) :: rest else (k, v) :: setFields rest name w

/-- The spread `{ ...v, name: w }`. What has no fields of its own spreads to none. -/
def withField (v : JsValue) (name : JsString) (w : JsValue) : JsValue :=
  match v with
  | .obj fields => .obj (setFields fields name w)
  | _ => .obj [(name, w)]

/-- A field that was just set is read back. -/
theorem field_withField (v : JsValue) (name : JsString) (w : JsValue) :
    (v.withField name w).field name = w := by
  -- Whether the field was there or is added at the end, it is the first of its name.
  have hlookup : ∀ fields, (setFields fields name w).lookup name = some w := by
    intro fields
    induction fields with
    | nil => simp only [setFields, List.lookup_cons, beq_self_eq_true]
    | cons e rest ih =>
        rcases e with ⟨k, u⟩
        by_cases hk : (name == k) = true
        · simp only [setFields, hk, if_true, List.lookup_cons]
        · simp only [setFields, hk, Bool.false_eq_true, if_false, List.lookup_cons, ih]
  cases v <;> simp only [withField, field, hlookup, List.lookup_cons, beq_self_eq_true,
    Option.getD_some]

/-- Setting a field leaves the others alone. -/
theorem field_withField_of_ne (v : JsValue) {name name' : JsString} (h : name' ≠ name)
    (w : JsValue) : (v.withField name w).field name' = v.field name' := by
  have hne : (name' == name) = false := beq_eq_false_iff_ne.mpr h
  -- The field that is set stands between others, or behind them.
  have hlookup : ∀ fields, (setFields fields name w).lookup name' = fields.lookup name' := by
    intro fields
    induction fields with
    | nil => rw [setFields, List.lookup_cons, hne]
    | cons e rest ih =>
        rcases e with ⟨k, u⟩
        by_cases hk : (name == k) = true
        · rw [setFields, if_pos hk, List.lookup_cons, List.lookup_cons, ← beq_iff_eq.mp hk, hne]
        · rw [setFields, if_neg hk, List.lookup_cons, List.lookup_cons, ih]
  cases v <;> simp only [withField, field, hlookup, List.lookup_cons, hne, List.lookup_nil,
    Option.getD_none]

/-- The operator `===`. Arrays, buffers and objects are the same only by reference, and
    no two that were parsed are. -/
def strictEq : JsValue → JsValue → Bool
  | .undefined, .undefined | .null, .null => true
  | .bool a, .bool b => a == b
  | .num a, .num b => a == b
  | .bigint a, .bigint b => a == b
  | .str a, .str b => a == b
  | _, _ => false

/-- Only the same string is identical to a string. -/
theorem strictEq_iff_of_str (v : JsValue) (s : JsString) :
    v.strictEq (.str s) = true ↔ v = .str s := by
  cases v <;> simp [strictEq]

/-- Only the same boolean is identical to a boolean. -/
theorem strictEq_iff_of_bool (v : JsValue) (b : Bool) :
    v.strictEq (.bool b) = true ↔ v = .bool b := by
  cases v <;> simp [strictEq]

/-- Identical values are equal, though equal objects are not identical. -/
theorem eq_of_strictEq {v w : JsValue} (h : v.strictEq w = true) : v = w := by
  cases v <;> cases w <;> simp_all [strictEq]

/-- What a property read returned is the field, and the value had fields to read. -/
theorem prop_eq_ok {v : JsValue} {name : JsString} {w : JsValue} (h : v.prop name = .ok w) :
    v.nullish = false ∧ w = v.field name := by
  unfold prop at h
  by_cases hn : v.nullish = true
  · rw [if_pos hn] at h
    exact absurd h (by simp only [reduceCtorEq, not_false_eq_true])
  · rw [if_neg hn] at h
    refine ⟨by simpa only [Bool.not_eq_true] using hn, ?_⟩
    injection h with h
    exact h.symm

mutual

/-- `ToString`. A parsed object has no callable field, so one that hides
    `toString` cannot be converted. -/
def toStr : JsValue → Except NativeError JsString
  | .undefined => .ok (js "undefined")
  | .null => .ok (js "null")
  | .bool b => .ok (if b then js "true" else js "false")
  | .num n => .ok n.toStr
  | .bigint n => .ok (intToString n)
  | .str s => .ok s
  | .buffer bytes => .ok (bufferToString bytes)
  | .arr items => joinItems items
  | .obj fields =>
      if (fields.lookup (js "toString")).isSome then .error .typeError
      else .ok (js "[object Object]")

/-- `Array.prototype.join` with a comma, where `null` and `undefined` are
    empty. -/
def joinItems : List JsValue → Except NativeError JsString
  | [] => .ok []
  | [v] => itemToStr v
  | v :: w :: rest => do
      let s ← itemToStr v
      let t ← joinItems (w :: rest)
      return s ++ js "," ++ t

/-- One element of a joined array: as by itself, but for `null` and `undefined`. -/
def itemToStr : JsValue → Except NativeError JsString
  | .undefined | .null => .ok []
  | .bool b => .ok (if b then js "true" else js "false")
  | .num n => .ok n.toStr
  | .bigint n => .ok (intToString n)
  | .str s => .ok s
  | .buffer bytes => .ok (bufferToString bytes)
  | .arr items => joinItems items
  | .obj fields =>
      if (fields.lookup (js "toString")).isSome then .error .typeError
      else .ok (js "[object Object]")

end

/-- The integer a string denotes to `BigInt`: blank is zero, decimals may be
    signed, and the prefixed bases may not. -/
def stringToBigInt (s : JsString) : Except NativeError Int :=
  match trim s with
  -- A blank string is zero, not an error.
  | [] => .ok 0
  -- A minus sign, a plus sign, or none before decimals.
  | 45 :: ds => if isDigits ds then .ok (-(digitsToNat 10 ds : Int)) else .error .syntaxError
  | 43 :: ds => if isDigits ds then .ok (digitsToNat 10 ds) else .error .syntaxError
  -- The prefixes `0x`, `0o` and `0b`, in either case.
  | 48 :: 120 :: ds | 48 :: 88 :: ds =>
      if !ds.isEmpty && ds.all isHexDigit then .ok (digitsToNat 16 ds) else .error .syntaxError
  | 48 :: 111 :: ds | 48 :: 79 :: ds =>
      if !ds.isEmpty && ds.all (fun u => 48 ≤ u && u ≤ 55) then .ok (digitsToNat 8 ds)
      else .error .syntaxError
  | 48 :: 98 :: ds | 48 :: 66 :: ds =>
      if !ds.isEmpty && ds.all (fun u => u == 48 || u == 49) then .ok (digitsToNat 2 ds)
      else .error .syntaxError
  | ds => if isDigits ds then .ok (digitsToNat 10 ds) else .error .syntaxError

/-- A run of digits is read as the number it denotes. -/
theorem stringToBigInt_of_isDigits {s : JsString} (h : isDigits s = true) :
    stringToBigInt s = .ok (digitsToNat 10 s) := by
  rcases (isDigits_iff s).mp h with ⟨hne, hall⟩
  rw [stringToBigInt, trim_of_isDigit hall]
  split
  · exact absurd rfl hne
  -- No sign and no base prefix is a digit, so only the last case is left.
  all_goals first
    | rw [if_pos h]
    | (exfalso; revert hall; simp [isDigit])

/-- An integer is read back from its decimal text. -/
theorem stringToBigInt_intToString (n : Int) : stringToBigInt (intToString n) = .ok n := by
  by_cases h : n < 0
  · -- The sign and the digits are no white space, so nothing is trimmed off.
    have htrim : trim (45 :: natToString n.natAbs) = 45 :: natToString n.natAbs := by
      refine trim_of_not_whiteSpace (fun u hu => ?_)
      rcases List.mem_cons.mp hu with rfl | hu
      · rfl
      · exact isWhiteSpace_of_isDigit (isDigit_natToString _ u hu)
    have htext : intToString n = 45 :: natToString n.natAbs := by
      rw [intToString, if_pos h]
      rfl
    rw [htext, stringToBigInt, htrim]
    simp only [isDigits_natToString, if_true, digitsToNat_natToString]
    rw [Except.ok.injEq]
    omega
  · rw [intToString, if_neg h, stringToBigInt_of_isDigits (isDigits_natToString _),
      digitsToNat_natToString, Except.ok.injEq]
    omega

/-- A text that begins with neither a digit, a sign nor white space is no
    integer. -/
theorem stringToBigInt_of_first {u : CodeUnit} {s : JsString} (hspace : isWhiteSpace u = false)
    (hdigit : isDigit u = false) (hsign : u ≠ 43 ∧ u ≠ 45) :
    stringToBigInt (u :: s) = .error .syntaxError := by
  rcases trim_cons hspace s with ⟨t, ht⟩
  -- The unit stays in front, and it opens none of the forms.
  have hzero : u ≠ 48 := by
    rintro rfl
    exact absurd hdigit (by decide)
  rw [stringToBigInt, ht]
  split
  all_goals simp_all [isDigits]

/-- A text with a comma in it is no integer. -/
theorem stringToBigInt_of_comma {s : JsString} (h : 44 ∈ s) :
    stringToBigInt s = .error .syntaxError := by
  have htrim := mem_trim h (by decide)
  have hdigits : ∀ ds : JsString, 44 ∈ ds → isDigits ds = false := by
    intro ds hds
    rw [isDigits, Bool.and_eq_false_iff, List.all_eq_false]
    exact Or.inr ⟨44, hds, by decide⟩
  rw [stringToBigInt]
  split
  -- Past a base prefix the comma is among the digits, as it is without one.
  all_goals simp_all
  all_goals exact fun _ => ⟨44, htrim, by decide⟩

/-- The call `BigInt(v)`. Arrays, buffers and objects go through their string
    form. -/
def toBigInt : JsValue → Except NativeError Int
  | .undefined | .null => .error .typeError
  | .bool b => .ok (if b then 1 else 0)
  | .num (.finite q) =>
      match JsNumber.double q with
      -- Only whole numbers convert; a fraction is a `RangeError`.
      | .finite value => if value.den = 1 then .ok value.num else .error .rangeError
      | .infinity _ => .error .rangeError
  | .num (.infinity _) => .error .rangeError
  | .bigint n => .ok n
  | .str s => stringToBigInt s
  | v => v.toStr.bind stringToBigInt

/-- The integers up to `2 ^ 53` convert to themselves. -/
theorem toBigInt_intCast {n : Int} (h : n.natAbs ≤ 2 ^ 53) :
    toBigInt (.num (.finite n)) = .ok n := by
  simp only [toBigInt, JsNumber.double_intCast h, Rat.den_intCast, if_true, Rat.num_intCast]

/-- Above that an integer is read by the double that its decimal names. -/
example : toBigInt (.num (.finite 36893488147419103000)) = .ok 36893488147419103232 := by
  decide +kernel

/-- Four lower case hexadecimal digits, as an escape in a JSON text has them. -/
def hex4 (n : Nat) : JsString :=
  [n / 4096, n / 256 % 16, n / 16 % 16, n % 16].map
    (fun d => UInt16.ofNat (if d < 10 then 48 + d else 87 + d))

/-- The code units of a JSON string literal, without its quotes. Unpaired
    surrogates are escaped. -/
def escapeUnits : JsString → JsString
  | [] => []
  | u :: rest =>
      if u = 34 then js "\\\"" ++ escapeUnits rest
      else if u = 92 then js "\\\\" ++ escapeUnits rest
      else if u = 8 then js "\\b" ++ escapeUnits rest
      else if u = 9 then js "\\t" ++ escapeUnits rest
      else if u = 10 then js "\\n" ++ escapeUnits rest
      else if u = 12 then js "\\f" ++ escapeUnits rest
      else if u = 13 then js "\\r" ++ escapeUnits rest
      -- The other control characters have no short escape.
      else if u < 32 then js "\\u" ++ hex4 u.toNat ++ escapeUnits rest
      -- A high surrogate stays only with the low one it belongs to.
      else if 0xD800 ≤ u ∧ u ≤ 0xDBFF then
        match rest with
        | v :: rest' =>
            if 0xDC00 ≤ v ∧ v ≤ 0xDFFF then u :: v :: escapeUnits rest'
            else js "\\u" ++ hex4 u.toNat ++ escapeUnits (v :: rest')
        | [] => js "\\u" ++ hex4 u.toNat
      else if 0xDC00 ≤ u ∧ u ≤ 0xDFFF then js "\\u" ++ hex4 u.toNat ++ escapeUnits rest
      else u :: escapeUnits rest

/-- A JSON string literal. -/
def quote (s : JsString) : JsString :=
  js "\"" ++ escapeUnits s ++ js "\""

/-- The JSON array of a list of already rendered items. -/
def jsonArray (items : List JsString) : JsString :=
  js "[" ++ (List.intersperse (js ",") items).flatten ++ js "]"

/-- The JSON object of a list of already rendered members. -/
def jsonObject (members : List JsString) : JsString :=
  js "\x7b" ++ (List.intersperse (js ",") members).flatten ++ js "\x7d"

mutual

/-- `JSON.stringify(v)`, `none` being the `undefined` it returns for
    `undefined`. A `bigint` cannot be serialised. -/
def stringify : JsValue → Except NativeError (Option JsString)
  | .undefined => .ok none
  | .null => .ok (some (js "null"))
  | .bool b => .ok (some (if b then js "true" else js "false"))
  | .num (.finite q) => .ok (some (JsNumber.finite q).toStr)
  -- JSON has no infinities.
  | .num (.infinity _) => .ok (some (js "null"))
  | .bigint _ => .error .typeError
  | .str s => .ok (some (quote s))
  -- A `Buffer` has a method `toJSON`.
  | .buffer bytes =>
      .ok (some (jsonObject [js "\"type\":\"Buffer\"",
        js "\"data\":" ++ jsonArray (bytes.map (fun b => natToString b.toNat))]))
  | .arr items => do return some (jsonArray (← stringifyItems items))
  | .obj fields => do return some (jsonObject (← stringifyFields fields))

/-- The rendered elements of an array, `undefined` becoming `null`. -/
def stringifyItems : List JsValue → Except NativeError (List JsString)
  | [] => .ok []
  | v :: rest => do
      let s ← stringify v
      let ss ← stringifyItems rest
      return s.getD (js "null") :: ss

/-- The rendered members of an object, those holding `undefined` left out. -/
def stringifyFields : List (JsString × JsValue) → Except NativeError (List JsString)
  | [] => .ok []
  | (k, v) :: rest => do
      let s ← stringify v
      let ss ← stringifyFields rest
      return match s with
        | some t => (quote k ++ js ":" ++ t) :: ss
        | none => ss

end

end JsValue

end Js

end VellarSdk
