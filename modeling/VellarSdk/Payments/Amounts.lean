import VellarSdk.Js.Decimal

/-!
# Token Amounts

An amount is held in the least units of its token, and shown and entered as a
decimal text. The formatter and the parser live in two modules and are meant to
be inverse. Both work on digits: the parser pads the fraction to the places of the
token and reads it as an integer, and the formatter pads what is left of the
division and drops the zeros at the end.

The policy texts have a formatter of their own, for the seven places of the native
token, which takes its amount as a text.

## Main definitions

* `formatTokenAmount`, `parseTokenAmount`: Showing an amount and reading one.
* `stroopsToXlm`: Showing an amount of the native token.

## Theorems

* `isAmount_iff`: The texts that are tried.
* `formatTokenAmount_ofNat`: An amount is shown as the decimal of its units.
* `parseTokenAmount_iff`: A text is read as the units of its decimal.
* `formatTokenAmount_parseTokenAmount`: The two are inverse.
-/

namespace VellarSdk

namespace Payments

open Js

/-- The errors of amounts, and those of the language. -/
inductive AmountError where
  | native (e : NativeError)
  | rangeError (message : JsString)
  | invalidAmount (message : JsString)
  deriving DecidableEq

/-- Native errors escape as they are. -/
instance : MonadLift (Except NativeError) (Except AmountError) where
  monadLift x := x.mapError AmountError.native

@[simp] theorem liftM_ok {α : Type} (a : α) :
    (liftM (Except.ok a : Except NativeError α) : Except AmountError α) = .ok a :=
  rfl

/-- `Number.isInteger(x)`, where it goes on to `BigInt(x)`. -/
def asInteger : JsNum → Option Int
  | some (.finite q) => if q.den = 1 then some q.num else none
  | _ => none

/-- Both functions ask first that the decimals are a natural number. -/
def requireDecimals (decimals : JsNum) : Except AmountError Nat :=
  match asInteger decimals with
  | some n =>
      if decimals.lt (JsNum.ofNat 0) then throwRange else .ok n.toNat
  | none => throwRange
where
  throwRange : Except AmountError Nat :=
    .error (.rangeError (js "decimals must be a non-negative integer, got " ++ decimals.toStr))

/-- `fraction === "" ? whole : whole + "." + fraction`. -/
def withFraction (whole fraction : JsString) : JsString :=
  if fraction = [] then whole else whole ++ 46 :: fraction

def formatTokenAmount (amount : Int) (decimals : JsNum) : Except AmountError JsString := do
  let places ← requireDecimals decimals
  let negative := amount < 0
  let abs := if negative then -amount else amount
  let base := (10 : Int) ^ places
  let whole := abs.tdiv base
  let fraction := stripTrailingZeros (padStart places (intToString (abs.tmod base)))
  let sign := if negative then js "-" else []
  return withFraction (sign ++ intToString whole) fraction

/-- The regular expression `^\d+(\.\d+)?$`. -/
def isAmount (s : JsString) : Bool :=
  let whole := before (fun u => u == 46) s
  let rest := s.drop whole.length
  isDigits whole && (rest.isEmpty || isDigits (rest.drop 1))

def parseTokenAmount (input : JsString) (decimals : JsNum) : Except AmountError Int := do
  let places ← requireDecimals decimals
  let trimmed := trim input
  if !isAmount trimmed then
    .error (.invalidAmount (js "\"" ++ input ++ js "\" is not a valid amount"))
  else do
    let parts := trimmed.splitOn 46
    let whole := parts[0]?.getD (js "0")
    let fraction := parts[1]?.getD []
    if places < fraction.length then
      .error (.invalidAmount
        (js "Amount supports at most " ++ decimals.toStr ++ js " decimal places"))
    else do
      let padded := padEnd places fraction
      let wholeUnits ← JsValue.stringToBigInt whole
      let fractionUnits ← JsValue.stringToBigInt (if padded = [] then js "0" else padded)
      let raw := wholeUnits * 10 ^ places + fractionUnits
      if raw = 0 then .error (.invalidAmount (js "Amount must be greater than zero"))
      else return raw

/-- Format stroops as XLM. -/
def stroopsToXlm (stroops : JsString) : Except NativeError JsString := do
  let n ← JsValue.stringToBigInt stroops
  let whole := n.tdiv 10000000
  let frac := stripTrailingZeros (padStart 7 (intToString (n.tmod 10000000)))
  return withFraction (intToString whole) frac

@[simp] theorem requireDecimals_ofNat (places : Nat) :
    requireDecimals (JsNum.ofNat places) = .ok places := by
  have hinteger : asInteger (JsNum.ofNat places) = some (places : Int) := by
    rw [JsNum.ofNat, asInteger, Rat.den_natCast, if_pos rfl, Rat.num_natCast]
  have hlt : (JsNum.ofNat places).lt (JsNum.ofNat 0) = false := by
    rw [JsNum.ofNat, JsNum.ofNat, JsNum.lt, decide_eq_false_iff_not, not_lt, Nat.cast_zero]
    exact Nat.cast_nonneg places
  rw [requireDecimals, hinteger]
  simp only [hlt, Bool.false_eq_true, if_false, Int.toNat_natCast]

theorem withFraction_eq_text (x : Decimal) : withFraction x.whole x.fraction = x.text :=
  rfl

/-- An amount that is not negative is shown as the decimal of its units. -/
theorem formatTokenAmount_ofNat (n places : Nat) :
    formatTokenAmount n (JsNum.ofNat places) = .ok (Decimal.ofUnits places n).text := by
  have hneg : ¬ (n : Int) < 0 := by omega
  have hbase : (10 : Int) ^ places = ((10 ^ places : Nat) : Int) := by norm_cast
  rw [formatTokenAmount, requireDecimals_ofNat]
  simp only [bind, Except.bind, pure, Except.pure, hneg, if_false, hbase, List.nil_append]
  rw [← Int.ofNat_tdiv, ← Int.ofNat_tmod, intToString_natCast, intToString_natCast,
    ← withFraction_eq_text, Decimal.whole_ofUnits, Decimal.fraction_ofUnits, fractionDigits]

theorem stroopsToXlm_ofNat (n : Nat) :
    stroopsToXlm (natToString n) = .ok (Decimal.ofUnits 7 n).text := by
  have hread : JsValue.stringToBigInt (natToString n) = .ok (n : Int) := by
    rw [JsValue.stringToBigInt_of_isDigits (isDigits_natToString n), digitsToNat_natToString]
  have hbase : (10000000 : Int) = ((10 ^ 7 : Nat) : Int) := by norm_num
  rw [stroopsToXlm, hread]
  simp only [bind, Except.bind, pure, Except.pure, hbase]
  rw [← Int.ofNat_tdiv, ← Int.ofNat_tmod, intToString_natCast, intToString_natCast,
    ← withFraction_eq_text, Decimal.whole_ofUnits, Decimal.fraction_ofUnits, fractionDigits]

theorem point_not_mem {s : JsString} (h : ∀ u ∈ s, isDigit u = true) : (46 : CodeUnit) ∉ s :=
  fun hmem => absurd (h 46 hmem) (by decide)

theorem isAmount_of_not_mem {s : JsString} (h : (46 : CodeUnit) ∉ s) :
    isAmount s = isDigits s := by
  have hbefore : before (fun u => u == 46) s = s :=
    before_of_not (fun u hu => beq_eq_false_iff_ne.mpr (fun heq => h (heq ▸ hu)))
  simp only [isAmount, hbefore, List.drop_length, List.isEmpty_nil, Bool.true_or, Bool.and_true]

theorem isAmount_append_cons {a : JsString} (h : (46 : CodeUnit) ∉ a) (b : JsString) :
    isAmount (a ++ 46 :: b) = (isDigits a && isDigits b) := by
  simp only [isAmount, before_append_cons h, List.drop_left', List.isEmpty_cons, Bool.false_or,
    List.drop_succ_cons, List.drop_zero]

/-- The texts that are tried are the decimal ones. -/
theorem isAmount_iff (s : JsString) : isAmount s = true ↔ ∃ x : Decimal, s = x.text := by
  constructor
  · intro h
    by_cases hpoint : (46 : CodeUnit) ∈ s
    · obtain ⟨a, b, rfl, ha⟩ := List.eq_append_cons_of_mem hpoint
      rw [isAmount_append_cons ha, Bool.and_eq_true] at h
      obtain ⟨hne, hdigit⟩ := (isDigits_iff b).mp h.2
      exact ⟨⟨a, b, h.1, hdigit⟩, (if_neg hne).symm⟩
    · rw [isAmount_of_not_mem hpoint] at h
      exact ⟨⟨s, [], h, fun u hu => absurd hu List.not_mem_nil⟩, rfl⟩
  · rintro ⟨x, rfl⟩
    have hwhole := point_not_mem ((isDigits_iff _).mp x.isDigits_whole).2
    by_cases hfraction : x.fraction = []
    · rw [Decimal.text, if_pos hfraction, isAmount_of_not_mem hwhole]
      exact x.isDigits_whole
    · rw [Decimal.text, if_neg hfraction, isAmount_append_cons hwhole, x.isDigits_whole,
        Bool.true_and]
      exact (isDigits_iff _).mpr ⟨hfraction, x.isDigit_fraction⟩

/-- The parts that a decimal text is split into. -/
theorem splitOn_text (x : Decimal) :
    (x.text.splitOn 46)[0]?.getD (js "0") = x.whole ∧
      (x.text.splitOn 46)[1]?.getD [] = x.fraction := by
  have hwhole := point_not_mem ((isDigits_iff _).mp x.isDigits_whole).2
  by_cases hfraction : x.fraction = []
  · rw [Decimal.text, if_pos hfraction, List.splitOn_eq_singleton hwhole, hfraction]
    exact ⟨rfl, rfl⟩
  · rw [Decimal.text, if_neg hfraction, List.splitOn_append_cons_self_of_not_mem hwhole,
      List.splitOn_eq_singleton (point_not_mem x.isDigit_fraction)]
    exact ⟨rfl, rfl⟩

/-- A fraction is read as digits, an empty one as zero. -/
theorem stringToBigInt_fraction {s : JsString} (h : ∀ u ∈ s, isDigit u = true) :
    JsValue.stringToBigInt (if s = [] then js "0" else s) = .ok (digitsToNat 10 s : Int) := by
  by_cases hnil : s = []
  · rw [if_pos hnil, hnil]
    rfl
  · rw [if_neg hnil, JsValue.stringToBigInt_of_isDigits ((isDigits_iff s).mpr ⟨hnil, h⟩)]

/-- What becomes of a decimal text. -/
theorem parseTokenAmount_text {input : JsString} {x : Decimal} (h : trim input = x.text)
    (places : Nat) : parseTokenAmount input (JsNum.ofNat places) =
      if places < x.fraction.length then
        .error (.invalidAmount (js "Amount supports at most " ++ (JsNum.ofNat places).toStr ++
          js " decimal places"))
      else if x.units places = 0 then
        .error (.invalidAmount (js "Amount must be greater than zero"))
      else .ok (x.units places) := by
  obtain ⟨hwhole, hfraction⟩ := splitOn_text x
  have hamount := (isAmount_iff x.text).mpr ⟨x, rfl⟩
  have hpadded := stringToBigInt_fraction (isDigit_padEnd places x.isDigit_fraction)
  rw [parseTokenAmount, requireDecimals_ofNat]
  simp only [bind, Except.bind, pure, Except.pure, h, hamount, Bool.not_true, Bool.false_eq_true,
    if_false, hwhole, hfraction, JsValue.stringToBigInt_of_isDigits x.isDigits_whole, hpadded]
  by_cases hplaces : places < x.fraction.length
  · rw [if_pos hplaces, if_pos hplaces]
  · rw [if_neg hplaces, if_neg hplaces]
    have hunits : ((digitsToNat 10 x.whole : Nat) : Int) * 10 ^ places +
        (digitsToNat 10 (padEnd places x.fraction) : Nat) = x.units places := by
      rw [Decimal.units, digitsToNat_append, length_padEnd (not_lt.mp hplaces)]
      push_cast
      rfl
    simp only [liftM_ok, hunits, Nat.cast_eq_zero]

/-- What is not a decimal text is not read. -/
theorem parseTokenAmount_malformed {input : JsString} (h : ∀ x : Decimal, trim input ≠ x.text)
    (places : Nat) : parseTokenAmount input (JsNum.ofNat places) =
      .error (.invalidAmount (js "\"" ++ input ++ js "\" is not a valid amount")) := by
  have hamount : isAmount (trim input) = false := by
    rw [← Bool.not_eq_true, isAmount_iff]
    rintro ⟨x, hx⟩
    exact h x hx
  rw [parseTokenAmount, requireDecimals_ofNat]
  simp only [bind, Except.bind, hamount, Bool.not_false, if_true]

/-- A text is read as the units of the decimal it is, if it has no more places than
    the token and is not zero. -/
theorem parseTokenAmount_iff (input : JsString) (places : Nat) (amount : Int) :
    parseTokenAmount input (JsNum.ofNat places) = .ok amount ↔ ∃ x : Decimal,
      trim input = x.text ∧ x.fraction.length ≤ places ∧ x.value ≠ 0 ∧
        amount = x.units places := by
  -- A text of another shape is refused at once; a decimal by its places or as nothing.
  by_cases hdecimal : ∃ x : Decimal, trim input = x.text
  · constructor
    · intro h
      obtain ⟨x, hx⟩ := hdecimal
      rw [parseTokenAmount_text hx] at h
      by_cases hplaces : places < x.fraction.length
      · rw [if_pos hplaces] at h
        exact absurd h (by simp only [reduceCtorEq, not_false_eq_true])
      · rw [if_neg hplaces] at h
        by_cases hzero : x.units places = 0
        · rw [if_pos hzero] at h
          exact absurd h (by simp only [reduceCtorEq, not_false_eq_true])
        · rw [if_neg hzero] at h
          rw [not_lt] at hplaces
          exact ⟨x, hx, hplaces, mt (Decimal.units_eq_zero_iff hplaces).mpr hzero,
            (Except.ok.inj h).symm⟩
    · rintro ⟨x, hx, hplaces, hvalue, rfl⟩
      rw [parseTokenAmount_text hx, if_neg (not_lt.mpr hplaces),
        if_neg (mt (Decimal.units_eq_zero_iff hplaces).mp hvalue)]
  · rw [parseTokenAmount_malformed (fun x hx => hdecimal ⟨x, hx⟩)]
    refine iff_of_false nofun ?_
    rintro ⟨x, hx, -⟩
    exact hdecimal ⟨x, hx⟩

/-- There is no white space in a decimal text. -/
theorem trim_text (x : Decimal) : trim x.text = x.text := by
  have hdigit := ((isDigits_iff _).mp x.isDigits_whole).2
  by_cases hfraction : x.fraction = []
  · rw [Decimal.text, if_pos hfraction, trim_of_isDigit hdigit]
  · rw [Decimal.text, if_neg hfraction]
    refine trim_of_not_whiteSpace (fun u hu => ?_)
    rcases List.mem_append.mp hu with hu | hu
    · exact isWhiteSpace_of_isDigit (hdigit u hu)
    · rcases List.mem_cons.mp hu with rfl | hu
      · rfl
      · exact isWhiteSpace_of_isDigit (x.isDigit_fraction u hu)

/-- Showing an amount and reading one are inverse, but for needless zeros and white
    space. What is read are the decimal texts of no more places than the token has
    that are not zero. The native token is shown alike by the policy texts. -/
theorem formatTokenAmount_parseTokenAmount :
    (∀ (amount : Int) (places : Nat), 0 < amount →
      ∃ text, formatTokenAmount amount (JsNum.ofNat places) = .ok text ∧
        parseTokenAmount text (JsNum.ofNat places) = .ok amount) ∧
    (∀ input places amount, parseTokenAmount input (JsNum.ofNat places) = .ok amount →
      ∃ x : Decimal, trim input = x.text ∧
        formatTokenAmount amount (JsNum.ofNat places) = .ok x.trimmed.text) ∧
    (∀ input places, (∃ amount, parseTokenAmount input (JsNum.ofNat places) = .ok amount) ↔
      ∃ x : Decimal, trim input = x.text ∧ x.fraction.length ≤ places ∧ x.value ≠ 0) ∧
    ∀ amount : Int, 0 ≤ amount → ∃ text, stroopsToXlm (intToString amount) = .ok text ∧
      formatTokenAmount amount (JsNum.ofNat 7) = .ok text := by
  refine ⟨?_, ?_, ?_, ?_⟩
  · intro amount places hpos
    -- The text is that of the decimal made of the units, which has the same units.
    obtain ⟨n, rfl⟩ := Int.eq_ofNat_of_zero_le hpos.le
    have hlength := Decimal.length_fraction_ofUnits places n
    refine ⟨_, formatTokenAmount_ofNat n places, (parseTokenAmount_iff _ _ _).mpr
      ⟨Decimal.ofUnits places n, trim_text _, hlength, ?_, ?_⟩⟩
    · rw [ne_eq, ← Decimal.units_eq_zero_iff hlength, Decimal.units_ofUnits]
      omega
    · rw [Decimal.units_ofUnits]
  · -- What was read is a decimal, and printing its units leaves out its trailing zeros.
    intro input places amount h
    obtain ⟨x, hx, hlength, -, rfl⟩ := (parseTokenAmount_iff input places amount).mp h
    refine ⟨x, hx, ?_⟩
    rw [formatTokenAmount_ofNat, Decimal.ofUnits_units hlength]
  · intro input places
    constructor
    · rintro ⟨amount, h⟩
      obtain ⟨x, hx, hlength, hvalue, -⟩ := (parseTokenAmount_iff input places amount).mp h
      exact ⟨x, hx, hlength, hvalue⟩
    · rintro ⟨x, hx, hlength, hvalue⟩
      exact ⟨_, (parseTokenAmount_iff input places _).mpr ⟨x, hx, hlength, hvalue, rfl⟩⟩
  · intro amount hnonneg
    obtain ⟨n, rfl⟩ := Int.eq_ofNat_of_zero_le hnonneg
    refine ⟨_, ?_, formatTokenAmount_ofNat n 7⟩
    rw [intToString_natCast, stroopsToXlm_ofNat]

example : formatTokenAmount (-25000000) (JsNum.ofNat 7) = .ok (js "-2.5") ∧
    parseTokenAmount (js " 1.0000001 ") (JsNum.ofNat 7) = .ok 10000001 ∧
    parseTokenAmount (js ".5") (JsNum.ofNat 7) =
      .error (.invalidAmount (js "\".5\" is not a valid amount")) := by
  decide +kernel

end Payments

end VellarSdk
