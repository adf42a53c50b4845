import Mathlib.Data.Nat.Digits.Defs

/-!
# JavaScript Strings

A JavaScript string is a sequence of UTF-16 code units, with no promise that
surrogates come in pairs: `JSON.parse` of seller data can produce a lone one.
Strings are therefore lists of code units here, and a Lean string literal is
read as its UTF-16 encoding through a coercion.

The character classes are the ones the source's regular expressions and
`trim()` name, given by code unit. Amounts are the only place where a string is
turned into a number, and `digitsToNat` is the reading that `BigInt` gives to
a run of decimal digits.

## Main definitions

* `JsString`: A sequence of UTF-16 code units.
* `js`: The code units of a Lean string literal.
* `isDigit`, `isHexDigit`, `isWordChar`, `isWhiteSpace`: Character classes.
* `isDigits`: The regular expression `^\d+$`.
* `trim`: `String.prototype.trim`.
* `digitsToNat`: The value of a run of decimal digits.
* `natToString`, `intToString`: Decimal rendering of an integer.
* `afterFirst`, `includes`: Searching for a piece of text.

## Theorems

* `isDigits_iff`: What `^\d+$` accepts.
* `trim_of_not_whiteSpace`: Trimming leaves a text without white space alone.
* `mem_trim`, `trim_cons`: What trimming keeps.
* `natToString_eq`: Printing digit by digit.
* `digitsToNat_natToString`: A number is read back from its digits.
* `before_append_cons`, `afterFirst_append_cons`: The two sides of a separator.
* `append_cons_inj`: A list is cut at its first separator in one way.
-/

namespace VellarSdk

namespace Js

/-- A UTF-16 code unit. -/
abbrev CodeUnit := UInt16

/-- A JavaScript string: any sequence of UTF-16 code units. -/
abbrev JsString := List CodeUnit

/-- A byte array (`Uint8Array`, `Buffer`). -/
abbrev Bytes := List UInt8

/-- The UTF-16 encoding of one code point. -/
def encodeUtf16 (cp : Nat) : JsString :=
  if cp < 0x10000 then [UInt16.ofNat cp]
  else [UInt16.ofNat (0xD800 + (cp - 0x10000) / 0x400),
    UInt16.ofNat (0xDC00 + (cp - 0x10000) % 0x400)]

/-- The code units of a Lean string literal. -/
def js (s : String) : JsString :=
  s.toList.flatMap (fun c => encodeUtf16 c.toNat)

instance : Coe String JsString := ⟨js⟩

/-- A test of every unit of a string goes along the string, and not through all
    the units there are. -/
instance decidableForallUnits (s : JsString) (p : CodeUnit → Prop) [DecidablePred p] :
    Decidable (∀ u ∈ s, p u) :=
  List.decidableBAll p s

/-- The class `\d`. -/
def isDigit (u : CodeUnit) : Bool :=
  48 ≤ u && u ≤ 57

/-- The class `[0-9a-f]` under the `i` flag. -/
def isHexDigit (u : CodeUnit) : Bool :=
  isDigit u || (97 ≤ u && u ≤ 102) || (65 ≤ u && u ≤ 70)

/-- The class `\w`. -/
def isWordChar (u : CodeUnit) : Bool :=
  isDigit u || (97 ≤ u && u ≤ 122) || (65 ≤ u && u ≤ 90) || u == 95

/-- A line terminator, which `.` does not match. -/
def isLineTerminator (u : CodeUnit) : Bool :=
  u == 10 || u == 13 || u == 0x2028 || u == 0x2029

/-- White space as `trim()` and the numeric conversions strip it: tab, line
    feed, vertical tab, form feed, carriage return, the byte order mark and
    every space separator. -/
def isWhiteSpace (u : CodeUnit) : Bool :=
  (9 ≤ u && u ≤ 13) || u == 32 || u == 0xA0 || u == 0x1680 || (0x2000 ≤ u && u ≤ 0x200A) ||
    u == 0x2028 || u == 0x2029 || u == 0x202F || u == 0x205F || u == 0x3000 || u == 0xFEFF

/-- ASCII upper case letters become lower case; everything else is kept. -/
def toAsciiLower (s : JsString) : JsString :=
  s.map (fun u => if 65 ≤ u ∧ u ≤ 90 then u + 32 else u)

/-- `String.prototype.trim`. -/
def trim (s : JsString) : JsString :=
  ((s.dropWhile isWhiteSpace).reverse.dropWhile isWhiteSpace).reverse

/-- The regular expression `^\d+$`. -/
def isDigits (s : JsString) : Bool :=
  !s.isEmpty && s.all isDigit

theorem isDigits_iff (s : JsString) :
    isDigits s = true ↔ s ≠ [] ∧ ∀ u ∈ s, isDigit u = true := by
  simp only [isDigits, Bool.and_eq_true, Bool.not_eq_true', List.isEmpty_eq_false_iff,
    List.all_eq_true]

/-- Digits are not white space. -/
theorem isWhiteSpace_of_isDigit {u : CodeUnit} (h : isDigit u = true) : isWhiteSpace u = false := by
  simp only [isDigit, Bool.and_eq_true, decide_eq_true_eq, UInt16.le_iff_toNat_le,
    UInt16.reduceToNat] at h
  simp only [isWhiteSpace, Bool.or_eq_false_iff, Bool.and_eq_false_iff, decide_eq_false_iff_not,
    beq_eq_false_iff_ne, ne_eq, UInt16.le_iff_toNat_le, ← UInt16.toNat_inj, UInt16.reduceToNat]
  omega

/-- Trimming leaves a text without white space alone. -/
theorem trim_of_not_whiteSpace {s : JsString} (h : ∀ u ∈ s, isWhiteSpace u = false) :
    trim s = s := by
  have hdrop : ∀ l : JsString, (∀ u ∈ l, isWhiteSpace u = false) →
      l.dropWhile isWhiteSpace = l := by
    intro l hl
    cases l with
    | nil => rfl
    | cons u rest =>
        rw [List.dropWhile_cons, if_neg]
        rw [hl u List.mem_cons_self]
        exact Bool.false_ne_true
  rw [trim, hdrop s h, hdrop s.reverse (fun u hu => h u (List.mem_reverse.mp hu)),
    List.reverse_reverse]

theorem trim_of_isDigit {s : JsString} (h : ∀ u ∈ s, isDigit u = true) : trim s = s :=
  trim_of_not_whiteSpace (fun u hu => isWhiteSpace_of_isDigit (h u hu))

/-- What trimming drops is white space. -/
theorem mem_trim {s : JsString} {u : CodeUnit} (hu : u ∈ s) (h : isWhiteSpace u = false) :
    u ∈ trim s := by
  have hdrop : ∀ l : JsString, u ∈ l → u ∈ l.dropWhile isWhiteSpace := by
    intro l hl
    induction l with
    | nil => exact hl
    | cons v rest ih =>
        rw [List.dropWhile_cons]
        by_cases hv : isWhiteSpace v = true
        · rw [if_pos hv]
          rcases List.mem_cons.mp hl with rfl | hl
          · rw [h] at hv
            exact absurd hv Bool.false_ne_true
          · exact ih hl
        · rw [if_neg hv]
          exact hl
  exact List.mem_reverse.mpr (hdrop _ (List.mem_reverse.mpr (hdrop s hu)))

/-- Trimming keeps a first character that is no white space. -/
theorem trim_cons {u : CodeUnit} (h : isWhiteSpace u = false) (s : JsString) :
    ∃ t, trim (u :: s) = u :: t := by
  have hdrop : (u :: s).dropWhile isWhiteSpace = u :: s := by
    rw [List.dropWhile_cons, if_neg (by rw [h]; exact Bool.false_ne_true)]
  have hkeep : ∀ l : JsString, ∃ t, (l ++ [u]).dropWhile isWhiteSpace = t ++ [u] := by
    intro l
    induction l with
    | nil =>
        refine ⟨[], ?_⟩
        rw [List.nil_append, List.dropWhile_cons, if_neg (by rw [h]; exact Bool.false_ne_true)]
    | cons v rest ih =>
        rw [List.cons_append, List.dropWhile_cons]
        by_cases hv : isWhiteSpace v = true
        · rw [if_pos hv]
          exact ih
        · rw [if_neg hv]
          exact ⟨v :: rest, rfl⟩
  rcases hkeep s.reverse with ⟨t, ht⟩
  refine ⟨t.reverse, ?_⟩
  rw [trim, hdrop, List.reverse_cons, ht, List.reverse_append, List.reverse_singleton,
    List.singleton_append]

/-- The value of a run of digits in the given base, most significant first.
    Letters count from ten, in either case. -/
def digitsToNat (base : Nat) (s : JsString) : Nat :=
  s.foldl (fun n u => n * base + digitValue u) 0
where
  digitValue (u : CodeUnit) : Nat :=
    if u ≤ 57 then u.toNat - 48 else if u ≤ 90 then u.toNat - 55 else u.toNat - 87

/-- Decimal rendering of a natural number. -/
def natToString (n : Nat) : JsString :=
  js (toString n)

/-- Decimal rendering of an integer, as `bigint.toString()` gives it. -/
def intToString (n : Int) : JsString :=
  if n < 0 then js "-" ++ natToString n.natAbs else natToString n.natAbs

/-- The code unit of a decimal digit. -/
theorem js_digitChar {d : Nat} (h : d < 10) :
    encodeUtf16 (Nat.digitChar d).toNat = [UInt16.ofNat (48 + d)] := by
  rw [Nat.toNat_digitChar_of_lt_ten h, encodeUtf16, if_pos (by omega)]

/-- Printing goes digit by digit, and the remainder by ten is the last. -/
theorem natToString_eq (n : Nat) : natToString n =
    (if n < 10 then [] else natToString (n / 10)) ++ [UInt16.ofNat (48 + n % 10)] := by
  have hjs : ∀ n : Nat, natToString n =
      (Nat.toDigits 10 n).flatMap (fun c => encodeUtf16 c.toNat) := by
    intro n
    rw [natToString, js, Nat.toString_eq_repr, Nat.toList_repr]
  rw [hjs, Nat.toDigits_eq_if (by omega)]
  by_cases h : n < 10
  · rw [if_pos h, if_pos h, List.flatMap_singleton, js_digitChar h, Nat.mod_eq_of_lt h,
      List.nil_append]
  · rw [if_neg h, if_neg h, List.flatMap_append, List.flatMap_singleton,
      js_digitChar (Nat.mod_lt _ (by omega)), hjs]

theorem isDigit_ofNat {d : Nat} (h : d < 10) : isDigit (UInt16.ofNat (48 + d)) = true := by
  have hle : (UInt16.ofNat (48 + d)).toNat = 48 + d :=
    UInt16.toNat_ofNat_of_lt (Nat.lt_of_lt_of_le (show 48 + d < 58 by omega) (by decide))
  simp only [isDigit, Bool.and_eq_true, decide_eq_true_eq, UInt16.le_iff_toNat_le, hle,
    UInt16.reduceToNat]
  omega

theorem digitValue_ofNat {d : Nat} (h : d < 10) :
    digitsToNat.digitValue (UInt16.ofNat (48 + d)) = d := by
  have hle : (UInt16.ofNat (48 + d)).toNat = 48 + d :=
    UInt16.toNat_ofNat_of_lt (Nat.lt_of_lt_of_le (show 48 + d < 58 by omega) (by decide))
  have hdigit : UInt16.ofNat (48 + d) ≤ 57 := by
    rw [UInt16.le_iff_toNat_le, hle]
    exact Nat.add_le_add_left (show d ≤ 9 by omega) 48
  rw [digitsToNat.digitValue, if_pos hdigit, hle]
  omega

/-- A natural number prints as digits. -/
theorem isDigit_natToString (n : Nat) : ∀ u ∈ natToString n, isDigit u = true := by
  induction n using Nat.strong_induction_on with
  | _ n ih =>
      intro u hu
      rw [natToString_eq] at hu
      rcases List.mem_append.mp hu with hu | hu
      · by_cases h : n < 10
        · rw [if_pos h] at hu
          exact absurd hu List.not_mem_nil
        · rw [if_neg h] at hu
          exact ih (n / 10) (by omega) u hu
      · rw [List.mem_singleton.mp hu]
        exact isDigit_ofNat (Nat.mod_lt _ (by omega))

theorem isDigits_natToString (n : Nat) : isDigits (natToString n) = true := by
  refine (isDigits_iff _).mpr ⟨?_, isDigit_natToString n⟩
  rw [natToString_eq]
  exact List.append_ne_nil_of_right_ne_nil _ (List.cons_ne_nil _ _)

/-- A natural number is read back from its digits. -/
theorem digitsToNat_natToString (n : Nat) : digitsToNat 10 (natToString n) = n := by
  induction n using Nat.strong_induction_on with
  | _ n ih =>
      have hlast := digitValue_ofNat (Nat.mod_lt n (show 10 > 0 by omega))
      rw [natToString_eq, digitsToNat, List.foldl_append, List.foldl_cons, List.foldl_nil, hlast]
      by_cases h : n < 10
      · rw [if_pos h, List.foldl_nil]
        omega
      · have hrest := ih (n / 10) (by omega)
        rw [digitsToNat] at hrest
        rw [if_neg h, hrest]
        omega

/-- A number below a power of ten has at most that many digits. -/
theorem length_natToString_le {n k : Nat} (hk : 0 < k) (h : n < 10 ^ k) :
    (natToString n).length ≤ k := by
  induction k generalizing n with
  | zero => omega
  | succ k ih =>
      rw [natToString_eq, List.length_append, List.length_singleton]
      by_cases hn : n < 10
      · rw [if_pos hn, List.length_nil]
        omega
      · rw [if_neg hn]
        have hk : 0 < k := by
          rcases Nat.eq_zero_or_pos k with rfl | hk
          · rw [Nat.zero_add, Nat.pow_one] at h
            exact absurd h hn
          · exact hk
        have hrest : n / 10 < 10 ^ k := by
          rw [Nat.pow_succ] at h
          omega
        exact Nat.succ_le_succ (ih hk hrest)

/-- Zeros at the end multiply by a power of ten. -/
theorem natToString_mul_pow {n : Nat} (hn : 0 < n) (k : Nat) :
    natToString (n * 10 ^ k) = natToString n ++ List.replicate k 48 := by
  induction k with
  | zero => rw [Nat.pow_zero, Nat.mul_one, List.replicate_zero, List.append_nil]
  | succ k ih =>
      have hpos : 0 < n * 10 ^ k := Nat.mul_pos hn (Nat.pow_pos (by omega))
      rw [Nat.pow_succ, ← Nat.mul_assoc, natToString_eq, if_neg (by omega),
        Nat.mul_div_cancel _ (by omega), ih, Nat.mul_mod_left, List.replicate_succ', List.append_assoc]
      rfl

/-- Cut a string before the first code unit satisfying the test, which is the
    first element of `split` at that unit. -/
def before (p : CodeUnit → Bool) (s : JsString) : JsString :=
  s.takeWhile (fun u => !p u)

/-- What follows the first occurrence of a piece of text. -/
def afterFirst (piece : JsString) : JsString → Option JsString
  | [] => if piece.isEmpty then some [] else none
  | u :: s =>
      if piece.isPrefixOf (u :: s) then some ((u :: s).drop piece.length) else afterFirst piece s

/-- `s.includes(piece)`. -/
def includes (s piece : JsString) : Bool :=
  (afterFirst piece s).isSome

theorem before_of_not {p : CodeUnit → Bool} {s : JsString} (h : ∀ u ∈ s, p u = false) :
    before p s = s := by
  induction s with
  | nil => rfl
  | cons u s ih =>
      rw [List.forall_mem_cons] at h
      rw [before, List.takeWhile_cons, h.1]
      exact congrArg (u :: ·) (ih h.2)

/-- A text is cut at the first of its separators. -/
theorem before_append_cons {c : CodeUnit} {a : JsString} (h : c ∉ a) (b : JsString) :
    before (fun u => u == c) (a ++ c :: b) = a := by
  induction a with
  | nil => rw [List.nil_append, before, List.takeWhile_cons, beq_self_eq_true, Bool.not_true,
      if_neg Bool.false_ne_true]
  | cons u a ih =>
      rw [List.mem_cons, not_or] at h
      have hu : (u == c) = false := beq_eq_false_iff_ne.mpr (Ne.symm h.1)
      rw [List.cons_append, before, List.takeWhile_cons, hu]
      exact congrArg (u :: ·) (ih h.2)

theorem afterFirst_append_cons {c : CodeUnit} {a : JsString} (h : c ∉ a) (b : JsString) :
    afterFirst [c] (a ++ c :: b) = some b := by
  induction a with
  | nil => rw [List.nil_append, afterFirst, List.isPrefixOf, beq_self_eq_true, Bool.true_and,
      List.isPrefixOf, if_pos rfl, List.length_singleton, List.drop_one, List.tail_cons]
  | cons u a ih =>
      rw [List.mem_cons, not_or] at h
      have hu : (c == u) = false := beq_eq_false_iff_ne.mpr h.1
      rw [List.cons_append, afterFirst, List.isPrefixOf, hu, Bool.false_and,
        if_neg Bool.false_ne_true, ih h.2]

/-- Two lists that are cut at their first separator are the same in both parts. -/
theorem append_cons_inj {α : Type} {c : α} {a a' b b' : List α} (ha : c ∉ a) (ha' : c ∉ a')
    (h : a ++ c :: b = a' ++ c :: b') : a = a' ∧ b = b' := by
  induction a generalizing a' with
  | nil =>
      cases a' with
      | nil => exact ⟨rfl, List.tail_eq_of_cons_eq h⟩
      | cons u a' =>
          rw [List.nil_append, List.cons_append] at h
          exact absurd (List.head_eq_of_cons_eq h ▸ List.mem_cons_self) ha'
  | cons u a ih =>
      rw [List.mem_cons, not_or] at ha
      cases a' with
      | nil =>
          rw [List.nil_append, List.cons_append] at h
          exact absurd (List.head_eq_of_cons_eq h).symm ha.1
      | cons v a' =>
          rw [List.mem_cons, not_or] at ha'
          rw [List.cons_append, List.cons_append, List.cons.injEq] at h
          rcases ih ha.2 ha'.2 h.2 with ⟨haa, hbb⟩
          exact ⟨by rw [h.1, haa], hbb⟩

end Js

end VellarSdk
