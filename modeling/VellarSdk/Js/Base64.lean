import Mathlib.Data.List.Basic
import VellarSdk.Js.Encoding

/-!
# Base64

Bytes come back from their base64 text. The text is one character for each six bits,
and padding up to a multiple of four characters. What is missing of the last group of
three bytes says how many characters of padding there are, and the bits that stand
behind the last byte are zero and dropped again.

Strings and bytes are not the same to the two functions. They go between strings, and
a byte is a code unit below 256. Every list of bytes is such a string, and none of its
units is lost on the way back.

## Main definitions

* `isBase64Char`: The characters of a base64 text.
* `sextets`, `paddingLength`: The two parts of one.
* `binaryString`, `bytesOf`: Bytes as code units, and back.
* `btoaString`: `btoa` as a function of strings.

## Theorems

* `btoa_eq`: The text of some bytes, by its parts.
* `atob_btoa`: Bytes come back from their text.
* `btoa_inj`: So they are told apart by it.
* `isBase64Char_btoa`: What a base64 text consists of.
* `btoaString_binaryString`: Every list of bytes has a text.
-/

namespace VellarSdk

namespace Js

/-- A character of the alphabet, or of the padding. -/
def isBase64Char (u : CodeUnit) : Bool :=
  (base64Value u).isSome || u == 61

/-- The characters are letters, digits, and signs between them and below. -/
theorem base64Char_range {u : CodeUnit} (h : isBase64Char u = true) :
    43 ≤ u.toNat ∧ u.toNat ≤ 122 := by
  unfold isBase64Char base64Value at h
  simp only [UInt16.le_iff_toNat_le, UInt16.reduceToNat] at h
  split_ifs at h with hupper hlower hdigit hplus hslash
  · omega
  · omega
  · omega
  · rw [hplus]; decide
  · rw [hslash]; decide
  · rw [beq_iff_eq.mp h]; decide

theorem base64Value_base64Char : ∀ n < 64, base64Value (base64Char n) = some n := by
  decide

/-- The values of the characters, six bits each. -/
def sextets : Bytes → List Nat
  | [] => []
  | [a] => [a.toNat / 4, a.toNat % 4 * 16]
  | [a, b] => [a.toNat / 4, a.toNat % 4 * 16 + b.toNat / 16, b.toNat % 16 * 4]
  | a :: b :: c :: rest =>
      a.toNat / 4 :: (a.toNat % 4 * 16 + b.toNat / 16) :: (b.toNat % 16 * 4 + c.toNat / 64) ::
        c.toNat % 64 :: sextets rest

/-- How many characters are missing in the last group. -/
def paddingLength (bytes : Bytes) : Nat :=
  (3 - bytes.length % 3) % 3

theorem sextets_lt (bytes : Bytes) : ∀ n ∈ sextets bytes, n < 64 := by
  fun_induction sextets bytes with
  | case1 => exact fun n hn => absurd hn List.not_mem_nil
  | case2 a =>
      have ha := a.toNat_lt
      simp only [List.forall_mem_cons]
      exact ⟨by omega, by omega, fun n hn => absurd hn List.not_mem_nil⟩
  | case3 a b =>
      have ha := a.toNat_lt
      have hb := b.toNat_lt
      simp only [List.forall_mem_cons]
      exact ⟨by omega, by omega, by omega, fun n hn => absurd hn List.not_mem_nil⟩
  | case4 a b c rest ih =>
      have ha := a.toNat_lt
      have hb := b.toNat_lt
      have hc := c.toNat_lt
      simp only [List.forall_mem_cons]
      exact ⟨by omega, by omega, by omega, by omega, ih⟩

/-- The text of some bytes: their characters, and the padding. -/
theorem btoa_eq (bytes : Bytes) : btoa bytes =
    (sextets bytes).map base64Char ++ List.replicate (paddingLength bytes) 61 := by
  fun_induction btoa bytes with
  | case1 => rfl
  | case2 a => rfl
  | case3 a b => rfl
  | case4 a b c rest ih =>
      have hpadding : paddingLength (a :: b :: c :: rest) = paddingLength rest := by
        simp only [paddingLength, List.length_cons]
        omega
      rw [ih, sextets, hpadding]
      rfl

theorem length_sextets (bytes : Bytes) :
    ((sextets bytes).length + paddingLength bytes) % 4 = 0 := by
  fun_induction sextets bytes with
  | case1 => rfl
  | case2 a => simp only [paddingLength, List.length_cons, List.length_nil]
  | case3 a b => simp only [paddingLength, List.length_cons, List.length_nil]
  | case4 a b c rest ih =>
      simp only [paddingLength, List.length_cons] at ih ⊢
      omega

theorem toNat_ofNat_eq {n : Nat} {b : UInt8} (h : n = b.toNat) : UInt8.ofNat n = b := by
  rw [h, UInt8.ofNat_toNat]

theorem sextetsToBytes_sextets (bytes : Bytes) : sextetsToBytes (sextets bytes) = some bytes := by
  fun_induction sextets bytes with
  | case1 => rfl
  | case2 a =>
      have ha := a.toNat_lt
      rw [sextetsToBytes, toNat_ofNat_eq (b := a) (by omega)]
  | case3 a b =>
      have ha := a.toNat_lt
      have hb := b.toNat_lt
      rw [sextetsToBytes, toNat_ofNat_eq (b := a) (by omega), toNat_ofNat_eq (b := b) (by omega)]
  | case4 a b c rest ih =>
      have ha := a.toNat_lt
      have hb := b.toNat_lt
      have hc := c.toNat_lt
      rw [sextetsToBytes, ih, Option.map_some, toNat_ofNat_eq (b := a) (by omega),
        toNat_ofNat_eq (b := b) (by omega), toNat_ofNat_eq (b := c) (by omega)]

theorem isBase64Char_base64Char {n : Nat} (h : n < 64) : isBase64Char (base64Char n) = true := by
  rw [isBase64Char, base64Value_base64Char n h, Option.isSome_some, Bool.true_or]

/-- A base64 text consists of characters of the alphabet and padding. -/
theorem isBase64Char_btoa (bytes : Bytes) : ∀ u ∈ btoa bytes, isBase64Char u = true := by
  intro u hu
  rw [btoa_eq] at hu
  rcases List.mem_append.mp hu with hu | hu
  · obtain ⟨n, hn, rfl⟩ := List.mem_map.mp hu
    exact isBase64Char_base64Char (sextets_lt bytes n hn)
  · rw [List.eq_of_mem_replicate hu]
    rfl

/-- Padding is stripped again, if it is as long as it has to be. -/
theorem stripPadding_append {values : List Nat} {k : Nat} (hvalues : ∀ n ∈ values, n < 64)
    (hk : k ≤ 2) (hlength : (values.length + k) % 4 = 0) :
    stripPadding (values.map base64Char ++ List.replicate k 61) = values.map base64Char := by
  have hcount : (values.map base64Char ++ List.replicate k 61).length % 4 = 0 := by
    rw [List.length_append, List.length_map, List.length_replicate, hlength]
  -- A character of the alphabet is no padding, so nothing else is stripped.
  have hlast : ∀ rest, (values.map base64Char).reverse ≠ 61 :: rest := by
    intro rest heq
    have hmem : (61 : CodeUnit) ∈ values.map base64Char :=
      List.mem_reverse.mp (heq ▸ List.mem_cons_self)
    obtain ⟨n, hn, hchar⟩ := List.mem_map.mp hmem
    have hvalue := base64Value_base64Char n (hvalues n hn)
    rw [hchar] at hvalue
    exact Option.some_ne_none n (hvalue.symm.trans rfl)
  rw [stripPadding, if_pos hcount, List.reverse_append, List.reverse_replicate]
  generalize hreverse : (values.map base64Char).reverse = chars at hlast
  have hchars : values.map base64Char = chars.reverse := by rw [← hreverse, List.reverse_reverse]
  rw [hchars]
  obtain rfl | rfl | rfl : k = 0 ∨ k = 1 ∨ k = 2 := by omega
  · rw [List.replicate_zero, List.nil_append, List.append_nil]
    split
    · next rest => exact absurd rfl (hlast _)
    · next rest => exact absurd rfl (hlast _)
    · rfl
  · rw [List.replicate_one, List.singleton_append]
    split
    · next rest heq => exact absurd (List.tail_eq_of_cons_eq heq) (hlast _)
    · next rest heq => rw [List.tail_eq_of_cons_eq heq]
    · next heq => exact absurd rfl (heq _)
  · rfl

theorem mapM_base64Value {values : List Nat} (h : ∀ n ∈ values, n < 64) :
    (values.map base64Char).mapM base64Value = some values := by
  induction values with
  | nil => rfl
  | cons n values ih =>
      rw [List.forall_mem_cons] at h
      rw [List.map_cons, List.mapM_cons, base64Value_base64Char n h.1, ih h.2]
      rfl

/-- White space is not part of a base64 text. -/
theorem not_space_of_isBase64Char {u : CodeUnit} (h : isBase64Char u = true) :
    (!(u == 9 || u == 10 || u == 12 || u == 13 || u == 32)) = true := by
  rw [Bool.not_eq_true', ← Bool.not_eq_true]
  simp only [Bool.or_eq_true, beq_iff_eq]
  rintro ((((rfl | rfl) | rfl) | rfl) | rfl) <;> exact absurd h (by decide)

/-- Bytes come back from their text. -/
theorem atob_btoa (bytes : Bytes) : atob (btoa bytes) = some bytes := by
  have hspace := List.filter_eq_self.mpr
    (fun u hu => not_space_of_isBase64Char (isBase64Char_btoa bytes u hu))
  have hlength : paddingLength bytes ≤ 2 := by
    rw [paddingLength]
    omega
  rw [atob, hspace, btoa_eq, stripPadding_append (sextets_lt bytes) hlength (length_sextets bytes),
    mapM_base64Value (sextets_lt bytes), Option.bind_some, sextetsToBytes_sextets]

theorem btoa_inj {a b : Bytes} (h : btoa a = btoa b) : a = b := by
  have hbytes := congrArg atob h
  rw [atob_btoa, atob_btoa, Option.some.injEq] at hbytes
  exact hbytes

theorem btoa_ne_nil {a : Bytes} (h : a ≠ []) : btoa a ≠ [] :=
  fun hnil => h (btoa_inj hnil)

theorem space_not_mem_btoa (a : Bytes) : 32 ∉ btoa a :=
  fun h => absurd (isBase64Char_btoa a 32 h) (by decide)

section Strings

/-- Bytes as a string: `bin += String.fromCharCode(b)` for each of them. -/
def binaryString (bytes : Bytes) : JsString :=
  bytes.map (fun b => UInt16.ofNat b.toNat)

/-- A string as bytes: `bytes[i] = bin.charCodeAt(i)` for each unit, of which a byte
    array keeps the lower eight bits. -/
def bytesOf (bin : JsString) : Bytes :=
  bin.map (fun u => UInt8.ofNat u.toNat)

/-- `btoa(bin)`. `none` is the `InvalidCharacterError` for a unit that is no byte. -/
def btoaString (bin : JsString) : Option JsString :=
  if bin.all (fun u => u ≤ 0xFF) then some (btoa (bytesOf bin)) else none

theorem toNat_unit (b : UInt8) : (UInt16.ofNat b.toNat).toNat = b.toNat :=
  UInt16.toNat_ofNat_of_lt (b.toNat_lt.trans (by decide))

theorem bytesOf_binaryString (bytes : Bytes) : bytesOf (binaryString bytes) = bytes := by
  rw [bytesOf, binaryString, List.map_map]
  refine List.map_id'' (fun b => ?_) bytes
  rw [Function.comp_apply, toNat_unit, UInt8.ofNat_toNat]

/-- Every list of bytes has a text. -/
theorem btoaString_binaryString (bytes : Bytes) :
    btoaString (binaryString bytes) = some (btoa bytes) := by
  have hbytes : (binaryString bytes).all (fun u => u ≤ 0xFF) = true := by
    rw [List.all_eq_true]
    intro u hu
    obtain ⟨b, -, rfl⟩ := List.mem_map.mp hu
    have hb := b.toNat_lt
    rw [decide_eq_true_eq, UInt16.le_iff_toNat_le, toNat_unit]
    exact Nat.le_of_lt_succ hb
  rw [btoaString, if_pos hbytes, bytesOf_binaryString]

end Strings

end Js

end VellarSdk
