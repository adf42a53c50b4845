import Mathlib.Data.List.TakeWhile
import VellarSdk.Js.Unicode

/-!
# Form Encoding

The text of a query: names and values, each percent-encoded, with signs between them
that no encoded text contains. `formText` is what `URLSearchParams` writes, and
`parseForm` what a receiver reads of it by the same standard.

Of a byte that is written as it is nothing has to be undone, a space is written as a
plus sign, and every other byte as a percent sign with two digits, the plus sign and
the percent sign among them. So the reader turns plus signs into spaces before it looks
at percent signs, and each byte is read back by itself.

What is read of a text that was written are the names and values themselves, in order,
as far as UTF-8 can carry them: a lone surrogate is replaced on the way.

## Main definitions

* `formText`: Names and values as a text.
* `parseForm`: A text as names and values.
* `queryOf`: The query of a URL.
* `carried`: What UTF-8 carries of a string.

## Theorems

* `formDecode_formEncode`: A name or value is read back.
* `parseForm_formText`: So is a list of them.
* `queryOf_append`: The query of a URL that a text was put behind.
-/

namespace VellarSdk

namespace Js

/-- A byte that is written as it is: a letter, a digit, or one of `*-._`. -/
def isFormSafe (b : UInt8) : Bool :=
  (48 ≤ b && b ≤ 57) || (65 ≤ b && b ≤ 90) || (97 ≤ b && b ≤ 122) ||
    b == 42 || b == 45 || b == 46 || b == 95

/-- A digit of a percent-encoded byte. -/
def formDigit (n : Nat) : UInt8 :=
  if n < 10 then UInt8.ofNat (48 + n) else UInt8.ofNat (55 + n)

/-- What is written of a byte. -/
def formEncodeByte (b : UInt8) : Bytes :=
  if isFormSafe b then [b]
  else if b = 32 then [43]
  else [37, formDigit (b.toNat / 16), formDigit (b.toNat % 16)]

def formEncode (s : JsString) : Bytes :=
  (TextEncoder.encode s).flatMap formEncodeByte

/-- A name, the sign `=`, and its value. -/
def formPair (p : JsString × JsString) : Bytes :=
  formEncode p.1 ++ 61 :: formEncode p.2

/-- `params.toString()`. The text is ASCII, so its units are its bytes. -/
def formText (pairs : List (JsString × JsString)) : JsString :=
  ([38].intercalate (pairs.map formPair)).map (fun b => UInt16.ofNat b.toNat)

/-- The value of a digit, in either case. -/
def formDigitValue (b : UInt8) : Option Nat :=
  if 48 ≤ b ∧ b ≤ 57 then some (b.toNat - 48)
  else if 65 ≤ b ∧ b ≤ 70 then some (b.toNat - 55)
  else if 97 ≤ b ∧ b ≤ 102 then some (b.toNat - 87)
  else none

/-- A percent sign that no two digits follow stands for itself. -/
def percentDecode : Bytes → Bytes
  | b :: h :: l :: rest =>
      if b = 37 then match formDigitValue h, formDigitValue l with
        | some m, some n => UInt8.ofNat (16 * m + n) :: percentDecode rest
        | _, _ => b :: percentDecode (h :: l :: rest)
      else b :: percentDecode (h :: l :: rest)
  | b :: rest => b :: percentDecode rest
  | [] => []

def plusToSpace (bytes : Bytes) : Bytes :=
  bytes.map (fun b => if b = 43 then 32 else b)

/-- A name or value, as it is read. -/
def formDecode (bytes : Bytes) : JsString :=
  bufferToString (percentDecode (plusToSpace bytes))

/-- What is before the first `=`, and what is behind it. -/
def readPair (bytes : Bytes) : JsString × JsString :=
  (formDecode (bytes.takeWhile (· ≠ 61)), formDecode ((bytes.dropWhile (· ≠ 61)).drop 1))

/-- The names and values of a query. What is empty between two `&` is none. -/
def parseForm (text : JsString) : List (JsString × JsString) :=
  (((TextEncoder.encode text).splitOn 38).filter (fun part => !part.isEmpty)).map readPair

/-- The query of a URL: what is behind its first `?`, up to a fragment. -/
def queryOf (url : JsString) : JsString :=
  ((url.takeWhile (· ≠ 35)).dropWhile (· ≠ 63)).drop 1

/-- What UTF-8 carries of a string. -/
def carried (s : JsString) : JsString :=
  bufferToString (TextEncoder.encode s)

/-! ## One byte -/

/-- A byte that a text can have between its signs. -/
def IsFormText (b : UInt8) : Prop :=
  b ≠ 38 ∧ b ≠ 35 ∧ b.toNat < 0x80

instance decidableIsFormText (b : UInt8) : Decidable (IsFormText b) :=
  inferInstanceAs (Decidable (_ ∧ _ ∧ _))

/-- A digit is read back, is no sign that is looked for, and is ASCII. -/
theorem formDigit_spec : ∀ n < 16, formDigitValue (formDigit n) = some n ∧
    formDigit n ≠ 43 ∧ IsFormText (formDigit n) ∧ formDigit n ≠ 61 := by
  decide

/-- So is a byte that is written as it is. -/
theorem isFormSafe_spec {b : UInt8} (h : isFormSafe b = true) :
    b ≠ 37 ∧ b ≠ 43 ∧ IsFormText b ∧ b ≠ 61 := by
  have hrange : ∀ n < 256, isFormSafe (UInt8.ofNat n) = true → UInt8.ofNat n ≠ 37 ∧
      UInt8.ofNat n ≠ 43 ∧ IsFormText (UInt8.ofNat n) ∧ UInt8.ofNat n ≠ 61 := by
    decide +kernel
  have hb := hrange b.toNat b.toNat_lt
  rw [UInt8.ofNat_toNat] at hb
  exact hb h

/-- What is written of a byte contains no sign that stands between names and values. -/
theorem formEncodeByte_clear (b : UInt8) : ∀ c ∈ formEncodeByte b, IsFormText c ∧ c ≠ 61 := by
  have hb := b.toNat_lt
  unfold formEncodeByte
  by_cases hsafe : isFormSafe b = true
  · rw [if_pos hsafe]
    exact List.forall_mem_singleton.mpr (isFormSafe_spec hsafe).2.2
  · rw [if_neg hsafe]
    by_cases hspace : b = 32
    · rw [if_pos hspace]
      exact List.forall_mem_singleton.mpr (by decide)
    · rw [if_neg hspace]
      obtain ⟨-, -, hhigh⟩ := formDigit_spec (b.toNat / 16) (by omega)
      obtain ⟨-, -, hlow⟩ := formDigit_spec (b.toNat % 16) (by omega)
      simp only [List.forall_mem_cons]
      exact ⟨by decide, hhigh, hlow, fun c hc => absurd hc (by simp)⟩

theorem percentDecode_cons {b : UInt8} (h : b ≠ 37) (rest : Bytes) :
    percentDecode (b :: rest) = b :: percentDecode rest := by
  cases rest with
  | nil => simp [percentDecode]
  | cons c rest =>
      cases rest with
      | nil => simp [percentDecode]
      | cons d rest => rw [percentDecode, if_neg h]

theorem plusToSpace_append (a b : Bytes) : plusToSpace (a ++ b) = plusToSpace a ++ plusToSpace b :=
  List.map_append

/-- Each byte is read back by itself, whatever comes behind it. -/
theorem percentDecode_formEncodeByte (b : UInt8) (rest : Bytes) :
    percentDecode (plusToSpace (formEncodeByte b) ++ rest) = b :: percentDecode rest := by
  have hb := b.toNat_lt
  unfold formEncodeByte
  by_cases hsafe : isFormSafe b = true
  · rw [if_pos hsafe]
    obtain ⟨hpercent, hplus, -⟩ := isFormSafe_spec hsafe
    simp only [plusToSpace, List.map_cons, List.map_nil, if_neg hplus, List.singleton_append]
    exact percentDecode_cons hpercent rest
  · rw [if_neg hsafe]
    by_cases hspace : b = 32
    · -- The plus sign that is written for a space, and not one that was in the text.
      rw [if_pos hspace, hspace]
      exact percentDecode_cons (by decide) rest
    · rw [if_neg hspace]
      obtain ⟨hhigh, hplus, -⟩ := formDigit_spec (b.toNat / 16) (by omega)
      obtain ⟨hlow, hplus', -⟩ := formDigit_spec (b.toNat % 16) (by omega)
      have hsign : (37 : UInt8) ≠ 43 := by decide
      simp only [plusToSpace, List.map_cons, List.map_nil, if_neg hplus, if_neg hplus',
        if_neg hsign, List.cons_append, List.nil_append]
      rw [percentDecode, if_pos rfl, hhigh, hlow]
      have hvalue : 16 * (b.toNat / 16) + b.toNat % 16 = b.toNat := by omega
      simp only [hvalue, UInt8.ofNat_toNat]

/-! ## Names and values -/

theorem percentDecode_flatMap (bytes : Bytes) :
    percentDecode (plusToSpace (bytes.flatMap formEncodeByte)) = bytes := by
  induction bytes with
  | nil => rfl
  | cons b bytes ih =>
      rw [List.flatMap_cons, plusToSpace_append, percentDecode_formEncodeByte, ih]

/-- A name or value is read as what UTF-8 carries of it. -/
theorem formDecode_formEncode (s : JsString) : formDecode (formEncode s) = carried s := by
  rw [formDecode, formEncode, percentDecode_flatMap, carried]

theorem formEncode_clear (s : JsString) : ∀ c ∈ formEncode s, IsFormText c ∧ c ≠ 61 := by
  intro c hc
  obtain ⟨b, -, hb⟩ := List.mem_flatMap.mp hc
  exact formEncodeByte_clear b c hb

/-- The first `=` of a pair is the one between its parts. -/
theorem readPair_formPair (p : JsString × JsString) :
    readPair (formPair p) = (carried p.1, carried p.2) := by
  have hname : ∀ c ∈ formEncode p.1, decide (c ≠ 61) = true :=
    fun c hc => decide_eq_true (formEncode_clear p.1 c hc).2
  unfold readPair formPair
  rw [List.takeWhile_append_of_pos hname, List.dropWhile_append_of_pos hname]
  simp only [ne_eq, not_true_eq_false, decide_false, Bool.false_eq_true, not_false_eq_true,
    List.takeWhile_cons_of_neg, List.dropWhile_cons_of_neg, List.append_nil, List.drop_one,
    List.tail_cons, formDecode_formEncode]

theorem formPair_clear (p : JsString × JsString) : ∀ c ∈ formPair p, IsFormText c := by
  intro c hc
  rcases List.mem_append.mp hc with hname | hvalue
  · exact (formEncode_clear p.1 c hname).1
  rcases List.mem_cons.mp hvalue with rfl | hvalue
  · decide
  · exact (formEncode_clear p.2 c hvalue).1

/-- The bytes of a text, the signs between its pairs among them. -/
theorem mem_formBytes {pairs : List (JsString × JsString)} {b : UInt8}
    (h : b ∈ [38].intercalate (pairs.map formPair)) : b ≠ 35 ∧ b.toNat < 0x80 := by
  induction pairs with
  | nil => exact absurd h (by simp)
  | cons p rest ih =>
      rw [List.map_cons] at h
      cases rest with
      | nil =>
          rw [List.map_nil, List.intercalate_singleton] at h
          exact (formPair_clear p b h).2
      | cons q rest =>
          rw [List.map_cons, List.intercalate_cons_cons, List.mem_append, List.mem_append,
            List.mem_singleton] at h
          rcases h with (h | rfl) | h
          · exact (formPair_clear p b h).2
          · decide
          · exact ih (by rwa [List.map_cons])

/-- The units of an ASCII text are its bytes. -/
theorem encode_units {bytes : Bytes} (h : ∀ b ∈ bytes, b.toNat < 0x80) :
    TextEncoder.encode (bytes.map (fun b => UInt16.ofNat b.toNat)) = bytes := by
  have hunits : ∀ u ∈ bytes.map (fun b : UInt8 => UInt16.ofNat b.toNat), u.toNat < 0x80 := by
    intro u hu
    obtain ⟨b, hb, rfl⟩ := List.mem_map.mp hu
    rw [toNat_ofNat16 (b.toNat_lt.trans (by decide))]
    exact h b hb
  rw [TextEncoder.encode, TextEncoder.codePoints_of_ascii hunits]
  clear hunits
  induction bytes with
  | nil => rfl
  | cons b bytes ih =>
      rw [List.forall_mem_cons] at h
      simp only [List.map_cons, List.flatMap_cons]
      rw [ih h.2, toNat_ofNat16 (b.toNat_lt.trans (by decide)), TextEncoder.encodeUtf8, if_pos h.1,
        UInt8.ofNat_toNat, List.singleton_append]

theorem formPair_ne_nil (p : JsString × JsString) : (!(formPair p).isEmpty) = true := by
  rw [Bool.not_eq_true', List.isEmpty_eq_false_iff]
  exact List.append_ne_nil_of_right_ne_nil _ (List.cons_ne_nil _ _)

/-- What was written is read as it was, in order. -/
theorem parseForm_formText (pairs : List (JsString × JsString)) :
    parseForm (formText pairs) = pairs.map (fun p => (carried p.1, carried p.2)) := by
  rw [parseForm, formText, encode_units (fun b hb => (mem_formBytes hb).2)]
  by_cases hnil : pairs = []
  · rw [hnil]
    rfl
  · -- Nothing that is written of a pair has the sign in it that stands between them.
    have hclear : ∀ part ∈ pairs.map formPair, (38 : UInt8) ∉ part := by
      intro part hpart hmem
      obtain ⟨p, -, rfl⟩ := List.mem_map.mp hpart
      exact (formPair_clear p 38 hmem).1 rfl
    rw [List.splitOn_intercalate 38 hclear (by simp [hnil]), List.filter_eq_self.mpr (by
      intro part hpart
      obtain ⟨p, -, rfl⟩ := List.mem_map.mp hpart
      exact formPair_ne_nil p), List.map_map]
    exact List.map_congr_left (fun p _ => readPair_formPair p)

/-- A text that is put behind a URL is the query of what comes of it. -/
theorem queryOf_append {page : JsString} (hpage : 63 ∉ page) (hfragment : 35 ∉ page)
    (pairs : List (JsString × JsString)) :
    queryOf (page ++ js "?" ++ formText pairs) = formText pairs := by
  have htext : ∀ u ∈ js "?" ++ formText pairs, decide (u ≠ 35) = true := by
    intro u hu
    rcases List.mem_append.mp hu with hu | hu
    · rw [List.mem_singleton.mp hu]
      rfl
    · obtain ⟨b, hb, rfl⟩ := List.mem_map.mp hu
      refine decide_eq_true (fun hsame => (mem_formBytes hb).1 ?_)
      rw [← UInt8.toNat_inj, ← toNat_ofNat16 (b.toNat_lt.trans (by decide)), hsame]
      rfl
  have hbefore : ∀ u ∈ page, decide (u ≠ 35) = true ∧ decide (u ≠ 63) = true :=
    fun u hu => ⟨decide_eq_true (fun h => hfragment (h ▸ hu)),
      decide_eq_true (fun h => hpage (h ▸ hu))⟩
  unfold queryOf
  rw [List.append_assoc, List.takeWhile_append_of_pos (fun u hu => (hbefore u hu).1),
    List.takeWhile_eq_self_iff.mpr htext,
    List.dropWhile_append_of_pos (fun u hu => (hbefore u hu).2)]
  rfl

/-- A URL without a `?` has no query. -/
theorem queryOf_eq_nil {url : JsString} (h : 63 ∉ url) : queryOf url = [] := by
  have hnone : ∀ u ∈ url.takeWhile (· ≠ 35), decide (u ≠ 63) = true :=
    fun u hu => decide_eq_true (fun hsame => h (hsame ▸ (List.takeWhile_sublist _).subset hu))
  rw [queryOf, List.dropWhile_eq_nil_iff.mpr hnone, List.drop_nil]

/-- A value cannot be taken for another parameter, and neither can a plus sign for a space. -/
example : parseForm (formText [(js "query", js "a+b &limit=9"), (js "limit", js "é%")]) =
    [(js "query", js "a+b &limit=9"), (js "limit", js "é%")] := by decide +kernel

end Js

end VellarSdk
