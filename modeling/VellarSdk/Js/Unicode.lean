import Mathlib.Data.List.Basic
import VellarSdk.Js.Encoding

/-!
# Texts on the Wire

What becomes of a text that is sent: it is encoded, and the receiver decodes the
bytes. A text that has a surrogate without its partner does not come back, as it
has no encoding; what comes back is encoded to the same bytes, and that is all a
signature over the bytes needs.

A line break is neither part of a surrogate pair nor of the encoding of another
character, so a text is encoded line by line.

## Main definitions

* `Scalar`: The code points that have an encoding.
* `TextDecoder.Completes`: The bytes that are missing of a code point.

## Theorems

* `codePoints_encodeUtf16`, `codePoints_encodeUtf8`: A code point is read back.
* `encode_bufferToString_encode`: What comes back is encoded to the same bytes.
* `encode_append_newline`, `newline_not_mem_encode`: Encoding goes by lines.
* `encode_inj_of_ascii`: ASCII texts are told apart by their bytes.
-/

namespace VellarSdk

namespace Js

/-- A code point that is not a surrogate. -/
def Scalar (cp : Nat) : Prop :=
  cp < 0x110000 ∧ ¬ (0xD800 ≤ cp ∧ cp ≤ 0xDFFF)

theorem toNat_ofNat16 {n : Nat} (h : n < 0x10000) : (UInt16.ofNat n).toNat = n :=
  UInt16.toNat_ofNat_of_lt h

theorem toNat_ofNat8 {n : Nat} (h : n < 0x100) : (UInt8.ofNat n).toNat = n :=
  UInt8.toNat_ofNat_of_lt h

/-- The units of a code point are the code point itself, or surrogates. -/
theorem mem_encodeUtf16 {cp : Nat} {u : CodeUnit} (hlt : cp < 0x110000) (hu : u ∈ encodeUtf16 cp) :
    u.toNat = cp ∨ 0xD800 ≤ u.toNat := by
  unfold encodeUtf16 at hu
  by_cases hcp : cp < 0x10000
  · rw [if_pos hcp, List.mem_singleton] at hu
    exact .inl (by rw [hu, toNat_ofNat16 hcp])
  · rw [if_neg hcp] at hu
    rcases List.mem_cons.mp hu with hu | hu
    · rw [hu, toNat_ofNat16 (by omega)]
      exact .inr (Nat.le_add_right _ _)
    · rw [List.mem_singleton.mp hu, toNat_ofNat16 (by omega)]
      exact .inr (by omega)

namespace TextEncoder

/-- A unit that is no surrogate is read for itself. -/
theorem codePoints_cons {u : CodeUnit} (h : ¬ (0xD800 ≤ u.toNat ∧ u.toNat ≤ 0xDFFF))
    (rest : JsString) : codePoints (u :: rest) = u.toNat :: codePoints rest := by
  have hu : ¬ (0xD800 ≤ u ∧ u ≤ 0xDFFF) := by
    simpa only [UInt16.le_iff_toNat_le, UInt16.reduceToNat] using h
  cases rest with
  | nil => simp only [codePoints, if_neg hu]
  | cons v rest =>
      have hpair : ¬ (0xD800 ≤ u ∧ u ≤ 0xDBFF ∧ 0xDC00 ≤ v ∧ v ≤ 0xDFFF) := by
        simp only [UInt16.le_iff_toNat_le, UInt16.reduceToNat] at h ⊢
        omega
      rw [codePoints, if_neg hpair, if_neg hu]

/-- A code point that is no surrogate is read back from its units. -/
theorem codePoints_encodeUtf16 {cp : Nat} (h : Scalar cp) (rest : JsString) :
    codePoints (encodeUtf16 cp ++ rest) = cp :: codePoints rest := by
  unfold encodeUtf16
  by_cases hcp : cp < 0x10000
  · rw [if_pos hcp, List.singleton_append, codePoints_cons, toNat_ofNat16 hcp]
    rw [toNat_ofNat16 hcp]
    exact h.2
  · have hlt := h.1
    have hhigh : (UInt16.ofNat (0xD800 + (cp - 0x10000) / 0x400)).toNat =
        0xD800 + (cp - 0x10000) / 0x400 := toNat_ofNat16 (by omega)
    have hlow : (UInt16.ofNat (0xDC00 + (cp - 0x10000) % 0x400)).toNat =
        0xDC00 + (cp - 0x10000) % 0x400 := toNat_ofNat16 (by omega)
    have hcp' : 0x10000 + (0xD800 + (cp - 0x10000) / 0x400 - 0xD800) * 0x400 +
        (0xDC00 + (cp - 0x10000) % 0x400 - 0xDC00) = cp := by
      omega
    rw [if_neg hcp, List.cons_append, List.singleton_append, codePoints, if_pos]
    · rw [hhigh, hlow, hcp']
    · simp only [UInt16.le_iff_toNat_le, UInt16.reduceToNat, hhigh, hlow]
      omega

theorem scalar_replacement : Scalar TextDecoder.replacement :=
  ⟨by decide, by decide⟩

theorem scalar_toNat {u : CodeUnit} (h : ¬ (0xD800 ≤ u ∧ u ≤ 0xDFFF)) : Scalar u.toNat := by
  have hlt := u.toNat_lt
  simp only [UInt16.le_iff_toNat_le, UInt16.reduceToNat] at h
  exact ⟨by omega, h⟩

/-- Nothing that is read is a surrogate. -/
theorem scalar_of_mem_codePoints (s : JsString) : ∀ cp ∈ codePoints s, Scalar cp := by
  fun_induction codePoints s with
  | case1 => exact nofun
  | case2 u hu => exact List.forall_mem_singleton.mpr scalar_replacement
  | case3 u hu => exact List.forall_mem_singleton.mpr (scalar_toNat hu)
  | case4 u v rest hpair ih =>
      refine List.forall_mem_cons.mpr ⟨?_, ih⟩
      simp only [UInt16.le_iff_toNat_le, UInt16.reduceToNat] at hpair
      exact ⟨by omega, by omega⟩
  | case5 u v rest hpair hu ih => exact List.forall_mem_cons.mpr ⟨scalar_replacement, ih⟩
  | case6 u v rest hpair hu ih => exact List.forall_mem_cons.mpr ⟨scalar_toNat hu, ih⟩

/-- What is written for code points is read back. -/
theorem codePoints_flatMap {cps : List Nat} (h : ∀ cp ∈ cps, Scalar cp) :
    codePoints (cps.flatMap encodeUtf16) = cps := by
  induction cps with
  | nil => rfl
  | cons cp cps ih =>
      rw [List.forall_mem_cons] at h
      rw [List.flatMap_cons, codePoints_encodeUtf16 h.1, ih h.2]

end TextEncoder

namespace TextDecoder

/-- Read a byte, whether a sequence is in progress or not. -/
def read : Option Pending → Nat → List Nat × Option Pending
  | none, b => startWith b
  | some p, b => continueWith p b

theorem codePoints_cons (p : Option Pending) (b : UInt8) (bytes : Bytes) :
    codePoints p (b :: bytes) = (read p b.toNat).1 ++ codePoints (read p b.toNat).2 bytes := by
  cases p <;> rfl

/-- The bytes that are missing of a code point. It is written at the last of them, and
    nothing is before. -/
inductive Completes (cp : Nat) : Option Pending → Bytes → Prop where
  | last {p : Option Pending} {b : UInt8} (h : read p b.toNat = ([cp], none)) : Completes cp p [b]
  | more {p : Option Pending} {q : Pending} {b : UInt8} {bytes : Bytes}
      (h : read p b.toNat = ([], some q)) (hrest : Completes cp (some q) bytes) :
      Completes cp p (b :: bytes)

theorem Completes.codePoints {cp : Nat} {p : Option Pending} {bytes : Bytes}
    (h : Completes cp p bytes) (rest : Bytes) :
    codePoints p (bytes ++ rest) = cp :: codePoints none rest := by
  induction h with
  | last h => rw [List.singleton_append, codePoints_cons, h, List.singleton_append]
  | more h hrest ih => rw [List.cons_append, codePoints_cons, h, List.nil_append, ih]

section Completes

variable {cp n : Nat} {bytes : Bytes}

/-- A byte that begins a sequence. -/
theorem completes_lead {p : Pending} (hn : n < 0x100) (h : startWith n = ([], some p))
    (hrest : Completes cp (some p) bytes) : Completes cp none (UInt8.ofNat n :: bytes) :=
  .more (by rw [toNat_ofNat8 hn, read, h]) hrest

/-- A byte that continues a sequence, and one that ends it. -/
theorem completes_continue {bits missing lower upper : Nat} (hn : n < 0x100) (hlower : lower ≤ n)
    (hupper : n ≤ upper) (hmissing : missing ≠ 1)
    (hrest : Completes cp (some ⟨bits * 0x40 + n % 0x40, missing - 1, 0x80, 0xBF⟩) bytes) :
    Completes cp (some ⟨bits, missing, lower, upper⟩) (UInt8.ofNat n :: bytes) := by
  refine .more ?_ hrest
  rw [toNat_ofNat8 hn]
  simp only [read, continueWith, hlower, hupper, and_self, if_true, hmissing, if_false]

theorem completes_last {bits lower upper : Nat} (hn : n < 0x100) (hlower : lower ≤ n)
    (hupper : n ≤ upper) (hcp : bits * 0x40 + n % 0x40 = cp) :
    Completes cp (some ⟨bits, 1, lower, upper⟩) [UInt8.ofNat n] := by
  refine .last ?_
  rw [toNat_ofNat8 hn]
  simp only [read, continueWith, hlower, hupper, and_self, if_true, hcp]

/-- The bytes of a code point that is no surrogate are read as it. -/
theorem completes_encodeUtf8 (h : Scalar cp) : Completes cp none (TextEncoder.encodeUtf8 cp) := by
  have hlt := h.1
  have hsurrogate := h.2
  unfold TextEncoder.encodeUtf8
  -- By the number of bytes: the lead byte says it, and the others continue.
  by_cases h1 : cp < 0x80
  · rw [if_pos h1]
    exact .last (by rw [toNat_ofNat8 (by omega), read, startWith, if_pos (by omega)])
  by_cases h2 : cp < 0x800
  · have hlead : startWith (0xC0 + cp / 0x40) =
        ([], some ⟨(0xC0 + cp / 0x40) % 0x20, 1, 0x80, 0xBF⟩) := by
      rw [startWith, if_neg (by omega), if_pos (by omega)]
    rw [if_neg h1, if_pos h2]
    refine completes_lead (by omega) hlead ?_
    exact completes_last (by omega) (by omega) (by omega) (by omega)
  by_cases h3 : cp < 0x10000
  · have hlead : startWith (0xE0 + cp / 0x1000) = ([], some ⟨(0xE0 + cp / 0x1000) % 0x10, 2,
        if 0xE0 + cp / 0x1000 = 0xE0 then 0xA0 else 0x80,
        if 0xE0 + cp / 0x1000 = 0xED then 0x9F else 0xBF⟩) := by
      rw [startWith, if_neg (by omega), if_neg (by omega), if_pos (by omega)]
    rw [if_neg h1, if_neg h2, if_pos h3]
    refine completes_lead (by omega) hlead ?_
    refine completes_continue (by omega) (by split <;> omega) (by split <;> omega) (by omega) ?_
    exact completes_last (by omega) (by omega) (by omega) (by omega)
  · have hlead : startWith (0xF0 + cp / 0x40000) = ([], some ⟨(0xF0 + cp / 0x40000) % 0x8, 3,
        if 0xF0 + cp / 0x40000 = 0xF0 then 0x90 else 0x80,
        if 0xF0 + cp / 0x40000 = 0xF4 then 0x8F else 0xBF⟩) := by
      rw [startWith, if_neg (by omega), if_neg (by omega), if_neg (by omega), if_pos (by omega)]
    rw [if_neg h1, if_neg h2, if_neg h3]
    refine completes_lead (by omega) hlead ?_
    refine completes_continue (by omega) (by split <;> omega) (by split <;> omega) (by omega) ?_
    refine completes_continue (by omega) (by omega) (by omega) (by omega) ?_
    exact completes_last (by omega) (by omega) (by omega) (by omega)

end Completes

/-- A code point that is no surrogate is read back from its bytes. -/
theorem codePoints_encodeUtf8 {cp : Nat} (h : Scalar cp) (rest : Bytes) :
    codePoints none (TextEncoder.encodeUtf8 cp ++ rest) = cp :: codePoints none rest :=
  (completes_encodeUtf8 h).codePoints rest

theorem codePoints_flatMap {cps : List Nat} (h : ∀ cp ∈ cps, Scalar cp) :
    codePoints none (cps.flatMap TextEncoder.encodeUtf8) = cps := by
  induction cps with
  | nil => rfl
  | cons cp cps ih =>
      rw [List.forall_mem_cons] at h
      rw [List.flatMap_cons, codePoints_encodeUtf8 h.1, ih h.2]

/-- A sequence that was begun is read as something. -/
theorem codePoints_some_ne_nil (p : Pending) (bytes : Bytes) : codePoints (some p) bytes ≠ [] := by
  induction bytes generalizing p with
  | nil => exact List.cons_ne_nil _ _
  | cons b bytes ih =>
      rw [codePoints, continueWith]
      by_cases hrange : p.lower ≤ b.toNat ∧ b.toNat ≤ p.upper
      · rw [if_pos hrange]
        by_cases hlast : p.missing = 1
        · rw [if_pos hlast]
          exact List.cons_ne_nil _ _
        · rw [if_neg hlast]
          exact ih _
      · rw [if_neg hrange]
        exact List.cons_ne_nil _ _

/-- Bytes are never read as nothing. -/
theorem codePoints_ne_nil {bytes : Bytes} (h : bytes ≠ []) : codePoints none bytes ≠ [] := by
  cases bytes with
  | nil => exact absurd rfl h
  | cons b bytes =>
      rw [codePoints]
      cases hstart : (startWith b.toNat).2 with
      | some p => exact fun heq => codePoints_some_ne_nil p bytes (List.append_eq_nil_iff.mp heq).2
      | none =>
          have hsome : (startWith b.toNat).1 ≠ [] := by
            unfold startWith at hstart ⊢
            split_ifs at hstart ⊢ <;> simp_all
          exact fun heq => hsome (List.append_eq_nil_iff.mp heq).1

end TextDecoder

/-- What a receiver reads of a text is encoded to the bytes it was sent in. -/
theorem encode_bufferToString_encode (s : JsString) :
    TextEncoder.encode (bufferToString (TextEncoder.encode s)) = TextEncoder.encode s := by
  have hscalar := TextEncoder.scalar_of_mem_codePoints s
  unfold TextEncoder.encode bufferToString
  rw [TextDecoder.codePoints_flatMap hscalar, TextEncoder.codePoints_flatMap hscalar]

theorem bufferToString_ne_nil {bytes : Bytes} (h : bytes ≠ []) : bufferToString bytes ≠ [] := by
  obtain ⟨cp, cps, hcps⟩ := List.exists_cons_of_ne_nil (TextDecoder.codePoints_ne_nil h)
  have hunits : encodeUtf16 cp ≠ [] := by
    unfold encodeUtf16
    split <;> exact List.cons_ne_nil _ _
  rw [bufferToString, hcps, List.flatMap_cons]
  exact fun heq => hunits (List.append_eq_nil_iff.mp heq).1

namespace TextEncoder

/-- A line break ends whatever is before it. -/
theorem codePoints_append_newline (a b : JsString) :
    codePoints (a ++ 10 :: b) = codePoints a ++ 10 :: codePoints b := by
  have hnewline : codePoints (10 :: b) = 10 :: codePoints b := codePoints_cons (by decide) b
  fun_induction codePoints a with
  | case1 => exact hnewline
  | case2 u hu =>
      -- A line break is no low surrogate, so nothing pairs across it.
      have hpair : ¬ (0xD800 ≤ u ∧ u ≤ 0xDBFF ∧ (0xDC00 : CodeUnit) ≤ 10 ∧
          (10 : CodeUnit) ≤ 0xDFFF) :=
        fun h => absurd h.2.2.1 (by decide)
      rw [List.singleton_append, codePoints, if_neg hpair, if_pos hu, hnewline]
      rfl
  | case3 u hu =>
      rw [List.singleton_append, codePoints_cons, hnewline]
      · rfl
      · simpa only [UInt16.le_iff_toNat_le, UInt16.reduceToNat] using hu
  | case4 u v rest hpair ih =>
      rw [List.cons_append, List.cons_append, codePoints, if_pos hpair, ih, List.cons_append]
  | case5 u v rest hpair hu ih =>
      rw [List.cons_append, List.cons_append, codePoints, if_neg hpair, if_pos hu,
        ← List.cons_append, ih, List.cons_append]
  | case6 u v rest hpair hu ih =>
      rw [List.cons_append, List.cons_append, codePoints, if_neg hpair, if_neg hu,
        ← List.cons_append, ih, List.cons_append]

/-- A text is encoded line by line. -/
theorem encode_append_newline (a b : JsString) :
    encode (a ++ 10 :: b) = encode a ++ 10 :: encode b := by
  unfold encode
  rw [codePoints_append_newline, List.flatMap_append, List.flatMap_cons]
  rfl

theorem newline_mem_of_codePoints {a : JsString} (h : 10 ∈ codePoints a) : 10 ∈ a := by
  have hunit : ∀ u : CodeUnit, 10 = u.toNat → u = 10 := fun u hu => UInt16.toNat_inj.mp hu.symm
  fun_induction codePoints a with
  | case1 => exact absurd h List.not_mem_nil
  | case2 u hu => exact absurd (List.mem_singleton.mp h) (by decide)
  | case3 u hu =>
      rw [hunit u (List.mem_singleton.mp h)]
      exact List.mem_cons_self
  | case4 u v rest hpair ih =>
      rcases List.mem_cons.mp h with h | h
      · omega
      · exact List.mem_cons_of_mem u (List.mem_cons_of_mem v (ih h))
  | case5 u v rest hpair hu ih =>
      rcases List.mem_cons.mp h with h | h
      · exact absurd h (by decide)
      · exact List.mem_cons_of_mem u (ih h)
  | case6 u v rest hpair hu ih =>
      rcases List.mem_cons.mp h with h | h
      · rw [hunit u h]
        exact List.mem_cons_self
      · exact List.mem_cons_of_mem u (ih h)

/-- The bytes of another character are no line break. -/
theorem eq_of_newline_mem_encodeUtf8 {cp : Nat} (hlt : cp < 0x110000) (h : 10 ∈ encodeUtf8 cp) :
    cp = 10 := by
  have hbyte : ∀ n < 0x100, (10 : UInt8) = UInt8.ofNat n → n = 10 := by
    intro n hn heq
    have hnat := congrArg UInt8.toNat heq
    rw [toNat_ofNat8 hn] at hnat
    exact hnat.symm
  unfold encodeUtf8 at h
  split_ifs at h <;> simp only [List.mem_cons, List.not_mem_nil, or_false] at h
  · exact hbyte cp (by omega) h
  · rcases h with h | h <;> have := hbyte _ (by omega) h <;> omega
  · rcases h with h | h | h <;> have := hbyte _ (by omega) h <;> omega
  · rcases h with h | h | h | h <;> have := hbyte _ (by omega) h <;> omega

theorem newline_not_mem_encode {a : JsString} (h : 10 ∉ a) : 10 ∉ encode a := by
  intro hmem
  obtain ⟨cp, hcp, hbytes⟩ := List.mem_flatMap.mp hmem
  obtain rfl := eq_of_newline_mem_encodeUtf8 (scalar_of_mem_codePoints a cp hcp).1 hbytes
  exact h (newline_mem_of_codePoints hcp)

/-- Texts of the same bytes have the same code points. -/
theorem codePoints_eq_of_encode_eq {a b : JsString} (h : encode a = encode b) :
    codePoints a = codePoints b := by
  rw [← TextDecoder.codePoints_flatMap (scalar_of_mem_codePoints a),
    ← TextDecoder.codePoints_flatMap (scalar_of_mem_codePoints b)]
  exact congrArg (TextDecoder.codePoints none) h

theorem codePoints_of_ascii {a : JsString} (h : ∀ u ∈ a, u.toNat < 0x80) :
    codePoints a = a.map UInt16.toNat := by
  induction a with
  | nil => rfl
  | cons u a ih =>
      rw [List.forall_mem_cons] at h
      rw [codePoints_cons (by omega), ih h.2, List.map_cons]

theorem encode_inj_of_ascii {a b : JsString} (ha : ∀ u ∈ a, u.toNat < 0x80)
    (hb : ∀ u ∈ b, u.toNat < 0x80) (h : encode a = encode b) : a = b := by
  have hcps := codePoints_eq_of_encode_eq h
  rw [codePoints_of_ascii ha, codePoints_of_ascii hb] at hcps
  exact List.map_injective_iff.mpr (fun _ _ => UInt16.toNat_inj.mp) hcps

theorem encode_eq_nil {a : JsString} (h : encode a = []) : a = [] := by
  have hcps := codePoints_eq_of_encode_eq (b := []) h
  cases a with
  | nil => rfl
  | cons u a =>
      cases a with
      | nil =>
          simp only [codePoints] at hcps
          split at hcps <;> exact absurd hcps (List.cons_ne_nil _ _)
      | cons v a =>
          simp only [codePoints] at hcps
          split_ifs at hcps

end TextEncoder

end Js

end VellarSdk
