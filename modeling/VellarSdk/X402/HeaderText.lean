import VellarSdk.Js.Base64
import VellarSdk.Js.Cut
import VellarSdk.X402.Client
import VellarSdk.X402.MetadataLines

/-!
# Texts in Headers

A header carries bytes and not every string, so the JSON of a payment is put into one as
the base64 of its UTF-8. Whoever receives it takes the two layers off again. Neither is
lossless for all strings: a surrogate without its partner has no encoding, and the
decoder drops a byte order mark at the front. Other strings come back as they were.

The JSON of a payment is such a string. It begins with a brace, and a surrogate without
its partner, which the server can put into any text of its requirements, is written as
an escape.

## Main definitions

* `utf8ToBase64`: The text that goes into a header.
* `paymentPayload`: What is paid with.
* `IsHeaderValue`: What a header can carry.

## Theorems

* `base64ToUtf8_utf8ToBase64`: A well-formed text comes back.
* `stringify_wellFormed`: JSON is well-formed.
* `payment_header_decodes`: The payment header is read as the JSON it was made of.
-/

namespace VellarSdk

namespace X402

open Js Async

/-- `utf8ToBase64`: the bytes of the text as a binary string, in base64. -/
def utf8ToBase64 (s : JsString) : Except JsError JsString :=
  match btoaString (binaryString (TextEncoder.encode s)) with
  | some b64 => .ok b64
  | none => .error ⟨.foreign, js "Invalid character"⟩

/-- What a header can carry: no line break and no zero, and no blank at either end. -/
structure IsHeaderValue (value : JsString) : Prop where
  bytes : ∀ u ∈ value, u ≤ 0xFF ∧ u ≠ 0 ∧ u ≠ 10 ∧ u ≠ 13
  front : ∀ u, value.head? = some u → u ≠ 9 ∧ u ≠ 32
  back : ∀ u, value.getLast? = some u → u ≠ 9 ∧ u ≠ 32

theorem utf8ToBase64_eq (s : JsString) : utf8ToBase64 s = .ok (btoa (TextEncoder.encode s)) := by
  rw [utf8ToBase64, btoaString_binaryString]

theorem isHeaderValue_of_base64 {s : JsString} (h : ∀ u ∈ s, isBase64Char u = true) :
    IsHeaderValue s := by
  have hchar : ∀ u ∈ s, u ≤ 0xFF ∧ u ≠ 0 ∧ u ≠ 9 ∧ u ≠ 10 ∧ u ≠ 13 ∧ u ≠ 32 := by
    intro u hu
    have hrange := base64Char_range (h u hu)
    simp only [UInt16.le_iff_toNat_le, ne_eq, ← UInt16.toNat_inj, UInt16.reduceToNat]
    omega
  refine ⟨fun u hu => ?_, fun u hu => ?_, fun u hu => ?_⟩
  · obtain ⟨hle, hzero, -, hline, hreturn, -⟩ := hchar u hu
    exact ⟨hle, hzero, hline, hreturn⟩
  · obtain ⟨-, -, htab, -, -, hspace⟩ := hchar u (List.mem_of_mem_head? hu)
    exact ⟨htab, hspace⟩
  · obtain ⟨-, -, htab, -, -, hspace⟩ := hchar u (List.mem_of_getLast? hu)
    exact ⟨htab, hspace⟩

section WellFormed

variable {s t : JsString}

theorem isWellFormed_append (hs : isWellFormed s = true) (ht : isWellFormed t = true) :
    isWellFormed (s ++ t) = true := by
  rw [isWellFormed, isPaired_append hs]
  exact ht

theorem isWellFormed_flatten {texts : List JsString}
    (h : ∀ t ∈ texts, isWellFormed t = true) : isWellFormed texts.flatten = true := by
  induction texts with
  | nil => rfl
  | cons t texts ih =>
      rw [List.forall_mem_cons] at h
      rw [List.flatten_cons]
      exact isWellFormed_append h.1 (ih h.2)

theorem surrogate_iff (u : CodeUnit) :
    (isHighSurrogate u = true ↔ 0xD800 ≤ u.toNat ∧ u.toNat ≤ 0xDBFF) ∧
      (isLowSurrogate u = true ↔ 0xDC00 ≤ u.toNat ∧ u.toNat ≤ 0xDFFF) := by
  simp only [isHighSurrogate, isLowSurrogate, Bool.and_eq_true, decide_eq_true_eq,
    UInt16.le_iff_toNat_le, UInt16.reduceToNat, and_self]

theorem isHighSurrogate_of_lt {u : CodeUnit} (h : u.toNat < 0xD800) :
    isHighSurrogate u = false := by
  rw [← Bool.not_eq_true, (surrogate_iff u).1]
  omega

theorem isLowSurrogate_of_lt {u : CodeUnit} (h : u.toNat < 0xDC00) :
    isLowSurrogate u = false := by
  rw [← Bool.not_eq_true, (surrogate_iff u).2]
  omega

theorem isWellFormed_of_ascii (h : ∀ u ∈ s, u.toNat < 0x80) : isWellFormed s = true :=
  isPaired_of_none (fun u hu => ⟨isHighSurrogate_of_lt ((h u hu).trans (by decide)),
    isLowSurrogate_of_lt ((h u hu).trans (by decide))⟩)

/-- The first unit of a well-formed text is a pair with the second, or no surrogate. -/
theorem isWellFormed_cons_cases {u : CodeUnit} (h : isWellFormed (u :: s) = true) :
    (isHighSurrogate u = true ∧ ∃ v rest, s = v :: rest ∧ isLowSurrogate v = true ∧
      isWellFormed rest = true) ∨
    (isHighSurrogate u = false ∧ isLowSurrogate u = false ∧ isWellFormed s = true) := by
  by_cases hu : isHighSurrogate u = true
  · cases s with
    | nil =>
        rw [isWellFormed, isPaired, hu] at h
        exact absurd h Bool.false_ne_true
    | cons v rest =>
        rw [isWellFormed, isPaired_pair hu, Bool.and_eq_true] at h
        exact .inl ⟨hu, v, rest, rfl, h.1, h.2⟩
  · rw [Bool.not_eq_true] at hu
    rw [isWellFormed, isPaired_cons hu, Bool.and_eq_true, Bool.not_eq_true'] at h
    exact .inr ⟨hu, h.1, h.2⟩

theorem encodeUtf16_toNat (u : CodeUnit) : encodeUtf16 u.toNat = [u] := by
  rw [encodeUtf16, if_pos u.toNat_lt, UInt16.ofNat_toNat]

theorem encodeUtf16_pair {u v : CodeUnit} (hu : isHighSurrogate u = true)
    (hv : isLowSurrogate v = true) :
    encodeUtf16 (0x10000 + (u.toNat - 0xD800) * 0x400 + (v.toNat - 0xDC00)) = [u, v] := by
  rw [(surrogate_iff u).1] at hu
  rw [(surrogate_iff v).2] at hv
  have hhigh : 0xD800 + (0x10000 + (u.toNat - 0xD800) * 0x400 + (v.toNat - 0xDC00) - 0x10000) /
      0x400 = u.toNat := by omega
  have hlow : 0xDC00 + (0x10000 + (u.toNat - 0xD800) * 0x400 + (v.toNat - 0xDC00) - 0x10000) %
      0x400 = v.toNat := by omega
  rw [encodeUtf16, if_neg (by omega), hhigh, hlow, UInt16.ofNat_toNat, UInt16.ofNat_toNat]

/-- A well-formed text is read as code points that are written as it. -/
theorem flatMap_codePoints (h : isWellFormed s = true) :
    (TextEncoder.codePoints s).flatMap encodeUtf16 = s := by
  -- A pair is two units, so the induction is on the length.
  induction hn : s.length using Nat.strong_induction_on generalizing s with
  | _ n ih =>
      subst hn
      cases s with
      | nil => rfl
      | cons u s =>
          rcases isWellFormed_cons_cases h with ⟨hu, v, rest, rfl, hv, hrest⟩ | ⟨hu, hv, hs⟩
          · have hpair : 0xD800 ≤ u ∧ u ≤ 0xDBFF ∧ 0xDC00 ≤ v ∧ v ≤ 0xDFFF := by
              simp only [isHighSurrogate, isLowSurrogate, Bool.and_eq_true, decide_eq_true_eq]
                at hu hv
              exact ⟨hu.1, hu.2, hv⟩
            have hlt : rest.length < (u :: v :: rest).length := by
              simp only [List.length_cons]
              omega
            rw [TextEncoder.codePoints, if_pos hpair, List.flatMap_cons, encodeUtf16_pair hu hv,
              ih _ hlt hrest rfl]
            rfl
          · rw [← Bool.not_eq_true, (surrogate_iff u).1] at hu
            rw [← Bool.not_eq_true, (surrogate_iff u).2] at hv
            rw [TextEncoder.codePoints_cons (by omega), List.flatMap_cons, encodeUtf16_toNat,
              ih _ (Nat.lt_succ_self _) hs rfl, List.singleton_append]

end WellFormed

/-- A well-formed text that does not begin with a byte order mark comes back. -/
theorem base64ToUtf8_utf8ToBase64 {s : JsString} (h : isWellFormed s = true)
    (hmark : s.head? ≠ some 0xFEFF) :
    base64ToUtf8 (btoa (TextEncoder.encode s)) = .ok s := by
  have hcps := flatMap_codePoints h
  have hhead : (TextEncoder.codePoints s).head? ≠ some 0xFEFF := by
    intro hhead
    obtain ⟨rest, hrest⟩ := List.head?_eq_some_iff.mp hhead
    rw [hrest, List.flatMap_cons] at hcps
    rw [← hcps] at hmark
    exact hmark rfl
  have hdecode : TextDecoder.decode (TextEncoder.encode s) = s := by
    rw [TextDecoder.decode_eq, TextEncoder.encode,
      TextDecoder.codePoints_flatMap (TextEncoder.scalar_of_mem_codePoints s),
      TextDecoder.dropMark, if_neg hhead, hcps]
  simp only [base64ToUtf8, atob_btoa, hdecode]

section Stringify

open JsValue

theorem hexUnit_lt {d : Nat} (h : d < 16) :
    (UInt16.ofNat (if d < 10 then 48 + d else 87 + d)).toNat < 0x80 := by
  rw [toNat_ofNat16 (by split <;> omega)]
  split <;> omega

/-- A unit as an escape. -/
theorem isWellFormed_escape (u : CodeUnit) : isWellFormed (js "\\u" ++ hex4 u.toNat) = true := by
  have hlt := u.toNat_lt
  refine isWellFormed_append (by decide) (isWellFormed_of_ascii (fun v hv => ?_))
  simp only [hex4, List.map_cons, List.map_nil, List.mem_cons, List.not_mem_nil, or_false] at hv
  rcases hv with rfl | rfl | rfl | rfl <;> exact hexUnit_lt (by omega)

theorem isWellFormed_cons {u : CodeUnit} {s : JsString} (hhigh : isHighSurrogate u = false)
    (hlow : isLowSurrogate u = false) (hs : isWellFormed s = true) :
    isWellFormed (u :: s) = true := by
  rw [isWellFormed, isPaired_cons hhigh, hlow]
  exact hs

/-- A text is well-formed between its quotes, whatever it is: a surrogate is kept with its
    partner, or is escaped. -/
theorem isWellFormed_escapeUnits (s : JsString) : isWellFormed (escapeUnits s) = true := by
  fun_induction escapeUnits s
  case case1 => rfl
  case case10 u _ _ _ _ _ _ _ _ hhigh v rest hlow ih =>
    rw [isWellFormed, isPaired_pair (by rw [isHighSurrogate]; simpa using hhigh)]
    rw [isLowSurrogate]
    simpa using ⟨hlow, ih⟩
  case case12 => exact isWellFormed_escape _
  case case14 hhigh hlow ih =>
    refine isWellFormed_cons ?_ ?_ ih
    · rw [isHighSurrogate]; simpa using hhigh
    · rw [isLowSurrogate]; simpa using hlow
  case case9 ih | case11 ih | case13 ih => exact isWellFormed_append (isWellFormed_escape _) ih
  all_goals
    next ih => exact isWellFormed_append (by decide) ih

theorem isWellFormed_quote (s : JsString) : isWellFormed (quote s) = true :=
  isWellFormed_append (isWellFormed_append (by decide) (isWellFormed_escapeUnits s)) (by decide)

theorem ascii_natToString (n : Nat) : ∀ u ∈ natToString n, u.toNat < 0x80 := by
  intro u hu
  have hdigit := isDigit_natToString n u hu
  simp only [isDigit, Bool.and_eq_true, decide_eq_true_eq, UInt16.le_iff_toNat_le,
    UInt16.reduceToNat] at hdigit
  omega

theorem ascii_zeros (k : Nat) : ∀ u ∈ List.replicate k (48 : CodeUnit), u.toNat < 0x80 := by
  intro u hu
  rw [List.eq_of_mem_replicate hu]
  decide

/-- A number is printed as digits, with a point, a sign and an exponent among them. -/
theorem ascii_layout {digits : JsString} (h : ∀ u ∈ digits, u.toNat < 0x80) (point : Int) :
    ∀ u ∈ JsNumber.layout digits point, u.toNat < 0x80 := by
  have htake : ∀ k, ∀ u ∈ digits.take k, u.toNat < 0x80 :=
    fun k u hu => h u (List.mem_of_mem_take hu)
  have hdrop : ∀ k, ∀ u ∈ digits.drop k, u.toNat < 0x80 :=
    fun k u hu => h u (List.mem_of_mem_drop hu)
  have hfraction : ∀ u ∈ (if digits.length = 1 then [] else js "." ++ digits.drop 1),
      u.toNat < 0x80 := by
    split
    · exact fun u hu => absurd hu List.not_mem_nil
    · exact List.forall_mem_append.mpr ⟨by decide, hdrop 1⟩
  have hsign : ∀ u ∈ (if point - 1 < 0 then js "-" else js "+"), u.toNat < 0x80 := by
    split <;> decide
  simp only [JsNumber.layout]
  -- The four layouts of the specification, in its order.
  by_cases hwhole : (digits.length : Int) ≤ point ∧ point ≤ 21
  · rw [if_pos hwhole]
    exact List.forall_mem_append.mpr ⟨h, ascii_zeros _⟩
  rw [if_neg hwhole]
  by_cases hpoint : 0 < point ∧ point ≤ 21
  · rw [if_pos hpoint, List.forall_mem_append, List.forall_mem_append]
    exact ⟨⟨htake _, by decide⟩, hdrop _⟩
  rw [if_neg hpoint]
  by_cases hsmall : -6 < point ∧ point ≤ 0
  · rw [if_pos hsmall, List.forall_mem_append, List.forall_mem_append]
    exact ⟨⟨by decide, ascii_zeros _⟩, h⟩
  · rw [if_neg hsmall, List.forall_mem_append, List.forall_mem_append, List.forall_mem_append,
      List.forall_mem_append]
    exact ⟨⟨⟨⟨htake 1, hfraction⟩, by decide⟩, hsign⟩, ascii_natToString _⟩

theorem isWellFormed_finite (q : ℚ) : isWellFormed (JsNumber.finite q).toStr = true := by
  simp only [JsNumber.toStr]
  by_cases hzero : q = 0
  · rw [if_pos hzero]
    decide
  · rw [if_neg hzero]
    refine isWellFormed_append (by split <;> decide) (isWellFormed_of_ascii ?_)
    exact ascii_layout (ascii_natToString _) _

theorem isWellFormed_intersperse {items : List JsString} (h : ∀ t ∈ items, isWellFormed t = true) :
    isWellFormed (List.intersperse (js ",") items).flatten = true := by
  fun_induction List.intersperse (js ",") items with
  | case1 => rfl
  | case2 t => exact isWellFormed_flatten h
  | case3 t items hne ih =>
      rw [List.forall_mem_cons] at h
      rw [List.flatten_cons, List.flatten_cons]
      exact isWellFormed_append h.1 (isWellFormed_append (by decide) (ih h.2))

/-- Rendered values between commas and in brackets. -/
theorem isWellFormed_jsonArray {items : List JsString} (h : ∀ t ∈ items, isWellFormed t = true) :
    isWellFormed (jsonArray items) = true :=
  isWellFormed_append (isWellFormed_append (by decide) (isWellFormed_intersperse h)) (by decide)

theorem isWellFormed_jsonObject {members : List JsString}
    (h : ∀ t ∈ members, isWellFormed t = true) : isWellFormed (jsonObject members) = true :=
  isWellFormed_append (isWellFormed_append (by decide) (isWellFormed_intersperse h)) (by decide)

/-- A `Buffer` is rendered as the list of its bytes. -/
theorem isWellFormed_buffer (bytes : Bytes) : isWellFormed (jsonObject [js "\"type\":\"Buffer\"",
    js "\"data\":" ++ jsonArray (bytes.map (fun b => natToString b.toNat))]) = true := by
  refine isWellFormed_jsonObject (List.forall_mem_cons.mpr ⟨by decide, ?_⟩)
  rw [List.forall_mem_singleton]
  refine isWellFormed_append (by decide) (isWellFormed_jsonArray (fun t ht => ?_))
  obtain ⟨b, -, rfl⟩ := List.mem_map.mp ht
  exact isWellFormed_of_ascii (ascii_natToString _)

mutual

/-- JSON is well-formed. -/
theorem stringify_wellFormed : ∀ (v : JsValue) {text : JsString}, v.stringify = .ok (some text) →
    isWellFormed text = true
  | .undefined, _, h => by
      rw [stringify] at h
      exact absurd h (by simp only [Except.ok.injEq, reduceCtorEq, not_false_eq_true])
  | .null, _, h => by
      rw [stringify, Except.ok.injEq, Option.some.injEq] at h
      exact h ▸ by decide
  | .bool b, _, h => by
      rw [stringify, Except.ok.injEq, Option.some.injEq] at h
      cases b <;> exact h ▸ by decide
  | .num (.finite q), _, h => by
      rw [stringify, Except.ok.injEq, Option.some.injEq] at h
      exact h ▸ isWellFormed_finite q
  | .num (.infinity _), _, h => by
      rw [stringify, Except.ok.injEq, Option.some.injEq] at h
      exact h ▸ by decide
  | .bigint _, _, h => by
      rw [stringify] at h
      exact absurd h (by simp only [reduceCtorEq, not_false_eq_true])
  | .str s, _, h => by
      rw [stringify, Except.ok.injEq, Option.some.injEq] at h
      exact h ▸ isWellFormed_quote s
  | .buffer bytes, _, h => by
      rw [stringify, Except.ok.injEq, Option.some.injEq] at h
      exact h ▸ isWellFormed_buffer bytes
  -- The texts of the parts are well formed, and the brackets and commas are ASCII.
  | .arr items, _, h => by
      rw [stringify] at h
      obtain ⟨texts, htexts, h⟩ := bind_eq_ok.mp h
      injection h with h
      injection h with h
      exact h ▸ isWellFormed_jsonArray (stringifyItems_wellFormed items htexts)
  | .obj fields, _, h => by
      rw [stringify] at h
      obtain ⟨texts, htexts, h⟩ := bind_eq_ok.mp h
      injection h with h
      injection h with h
      exact h ▸ isWellFormed_jsonObject (stringifyFields_wellFormed fields htexts)

theorem stringifyItems_wellFormed : ∀ (items : List JsValue) {texts : List JsString},
    stringifyItems items = .ok texts → ∀ t ∈ texts, isWellFormed t = true
  | [], _, h => by
      rw [stringifyItems, Except.ok.injEq] at h
      subst h
      exact fun t ht => absurd ht List.not_mem_nil
  | v :: rest, _, h => by
      rw [stringifyItems] at h
      obtain ⟨first, hfirst, h⟩ := bind_eq_ok.mp h
      obtain ⟨others, hothers, h⟩ := bind_eq_ok.mp h
      injection h with h
      subst h
      refine List.forall_mem_cons.mpr ⟨?_, stringifyItems_wellFormed rest hothers⟩
      cases first with
      | none => decide
      | some text => exact stringify_wellFormed v hfirst

theorem stringifyFields_wellFormed : ∀ (fields : List (JsString × JsValue)) {texts : List JsString},
    stringifyFields fields = .ok texts → ∀ t ∈ texts, isWellFormed t = true
  | [], _, h => by
      rw [stringifyFields, Except.ok.injEq] at h
      subst h
      exact fun t ht => absurd ht List.not_mem_nil
  | (k, v) :: rest, _, h => by
      rw [stringifyFields] at h
      obtain ⟨first, hfirst, h⟩ := bind_eq_ok.mp h
      obtain ⟨others, hothers, h⟩ := bind_eq_ok.mp h
      injection h with h
      subst h
      cases first with
      | none => exact stringifyFields_wellFormed rest hothers
      | some text =>
          refine List.forall_mem_cons.mpr ⟨?_, stringifyFields_wellFormed rest hothers⟩
          exact isWellFormed_append (isWellFormed_append (isWellFormed_quote k) (by decide))
            (stringify_wellFormed v hfirst)

end

/-- The JSON of an object begins with a brace. -/
theorem stringify_obj {fields : List (JsString × JsValue)} {text : Option JsString}
    (h : (JsValue.obj fields).stringify = .ok text) :
    ∃ rest, text = some (123 :: rest) := by
  rw [stringify] at h
  obtain ⟨texts, -, h⟩ := bind_eq_ok.mp h
  injection h with h
  exact ⟨_, h.symm⟩

end Stringify

/-- What is paid with: the requirements that were accepted, and the transaction. -/
def paymentPayload (requirements : JsValue) (transaction : JsString) : JsValue :=
  .obj [(js "x402Version", .num 2), (js "accepted", requirements),
    (js "payload", .obj [(js "transaction", .str transaction)])]

/-- The payment header is the JSON of the payload, and is read as it. -/
theorem paymentHeader_eq_ok {requirements : JsValue} {transaction header : JsString}
    (h : paymentHeader requirements transaction = .ok header) :
    ∃ text, (paymentPayload requirements transaction).stringify = .ok (some text) ∧
      utf8ToBase64 text = .ok header ∧ base64ToUtf8 header = .ok text := by
  rcases bind_eq_ok.mp h with ⟨written, hwritten, hheader⟩
  rw [liftM_eq_ok] at hwritten
  injection hheader with hheader
  obtain ⟨rest, rfl⟩ := stringify_obj hwritten
  rw [Option.getD_some] at hheader
  refine ⟨123 :: rest, hwritten, ?_, ?_⟩
  · rw [utf8ToBase64_eq, hheader]
  · rw [← hheader]
    refine base64ToUtf8_utf8ToBase64 (stringify_wellFormed _ hwritten) ?_
    rw [List.head?_cons]
    decide

/-- Every text has a base64 text that fits into a header, and it is read as the text if
    that is well-formed and has no byte order mark in front. The header of a payment is
    read as the JSON it was made of. -/
theorem payment_header_decodes :
    (∀ s : JsString, ∃ b64, utf8ToBase64 s = .ok b64 ∧
      (∀ u ∈ b64, isBase64Char u = true) ∧ IsHeaderValue b64 ∧
      (isWellFormed s = true → s.head? ≠ some 0xFEFF → base64ToUtf8 b64 = .ok s)) ∧
    (∀ (d : ClientDeps) (requirements : JsValue) (tr : List BuildEvent) (header : JsString)
      (amount : Int),
      Run buildHandler (buildSignedPayment d requirements) () tr (.done (.ok (header, amount))) () →
      ∃ built auth text, builtTransactions tr = [built] ∧
        (paymentPayload requirements (built.toXdr auth)).stringify = .ok (some text) ∧
        utf8ToBase64 text = .ok header ∧ base64ToUtf8 header = .ok text) := by
  constructor
  · -- The bytes of a text are bytes, so `btoa` has an answer for every text.
    intro s
    have hbase64 := isBase64Char_btoa (TextEncoder.encode s)
    exact ⟨btoa (TextEncoder.encode s), utf8ToBase64_eq s, hbase64, isHeaderValue_of_base64 hbase64,
      base64ToUtf8_utf8ToBase64⟩
  · intro d requirements tr header amount hrun
    obtain ⟨-, built, auth, hbuilt, hheader⟩ := buildSignedPayment_run hrun
    obtain ⟨text, hjson, htext, hdecoded⟩ := paymentHeader_eq_ok hheader
    exact ⟨built, auth, text, hbuilt, hjson, htext, hdecoded⟩

end X402

end VellarSdk
