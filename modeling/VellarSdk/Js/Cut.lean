import Mathlib.Data.List.DropRight
import VellarSdk.Js.Unicode

/-!
# Texts Cut Short

What the decoder makes of a front of some bytes. A cut can fall anywhere: between
two code points, inside one, or inside bytes that are no code point at all. Up to
the cut the decoder has written the same as it does for all of the bytes, and the cut
adds one replacement character at most, for the sequence that was in progress.
Without the replacement characters at its end the text of a front is therefore a front
of the text.

In bytes that are UTF-8 a sequence is only in progress inside of a code point, so a
front is whole code points and maybe a part of one more, and what is written is those
code points. The byte order mark is no exception: it is dropped from both, or was not
written yet.

## Main definitions

* `scan`: What was written so far, and the sequence in progress.
* `IsUtf8`: Bytes that are UTF-8.
* `LongestWhole`: The longest front of whole code points within a limit.
* `stripReplacements`: A text without the replacement characters at its end.

## Theorems

* `codePoints_append`: Decoding goes on from where it was.
* `stripReplacements_prefix`: The text of a front is a front of the text.
* `exists_longestWhole`: What a front of UTF-8 is read as.
-/

namespace VellarSdk

namespace Js

/-- Bytes that are UTF-8. -/
def IsUtf8 (bytes : Bytes) : Prop :=
  ∃ cps : List Nat, (∀ cp ∈ cps, Scalar cp) ∧ cps.flatMap TextEncoder.encodeUtf8 = bytes

/-- The longest front of the bytes that is whole code points and has no more bytes than
    the limit. -/
structure LongestWhole (limit : Nat) (bytes whole : Bytes) : Prop where
  front : whole <+: bytes
  utf8 : IsUtf8 whole
  fits : whole.length ≤ limit
  longest : ∀ other, other <+: bytes → IsUtf8 other → other.length ≤ limit →
    other.length ≤ whole.length

/-- `s.replace(/\uFFFD+$/, "")`. -/
def stripReplacements (s : JsString) : JsString :=
  s.rdropWhile (fun u => u == 0xFFFD)

theorem stripReplacements_concat (s : JsString) :
    stripReplacements (s ++ [0xFFFD]) = stripReplacements s :=
  List.rdropWhile_concat_pos _ s _ rfl

theorem getLast?_stripReplacements (s : JsString) :
    (stripReplacements s).getLast? ≠ some 0xFFFD := by
  intro hlast
  obtain ⟨hne, hlast⟩ := List.mem_getLast?_eq_getLast hlast
  exact List.rdropWhile_last_not _ s hne (beq_iff_eq.mpr hlast.symm)

namespace TextDecoder

/-- What is written when the bytes end. -/
def finish : Option Pending → List Nat
  | none => []
  | some _ => [replacement]

/-- What the decoder has written after some bytes, and the sequence in progress. -/
def scan : Option Pending → Bytes → List Nat × Option Pending
  | p, [] => ([], p)
  | p, b :: bytes =>
      ((read p b.toNat).1 ++ (scan (read p b.toNat).2 bytes).1, (scan (read p b.toNat).2 bytes).2)

/-- Decoding goes on from where it was. -/
theorem codePoints_append (p : Option Pending) (a b : Bytes) :
    codePoints p (a ++ b) = (scan p a).1 ++ codePoints (scan p a).2 b := by
  induction a generalizing p with
  | nil => rfl
  | cons x a ih => rw [List.cons_append, codePoints_cons, ih, scan, List.append_assoc]

theorem codePoints_eq (p : Option Pending) (a : Bytes) :
    codePoints p a = (scan p a).1 ++ finish (scan p a).2 := by
  have happend := codePoints_append p a []
  rw [List.append_nil] at happend
  rw [happend]
  cases (scan p a).2 <;> rfl

theorem scan_append (p : Option Pending) (a b : Bytes) :
    scan p (a ++ b) = ((scan p a).1 ++ (scan (scan p a).2 b).1, (scan (scan p a).2 b).2) := by
  induction a generalizing p with
  | nil => rfl
  | cons x a ih => rw [List.cons_append, scan, ih, scan, List.append_assoc]

/-- Drop a byte order mark. -/
def dropMark (cps : List Nat) : List Nat :=
  if cps.head? = some 0xFEFF then cps.tail else cps

theorem dropMark_append {a : List Nat} (h : a ≠ []) (b : List Nat) :
    dropMark (a ++ b) = dropMark a ++ b := by
  rw [dropMark, dropMark, List.head?_append_of_ne_nil a h]
  by_cases hmark : a.head? = some 0xFEFF
  · rw [if_pos hmark, if_pos hmark, List.tail_append_of_ne_nil h]
  · rw [if_neg hmark, if_neg hmark]

theorem decode_eq (bytes : Bytes) :
    decode bytes = (dropMark (codePoints none bytes)).flatMap encodeUtf16 := by
  unfold decode
  split
  · next rest heq => rw [heq]; rfl
  · next hmark =>
      rw [dropMark, if_neg]
      intro hhead
      obtain ⟨rest, hrest⟩ := List.head?_eq_some_iff.mp hhead
      exact hmark rest hrest

/-- The text that is written by the end of some bytes, whatever follows them. -/
def written (bytes : Bytes) : JsString :=
  (dropMark (scan none bytes).1).flatMap encodeUtf16

theorem prefix_written (a b : Bytes) : written a <+: decode (a ++ b) := by
  rw [written, decode_eq, codePoints_append]
  by_cases h : (scan none a).1 = []
  · rw [h]
    exact List.nil_prefix
  · rw [dropMark_append h, List.flatMap_append]
    exact List.prefix_append _ _

/-- A cut adds one replacement character at most. -/
theorem stripReplacements_decode (a : Bytes) :
    stripReplacements (decode a) = stripReplacements (written a) := by
  rw [written, decode_eq, codePoints_eq]
  cases (scan none a).2 with
  | none => rw [finish, List.append_nil]
  | some p =>
      by_cases h : (scan none a).1 = []
      · rw [h]
        rfl
      · rw [finish, dropMark_append h, List.flatMap_append]
        exact stripReplacements_concat _

/-- The text of a front is a front of the text. -/
theorem stripReplacements_prefix (a b : Bytes) :
    stripReplacements (decode a) <+: decode (a ++ b) := by
  rw [stripReplacements_decode]
  exact (List.rdropWhile_prefix _ _).trans (prefix_written a b)

theorem Completes.scan {cp : Nat} {p : Option Pending} {bytes : Bytes} (h : Completes cp p bytes) :
    scan p bytes = ([cp], none) := by
  induction h with
  | last h => rw [TextDecoder.scan, h, TextDecoder.scan, List.append_nil]
  | more h hrest ih => rw [TextDecoder.scan, h, ih, List.nil_append]

/-- Before the last byte of a code point there is a sequence in progress. -/
theorem Completes.scan_front {cp : Nat} {p : Option Pending} {bytes front : Bytes}
    (h : Completes cp p bytes) (hfront : front <+: bytes) (hsome : front ≠ [])
    (hpart : front ≠ bytes) : ∃ q, TextDecoder.scan p front = ([], some q) := by
  obtain ⟨b, rest, rfl⟩ := List.exists_cons_of_ne_nil hsome
  induction h generalizing b rest with
  | last h =>
      rw [List.cons_prefix_cons, List.prefix_nil] at hfront
      exact absurd (by rw [hfront.1, hfront.2]) hpart
  | @more p q x bytes h hrest ih =>
      rw [List.cons_prefix_cons] at hfront
      obtain ⟨rfl, hfront⟩ := hfront
      rw [TextDecoder.scan, h]
      cases rest with
      | nil => exact ⟨q, rfl⟩
      | cons y rest =>
          obtain ⟨q', hq'⟩ := ih y rest hfront (List.cons_ne_nil _ _)
            (fun heq => hpart (by rw [heq]))
          exact ⟨q', by rw [hq', List.nil_append]⟩

theorem scan_flatMap {cps : List Nat} (h : ∀ cp ∈ cps, Scalar cp) :
    scan none (cps.flatMap TextEncoder.encodeUtf8) = (cps, none) := by
  induction cps with
  | nil => rfl
  | cons cp cps ih =>
      rw [List.forall_mem_cons] at h
      rw [List.flatMap_cons, scan_append, (completes_encodeUtf8 h.1).scan, ih h.2,
        List.singleton_append]

/-- Part of a code point: after any number of the bytes a sequence is in progress. -/
def IsPart (front : Bytes) : Prop :=
  ∀ part, part <+: front → part ≠ [] → ∃ q, scan none part = ([], some q)

/-- A front of UTF-8 is whole code points and part of one more. -/
theorem take_flatMap {cps : List Nat} (h : ∀ cp ∈ cps, Scalar cp) (limit : Nat) :
    ∃ done front, done <+: cps ∧ IsPart front ∧
      (cps.flatMap TextEncoder.encodeUtf8).take limit =
        done.flatMap TextEncoder.encodeUtf8 ++ front := by
  induction cps generalizing limit with
  | nil =>
      refine ⟨[], [], List.nil_prefix, fun part hpart hsome => ?_, List.take_nil⟩
      exact absurd (List.prefix_nil.mp hpart) hsome
  | cons cp cps ih =>
      rw [List.forall_mem_cons] at h
      rw [List.flatMap_cons, List.take_append]
      by_cases hlimit : limit < (TextEncoder.encodeUtf8 cp).length
      · refine ⟨[], (TextEncoder.encodeUtf8 cp).take limit, List.nil_prefix, ?_, ?_⟩
        · intro part hpart hsome
          rw [List.prefix_take_iff] at hpart
          refine (completes_encodeUtf8 h.1).scan_front hpart.1 hsome ?_
          rintro rfl
          omega
        · rw [Nat.sub_eq_zero_of_le hlimit.le, List.take_zero, List.append_nil]
          rfl
      · obtain ⟨done, front, hdone, hpart, htake⟩ :=
          ih h.2 (limit - (TextEncoder.encodeUtf8 cp).length)
        refine ⟨cp :: done, front, List.cons_prefix_cons.mpr ⟨rfl, hdone⟩, hpart, ?_⟩
        rw [htake, List.take_of_length_le (not_lt.mp hlimit), List.flatMap_cons, List.append_assoc]

/-- What a front of UTF-8 is read as, but for replacement characters at its end: its
    whole code points. -/
theorem exists_longestWhole {bytes : Bytes} (h : IsUtf8 bytes) (limit : Nat) :
    ∃ whole, LongestWhole limit bytes whole ∧
      stripReplacements (decode (bytes.take limit)) = stripReplacements (decode whole) := by
  obtain ⟨cps, hscalar, rfl⟩ := h
  obtain ⟨done, front, hdone, hpart, htake⟩ := take_flatMap hscalar limit
  have hscalar' : ∀ cp ∈ done, Scalar cp := fun cp hcp => hscalar cp (hdone.subset hcp)
  have hscan := scan_flatMap hscalar'
  have hwhole : done.flatMap TextEncoder.encodeUtf8 <+:
      (cps.flatMap TextEncoder.encodeUtf8).take limit := by
    rw [htake]
    exact List.prefix_append _ _
  refine ⟨done.flatMap TextEncoder.encodeUtf8, ?_, ?_⟩
  · refine ⟨(List.prefix_take_iff.mp hwhole).1, ⟨done, hscalar', rfl⟩,
      (List.prefix_take_iff.mp hwhole).2, fun other hother hutf8 hlimit => ?_⟩
    have hother' := List.prefix_take_iff.mpr ⟨hother, hlimit⟩
    by_contra hlonger
    -- It would be the whole code points and a part of the next.
    obtain ⟨part, rfl⟩ := List.prefix_of_prefix_length_le hwhole hother' (not_le.mp hlonger).le
    rw [htake, List.prefix_append_right_inj] at hother'
    obtain ⟨q, hq⟩ := hpart part hother' (fun hnil => hlonger (by rw [hnil, List.append_nil]))
    obtain ⟨others, hothers, heq⟩ := hutf8
    have hend := congrArg Prod.snd (scan_flatMap hothers)
    rw [heq, scan_append, hscan, hq] at hend
    exact absurd hend (Option.some_ne_none q)
  · have hfront : (scan none front).1 = [] := by
      by_cases hsome : front = []
      · rw [hsome]
        rfl
      · obtain ⟨q, hq⟩ := hpart front (List.prefix_refl front) hsome
        rw [hq]
    rw [stripReplacements_decode, stripReplacements_decode, written, written, htake, scan_append,
      hscan, hfront, List.append_nil]

end TextDecoder

end Js

end VellarSdk
