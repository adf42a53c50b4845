import Mathlib.Data.List.TakeWhile
import VellarSdk.Js.Text

/-!
# Separated Texts

Texts that are lists: parts with a separator between them, and white space around the
parts that means nothing. The white space may be trimmed before a text is taken apart
or after, as long as the separator is none.

## Main definitions

* `IsBlank`: White space only.

## Theorems

* `trim_append_left`, `trim_append_right`: White space at the ends is dropped.
* `trim_eq_iff`: What is trimmed to a text without white space.
* `splitOn_cases`, `splitOn_eq_pair_iff`: The parts of a text.
* `splitOn_trim_iff`: The two parts of a trimmed text.
-/

namespace VellarSdk

namespace Js

/-- White space only. -/
def IsBlank (s : JsString) : Prop :=
  ∀ u ∈ s, isWhiteSpace u = true

variable {s : JsString}

theorem isBlank_nil : IsBlank [] :=
  fun _ hu => absurd hu List.not_mem_nil

theorem not_mem_of_isBlank {c : CodeUnit} (h : IsBlank s) (hc : isWhiteSpace c = false) :
    c ∉ s := by
  intro hmem
  rw [h c hmem] at hc
  exact absurd hc Bool.true_eq_false.mp

theorem trim_append_left {a : JsString} (h : IsBlank a) (s : JsString) :
    trim (a ++ s) = trim s := by
  rw [trim, List.dropWhile_append_of_pos h, trim]

theorem trim_append_right {b : JsString} (h : IsBlank b) (s : JsString) :
    trim (s ++ b) = trim s := by
  have hb : b.dropWhile isWhiteSpace = [] := List.dropWhile_eq_nil_iff.mpr h
  have hreverse : ∀ u ∈ b.reverse, isWhiteSpace u = true :=
    fun u hu => h u (List.mem_reverse.mp hu)
  rw [trim, List.dropWhile_append, trim]
  by_cases hs : (s.dropWhile isWhiteSpace).isEmpty = true
  · rw [if_pos hs, hb, List.isEmpty_iff.mp hs]
  · rw [if_neg hs, List.reverse_append, List.dropWhile_append_of_pos hreverse]

/-- What trimming drops is white space at the two ends. -/
theorem exists_trim (s : JsString) : ∃ a b, IsBlank a ∧ IsBlank b ∧ s = a ++ trim s ++ b := by
  have hfront : ∀ l : JsString, l = l.takeWhile isWhiteSpace ++ l.dropWhile isWhiteSpace :=
    fun l => List.takeWhile_append_dropWhile.symm
  have hblank : ∀ l : JsString, IsBlank (l.takeWhile isWhiteSpace) :=
    fun l u hu => List.mem_takeWhile_imp hu
  refine ⟨s.takeWhile isWhiteSpace, ((s.dropWhile isWhiteSpace).reverse.takeWhile
    isWhiteSpace).reverse, hblank s, ?_, ?_⟩
  · exact fun u hu => hblank _ u (List.mem_reverse.mp hu)
  · have hback := congrArg List.reverse (hfront (s.dropWhile isWhiteSpace).reverse)
    rw [List.reverse_reverse, List.reverse_append] at hback
    rw [trim, List.append_assoc, ← hback]
    exact hfront s

theorem trim_eq_nil_iff : trim s = [] ↔ IsBlank s := by
  constructor
  · intro h
    obtain ⟨a, b, ha, hb, heq⟩ := exists_trim s
    rw [h, List.append_nil] at heq
    rw [heq]
    exact fun u hu => (List.mem_append.mp hu).elim (ha u) (hb u)
  · intro h
    rw [← List.append_nil s, trim_append_left h]
    rfl

/-- What is trimmed to a text without white space. -/
theorem trim_eq_iff {t : JsString} (h : ∀ u ∈ t, isWhiteSpace u = false) :
    trim s = t ↔ ∃ a b, IsBlank a ∧ IsBlank b ∧ s = a ++ t ++ b := by
  constructor
  · rintro rfl
    exact exists_trim s
  · rintro ⟨a, b, ha, hb, rfl⟩
    rw [trim_append_right hb, trim_append_left ha, trim_of_not_whiteSpace h]

/-- A text without the separator is its only part, and any other is cut at the first
    one. -/
theorem splitOn_cases (c : CodeUnit) (s : JsString) :
    (c ∉ s ∧ s.splitOn c = [s]) ∨
      ∃ a b, s = a ++ c :: b ∧ c ∉ a ∧ s.splitOn c = a :: b.splitOn c := by
  by_cases h : c ∈ s
  · rcases List.eq_append_cons_of_mem h with ⟨a, b, rfl, ha⟩
    exact .inr ⟨a, b, rfl, ha, List.splitOn_append_cons_self_of_not_mem ha b⟩
  · exact .inl ⟨h, List.splitOn_eq_singleton h⟩

/-- A text has two parts if it has one separator. -/
theorem splitOn_eq_pair_iff {c : CodeUnit} {a b : JsString} :
    s.splitOn c = [a, b] ↔ s = a ++ c :: b ∧ c ∉ a ∧ c ∉ b := by
  constructor
  · intro h
    rcases splitOn_cases c s with ⟨-, heq⟩ | ⟨a', rest, rfl, ha, heq⟩
    · rw [heq] at h
      exact absurd (List.tail_eq_of_cons_eq h) (List.cons_ne_nil _ _).symm
    · rw [heq, List.cons.injEq] at h
      obtain ⟨rfl, h⟩ := h
      rcases splitOn_cases c rest with ⟨hrest, heq'⟩ | ⟨b', rest', -, -, heq'⟩
      · rw [heq', List.cons.injEq] at h
        exact ⟨by rw [h.1], ha, h.1 ▸ hrest⟩
      · rw [heq', List.cons.injEq] at h
        exact absurd h.2 (List.splitOn_ne_nil _ _)
  · rintro ⟨rfl, ha, hb⟩
    rw [List.splitOn_append_cons_self_of_not_mem ha, List.splitOn_eq_singleton hb]

/-- The two parts of a text are the same before it is trimmed and after, but for the
    white space around them. -/
theorem splitOn_trim_iff {c : CodeUnit} (hc : isWhiteSpace c = false) {x y : JsString} :
    (∃ a b, (trim s).splitOn c = [a, b] ∧ trim a = x ∧ trim b = y) ↔
      ∃ a b, s.splitOn c = [a, b] ∧ trim a = x ∧ trim b = y := by
  -- The blanks at the ends hold no separator, so they go to the two halves.
  obtain ⟨front, back, hfront, hback, hs⟩ := exists_trim s
  have hcfront := not_mem_of_isBlank hfront hc
  have hcback := not_mem_of_isBlank hback hc
  constructor
  · rintro ⟨a, b, hsplit, rfl, rfl⟩
    obtain ⟨htrim, ha, hb⟩ := splitOn_eq_pair_iff.mp hsplit
    refine ⟨front ++ a, b ++ back, splitOn_eq_pair_iff.mpr ⟨?_, ?_, ?_⟩, trim_append_left hfront a,
      trim_append_right hback b⟩
    · rw [hs, htrim, List.append_assoc, List.append_assoc, List.append_assoc, List.cons_append]
    · exact fun hmem => (List.mem_append.mp hmem).elim hcfront ha
    · exact fun hmem => (List.mem_append.mp hmem).elim hb hcback
  · rintro ⟨a, b, hsplit, rfl, rfl⟩
    obtain ⟨heq, ha, hb⟩ := splitOn_eq_pair_iff.mp hsplit
    have hmem : c ∈ trim s := mem_trim (heq ▸ List.mem_append_right a List.mem_cons_self) hc
    obtain ⟨a', b', htrim, ha'⟩ := List.eq_append_cons_of_mem hmem
    have hsame : front ++ a' ++ c :: (b' ++ back) = a ++ c :: b := by
      rw [← heq, hs, htrim]
      simp only [List.append_assoc, List.cons_append]
    obtain ⟨hleft, hright⟩ := append_cons_inj
      (fun hmem => (List.mem_append.mp hmem).elim hcfront ha') ha hsame
    have hb' : c ∉ b' := fun hmem => hb (hright ▸ List.mem_append_left back hmem)
    refine ⟨a', b', splitOn_eq_pair_iff.mpr ⟨htrim, ha', hb'⟩, ?_, ?_⟩
    · rw [← hleft, trim_append_left hfront]
    · rw [← hright, trim_append_right hback]

end Js

end VellarSdk
