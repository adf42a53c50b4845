import VellarSdk.Js.Pattern

/-!
# Template Literals

A template literal is fixed text with values substituted into it. What it
prints is known up to its values, so a question about the printed text comes
down to one about the values: a unit that the fixed text does not have is in a
value, and a word that the fixed text keeps from running over its ends is in a
value or in one fixed piece.

## Main definitions

* `Template`: Fixed text and the values between its pieces.
* `Template.text`, `Template.values`, `Template.fixed`: What it prints and what
  it is made of.
* `Template.separated`: The fixed text keeps its values apart.

## Theorems

* `Template.mem_text`: Where a unit of the printed text comes from.
* `Template.infix_text`: Where a word of the printed text comes from.
* `infix_intercalate_iff`: Where a word of joined texts comes from.
-/

namespace VellarSdk

namespace Js

variable {α : Type}

/-- A template literal: the text before its first value, and each value with
    the text behind it. -/
structure Template (α : Type) where
  head : List α
  rest : List (List α × List α)

/-- The last unit is outside the class. -/
def endsOutside (C : α → Bool) (s : List α) : Bool :=
  s.getLast?.any (fun u => !C u)

/-- The first unit is outside the class. -/
def startsOutside (C : α → Bool) (s : List α) : Bool :=
  s.head?.any (fun u => !C u)

namespace Template

/-- What the template prints. -/
def text (t : Template α) : List α :=
  t.head ++ t.rest.flatMap (fun piece => piece.1 ++ piece.2)

/-- The values substituted. -/
def values (t : Template α) : List (List α) :=
  t.rest.map Prod.fst

/-- The pieces of fixed text. -/
def fixed (t : Template α) : List (List α) :=
  t.head :: t.rest.map Prod.snd

/-- Every value has a unit outside the class before it and, unless the template
    ends with it, one behind it. The argument is the fixed text behind each
    value. -/
def keepsApart (C : α → Bool) : List (List α) → Bool
  | [] => true
  | [f] => f.isEmpty || startsOutside C f
  | f :: g :: rest => startsOutside C f && endsOutside C f && keepsApart C (g :: rest)

/-- No word over the class can run from a value into fixed text. -/
def separated (C : α → Bool) (t : Template α) : Bool :=
  (t.rest.isEmpty || endsOutside C t.head) && keepsApart C (t.rest.map Prod.snd)

/-- A unit of the printed text is in the fixed text or in a value. -/
theorem mem_text {t : Template α} {u : α} :
    u ∈ t.text ↔ (∃ f ∈ t.fixed, u ∈ f) ∨ ∃ v ∈ t.values, u ∈ v := by
  constructor
  · intro h
    rcases List.mem_append.mp h with h | h
    · exact .inl ⟨t.head, List.mem_cons_self, h⟩
    · rcases List.mem_flatMap.mp h with ⟨piece, hpiece, hu⟩
      rcases List.mem_append.mp hu with hu | hu
      · exact .inr ⟨piece.1, List.mem_map_of_mem hpiece, hu⟩
      · exact .inl ⟨piece.2, List.mem_cons_of_mem _ (List.mem_map_of_mem hpiece), hu⟩
  · rintro (⟨f, hf, hu⟩ | ⟨v, hv, hu⟩)
    · rcases List.mem_cons.mp hf with rfl | hf
      · exact List.mem_append_left _ hu
      · rcases List.mem_map.mp hf with ⟨piece, hpiece, rfl⟩
        exact List.mem_append_right _
          (List.mem_flatMap.mpr ⟨piece, hpiece, List.mem_append_right _ hu⟩)
    · rcases List.mem_map.mp hv with ⟨piece, hpiece, rfl⟩
      exact List.mem_append_right _
        (List.mem_flatMap.mpr ⟨piece, hpiece, List.mem_append_left _ hu⟩)

end Template

section Words

variable {C : α → Bool} {w : List α}

/-- A word lies on one side of a unit it does not have. -/
theorem infix_append_cons {x y : List α} {c : α} (hc : c ∉ w) :
    w <:+: x ++ c :: y ↔ w <:+: x ∨ w <:+: y := by
  constructor
  · rintro ⟨a, b, h⟩
    rw [List.append_assoc] at h
    rcases append_split h.symm hc with ⟨b', hx, -⟩ | ⟨a', -, hy⟩
    · exact .inl ⟨a, b', by rw [hx, List.append_assoc]⟩
    · exact .inr ⟨a', b, by rw [hy, List.append_assoc]⟩
  · rintro (h | h)
    · exact h.trans ⟨[], c :: y, rfl⟩
    · exact h.trans ⟨x ++ [c], [], by simp⟩

/-- A word lies in one of the texts joined by such a unit. -/
theorem infix_intercalate_iff {c : α} (hc : c ∉ w) (hw : w ≠ []) (texts : List (List α)) :
    w <:+: [c].intercalate texts ↔ ∃ s ∈ texts, w <:+: s := by
  induction texts with
  | nil =>
      have hnil : ¬ w <:+: [] := fun hnil => hw (List.infix_nil.mp hnil)
      simp [hnil]
  | cons s texts ih =>
      rcases texts with _ | ⟨next, texts⟩
      · rw [List.intercalate_singleton]
        simp only [List.mem_singleton, exists_eq_left]
      · rw [List.intercalate_cons_cons, List.append_assoc, List.singleton_append,
          infix_append_cons hc, ih]
        simp only [List.mem_cons, exists_eq_or_imp]

variable (hC : ∀ u ∈ w, C u = true) (hw : w ≠ [])
include hC hw

/-- A word over a class does not run over a text that ends outside it. -/
theorem infix_append_of_endsOutside {x y : List α} (h : endsOutside C x = true) :
    w <:+: x ++ y ↔ w <:+: x ∨ w <:+: y := by
  rcases List.eq_nil_or_concat x with rfl | ⟨x, c, rfl⟩
  · exact absurd h (by simp [endsOutside])
  · rw [List.concat_eq_append] at h ⊢
    have hc : c ∉ w := by
      intro hmem
      rw [endsOutside, List.getLast?_concat, Option.any_some, hC c hmem] at h
      exact absurd h Bool.false_ne_true
    have hnil : ¬ w <:+: [] := fun hnil => hw (List.infix_nil.mp hnil)
    rw [List.append_assoc, List.singleton_append, infix_append_cons hc, infix_append_cons hc]
    simp only [hnil, or_false]

/-- Nor into one that starts outside it. -/
theorem infix_append_of_startsOutside {x y : List α} (h : startsOutside C y = true) :
    w <:+: x ++ y ↔ w <:+: x ∨ w <:+: y := by
  rcases y with _ | ⟨c, y⟩
  · exact absurd h (by simp [startsOutside])
  · have hc : c ∉ w := by
      intro hmem
      rw [startsOutside, List.head?_cons, Option.any_some, hC c hmem] at h
      exact absurd h Bool.false_ne_true
    have hnil : ¬ w <:+: [] := fun hnil => hw (List.infix_nil.mp hnil)
    have hcons : w <:+: c :: y ↔ w <:+: y := by
      rw [← List.nil_append (c :: y), infix_append_cons hc]
      simp only [hnil, false_or]
    rw [infix_append_cons hc, hcons]

namespace Template

theorem infix_pieces {pieces : List (List α × List α)}
    (h : keepsApart C (pieces.map Prod.snd) = true) :
    w <:+: pieces.flatMap (fun piece => piece.1 ++ piece.2) ↔
      (∃ f ∈ pieces.map Prod.snd, w <:+: f) ∨ ∃ v ∈ pieces.map Prod.fst, w <:+: v := by
  induction pieces with
  | nil =>
      have hnil : ¬ w <:+: [] := fun hnil => hw (List.infix_nil.mp hnil)
      simp [hnil]
  | cons piece pieces ih =>
      rcases pieces with _ | ⟨next, pieces⟩
      · -- The last value may end the template.
        have hlast : w <:+: piece.1 ++ piece.2 ↔ w <:+: piece.1 ∨ w <:+: piece.2 := by
          rcases Bool.or_eq_true_iff.mp h with hempty | hstart
          · have hnil : ¬ w <:+: [] := fun hnil => hw (List.infix_nil.mp hnil)
            rw [List.isEmpty_iff.mp hempty, List.append_nil]
            simp only [hnil, or_false]
          · exact infix_append_of_startsOutside hC hw hstart
        simp only [List.flatMap_cons, List.flatMap_nil, List.append_nil, List.map_cons,
          List.map_nil, List.mem_singleton, exists_eq_left]
        rw [hlast, or_comm]
      · rw [List.map_cons, List.map_cons, keepsApart, Bool.and_eq_true, Bool.and_eq_true] at h
        rcases h with ⟨⟨hstart, hend⟩, hrest⟩
        have hstart' : ∀ z, startsOutside C (piece.2 ++ z) = true := by
          intro z
          rcases hp : piece.2 with _ | ⟨c, f⟩
          · rw [hp] at hstart
            exact absurd hstart (by simp [startsOutside])
          · rw [hp] at hstart
            exact hstart
        rw [List.flatMap_cons, List.append_assoc,
          infix_append_of_startsOutside hC hw (hstart' _),
          infix_append_of_endsOutside hC hw hend, ih hrest]
        simp only [List.map_cons, List.mem_cons, exists_eq_or_imp, or_assoc, or_left_comm]

/-- A word over a class that the fixed text keeps apart is in the fixed text or
    in a value. -/
theorem infix_text {t : Template α} (h : t.separated C = true) :
    w <:+: t.text ↔ (∃ f ∈ t.fixed, w <:+: f) ∨ ∃ v ∈ t.values, w <:+: v := by
  rw [separated, Bool.and_eq_true, Bool.or_eq_true] at h
  rcases h with ⟨hhead, hrest⟩
  have hsplit : w <:+: t.text ↔
      w <:+: t.head ∨ w <:+: t.rest.flatMap (fun piece => piece.1 ++ piece.2) := by
    rcases hhead with hempty | hend
    · have hnil : ¬ w <:+: [] := fun hnil => hw (List.infix_nil.mp hnil)
      rw [text, List.isEmpty_iff.mp hempty, List.flatMap_nil, List.append_nil]
      simp only [hnil, or_false]
    · exact infix_append_of_endsOutside hC hw hend
  rw [hsplit, infix_pieces hC hw hrest]
  simp only [fixed, values, List.mem_cons, exists_eq_or_imp, or_assoc]

end Template

end Words

end Js

end VellarSdk
