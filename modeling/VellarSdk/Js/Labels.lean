import Mathlib.Data.List.Forall2
import VellarSdk.Js.Pattern

/-!
# Labelled Lines

A text of several lines, each of which starts with its own label, and what a
replacement makes of it. A pattern keeps the labels if none of its matches
starts in one and none runs past the end of a line: its matches then lie in what
stands behind the labels, so the text has the same lines afterwards, with the
same labels.

A match that starts behind a label may well look past the end of its line. It is
enough that it finds no match there, whatever the next label is.

## Main definitions

* `LineOf`: A line with a given label, and only units of a class behind it.
* `Labelled`: A text of lines with the given labels.
* `LineEnd`: What stands at the end of a line.
* `KeepsLabels`: A pattern whose matches lie behind the labels.

## Theorems

* `Labelled.replaceAll`: A replacement keeps the lines and their labels.
* `Labelled.splitOn`: The lines of a labelled text.
-/

namespace VellarSdk

namespace Js

variable {α : Type} {c : α} {Q : α → Prop} {labels : List (List α)} {find : Pattern α}

/-- A line with this label, and only units of a class behind it. -/
def LineOf (Q : α → Prop) (line label : List α) : Prop :=
  ∃ v, line = label ++ v ∧ ∀ u ∈ v, Q u

/-- A text of lines with these labels, in this order. -/
def Labelled (c : α) (Q : α → Prop) (labels : List (List α)) (text : List α) : Prop :=
  ∃ lines, text = [c].intercalate lines ∧ List.Forall₂ (LineOf Q) lines labels

/-- The text ends here, or the next line does start with a label. -/
inductive LineEnd (c : α) (labels : List (List α)) : List α → Prop where
  | last : LineEnd c labels []
  | next {label : List α} (s : List α) (h : label ∈ labels) : LineEnd c labels (c :: (label ++ s))

/-- No match starts in a label, and none runs past the end of a line. -/
structure KeepsLabels (c : α) (labels : List (List α)) (find : Pattern α) : Prop where
  label : ∀ a x b, a ++ x :: b ∈ labels → ∀ prev s, find prev (x :: (b ++ s)) = 0
  line : ∀ prev w rest, LineEnd c labels rest → find prev (w ++ rest) ≤ w.length

/-- A run of units without the line break is no longer than its line. -/
theorem LineEnd.length_le {p w rest : List α} (h : LineEnd c labels rest) (hp : p <+: w ++ rest)
    (hc : c ∉ p) : p.length ≤ w.length := by
  cases h with
  | last =>
      rw [List.append_nil] at hp
      exact hp.length_le
  | next s =>
      by_contra hlong
      refine hc (List.mem_of_getElem? (i := w.length) ?_)
      rcases hp with ⟨t, ht⟩
      have hbreak := congrArg (fun l => l[w.length]?) ht
      rw [List.getElem?_append_left (by omega), List.getElem?_append_right (Nat.le_refl _),
        Nat.sub_self] at hbreak
      exact hbreak

section Reading

/-- Units at which no match starts are kept. -/
theorem segments_of_no_match {label : List α}
    (h : ∀ a x b, label = a ++ x :: b → ∀ prev s, find prev (x :: (b ++ s)) = 0)
    (prev : Option α) (s : List α) : segments find prev (label ++ s) =
      label.map .kept ++ segments find (lastOr prev label) s := by
  induction label generalizing prev with
  | nil => rfl
  | cons x label ih =>
      have htail := ih (fun a y b hb => h (x :: a) y b (by rw [hb, List.cons_append])) (some x)
      rw [List.cons_append, segments_kept (h [] x label rfl prev s), htail, List.map_cons,
        List.cons_append, lastOr_cons]

/-- What is read of a line, if no match runs past its end. -/
theorem segments_of_line {rest : List α} (h : ∀ prev w, find prev (w ++ rest) ≤ w.length)
    (prev : Option α) (w : List α) : ∃ segs, source segs = w ∧
      segments find prev (w ++ rest) = segs ++ segments find (lastOr prev w) rest := by
  -- What is found takes many units at once, so the induction is on the length.
  induction hn : w.length using Nat.strong_induction_on generalizing prev w with
  | _ n ih =>
      subst hn
      rcases w with _ | ⟨x, w⟩
      · exact ⟨[], rfl, rfl⟩
      have hle := h prev (x :: w)
      -- A unit that is kept, or a label that ends within the line.
      rcases hfind : find prev (x :: w ++ rest) with _ | k
      · rcases ih w.length (Nat.lt_succ_self _) (some x) w rfl with ⟨segs, hsource, hsegs⟩
        refine ⟨.kept x :: segs, by rw [source_kept, hsource], ?_⟩
        rw [List.cons_append] at hfind
        rw [List.cons_append, segments_kept hfind, hsegs, List.cons_append, lastOr_cons]
      · rw [hfind] at hle
        have hlt : ((x :: w).drop (k + 1)).length < (x :: w).length := by
          rw [List.length_drop, List.length_cons]
          omega
        rcases ih _ hlt (lastOr prev ((x :: w).take (k + 1))) ((x :: w).drop (k + 1)) rfl with
          ⟨segs, hsource, hsegs⟩
        refine ⟨.found ((x :: w).take (k + 1)) :: segs, ?_, ?_⟩
        · rw [source_found, hsource, List.take_append_drop]
        · rw [← lastOr_append, List.take_append_drop] at hsegs
          rw [List.cons_append] at hfind
          rw [List.cons_append, segments_found hfind, ← List.cons_append,
            List.take_append_of_le_length hle, List.drop_append_of_le_length hle, hsegs,
            List.cons_append]

/-- A label and the line behind it, read and replaced. -/
theorem render_line {piece label v rest : List α} (hfind : KeepsLabels c labels find)
    (hlabel : label ∈ labels) (hrest : LineEnd c labels rest) (hpiece : ∀ u ∈ piece, Q u)
    (hv : ∀ u ∈ v, Q u) (prev : Option α) : ∃ v' prev', (∀ u ∈ v', Q u) ∧
      render piece (segments find prev (label ++ v ++ rest)) =
        label ++ v' ++ render piece (segments find prev' rest) := by
  have hkept := segments_of_no_match (fun a x b hb => hfind.label a x b (hb ▸ hlabel)) prev
    (v ++ rest)
  rcases segments_of_line (fun prev w => hfind.line prev w rest hrest) (lastOr prev label) v with
    ⟨segs, hsource, hsegs⟩
  refine ⟨render piece segs, lastOr (lastOr prev label) v, ?_, ?_⟩
  · intro u hu
    rcases mem_render hu with hu | hu
    · exact hpiece u hu
    · exact hv u (hsource ▸ hu)
  · rw [List.append_assoc, hkept, hsegs, render_append, render_map_kept, render_append,
      List.append_assoc]

end Reading

/-- A replacement keeps the lines and their labels. -/
theorem Labelled.replaceAll {known : List (List α)} {piece text : List α}
    (h : Labelled c Q labels text) (hfind : KeepsLabels c known find)
    (hlabels : ∀ label ∈ labels, label ∈ known) (hpiece : ∀ u ∈ piece, Q u) :
    Labelled c Q labels (replaceAll find piece text) := by
  have hrun : ∀ (lines labels : List (List α)), List.Forall₂ (LineOf Q) lines labels →
      (∀ label ∈ labels, label ∈ known) → ∀ prev, ∃ lines', List.Forall₂ (LineOf Q) lines' labels ∧
        render piece (segments find prev ([c].intercalate lines)) = [c].intercalate lines' := by
    intro lines labels hlines
    induction hlines with
    | nil => exact fun _ prev => ⟨[], .nil, rfl⟩
    | @cons line label lines labels hline hlines ih =>
        intro hknown prev
        have hlabel := hknown label List.mem_cons_self
        rcases hline with ⟨v, rfl, hv⟩
        cases hlines with
        | nil =>
            rcases render_line hfind hlabel .last hpiece hv prev with ⟨v', prev', hv', hrender⟩
            refine ⟨[label ++ v'], .cons ⟨v', rfl, hv'⟩ .nil, ?_⟩
            rw [List.append_nil] at hrender
            rw [List.intercalate_singleton, List.intercalate_singleton, hrender]
            exact List.append_nil _
        | @cons line' label' lines labels hline' hlines =>
            have hnext : LineEnd c known (c :: [c].intercalate (line' :: lines)) := by
              rcases hline' with ⟨v', rfl, -⟩
              have hlabel' := hknown label' (List.mem_cons_of_mem _ List.mem_cons_self)
              rcases lines with _ | ⟨line, lines⟩
              · rw [List.intercalate_singleton]
                exact .next v' hlabel'
              · rw [List.intercalate_cons_cons, List.append_assoc, List.append_assoc]
                exact .next _ hlabel'
            rcases render_line hfind hlabel hnext hpiece hv prev with ⟨v', prev', hv', hrender⟩
            -- The line break is kept, and the reading goes on behind it.
            have hbreak : find prev' (c :: [c].intercalate (line' :: lines)) = 0 :=
              Nat.le_zero.mp (hfind.line prev' [] _ hnext)
            rcases ih (fun l hl => hknown l (List.mem_cons_of_mem _ hl)) (some c) with
              ⟨lines', hlines', htail⟩
            rcases hlines' with _ | ⟨hfirst, hothers⟩
            refine ⟨(label ++ v') :: _ :: _, .cons ⟨v', rfl, hv'⟩ (.cons hfirst hothers), ?_⟩
            rw [List.intercalate_cons_cons, List.append_assoc, List.singleton_append, hrender,
              segments_kept hbreak, render_kept, htail, List.intercalate_cons_cons,
              List.append_assoc _ [c], List.singleton_append]
  rcases h with ⟨lines, rfl, hlines⟩
  rcases hrun lines labels hlines hlabels none with ⟨lines', hlines', hrender⟩
  exact ⟨lines', hrender, hlines'⟩

/-- The lines of a labelled text, if neither a label nor what stands behind it
    has a line break. -/
theorem Labelled.splitOn [DecidableEq α] {text : List α} (h : Labelled c Q labels text)
    (hne : labels ≠ []) (hlabels : ∀ label ∈ labels, c ∉ label) (hc : ¬ Q c) :
    List.Forall₂ (LineOf Q) (text.splitOn c) labels := by
  rcases h with ⟨lines, rfl, hlines⟩
  have hclear : ∀ line ∈ lines, c ∉ line := by
    clear hne
    induction hlines with
    | nil => exact fun line hline => absurd hline List.not_mem_nil
    | @cons line label lines labels hline hlines ih =>
        rw [List.forall_mem_cons] at hlabels ⊢
        rcases hline with ⟨v, rfl, hv⟩
        refine ⟨?_, ih hlabels.2⟩
        rw [List.mem_append, not_or]
        exact ⟨hlabels.1, fun hmem => hc (hv c hmem)⟩
  have hlines' : lines ≠ [] := by
    rintro rfl
    cases hlines
    exact hne rfl
  rw [List.splitOn_intercalate c hclear hlines']
  exact hlines

end Js

end VellarSdk
