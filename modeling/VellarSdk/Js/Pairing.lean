import VellarSdk.Js.Pattern

/-!
# Paired Units

Some units only make sense in pairs: a high one directly before a low one. A
text is paired if none of them stands alone. UTF-16 with its surrogates is the
case in point.

A front of a paired text is paired unless it ends between the two halves of a
pair, and then it is so without its last unit. A replacement leaves a paired
text paired if the pattern takes pairs as a whole and the piece is paired.

## Main definitions

* `isPaired`: No half of a pair stands alone.
* `KeepsPairs`: A pattern whose matches hold no half of a pair.

## Theorems

* `isPaired_append`: What stands behind a paired text.
* `isPaired_front`, `isPaired_before`: The front of a paired text.
* `isPaired_replaceAll`: A replacement leaves a paired text paired.
-/

namespace VellarSdk

namespace Js

variable {α : Type} {high low : α → Bool}

/-- Every high unit stands directly before a low one, and every low one directly
    behind a high one. -/
def isPaired (high low : α → Bool) : List α → Bool
  | [] => true
  | [u] => !high u && !low u
  | u :: v :: s =>
      if high u then low v && isPaired high low s else !low u && isPaired high low (v :: s)

/-- The matches of a pattern hold no half of a pair. -/
structure KeepsPairs (high low : α → Bool) (find : Pattern α) : Prop where
  start : ∀ prev u s, low u = true → find prev (u :: s) = 0
  front : ∀ prev s, isPaired high low s = true →
    isPaired high low (s.take (find prev s)) = true

theorem isPaired_cons {u : α} (h : high u = false) (s : List α) :
    isPaired high low (u :: s) = (!low u && isPaired high low s) := by
  rcases s with _ | ⟨v, s⟩
  · rw [isPaired, isPaired, h, Bool.and_true]
    rfl
  · rw [isPaired, h, if_neg Bool.false_ne_true]

theorem isPaired_pair {u : α} (h : high u = true) (v : α) (s : List α) :
    isPaired high low (u :: v :: s) = (low v && isPaired high low s) := by
  rw [isPaired, if_pos h]

/-- A text without any such unit is paired. -/
theorem isPaired_of_none {s : List α} (h : ∀ u ∈ s, high u = false ∧ low u = false) :
    isPaired high low s = true := by
  induction s with
  | nil => rfl
  | cons u s ih =>
      have hu := h u List.mem_cons_self
      rw [isPaired_cons hu.1, hu.2, ih (fun v hv => h v (List.mem_cons_of_mem _ hv))]
      rfl

/-- Pairing only depends on which units are high and which are low. -/
theorem isPaired_map {f : α → α} (hhigh : ∀ u, high (f u) = high u) (hlow : ∀ u, low (f u) = low u)
    (s : List α) : isPaired high low (s.map f) = isPaired high low s := by
  induction s using isPaired.induct high with
  | case1 => rfl
  | case2 u => rw [List.map_cons, List.map_nil, isPaired, isPaired, hhigh, hlow]
  | case3 u v s hu ih =>
      rw [List.map_cons, List.map_cons, isPaired_pair (by rw [hhigh, hu]), isPaired_pair hu, hlow,
        ih]
  | case4 u v s hu ih =>
      rw [Bool.not_eq_true] at hu
      rw [List.map_cons, isPaired_cons (by rw [hhigh, hu]), isPaired_cons hu, hlow, ih]

/-- What stands behind a paired text is paired exactly when the whole is. -/
theorem isPaired_append {a : List α} (h : isPaired high low a = true) (b : List α) :
    isPaired high low (a ++ b) = isPaired high low b := by
  induction a using isPaired.induct high with
  | case1 => rfl
  | case2 u =>
      rw [isPaired, Bool.and_eq_true, Bool.not_eq_true', Bool.not_eq_true'] at h
      rw [List.singleton_append, isPaired_cons h.1, h.2]
      rfl
  | case3 u v s hu ih =>
      rw [isPaired_pair hu, Bool.and_eq_true] at h
      rw [List.cons_append, List.cons_append, isPaired_pair hu, h.1, ih h.2]
      rfl
  | case4 u v s hu ih =>
      rw [Bool.not_eq_true] at hu
      rw [isPaired_cons hu, Bool.and_eq_true] at h
      rw [List.cons_append, isPaired_cons hu, h.1, ih h.2]
      rfl

/-- A front of a paired text is paired, or ends between the halves of a pair. -/
theorem isPaired_front {a b : List α} (h : isPaired high low (a ++ b) = true) :
    isPaired high low a = true ∨
      ∃ a' u, a = a' ++ [u] ∧ high u = true ∧ isPaired high low a' = true := by
  -- A front of a paired list is paired, but for a high half at its end.
  induction a using isPaired.induct high with
  | case1 => exact .inl rfl
  | case2 u =>
      by_cases hu : high u = true
      · exact .inr ⟨[], u, rfl, hu, rfl⟩
      · rw [Bool.not_eq_true] at hu
        rw [List.singleton_append, isPaired_cons hu, Bool.and_eq_true] at h
        rw [isPaired, hu, h.1]
        exact .inl rfl
  | case3 u v s hu ih =>
      rw [List.cons_append, List.cons_append, isPaired_pair hu, Bool.and_eq_true] at h
      rcases ih h.2 with hs | ⟨s', w, rfl, hw, hs'⟩
      · rw [isPaired_pair hu, h.1, hs]
        exact .inl rfl
      · refine .inr ⟨u :: v :: s', w, rfl, hw, ?_⟩
        rw [isPaired_pair hu, h.1, hs']
        rfl
  | case4 u v s hu ih =>
      rw [Bool.not_eq_true] at hu
      rw [List.cons_append, isPaired_cons hu, Bool.and_eq_true] at h
      rcases ih h.2 with hs | ⟨s', w, hsplit, hw, hs'⟩
      · rw [isPaired_cons hu, h.1, hs]
        exact .inl rfl
      · refine .inr ⟨u :: s', w, by rw [hsplit, List.cons_append], hw, ?_⟩
        rw [isPaired_cons hu, h.1, hs']
        rfl

/-- A text in front of a unit that is no low half is paired. -/
theorem isPaired_before {a b : List α} {c : α} (hc : low c = false)
    (h : isPaired high low (a ++ c :: b) = true) : isPaired high low a = true := by
  rcases isPaired_front h with ha | ⟨a', u, rfl, hu, ha'⟩
  · exact ha
  · rw [List.append_assoc, isPaired_append ha', List.singleton_append, isPaired_pair hu, hc] at h
    exact absurd h Bool.false_ne_true

/-- A replacement by a paired piece leaves a paired text paired. -/
theorem isPaired_replaceAll {find : Pattern α} {piece s : List α}
    (hfind : KeepsPairs high low find) (hpiece : isPaired high low piece = true)
    (hs : isPaired high low s = true) : isPaired high low (replaceAll find piece s) = true := by
  have hrun : ∀ prev, isPaired high low (render piece (segments find prev s)) = true := by
    induction hn : s.length using Nat.strong_induction_on generalizing s with
    | _ n ih =>
        subst hn
        intro prev
        rcases s with _ | ⟨u, s⟩
        · rfl
        rcases hzero : find prev (u :: s) with _ | k
        · rw [segments_kept hzero, render_kept]
          by_cases hu : high u = true
          · -- The other half is next, and no match starts at it.
            rcases s with _ | ⟨v, s⟩
            · rw [isPaired, hu] at hs
              exact absurd hs Bool.false_ne_true
            · rw [isPaired_pair hu, Bool.and_eq_true] at hs
              have hlt : s.length < (u :: v :: s).length := by
                simp only [List.length_cons]
                omega
              rw [segments_kept (hfind.start (some u) v s hs.1), render_kept, isPaired_pair hu, hs.1,
                ih _ hlt hs.2 rfl]
              rfl
          · rw [Bool.not_eq_true] at hu
            rw [isPaired_cons hu, Bool.and_eq_true] at hs
            rw [isPaired_cons hu, hs.1, ih _ (Nat.lt_succ_self _) hs.2 rfl]
            rfl
        · have hfront := hfind.front prev (u :: s) hs
          rw [hzero] at hfront
          have hback := isPaired_append hfront ((u :: s).drop (k + 1))
          rw [List.take_append_drop, hs] at hback
          have hlt : ((u :: s).drop (k + 1)).length < (u :: s).length := by
            rw [List.length_drop, List.length_cons]
            omega
          rw [segments_found hzero, render_found, isPaired_append hpiece,
            ih _ hlt hback.symm rfl]
  exact hrun none

end Js

end VellarSdk
