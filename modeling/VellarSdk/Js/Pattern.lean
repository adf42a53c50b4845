import Mathlib.Data.List.Infix

/-!
# Replacing Every Match of a Pattern

`text.replace(pattern, piece)` with the `g` flag reads the text from left to
right. Where the pattern matches, the match is taken out and the reading goes
on behind it; everywhere else one unit is kept. What the reading found is a
list of segments, and every question about the result of a replacement is a
question about that list: the text is the segments put back together, and the
result is the segments with each match exchanged for the piece.

A pattern is given by the length of its match at a position, with zero for no
match. It sees the unit before the position, which is what a word boundary at
the start of a match asks for.

## Main definitions

* `Pattern`: The length of the match at a position.
* `Segment`: A kept unit or a match.
* `segments`: The segments of a text.
* `source`, `render`: The text of a list of segments, before and after the
  replacement.
* `replaceAll`: `text.replace(pattern, piece)` with the `g` flag.
* `literal`: A piece of text as a pattern.
* `hasMatch`: Whether a pattern matches anywhere.
* `Reads`: A reader of a fixed piece of pattern, which takes the same units
  whatever follows them.

## Theorems

* `source_segments`: The segments are the text.
* `segments_append`: The reading goes on from where it stands.
* `find_of_kept`, `find_of_found`: What a segment says of the pattern.
* `hasMatch_iff`: A pattern matches somewhere exactly when a match is found.
* `append_split`: A run of units without a given one lies on one side of it.
* `render_split`: A run of units that stays clear of the piece was in the text.
* `mem_replaceAll_iff`: Which units stay.
* `infix_of_replaceAll`, `not_infix_replaceAll_literal`: What a replacement
  makes, and what it leaves.
* `Reads.bind`: Reading one piece after another.
-/

namespace VellarSdk

namespace Js

variable {α : Type}

/-- The length of a pattern's match at a position, given the unit before it and
    the text from there on. Zero is no match. -/
abbrev Pattern (α : Type) := Option α → List α → Nat

/-- What reading a text for a pattern finds. -/
inductive Segment (α : Type) where
  /-- A unit at which no match starts and that no match covers. -/
  | kept (x : α)
  /-- A match. -/
  | found (m : List α)

/-- The segments of a text, with so many units still to be covered by the last
    match. -/
def segmentsFrom (find : Pattern α) : Option α → Nat → List α → List (Segment α)
  | _, _, [] => []
  | _, k + 1, x :: s => segmentsFrom find (some x) k s
  | prev, 0, x :: s =>
      match find prev (x :: s) with
      | 0 => .kept x :: segmentsFrom find (some x) 0 s
      | n + 1 => .found ((x :: s).take (n + 1)) :: segmentsFrom find (some x) n s

/-- The segments of a text that follows the given unit. -/
def segments (find : Pattern α) (prev : Option α) (s : List α) : List (Segment α) :=
  segmentsFrom find prev 0 s

/-- The text of one segment. -/
def Segment.source : Segment α → List α
  | .kept x => [x]
  | .found m => m

/-- One segment after the replacement. -/
def Segment.render (piece : List α) : Segment α → List α
  | .kept x => [x]
  | .found _ => piece

/-- The text of a list of segments. -/
def source (segs : List (Segment α)) : List α :=
  segs.flatMap Segment.source

/-- A list of segments after the replacement. -/
def render (piece : List α) (segs : List (Segment α)) : List α :=
  segs.flatMap (Segment.render piece)

/-- `text.replace(pattern, piece)` with the `g` flag. -/
def replaceAll (find : Pattern α) (piece s : List α) : List α :=
  render piece (segments find none s)

/-- `pattern.test(text)`. -/
def hasMatch (find : Pattern α) (s : List α) : Bool :=
  (segments find none s).any (fun
    | .kept _ => false
    | .found _ => true)

/-- A piece of text as a pattern, as `split` takes it. -/
def literal [DecidableEq α] (piece : List α) : Pattern α := fun _ s =>
  if piece.isPrefixOf s then piece.length else 0

/-- The unit before what follows a text. -/
def lastOr (prev : Option α) (s : List α) : Option α :=
  s.getLast?.or prev

section Simp

variable (piece : List α) (x : α) (m p : List α) (segs segs' : List (Segment α))

@[simp] theorem source_nil : source ([] : List (Segment α)) = [] := rfl

@[simp] theorem source_kept : source (.kept x :: segs) = x :: source segs := rfl

@[simp] theorem source_found : source (.found m :: segs) = m ++ source segs := rfl

@[simp] theorem source_append : source (segs ++ segs') = source segs ++ source segs' :=
  List.flatMap_append

@[simp] theorem source_map_kept : source (p.map .kept) = p := by
  induction p with
  | nil => rfl
  | cons x p ih => rw [List.map_cons, source_kept, ih]

@[simp] theorem render_nil : render piece [] = [] := rfl

@[simp] theorem render_kept : render piece (.kept x :: segs) = x :: render piece segs := rfl

@[simp] theorem render_found : render piece (.found m :: segs) = piece ++ render piece segs := rfl

@[simp] theorem render_append :
    render piece (segs ++ segs') = render piece segs ++ render piece segs' :=
  List.flatMap_append

@[simp] theorem render_map_kept : render piece (p.map .kept) = p := by
  induction p with
  | nil => rfl
  | cons x p ih => rw [List.map_cons, render_kept, ih]

@[simp] theorem lastOr_nil (prev : Option α) : lastOr prev [] = prev := rfl

@[simp] theorem lastOr_append (prev : Option α) (s t : List α) :
    lastOr prev (s ++ t) = lastOr (lastOr prev s) t := by
  rw [lastOr, lastOr, lastOr, List.getLast?_append, Option.or_assoc]

theorem lastOr_cons (prev : Option α) (x : α) (s : List α) :
    lastOr prev (x :: s) = lastOr (some x) s :=
  lastOr_append prev [x] s

end Simp

section Reading

variable {find : Pattern α} {prev : Option α}

/-- The units a match covers are passed over. -/
theorem segmentsFrom_eq (find : Pattern α) (prev : Option α) (k : Nat) (s : List α) :
    segmentsFrom find prev k s = segments find (lastOr prev (s.take k)) (s.drop k) := by
  induction k generalizing prev s with
  | zero => rw [List.take_zero, List.drop_zero, lastOr_nil, segments]
  | succ k ih =>
      cases s with
      | nil => rfl
      | cons x s => rw [segmentsFrom, ih, List.take_succ_cons, List.drop_succ_cons, lastOr_cons]

theorem segments_kept {x : α} {s : List α} (h : find prev (x :: s) = 0) :
    segments find prev (x :: s) = .kept x :: segments find (some x) s := by
  rw [segments, segmentsFrom, h, segments]

theorem segments_found {x : α} {s : List α} {n : Nat} (h : find prev (x :: s) = n + 1) :
    segments find prev (x :: s) = .found ((x :: s).take (n + 1)) ::
      segments find (lastOr prev ((x :: s).take (n + 1))) ((x :: s).drop (n + 1)) := by
  have hskip := segmentsFrom_eq find (some x) n s
  rw [segments, segmentsFrom, h]
  simp only
  rw [hskip, List.take_succ_cons, List.drop_succ_cons, lastOr_cons]

/-- The segments are the text. -/
theorem source_segments (find : Pattern α) (prev : Option α) (s : List α) :
    source (segments find prev s) = s := by
  induction hn : s.length using Nat.strong_induction_on generalizing prev s with
  | _ n ih =>
      subst hn
      cases s with
      | nil => rfl
      | cons x s =>
          rcases hfind : find prev (x :: s) with _ | n
          · rw [segments_kept hfind, source_kept, ih s.length (Nat.lt_succ_self _) _ s rfl]
          · have hlt : ((x :: s).drop (n + 1)).length < (x :: s).length := by
              rw [List.length_drop, List.length_cons]
              omega
            rw [segments_found hfind, source_found, ih _ hlt _ _ rfl, List.take_append_drop]

/-- The reading goes on from where it stands. -/
theorem segments_append {s : List α} {pre post : List (Segment α)}
    (h : segments find prev s = pre ++ post) :
    post = segments find (lastOr prev (source pre)) (source post) := by
  induction pre generalizing prev s with
  | nil =>
      rw [List.nil_append] at h
      rw [← h, source_segments, source_nil, lastOr_nil]
  | cons seg pre ih =>
      cases s with
      | nil => exact absurd h (by simp [segments, segmentsFrom])
      | cons x s =>
          rcases hfind : find prev (x :: s) with _ | n
          · rw [segments_kept hfind, List.cons_append, List.cons.injEq] at h
            rw [← h.1, source_kept, lastOr_cons]
            exact ih h.2
          · rw [segments_found hfind, List.cons_append, List.cons.injEq] at h
            rw [← h.1, source_found, lastOr_append]
            exact ih h.2

/-- No match starts at a kept unit. -/
theorem find_of_kept {s : List α} {pre post : List (Segment α)} {x : α}
    (h : segments find prev s = pre ++ .kept x :: post) :
    find (lastOr prev (source pre)) (x :: source post) = 0 := by
  have hpost := segments_append h
  rw [source_kept] at hpost
  rcases hfind : find (lastOr prev (source pre)) (x :: source post) with _ | n
  · rfl
  · rw [segments_found hfind] at hpost
    exact absurd hpost (by simp only [List.cons.injEq, reduceCtorEq, false_and, not_false_eq_true])

/-- A match starts where a match was found, and it is not empty. -/
theorem find_of_found {s : List α} {pre post : List (Segment α)} {m : List α}
    (h : segments find prev s = pre ++ .found m :: post) :
    0 < find (lastOr prev (source pre)) (m ++ source post) ∧ m ≠ [] := by
  have hpost := segments_append h
  rw [source_found] at hpost
  rcases hs : m ++ source post with _ | ⟨x, rest⟩
  · rw [hs] at hpost
    exact absurd hpost (by simp [segments, segmentsFrom])
  · rw [hs] at hpost
    rcases hfind : find (lastOr prev (source pre)) (x :: rest) with _ | n
    · rw [segments_kept hfind] at hpost
      exact absurd hpost
        (by simp only [List.cons.injEq, reduceCtorEq, false_and, not_false_eq_true])
    · rw [segments_found hfind, List.cons.injEq, Segment.found.injEq] at hpost
      refine ⟨Nat.succ_pos n, ?_⟩
      rw [hpost.1, List.take_succ_cons]
      exact List.cons_ne_nil _ _

/-- A text in which nothing was found is kept unit by unit. -/
theorem segments_eq_map_kept {s : List α} (h : ∀ m, Segment.found m ∉ segments find prev s) :
    segments find prev s = s.map .kept := by
  have hkept : ∀ segs : List (Segment α), (∀ m, Segment.found m ∉ segs) →
      segs = (source segs).map .kept := by
    intro segs hsegs
    induction segs with
    | nil => rfl
    | cons seg segs ih =>
        have htail := ih (fun m hm => hsegs m (List.mem_cons_of_mem _ hm))
        cases seg with
        | kept x => rw [source_kept, List.map_cons, ← htail]
        | found m => exact absurd List.mem_cons_self (hsegs m)
  have hsegs := hkept _ h
  rw [source_segments] at hsegs
  exact hsegs

theorem hasMatch_eq_true (s : List α) :
    hasMatch find s = true ↔ ∃ m, Segment.found m ∈ segments find none s := by
  rw [hasMatch, List.any_eq_true]
  constructor
  · rintro ⟨seg, hmem, hseg⟩
    cases seg with
    | kept x => exact absurd hseg Bool.false_ne_true
    | found m => exact ⟨m, hmem⟩
  · rintro ⟨m, hmem⟩
    exact ⟨_, hmem, rfl⟩

/-- A match is found exactly when the pattern matches at some position. -/
theorem hasMatch_iff (s : List α) : hasMatch find s = true ↔
    ∃ a x b, s = a ++ x :: b ∧ 0 < find (lastOr none a) (x :: b) := by
  rw [hasMatch_eq_true]
  constructor
  · rintro ⟨m, hmem⟩
    rcases List.append_of_mem hmem with ⟨pre, post, hsegs⟩
    rcases find_of_found hsegs with ⟨hfind, hne⟩
    rcases m with _ | ⟨x, m⟩
    · exact absurd rfl hne
    · refine ⟨source pre, x, m ++ source post, ?_, hfind⟩
      rw [← source_segments find none s, hsegs, source_append, source_found, List.cons_append]
  · rintro ⟨a, x, b, rfl, hfind⟩
    by_contra hnone
    have hall := segments_eq_map_kept (fun m hm => hnone ⟨m, hm⟩)
    rw [List.map_append, List.map_cons] at hall
    have hzero := find_of_kept hall
    rw [source_map_kept, source_map_kept] at hzero
    omega

end Reading

/-- A run of units without a given one lies before it or behind it. -/
theorem append_split {x y a p b : List α} {c : α} (h : x ++ c :: y = a ++ (p ++ b)) (hc : c ∉ p) :
    (∃ b', x = a ++ (p ++ b') ∧ b = b' ++ c :: y) ∨ ∃ a', a = x ++ c :: a' ∧ y = a' ++ (p ++ b) := by
  rcases List.append_eq_append_iff.mp h with ⟨t, ha, hrest⟩ | ⟨t, hx, hrest⟩
  · rcases t with _ | ⟨d, t⟩
    · -- The unit stands where the run would start.
      rcases p with _ | ⟨d, p⟩
      · exact .inl ⟨[], by rw [ha]; simp, by rw [List.nil_append] at hrest; simpa using hrest.symm⟩
      · rw [List.nil_append, List.cons_append, List.cons.injEq] at hrest
        exact absurd (hrest.1 ▸ List.mem_cons_self) hc
    · rw [List.cons_append, List.cons.injEq] at hrest
      exact .inr ⟨t, by rw [ha, hrest.1], hrest.2⟩
  · rcases List.append_eq_append_iff.mp hrest with ⟨t', ht, hb⟩ | ⟨t', hp, hb⟩
    · exact .inl ⟨t', by rw [hx, ht], hb⟩
    · rcases t' with _ | ⟨d, t'⟩
      · rw [List.append_nil] at hp
        exact .inl ⟨[], by rw [hx, hp, List.append_nil], by simpa using hb.symm⟩
      · rw [List.cons_append, List.cons.injEq] at hb
        refine absurd ?_ hc
        rw [hp, hb.1]
        exact List.mem_append_right _ List.mem_cons_self

/-- A run of units none of which is in the back of a text lies in its front. -/
theorem infix_left_of_not_mem {w x y : List α} (h : w <:+: x ++ y) (hy : ∀ u ∈ w, u ∉ y)
    (hw : w ≠ []) : w <:+: x := by
  rcases h with ⟨a, b, h⟩
  rw [List.append_assoc] at h
  rcases List.append_eq_append_iff.mp h with ⟨t, hx, hrest⟩ | ⟨t, -, hrest⟩
  · rcases List.append_eq_append_iff.mp hrest with ⟨t', ht, -⟩ | ⟨t', hwt, hy'⟩
    · exact ⟨a, t', by rw [hx, ht, List.append_assoc]⟩
    · rcases t' with _ | ⟨u, t'⟩
      · exact ⟨a, [], by rw [hx, hwt]; simp⟩
      · refine absurd ?_ (hy u ?_)
        · rw [hy']
          exact List.mem_cons_self
        · rw [hwt]
          exact List.mem_append_right _ List.mem_cons_self
  · rcases w with _ | ⟨u, w⟩
    · exact absurd rfl hw
    · refine absurd ?_ (hy u List.mem_cons_self)
      rw [hrest]
      exact List.mem_append_right _ List.mem_cons_self

/-- A run of units whose first is not before a text and whose last is not
    behind it lies in the text. -/
theorem infix_middle {x s z a b w w₁ w₂ : List α} {c d : α} (h : a ++ w ++ b = x ++ s ++ z)
    (hfirst : w = c :: w₁) (hlast : w = w₂ ++ [d]) (hx : c ∉ x) (hz : d ∉ z) : w <:+: s := by
  -- The word cannot begin in front, where its first unit is not.
  have hfront : ∃ a', a = x ++ a' := by
    rw [List.append_assoc, List.append_assoc] at h
    rcases List.append_eq_append_iff.mp h with ⟨t, hxt, hrest⟩ | ⟨t, hat, -⟩
    · rcases t with _ | ⟨u, t⟩
      · exact ⟨[], by rw [hxt]; simp⟩
      · rw [hfirst, List.cons_append, List.cons_append, List.cons.injEq] at hrest
        refine absurd ?_ hx
        rw [hxt, hrest.1]
        exact List.mem_append_right _ List.mem_cons_self
    · exact ⟨t, hat⟩
  rcases hfront with ⟨a', rfl⟩
  have hrest : a' ++ w ++ b = s ++ z := by
    rw [List.append_assoc, List.append_assoc, List.append_assoc] at h
    rw [List.append_assoc]
    exact List.append_cancel_left h
  -- Nor can it end behind, where its last is not.
  rcases List.append_eq_append_iff.mp hrest with ⟨t, hs, -⟩ | ⟨t, haw, hzt⟩
  · exact ⟨a', t, hs.symm⟩
  · rcases List.eq_nil_or_concat t with rfl | ⟨t₀, u, rfl⟩
    · exact ⟨a', [], by rw [haw]; simp⟩
    · rw [List.concat_eq_append, hlast, ← List.append_assoc, ← List.append_assoc] at haw
      have hu := List.append_inj_right' haw rfl
      rw [List.cons.injEq] at hu
      refine absurd ?_ hz
      rw [hzt, hu.1, List.concat_eq_append, List.append_assoc]
      exact List.mem_append_right _ List.mem_cons_self

section Rendering

variable {piece : List α}

/-- A unit that is not of the piece was kept. -/
theorem render_split_unit {segs : List (Segment α)} {a b : List α} {x : α}
    (h : render piece segs = a ++ x :: b) (hx : x ∉ piece) :
    ∃ pre post, segs = pre ++ .kept x :: post ∧ render piece pre = a ∧ render piece post = b := by
  induction segs generalizing a with
  | nil => exact absurd h.symm (by simp)
  | cons seg segs ih =>
      cases seg with
      | kept y =>
          rw [render_kept] at h
          rcases a with _ | ⟨z, a⟩
          · rw [List.nil_append, List.cons.injEq] at h
            exact ⟨[], segs, by rw [h.1]; rfl, rfl, h.2⟩
          · rw [List.cons_append, List.cons.injEq] at h
            rcases ih h.2 with ⟨pre, post, hsegs, hpre, hpost⟩
            exact ⟨.kept y :: pre, post, by rw [hsegs]; rfl, by rw [render_kept, hpre, h.1], hpost⟩
      | found m =>
          -- A unit that is not of the marker stands in front of it or behind.
          rw [render_found] at h
          rcases List.append_eq_append_iff.mp h with ⟨a', ha, hrest⟩ | ⟨c, hpiece, hrest⟩
          · rcases ih hrest with ⟨pre, post, hsegs, hpre, hpost⟩
            exact ⟨.found m :: pre, post, by rw [hsegs]; rfl, by rw [render_found, hpre, ha], hpost⟩
          · rcases c with _ | ⟨y, c⟩
            · rw [List.nil_append] at hrest
              rw [List.append_nil] at hpiece
              rcases ih (a := []) hrest.symm with ⟨pre, post, hsegs, hpre, hpost⟩
              refine ⟨.found m :: pre, post, by rw [hsegs]; rfl, ?_, hpost⟩
              rw [render_found, hpre, hpiece, List.append_nil]
            · rw [List.cons_append, List.cons.injEq] at hrest
              refine absurd ?_ hx
              rw [hpiece, hrest.1]
              exact List.mem_append_right _ List.mem_cons_self

/-- A run at the front that does not have the first unit of the piece was kept. -/
theorem render_split_front {segs : List (Segment α)} {p b : List α} {y : α} {piece' : List α}
    (hpiece : piece = y :: piece') (h : render piece segs = p ++ b) (hy : y ∉ p) :
    ∃ post, segs = p.map .kept ++ post ∧ render piece post = b := by
  induction p generalizing segs with
  | nil => exact ⟨segs, rfl, h⟩
  | cons x p ih =>
      rw [List.mem_cons, not_or] at hy
      cases segs with
      | nil => exact absurd h (by simp)
      | cons seg segs =>
          cases seg with
          | kept z =>
              rw [render_kept, List.cons_append, List.cons.injEq] at h
              rcases ih h.2 hy.2 with ⟨post, hsegs, hpost⟩
              exact ⟨post, by rw [hsegs, h.1]; rfl, hpost⟩
          | found m =>
              rw [render_found, hpiece, List.cons_append, List.cons_append, List.cons.injEq] at h
              exact absurd h.1 hy.1

/-- The unit at an edge of a piece, once it is known not to be in a word. -/
theorem not_mem_of_edge {edge : Option α} {u : α} {w : List α} (hedge : edge = some u)
    (hu : u ∉ w) : ∀ x ∈ edge, x ∉ w := by
  intro x hx
  rw [hedge, Option.mem_some_iff] at hx
  exact hx ▸ hu

/-- A run of units that is not in the piece and has neither its first unit nor
    its last was kept: it can neither run into a piece nor out of one. -/
theorem render_split {segs : List (Segment α)} {a p b : List α}
    (h : render piece segs = a ++ (p ++ b)) (hp : p ≠ []) (hfirst : ∀ x ∈ piece.head?, x ∉ p)
    (hlast : ∀ x ∈ piece.getLast?, x ∉ p) (hinside : ¬ p <:+: piece) (hpiece : piece ≠ []) :
    ∃ pre post, segs = pre ++ (p.map .kept ++ post) ∧ render piece pre = a ∧
      render piece post = b := by
  rcases hcons : piece with _ | ⟨y, piece'⟩
  · exact absurd hcons hpiece
  have hy : y ∉ p := hfirst y (by rw [hcons]; rfl)
  induction segs generalizing a with
  | nil => exact absurd h.symm (by simp [hp])
  | cons seg segs ih =>
      cases seg with
      | kept x =>
          rcases a with _ | ⟨z, a⟩
          · rw [List.nil_append] at h
            rcases render_split_front hcons h hy with ⟨post, hsegs, hpost⟩
            exact ⟨[], post, hsegs, rfl, hcons ▸ hpost⟩
          · rw [render_kept, List.cons_append, List.cons.injEq] at h
            rcases ih h.2 with ⟨pre, post, hsegs, hpre, hpost⟩
            exact ⟨.kept x :: pre, post, by rw [hsegs]; rfl, by rw [render_kept, hpre, h.1], hpost⟩
      | found m =>
          rw [render_found] at h
          rcases List.append_eq_append_iff.mp h with ⟨a', ha, hrest⟩ | ⟨c, hc, hrest⟩
          · rcases ih hrest with ⟨pre, post, hsegs, hpre, hpost⟩
            refine ⟨.found m :: pre, post, by rw [hsegs]; rfl, ?_, hpost⟩
            rw [render_found, hpre, ha, hcons]
          -- The run starts inside the piece, so it ends there or covers its end.
          · rcases List.append_eq_append_iff.mp hrest with ⟨c', hc', -⟩ | ⟨p', hp', -⟩
            · refine absurd ⟨a, c', ?_⟩ hinside
              rw [hc, hc', List.append_assoc]
            · rcases List.eq_nil_or_concat c with rfl | ⟨c₀, z, rfl⟩
              · rw [List.nil_append] at hrest
                rw [List.append_nil] at hc
                rcases ih (a := []) (by rw [List.nil_append, hrest]) with
                  ⟨pre, post, hsegs, hpre, hpost⟩
                refine ⟨.found m :: pre, post, by rw [hsegs]; rfl, ?_, hpost⟩
                rw [render_found, hpre, ← hcons, hc, List.append_nil]
              · rw [List.concat_eq_append] at hc hp'
                refine absurd ?_ (hlast z ?_)
                · rw [hp']
                  exact List.mem_append_left _ (List.mem_append_right _ List.mem_cons_self)
                · rw [hc, ← List.append_assoc, List.getLast?_concat]
                  rfl

/-- A unit of the result is of the piece or of the text. -/
theorem mem_render {segs : List (Segment α)} {u : α} (hu : u ∈ render piece segs) :
    u ∈ piece ∨ u ∈ source segs := by
  by_cases hpiece : u ∈ piece
  · exact .inl hpiece
  · rcases List.append_of_mem hu with ⟨a, b, hout⟩
    rcases render_split_unit hout hpiece with ⟨pre, post, rfl, -, -⟩
    rw [source_append, source_kept]
    exact .inr (List.mem_append_right _ List.mem_cons_self)

/-- A unit that is in no match and not in the piece is in the result when it is in
    the text. -/
theorem mem_replaceAll_iff {find : Pattern α} {s : List α} {u : α}
    (hfind : ∀ prev (t : List α), u ∉ t.take (find prev t)) (hpiece : u ∉ piece) :
    u ∈ replaceAll find piece s ↔ u ∈ s := by
  suffices hread : ∀ n prev s, s.length = n →
      (u ∈ render piece (segments find prev s) ↔ u ∈ s) from hread s.length none s rfl
  intro n
  induction n using Nat.strong_induction_on with
  | _ n ih =>
      rintro prev s rfl
      cases s with
      | nil => exact Iff.rfl
      | cons x s =>
          rcases hlength : find prev (x :: s) with _ | n
          · rw [segments_kept hlength, render_kept, List.mem_cons, List.mem_cons,
              ih s.length (Nat.lt_succ_self _) _ s rfl]
          · have hlt : ((x :: s).drop (n + 1)).length < (x :: s).length := by
              rw [List.length_drop, List.length_cons]
              omega
            have hmatch := hfind prev (x :: s)
            rw [hlength] at hmatch
            rw [segments_found hlength, render_found, List.mem_append, or_iff_right hpiece,
              ih _ hlt _ _ rfl]
            conv_rhs => rw [← List.take_append_drop (n + 1) (x :: s)]
            rw [List.mem_append, or_iff_right hmatch]

section Clear

variable {w : List α} (hw : w ≠ []) (hfirst : ∀ x ∈ piece.head?, x ∉ w)
  (hlast : ∀ x ∈ piece.getLast?, x ∉ w) (hinside : ¬ w <:+: piece) (hpiece : piece ≠ [])
include hw hfirst hlast hinside hpiece

/-- A replacement makes no word that stays clear of the piece. -/
theorem infix_of_replaceAll {find : Pattern α} {s : List α} (h : w <:+: replaceAll find piece s) :
    w <:+: s := by
  rcases h with ⟨a, b, h⟩
  rw [List.append_assoc] at h
  rcases render_split h.symm hw hfirst hlast hinside hpiece with ⟨pre, post, hsegs, -, -⟩
  refine ⟨source pre, source post, ?_⟩
  rw [← source_segments find none s, hsegs, source_append, source_append, source_map_kept,
    List.append_assoc]

/-- Replacing a word by a piece that it stays clear of leaves none of it. -/
theorem not_infix_replaceAll_literal [DecidableEq α] (s : List α) :
    ¬ w <:+: replaceAll (literal w) piece s := by
  rintro ⟨a, b, h⟩
  rw [List.append_assoc] at h
  rcases render_split h.symm hw hfirst hlast hinside hpiece with ⟨pre, post, hsegs, -, -⟩
  rcases w with _ | ⟨x, w⟩
  · exact absurd rfl hw
  · -- The word is matched where it stands, so its first unit was not kept.
    rw [List.map_cons, List.cons_append] at hsegs
    have hzero := find_of_kept hsegs
    rw [source_append, source_map_kept, literal, ← List.cons_append, if_pos (by simp)] at hzero
    exact absurd hzero (Nat.succ_ne_zero _)

end Clear

end Rendering

/-- A reader of a piece of pattern, which gives what follows it. The piece has
    at least so many units, all of a class, and is read the same whatever
    follows. -/
def Reads (read : List α → Option (List α)) (n : Nat) (C : α → Prop) : Prop :=
  ∀ s rest, read s = some rest →
    ∃ p, s = p ++ rest ∧ n ≤ p.length ∧ (∀ x ∈ p, C x) ∧ ∀ rest', read (p ++ rest') = some rest'

/-- Reading one piece after another. -/
theorem Reads.bind {read next : List α → Option (List α)} {n m : Nat} {C : α → Prop}
    (h : Reads read n C) (hnext : Reads next m C) :
    Reads (fun s => (read s).bind next) (n + m) C := by
  intro s rest hs
  rcases Option.bind_eq_some_iff.mp hs with ⟨t, ht, hrest⟩
  rcases h s t ht with ⟨p, rfl, hp, hpC, hpread⟩
  rcases hnext t rest hrest with ⟨q, rfl, hq, hqC, hqread⟩
  refine ⟨p ++ q, (List.append_assoc p q rest).symm, ?_, ?_, ?_⟩
  · rw [List.length_append]
    omega
  · intro x hx
    rcases List.mem_append.mp hx with hx | hx
    · exact hpC x hx
    · exact hqC x hx
  · intro rest'
    simp only [List.append_assoc, hpread, Option.bind_some, hqread]

end Js

end VellarSdk
