import Mathlib.Data.List.MinMax
import VellarSdk.Js.Array

/-!
# The First of the Least

`l.reduce((lo, a) => price(a) < price(lo) ? a : lo)`, with a price that may throw.
The comparison is strict, so of several elements with the least price the first
one in the list is kept. Both prices are asked for at every turn, so with more
than one element a price that throws makes the whole reduction throw, wherever
it stands in the list; an only element is returned unasked.

## Main definitions

* `FirstLeast`: The first of the elements with the least price.
* `leastE`: The reduction.
* `firstUnpriced`: The first element whose price it cannot read.

## Theorems

* `firstLeast_iff`: It is `List.argmin`.
* `FirstLeast.unique`, `exists_firstLeast`: There is exactly one.
* `leastE_eq_ok`: The reduction returns it, where every price can be read.
* `leastE_priced`: And only there, if its own price can be.
* `leastE_le`, `leastE_eq_first`: Nothing is cheaper than what it returns.
* `leastE_error`: What it throws a price has thrown.
* `leastE_error_iff`: Which price that is.
* `leastE_map`: It goes through a function.
-/

namespace VellarSdk

namespace Js

variable {α β ε : Type} [LinearOrder β]

/-- The element is the first of those with the least price. -/
def FirstLeast (f : α → β) (l : List α) (x : α) : Prop :=
  ∃ before after, l = before ++ x :: after ∧ (∀ a ∈ before, f x < f a) ∧ ∀ a ∈ after, f x ≤ f a

/-- The fold of `reduce`: keep the cheaper element, the earlier one on a tie. -/
def leastE (price : α → Except ε β) (lo : α) : List α → Except ε α
  | [] => .ok lo
  | a :: rest => do
      let pa ← price a
      let pb ← price lo
      leastE price (if pa < pb then a else lo) rest

section

variable {f : α → β} {l : List α} {x y lo : α} {rest : List α} {price : α → Except ε β}

theorem FirstLeast.mem (h : FirstLeast f l x) : x ∈ l := by
  obtain ⟨before, after, rfl, -, -⟩ := h
  exact List.mem_append_right before List.mem_cons_self

theorem FirstLeast.le (h : FirstLeast f l x) : ∀ a ∈ l, f x ≤ f a := by
  obtain ⟨before, after, rfl, hbefore, hafter⟩ := h
  intro a ha
  rcases List.mem_append.mp ha with ha | ha
  · exact (hbefore a ha).le
  · rcases List.mem_cons.mp ha with rfl | ha
    · exact le_refl _
    · exact hafter a ha

/-- An element is put in front: it takes the place unless another is cheaper. -/
theorem firstLeast_cons {a : α} : FirstLeast f (a :: l) x ↔
    (FirstLeast f l x ∧ f x < f a) ∨ (x = a ∧ ∀ b ∈ l, f a ≤ f b) := by
  constructor
  · rintro ⟨before, after, hsplit, hbefore, hafter⟩
    cases before with
    | nil =>
        rw [List.nil_append, List.cons.injEq] at hsplit
        obtain ⟨rfl, rfl⟩ := hsplit
        exact .inr ⟨rfl, hafter⟩
    | cons b before =>
        rw [List.cons_append, List.cons.injEq] at hsplit
        obtain ⟨rfl, rfl⟩ := hsplit
        rw [List.forall_mem_cons] at hbefore
        exact .inl ⟨⟨before, after, rfl, hbefore.2, hafter⟩, hbefore.1⟩
  · rintro (⟨⟨before, after, rfl, hbefore, hafter⟩, hlt⟩ | ⟨rfl, hle⟩)
    · exact ⟨a :: before, after, rfl, List.forall_mem_cons.mpr ⟨hlt, hbefore⟩, hafter⟩
    · exact ⟨[], l, rfl, fun b hb => absurd hb List.not_mem_nil, hle⟩

/-- The first of the least is the minimising element. -/
theorem firstLeast_iff : FirstLeast f l x ↔ l.argmin f = some x := by
  induction l generalizing x with
  | nil =>
      rw [List.argmin_nil]
      refine iff_of_false ?_ (by simp only [reduceCtorEq, not_false_eq_true])
      exact fun h => absurd h.mem List.not_mem_nil
  | cons a l ih =>
      rw [firstLeast_cons, List.argmin_cons, ih]
      cases hleast : l.argmin f with
      | none =>
          rw [List.argmin_eq_none] at hleast
          subst hleast
          simp only [reduceCtorEq, false_and, List.not_mem_nil, false_implies, implies_true,
            and_true, false_or, Option.some.injEq, eq_comm]
      | some c =>
          have hc : FirstLeast f l c := ih.mpr hleast
          dsimp only
          -- `argmin` keeps the front one unless the other is really less, so the first stays.
          by_cases hlt : f c < f a
          · rw [if_pos hlt, Option.some.injEq]
            constructor
            · rintro (⟨rfl, -⟩ | ⟨rfl, hle⟩)
              · rfl
              · exact absurd hlt (not_lt.mpr (hle c hc.mem))
            · rintro rfl
              exact .inl ⟨rfl, hlt⟩
          · rw [if_neg hlt, Option.some.injEq, Option.some.injEq]
            constructor
            · rintro (⟨rfl, hlt'⟩ | ⟨rfl, -⟩)
              · exact absurd hlt' hlt
              · rfl
            · rintro rfl
              exact .inr ⟨rfl, fun b hb => (not_lt.mp hlt).trans (hc.le b hb)⟩

/-- It goes through a function. -/
theorem firstLeast_map {γ : Type} {g : γ → α} {l : List γ} :
    FirstLeast f (l.map g) x ↔ ∃ y, g y = x ∧ FirstLeast (fun c => f (g c)) l y := by
  constructor
  · rintro ⟨before, after, hsplit, hbefore, hafter⟩
    obtain ⟨l₁, l₂, rfl, rfl, hrest⟩ := List.map_eq_append_iff.mp hsplit
    obtain ⟨y, l₃, rfl, rfl, rfl⟩ := List.map_eq_cons_iff.mp hrest
    exact ⟨y, rfl, l₁, l₃, rfl, fun a ha => hbefore _ (List.mem_map_of_mem ha),
      fun a ha => hafter _ (List.mem_map_of_mem ha)⟩
  · rintro ⟨y, rfl, before, after, rfl, hbefore, hafter⟩
    exact ⟨before.map g, after.map g, by rw [List.map_append, List.map_cons],
      List.forall_mem_map.mpr hbefore, List.forall_mem_map.mpr hafter⟩

/-- Only the prices in the list matter. -/
theorem FirstLeast.congr {f' : α → β} (h : FirstLeast f l x) (hsame : ∀ a ∈ l, f a = f' a) :
    FirstLeast f' l x := by
  have hx := hsame x h.mem
  obtain ⟨before, after, rfl, hbefore, hafter⟩ := h
  refine ⟨before, after, rfl, fun a ha => ?_, fun a ha => ?_⟩
  · rw [← hx, ← hsame a (List.mem_append_left _ ha)]
    exact hbefore a ha
  · rw [← hx, ← hsame a (List.mem_append_right _ (List.mem_cons_of_mem _ ha))]
    exact hafter a ha

/-- It is the first of the least among those that have what it has. -/
theorem FirstLeast.filter {p : α → Bool} (h : FirstLeast f l x) (hx : p x = true) :
    FirstLeast f (l.filter p) x := by
  obtain ⟨before, after, rfl, hbefore, hafter⟩ := h
  refine ⟨before.filter p, after.filter p, ?_, fun a ha => ?_, fun a ha => ?_⟩
  · rw [List.filter_append, List.filter_cons_of_pos hx]
  · exact hbefore a (List.mem_filter.mp ha).1
  · exact hafter a (List.mem_filter.mp ha).1

theorem FirstLeast.unique (hx : FirstLeast f l x) (hy : FirstLeast f l y) : x = y := by
  rw [firstLeast_iff] at hx hy
  rw [hx, Option.some.injEq] at hy
  exact hy

theorem exists_firstLeast (h : l ≠ []) : ∃ x, FirstLeast f l x := by
  cases hleast : l.argmin f with
  | none => exact absurd (List.argmin_eq_none.mp hleast) h
  | some x => exact ⟨x, firstLeast_iff.mpr hleast⟩

/-- Of two neighbours the cheaper is kept, and the rest is none the wiser. -/
theorem firstLeast_cons_cons {a : α} :
    FirstLeast f (lo :: a :: rest) x ↔ FirstLeast f ((if f a < f lo then a else lo) :: rest) x := by
  rw [firstLeast_cons, firstLeast_cons, firstLeast_cons]
  by_cases hlt : f a < f lo
  · rw [if_pos hlt]
    constructor
    · rintro (⟨h, -⟩ | ⟨rfl, hle⟩)
      · exact h
      · exact absurd hlt (not_lt.mpr (hle a List.mem_cons_self))
    · rintro (⟨hrest, hxa⟩ | ⟨rfl, hle⟩)
      · exact .inl ⟨.inl ⟨hrest, hxa⟩, hxa.trans hlt⟩
      · exact .inl ⟨.inr ⟨rfl, hle⟩, hlt⟩
  · rw [if_neg hlt]
    constructor
    · rintro (⟨⟨hrest, -⟩ | ⟨rfl, -⟩, hxlo⟩ | ⟨rfl, hle⟩)
      · exact .inl ⟨hrest, hxlo⟩
      · exact absurd hxlo hlt
      · exact .inr ⟨rfl, fun b hb => hle b (List.mem_cons_of_mem a hb)⟩
    · rintro (⟨hrest, hxlo⟩ | ⟨rfl, hle⟩)
      · exact .inl ⟨.inl ⟨hrest, hxlo.trans_le (not_lt.mp hlt)⟩, hxlo⟩
      · exact .inr ⟨rfl, List.forall_mem_cons.mpr ⟨not_lt.mp hlt, hle⟩⟩

/-- Where every price can be read, the reduction returns the first of the
    least. -/
theorem leastE_eq_ok (h : ∀ a ∈ lo :: rest, price a = .ok (f a)) :
    leastE price lo rest = .ok x ↔ FirstLeast f (lo :: rest) x := by
  induction rest generalizing lo with
  | nil =>
      rw [leastE, Except.ok.injEq, firstLeast_cons]
      constructor
      · rintro rfl
        exact .inr ⟨rfl, fun b hb => absurd hb List.not_mem_nil⟩
      · rintro (⟨h, -⟩ | ⟨rfl, -⟩)
        · exact absurd h.mem List.not_mem_nil
        · rfl
  | cons a rest ih =>
      rw [List.forall_mem_cons, List.forall_mem_cons] at h
      obtain ⟨hlo, ha, hrest⟩ := h
      rw [firstLeast_cons_cons, leastE, ha, hlo, ← ih]
      · rfl
      · rw [List.forall_mem_cons]
        refine ⟨?_, hrest⟩
        split
        · exact ha
        · exact hlo

/-- The reduction goes through a function that the price goes through. -/
theorem leastE_map {γ : Type} (price : α → Except ε β) (g : γ → α) {lo : γ} {rest : List γ} :
    (leastE (fun c => price (g c)) lo rest).map g = leastE price (g lo) (rest.map g) := by
  induction rest generalizing lo with
  | nil => rfl
  | cons a rest ih =>
      rw [List.map_cons, leastE, leastE]
      cases ha : price (g a) with
      | error e => rfl
      | ok pa =>
          cases hlo : price (g lo) with
          | error e => rfl
          | ok plo =>
              simp only [bind, Except.bind, ih]
              rw [apply_ite g]

/-- It returns one of its elements. -/
theorem leastE_mem (h : leastE price lo rest = .ok x) : x ∈ lo :: rest := by
  induction rest generalizing lo with
  | nil => exact List.mem_singleton.mpr (Except.ok.inj h).symm
  | cons a rest ih =>
      obtain ⟨pa, -, h⟩ := bind_eq_ok.mp h
      obtain ⟨plo, -, h⟩ := bind_eq_ok.mp h
      rcases List.mem_cons.mp (ih h) with rfl | hx
      · split
        · exact List.mem_cons_of_mem lo List.mem_cons_self
        · exact List.mem_cons_self
      · exact List.mem_cons_of_mem lo (List.mem_cons_of_mem a hx)

/-- If the price of what it returns can be read, every price can be. -/
theorem leastE_priced (h : leastE price lo rest = .ok x) {p : β} (hx : price x = .ok p) :
    ∀ a ∈ lo :: rest, ∃ q, price a = .ok q := by
  induction rest generalizing lo with
  | nil =>
      rw [leastE, Except.ok.injEq] at h
      subst h
      exact List.forall_mem_cons.mpr ⟨⟨p, hx⟩, fun b hb => absurd hb List.not_mem_nil⟩
  | cons a rest ih =>
      obtain ⟨pa, ha, h⟩ := bind_eq_ok.mp h
      obtain ⟨plo, hlo, h⟩ := bind_eq_ok.mp h
      have hrest := (List.forall_mem_cons.mp (ih h)).2
      exact List.forall_mem_cons.mpr ⟨⟨plo, hlo⟩, List.forall_mem_cons.mpr ⟨⟨pa, ha⟩, hrest⟩⟩

/-- Nothing is cheaper than what it returns. -/
theorem leastE_le (h : leastE price lo rest = .ok x) {p : β} (hx : price x = .ok p) :
    ∀ a ∈ lo :: rest, ∃ q, price a = .ok q ∧ p ≤ q := by
  have hpriced := leastE_priced h hx
  have hread : ∀ a ∈ lo :: rest, price a = .ok ((price a).toOption.getD p) := by
    intro a ha
    obtain ⟨q, hq⟩ := hpriced a ha
    rw [hq]
    rfl
  intro a ha
  obtain ⟨q, hq⟩ := hpriced a ha
  have hle := ((leastE_eq_ok hread).mp h).le a ha
  rw [hx, hq] at hle
  exact ⟨q, hq, hle⟩

/-- It returns the first element while nothing is cheaper. -/
theorem leastE_eq_first {p : β} (hlo : price lo = .ok p)
    (hrest : ∀ a ∈ rest, ∃ q, price a = .ok q ∧ p ≤ q) : leastE price lo rest = .ok lo := by
  induction rest with
  | nil => rfl
  | cons a rest ih =>
      rw [List.forall_mem_cons] at hrest
      obtain ⟨⟨q, ha, hle⟩, hrest⟩ := hrest
      refine bind_eq_ok.mpr ⟨q, ha, bind_eq_ok.mpr ⟨p, hlo, ?_⟩⟩
      rw [if_neg (not_lt.mpr hle)]
      exact ih hrest

/-- What the reduction throws, the price of some element has thrown. -/
theorem leastE_error {e : ε} (h : leastE price lo rest = .error e) :
    ∃ a ∈ lo :: rest, price a = .error e := by
  induction rest generalizing lo with
  | nil => exact absurd h (by simp only [leastE, reduceCtorEq, not_false_eq_true])
  | cons a rest ih =>
      cases ha : price a with
      | error e' =>
          rw [leastE, ha] at h
          exact ⟨a, List.mem_cons_of_mem lo List.mem_cons_self,
            ha.trans (congrArg _ (Except.error.inj h))⟩
      | ok pa =>
          cases hlo : price lo with
          | error e' =>
              rw [leastE, ha, hlo] at h
              exact ⟨lo, List.mem_cons_self, hlo.trans (congrArg _ (Except.error.inj h))⟩
          | ok plo =>
              rw [leastE, ha, hlo] at h
              obtain ⟨b, hb, he⟩ := ih h
              refine ⟨b, ?_, he⟩
              rcases List.mem_cons.mp hb with rfl | hb
              · split
                · exact List.mem_cons_of_mem lo List.mem_cons_self
                · exact List.mem_cons_self
              · exact List.mem_cons_of_mem lo (List.mem_cons_of_mem a hb)

/-- The elements in the order in which a reduction of two or more of them reads their
    prices: the second one is read before the first. -/
def readingOrder (lo : α) : List α → List α
  | [] => [lo]
  | a :: rest => a :: lo :: rest

theorem mem_readingOrder (lo : α) (rest : List α) (x : α) :
    x ∈ readingOrder lo rest ↔ x ∈ lo :: rest := by
  cases rest with
  | nil => exact Iff.rfl
  | cons a rest => simp only [readingOrder, List.mem_cons, or_left_comm]

/-- The first element in that order whose price cannot be read. -/
def firstUnpriced (price : α → Except ε β) (lo : α) (rest : List α) : Option α :=
  (readingOrder lo rest).find? (fun a => !(price a).isOk)

/-- It decides what the reduction throws. The induction is on what is left to read;
    both of the elements compared so far have a price. -/
theorem leastE_error_iff {a : α} {e : ε} : leastE price lo (a :: rest) = .error e ↔
    ∃ b, firstUnpriced price lo (a :: rest) = some b ∧ price b = .error e := by
  rw [firstUnpriced, readingOrder]
  -- The code reads the price of the one it looks at, and then that of the least so far.
  cases ha : price a with
  | error e' =>
      simp only [leastE, ha, bind, Except.bind, List.find?_cons, Except.isOk, Except.toBool,
        Bool.not_false, Option.some.injEq, exists_eq_left', Except.error.injEq]
  | ok pa =>
  cases hlo : price lo with
  | error e' =>
      simp only [leastE, ha, hlo, bind, Except.bind, List.find?_cons, Except.isOk, Except.toBool,
        Bool.not_true, Bool.not_false, Option.some.injEq, exists_eq_left', Except.error.injEq]
  | ok plo =>
  induction rest generalizing lo a pa plo with
  | nil =>
      simp only [leastE, ha, hlo, bind, Except.bind, List.find?_cons, Except.isOk, Except.toBool,
        Bool.not_true, List.find?_nil, reduceCtorEq, false_and, exists_false]
  | cons c rest ih =>
      -- Either way the least so far has a price that was read already.
      obtain ⟨p, hp⟩ : ∃ p, price (if pa < plo then a else lo) = .ok p := by
        split
        · exact ⟨pa, ha⟩
        · exact ⟨plo, hlo⟩
      rw [leastE]
      simp only [ha, hlo, bind, Except.bind, List.find?_cons, Except.isOk, Except.toBool,
        Bool.not_true]
      cases hc : price c with
      | error e' =>
          simp only [leastE, hc, bind, Except.bind, Bool.not_false, Option.some.injEq,
            exists_eq_left', Except.error.injEq]
      | ok pc =>
          rw [ih pc hc p hp]
          simp only [List.find?_cons, hc, hp, Except.isOk, Except.toBool, Bool.not_true]

end

end Js

end VellarSdk
