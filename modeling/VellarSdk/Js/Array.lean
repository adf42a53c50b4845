import Mathlib.Data.List.Forall2
import Mathlib.Data.List.Nodup
import Mathlib.Tactic.Common

/-!
# JavaScript Arrays

Array methods whose callback may throw, and the identity of array elements.
Code that may throw is an `Except`, and `bind_eq_ok` is how a successful run is
taken apart into its steps.

The objects of an array are told apart by reference, not by content: two
elements with the same fields are still two options. An element is therefore
carried with the position it was created at, which is its identity, and
`indexOf` looks that up.

## Main definitions

* `Ref`: An array element with its identity.
* `indexOf`: `Array.prototype.indexOf` on objects.
* `filterE`: `Array.prototype.filter` with a callback that may throw.

## Theorems

* `bind_eq_ok`: A sequence succeeds when both its steps do.
* `mem_zipIdx_iff`: The elements of an array are found at their position.
* `indexOf_zipIdx`: An element is found at its own position.
* `isOk_iff`, `mapM_eq_ok`, `mapM_isOk_iff`: Computations that succeed.
* `filterE_eq_ok`, `filterE_eq_filter`: A filter that succeeds ran its test on
  every element.
* `filterE_of_ok`: When it succeeds.
* `foldlM_collect_iff`: What a loop collects that refuses what it has already.
-/

namespace VellarSdk

namespace Js

variable {α β ε : Type}

/-- A sequence succeeds exactly when both its steps do. -/
theorem bind_eq_ok {x : Except ε α} {f : α → Except ε β} {b : β} :
    (x >>= f) = .ok b ↔ ∃ a, x = .ok a ∧ f a = .ok b := by
  cases x with
  | error e => simp only [bind, Except.bind, reduceCtorEq, false_and, exists_false]
  | ok a => simp only [bind, Except.bind, Except.ok.injEq, exists_eq_left']

/-- A computation is known to succeed before its value is. -/
theorem isOk_iff {x : Except ε α} : x.isOk = true ↔ ∃ a, x = .ok a := by
  cases x with
  | error e => simp only [Except.isOk, Except.toBool, Bool.false_eq_true, reduceCtorEq,
      exists_false]
  | ok a => simp only [Except.isOk, Except.toBool, Except.ok.injEq, exists_eq']

/-- Code returned when something is known of what it returned. -/
theorem ok_of_toOption_map {γ : Type} {x : Except ε α} {f : α → γ} {c : γ}
    (h : x.toOption.map f = some c) : ∃ a, x = .ok a ∧ f a = c := by
  cases x with
  | error e => exact absurd h (by simp only [Except.toOption, Option.map_none, reduceCtorEq,
      not_false_eq_true])
  | ok a => exact ⟨a, rfl, Option.some.inj h⟩

/-- A loop whose every turn succeeds. -/
theorem mapM_eq_ok {f : α → Except ε β} {g : α → β} {l : List α}
    (h : ∀ a ∈ l, f a = .ok (g a)) : l.mapM f = .ok (l.map g) := by
  induction l with
  | nil => rfl
  | cons a l ih =>
      rw [List.mapM_cons, h a List.mem_cons_self,
        ih (fun b hb => h b (List.mem_cons_of_mem a hb))]
      rfl

/-- A traversal succeeds exactly when each step does. -/
theorem mapM_isOk_iff {f : α → Except ε β} {l : List α} :
    (l.mapM f).isOk = true ↔ ∀ a ∈ l, (f a).isOk = true := by
  induction l with
  | nil => exact iff_of_true rfl (fun a ha => absurd ha List.not_mem_nil)
  | cons a l ih =>
      rw [List.forall_mem_cons, ← ih, isOk_iff, isOk_iff, isOk_iff, List.mapM_cons]
      constructor
      · rintro ⟨out, h⟩
        rcases bind_eq_ok.mp h with ⟨b, hb, h⟩
        rcases bind_eq_ok.mp h with ⟨bs, hbs, -⟩
        exact ⟨⟨b, hb⟩, bs, hbs⟩
      · rintro ⟨⟨b, hb⟩, bs, hbs⟩
        exact ⟨b :: bs, bind_eq_ok.mpr ⟨b, hb, bind_eq_ok.mpr ⟨bs, hbs, rfl⟩⟩⟩

/-- An array element together with its identity. -/
abbrev Ref (α : Type) := α × Nat

theorem mem_zipIdx_iff (l : List α) (e : Ref α) : e ∈ l.zipIdx ↔ l[e.2]? = some e.1 :=
  List.mk_mem_zipIdx_iff_getElem?

/-- `Array.prototype.indexOf` on objects, which compares identities. -/
def indexOf (l : List (Ref α)) (e : Ref α) : Option Nat :=
  l.findIdx? (fun e' => e'.2 == e.2)

theorem indexOf_zipIdx (l : List α) (e : Ref α) (h : e ∈ l.zipIdx) :
    indexOf l.zipIdx e = some e.2 := by
  have hget := (mem_zipIdx_iff l e).mp h
  have hlt : e.2 < l.length := (List.getElem?_eq_some_iff.mp hget).1
  rw [indexOf, List.findIdx?_eq_some_iff_getElem]
  -- Identities are positions here, so no earlier element has this one.
  refine ⟨by rwa [List.length_zipIdx], ?_, ?_⟩
  · simp only [List.getElem_zipIdx, Nat.zero_add, beq_self_eq_true]
  · intro j hj
    simp only [List.getElem_zipIdx, Nat.zero_add, beq_iff_eq]
    omega

/-- `Array.prototype.filter` with a callback that may throw. -/
def filterE (p : α → Except ε Bool) : List α → Except ε (List α)
  | [] => .ok []
  | a :: rest => do
      -- Every element is tested, so a throw late in the array loses what was kept.
      let keep ← p a
      let kept ← filterE p rest
      return if keep then a :: kept else kept

/-- A filter that succeeds ran its test on every element, and kept those it
    holds of. -/
theorem filterE_eq_ok {p : α → Except ε Bool} {l l' : List α} (h : filterE p l = .ok l') :
    (∀ a ∈ l, ∃ b, p a = .ok b) ∧ ∀ a, a ∈ l' ↔ a ∈ l ∧ p a = .ok true := by
  induction l generalizing l' with
  | nil =>
      simp only [filterE, Except.ok.injEq] at h
      subst h
      simp only [List.not_mem_nil, false_and, implies_true, IsEmpty.forall_iff, and_self]
  | cons x rest ih =>
      cases hx : p x with
      | error e =>
          rw [filterE, hx] at h
          exact absurd h (by simp only [bind, Except.bind, reduceCtorEq, not_false_eq_true])
      | ok keep =>
          cases hrest : filterE p rest with
          | error e =>
              rw [filterE, hx, hrest] at h
              exact absurd h (by simp only [bind, Except.bind, reduceCtorEq, not_false_eq_true])
          | ok kept =>
              -- The predicate is asked of each in turn, so of the first before the rest.
              rcases ih hrest with ⟨hall, hmem⟩
              rw [filterE, hx, hrest] at h
              simp only [bind, Except.bind, pure, Except.pure, Except.ok.injEq] at h
              refine ⟨?_, ?_⟩
              · intro a ha
                rcases List.mem_cons.mp ha with rfl | ha
                · exact ⟨keep, hx⟩
                · exact hall a ha
              · intro a
                subst h
                -- The first is kept or left out by what it answered.
                cases keep with
                | false =>
                    simp only [Bool.false_eq_true, if_false, hmem, List.mem_cons]
                    constructor
                    · exact fun ⟨ha, hp⟩ => ⟨Or.inr ha, hp⟩
                    · rintro ⟨rfl | ha, hp⟩
                      · rw [hx] at hp
                        exact absurd hp (by simp only [Except.ok.injEq, Bool.false_eq_true,
                          not_false_eq_true])
                      · exact ⟨ha, hp⟩
                | true =>
                    simp only [if_true, hmem, List.mem_cons]
                    constructor
                    · rintro (rfl | ⟨ha, hp⟩)
                      · exact ⟨Or.inl rfl, hx⟩
                      · exact ⟨Or.inr ha, hp⟩
                    · rintro ⟨rfl | ha, hp⟩
                      · exact Or.inl rfl
                      · exact Or.inr ⟨ha, hp⟩

/-- A filter whose test answers everywhere is the filter by its answers. -/
theorem filterE_of_ok {p : α → Except ε Bool} {q : α → Bool} {l : List α}
    (h : ∀ a ∈ l, p a = .ok (q a)) : filterE p l = .ok (l.filter q) := by
  induction l with
  | nil => rfl
  | cons a rest ih =>
      rw [List.forall_mem_cons] at h
      rw [filterE, h.1, ih h.2, List.filter_cons]
      rfl

/-- A filter that succeeds is the filter by a test that agrees with its own
    wherever that one answers. -/
theorem filterE_eq_filter {p : α → Except ε Bool} {q : α → Bool}
    (hq : ∀ a b, p a = .ok b → q a = b) {l l' : List α} (h : filterE p l = .ok l') :
    l' = l.filter q := by
  induction l generalizing l' with
  | nil =>
      injection h with h
      exact h.symm
  | cons a rest ih =>
      rcases bind_eq_ok.mp h with ⟨keep, hkeep, h₁⟩
      rcases bind_eq_ok.mp h₁ with ⟨kept, hkept, hret⟩
      injection hret with hret
      rw [← hret, ih hkept, List.filter_cons, hq a keep hkeep]

section Collecting

variable {κ σ : Type} {key : α → κ} {done : List α}

/-- Something more under a key that is not there yet. -/
theorem nodup_map_concat_iff {a : α} : ((done ++ [a]).map key).Nodup ↔
    (done.map key).Nodup ∧ key a ∉ done.map key := by
  rw [List.map_append, List.map_singleton, ← List.concat_eq_append, List.nodup_concat]
  exact and_comm

/-- A loop that passes over some elements and collects the others, each under a key that
    is not there yet. `read` is how the loop keeps what it has collected. -/
theorem foldlM_collect_iff {step : σ → β → Except ε σ} {read : List α → σ} {R : α → β → Prop}
    {keep : β → Bool} (hskip : ∀ s b, keep b = false → step s b = .ok s)
    (hkeep : ∀ done b s, keep b = true → (step (read done) b = .ok s ↔
      ∃ a, R a b ∧ key a ∉ done.map key ∧ s = read (done ++ [a])))
    (l : List β) (hdone : (done.map key).Nodup) {s : σ} :
    l.foldlM step (read done) = .ok s ↔
      ∃ listed, List.Forall₂ R listed (l.filter keep) ∧ ((done ++ listed).map key).Nodup ∧
        s = read (done ++ listed) := by
  induction l generalizing done with
  | nil =>
      rw [List.foldlM_nil, List.filter_nil]
      constructor
      · intro h
        injection h with h
        exact ⟨[], .nil, by rwa [List.append_nil], by rw [List.append_nil, h]⟩
      · rintro ⟨listed, hlisted, -, rfl⟩
        cases hlisted
        rw [List.append_nil]
        rfl
  | cons b l ih =>
      rw [List.foldlM_cons, bind_eq_ok]
      by_cases hb : keep b = true
      · rw [List.filter_cons_of_pos hb]
        constructor
        · rintro ⟨s₁, hstep, hrest⟩
          obtain ⟨a, hparts, hnew, rfl⟩ := (hkeep done b s₁ hb).mp hstep
          -- What was collected now is there already for the rest of the loop.
          have hfront := nodup_map_concat_iff.mpr ⟨hdone, hnew⟩
          obtain ⟨listed, hlisted, hnodup, rfl⟩ := (ih hfront).mp hrest
          rw [List.append_assoc, List.singleton_append] at hnodup ⊢
          exact ⟨a :: listed, .cons hparts hlisted, hnodup, rfl⟩
        · rintro ⟨listed, hlisted, hnodup, rfl⟩
          cases hlisted with
          | @cons a _ listed _ hparts hlisted =>
              have happend : done ++ a :: listed = done ++ [a] ++ listed := by
                rw [List.append_assoc, List.singleton_append]
              rw [happend] at hnodup
              have hfront : ((done ++ [a]).map key).Nodup :=
                hnodup.sublist ((List.sublist_append_left _ _).map _)
              refine ⟨read (done ++ [a]), (hkeep done b _ hb).mpr
                ⟨a, hparts, (nodup_map_concat_iff.mp hfront).2, rfl⟩, ?_⟩
              exact (ih hfront).mpr ⟨listed, hlisted, hnodup, by rw [happend]⟩
      · rw [List.filter_cons_of_neg hb, ← ih hdone]
        rw [Bool.not_eq_true] at hb
        simp only [hskip _ b hb, Except.ok.injEq, exists_eq_left']

end Collecting

end Js

end VellarSdk
