import Mathlib.Logic.Basic

/-!
# Machines

A system that things happen to one after the other. `step` says what a state
becomes when something happens to it, and that it cannot happen there. A run is
the list of things that happened, so an interleaving of several activities is a
run of the system that holds them all, and a fact about every run is a fact
about every interleaving.

A system that goes wrong only when something happens at a bad moment is right
along the runs in which nothing does. `RunWhere` says of a run that each of its
steps is taken in a state that allows it, and `run_invariant` carries an
invariant along such a run from what one step preserves.

## Main definitions

* `Machine`, `Machine.run`: Systems and their runs.
* `Machine.RunWhere`: Runs whose steps meet a condition.
* `Machine.Always`: Runs that pass through states that meet a condition.

## Theorems

* `run_cons_iff`, `run_append`: A run taken apart.
* `runWhere_cons`, `runWhere_append`: So is the condition on it.
* `run_invariant`, `always_of_runWhere`: What a step preserves, a run preserves.
* `run_history`: So is what ties a state to what has happened.
* `runWhere_congr`: Conditions that are the same by an invariant.
* `always_iff_runWhere`: The runs along which an invariant holds.
* `getElem?_set_cases`: One of several calls gets on.
-/

namespace VellarSdk

namespace Async

/-- A system: what a state becomes when something happens to it, where it can. -/
structure Machine (σ α : Type*) where
  step : σ → α → Option σ

namespace Machine

variable {σ α : Type*} (m : Machine σ α)

/-- The state after a list of things that happened. -/
def run : σ → List α → Option σ
  | s, [] => some s
  | s, a :: as => match m.step s a with
    | some s' => run s' as
    | none => none

/-- Every step of a run is taken in a state that meets the condition for it. -/
def RunWhere (P : σ → α → Prop) : σ → List α → Prop
  | _, [] => True
  | s, a :: as => P s a ∧ ∀ s', m.step s a = some s' → RunWhere P s' as

/-- A condition that can be checked can be checked along a run. -/
instance decidableRunWhere {P : σ → α → Prop} [∀ s a, Decidable (P s a)] :
    ∀ s as, Decidable (m.RunWhere P s as)
  | _, [] => isTrue trivial
  | s, a :: as =>
      match hstep : m.step s a with
      | none => decidable_of_iff (P s a)
          ⟨fun h => ⟨h, fun _ hs' => absurd (hstep.symm.trans hs') nofun⟩, And.left⟩
      | some s' =>
          have : Decidable (m.RunWhere P s' as) := decidableRunWhere s' as
          decidable_of_iff (P s a ∧ m.RunWhere P s' as)
            ⟨fun h => ⟨h.1, fun _ hs' => Option.some.inj (hstep.symm.trans hs') ▸ h.2⟩,
              fun h => ⟨h.1, h.2 s' hstep⟩⟩

/-- Every state a run passes through meets the condition. -/
def Always (I : σ → Prop) (s : σ) (as : List α) : Prop :=
  ∀ before after t, as = before ++ after → m.run s before = some t → I t

variable {m} {s t : σ} {a : α} {as bs : List α} {P Q : σ → α → Prop} {I : σ → Prop}

theorem run_cons_iff :
    m.run s (a :: as) = some t ↔ ∃ s', m.step s a = some s' ∧ m.run s' as = some t := by
  cases hstep : m.step s a with
  | none => simp only [run, hstep, reduceCtorEq, false_and, exists_false]
  | some s' => simp only [run, hstep, Option.some.injEq, exists_eq_left']

theorem run_append : m.run s (as ++ bs) = some t ↔
    ∃ s', m.run s as = some s' ∧ m.run s' bs = some t := by
  induction as generalizing s with
  | nil => simp only [List.nil_append, run, Option.some.injEq, exists_eq_left']
  | cons a as ih =>
      rw [List.cons_append, run_cons_iff]
      constructor
      · rintro ⟨s₁, hfirst, hrest⟩
        obtain ⟨s₂, hmiddle, hlast⟩ := ih.mp hrest
        exact ⟨s₂, run_cons_iff.mpr ⟨s₁, hfirst, hmiddle⟩, hlast⟩
      · rintro ⟨s₂, hrun, hlast⟩
        obtain ⟨s₁, hfirst, hmiddle⟩ := run_cons_iff.mp hrun
        exact ⟨s₁, hfirst, ih.mpr ⟨s₂, hmiddle, hlast⟩⟩

/-- A condition checked along a run, one step at a time. -/
theorem runWhere_cons {s' : σ} (hstep : m.step s a = some s') (hfirst : P s a)
    (hrest : m.RunWhere P s' as) : m.RunWhere P s (a :: as) := by
  refine ⟨hfirst, fun s'' hs'' => ?_⟩
  rw [hstep, Option.some.injEq] at hs''
  exact hs'' ▸ hrest

theorem runWhere_append (h : m.RunWhere P s (as ++ bs)) (hrun : m.run s as = some t) :
    m.RunWhere P s as ∧ m.RunWhere P t bs := by
  induction as generalizing s with
  | nil =>
      simp only [run, Option.some.injEq] at hrun
      subst hrun
      exact ⟨trivial, h⟩
  | cons a as ih =>
      obtain ⟨s₁, hstep, hrest⟩ := run_cons_iff.mp hrun
      obtain ⟨hfirst, hlater⟩ := ih (h.2 s₁ hstep) hrest
      exact ⟨runWhere_cons hstep h.1 hfirst, hlater⟩

/-- Two conditions on one run are one condition on it. -/
theorem runWhere_and (hP : m.RunWhere P s as) (hQ : m.RunWhere Q s as) :
    m.RunWhere (fun s a => P s a ∧ Q s a) s as := by
  induction as generalizing s with
  | nil => trivial
  | cons a as ih => exact ⟨⟨hP.1, hQ.1⟩, fun s' hs' => ih (hP.2 s' hs') (hQ.2 s' hs')⟩

/-- What a step that meets the condition preserves, a run whose steps all do
    preserves. -/
theorem run_invariant (hstep : ∀ s a s', I s → P s a → m.step s a = some s' → I s')
    (hstart : I s) (hwhere : m.RunWhere P s as) (hrun : m.run s as = some t) : I t := by
  induction as generalizing s with
  | nil =>
      simp only [run, Option.some.injEq] at hrun
      exact hrun ▸ hstart
  | cons a as ih =>
      obtain ⟨s₁, hfirst, hrest⟩ := run_cons_iff.mp hrun
      exact ih (hstep s a s₁ hstart hwhere.1 hfirst) (hwhere.2 s₁ hfirst) hrest

/-- An invariant of a state and of what has happened so far, which a step keeps
    as it adds to that. -/
theorem run_history {I : List α → σ → Prop}
    (hstep : ∀ before s a s', I before s → P s a → m.step s a = some s' → I (before ++ [a]) s')
    (hstart : I [] s) (hwhere : m.RunWhere P s as) (hrun : m.run s as = some t) : I as t := by
  have hmore : ∀ before s, I before s → m.RunWhere P s as → m.run s as = some t →
      I (before ++ as) t := by
    clear hstart hwhere hrun
    induction as with
    | nil =>
        intro before s hs _ hrun
        simp only [run, Option.some.injEq] at hrun
        rw [List.append_nil]
        exact hrun ▸ hs
    | cons a as ih =>
        intro before s hs hwhere hrun
        obtain ⟨s₁, hfirst, hrest⟩ := run_cons_iff.mp hrun
        have hnext := hstep before s a s₁ hs hwhere.1 hfirst
        rw [List.append_cons]
        exact ih (before ++ [a]) s₁ hnext (hwhere.2 s₁ hfirst) hrest
  exact hmore [] s hstart hwhere hrun

/-- Two conditions that are the same where an invariant holds are the same along
    the runs that start there. -/
theorem runWhere_congr (hstep : ∀ s a s', I s → m.step s a = some s' → I s')
    (hsame : ∀ s a, I s → (P s a ↔ Q s a)) (hstart : I s) :
    m.RunWhere P s as ↔ m.RunWhere Q s as := by
  induction as generalizing s with
  | nil => exact Iff.rfl
  | cons a as ih =>
      refine and_congr (hsame s a hstart) (forall_congr' (fun s' => ?_))
      exact forall_congr' (fun hs' => ih (hstep s a s' hstart hs'))

/-- A condition on what happens alone is met when everything that happens
    meets it. -/
theorem runWhere_of_forall_mem (h : ∀ a ∈ as, ∀ s, P s a) : m.RunWhere P s as := by
  induction as generalizing s with
  | nil => trivial
  | cons a as ih =>
      exact ⟨h a List.mem_cons_self s, fun s' _ => ih (fun b hb => h b (List.mem_cons_of_mem a hb))⟩

theorem always_nil : m.Always I s [] ↔ I s := by
  constructor
  · intro h
    exact h [] [] s rfl rfl
  · intro h before after t hsplit hrun
    obtain ⟨rfl, -⟩ := List.append_eq_nil_iff.mp hsplit.symm
    simp only [run, Option.some.injEq] at hrun
    exact hrun ▸ h

theorem always_cons :
    m.Always I s (a :: as) ↔ I s ∧ ∀ s', m.step s a = some s' → m.Always I s' as := by
  constructor
  · intro h
    refine ⟨h [] (a :: as) s rfl rfl, fun s' hstep before after t hsplit hrun => ?_⟩
    exact h (a :: before) after t (by rw [hsplit, List.cons_append])
      (run_cons_iff.mpr ⟨s', hstep, hrun⟩)
  · rintro ⟨hs, hrest⟩ before after t hsplit hrun
    cases before with
    | nil =>
        simp only [run, Option.some.injEq] at hrun
        exact hrun ▸ hs
    | cons b before =>
        rw [List.cons_append, List.cons.injEq] at hsplit
        obtain ⟨rfl, hsplit⟩ := hsplit
        obtain ⟨s', hstep, hlater⟩ := run_cons_iff.mp hrun
        exact hrest s' hstep before after t hsplit hlater

/-- An invariant of the steps that meet the condition holds all along a run
    whose steps all do. -/
theorem always_of_runWhere (hstep : ∀ s a s', I s → P s a → m.step s a = some s' → I s')
    (hstart : I s) (hwhere : m.RunWhere P s as) : m.Always I s as := by
  intro before after t hsplit hrun
  subst hsplit
  exact run_invariant hstep hstart (runWhere_append hwhere hrun).1 hrun

/-- Where a step keeps the invariant exactly when it meets the condition, the
    runs it holds along are exactly those whose steps all do. -/
theorem always_iff_runWhere (hstuck : ∀ s a, m.step s a = none → P s a)
    (hstep : ∀ s a s', I s → m.step s a = some s' → (I s' ↔ P s a)) (hstart : I s) :
    m.Always I s as ↔ m.RunWhere P s as := by
  induction as generalizing s with
  | nil => exact ⟨fun _ => trivial, fun _ => always_nil.mpr hstart⟩
  | cons a as ih =>
      rw [always_cons]
      constructor
      · rintro ⟨-, hrest⟩
        refine ⟨?_, fun s' hs' => ?_⟩
        · cases hs' : m.step s a with
          | none => exact hstuck s a hs'
          | some s' =>
              exact (hstep s a s' hstart hs').mp (hrest s' hs' [] as s' rfl rfl)
        · exact (ih (hrest s' hs' [] as s' rfl rfl)).mp (hrest s' hs')
      · rintro ⟨hfirst, hrest⟩
        refine ⟨hstart, fun s' hs' => ?_⟩
        exact (ih ((hstep s a s' hstart hs').mpr hfirst)).mpr (hrest s' hs')

end Machine

/-- A call of several that is looked at after one of them got on: it is that one,
    or it is as it was. -/
theorem getElem?_set_cases {β : Type*} {calls : List β} {i k : Nat} {c c' : β}
    (h : (calls.set i c')[k]? = some c) : (k = i ∧ c = c') ∨ (k ≠ i ∧ calls[k]? = some c) := by
  rw [List.getElem?_set] at h
  by_cases hik : i = k
  · rw [if_pos hik] at h
    by_cases hlt : i < calls.length
    · rw [if_pos hlt, Option.some.injEq] at h
      exact .inl ⟨hik.symm, h.symm⟩
    · rw [if_neg hlt] at h
      exact absurd h (by simp only [reduceCtorEq, not_false_eq_true])
  · rw [if_neg hik] at h
    exact .inr ⟨fun hki => hik hki.symm, h⟩

end Async

end VellarSdk
