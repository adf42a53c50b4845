import VellarSdk.Async.Pool

/-!
# One Call at a Time

A pool whose calls do not overlap. Each call is made when the ones before it have ended,
so its body finds the shared state as they have left it and nothing changes it in between:
it runs as it would alone, from the state the body before it ended in.

## Main definitions

* `OneAtATime`: A call is made when no other is in progress.
* `InTurn`: The bodies of a pool, each run alone from where the one before it ended.

## Theorems

* `inTurn_run`: In a pool whose calls do not overlap, the bodies run in turn.
* `run_awaitAll`: What a body does alone it can do among others.
-/

namespace VellarSdk

namespace Async

variable {C O : Type} {R : O → Type} {ε σ α : Type} {H : Handler O R ε σ}
  {body : C → Task O R ε α} {p p' : Pool C O R ε σ α}

/-- A call is made when every other has ended. -/
def OneAtATime (p : Pool C O R ε σ α) : PoolEvent C O R ε → Prop
  | .call _ => ∀ entry ∈ p.calls, entry.2.pending = none
  | .exec _ | .reply _ _ => True

instance (p : Pool C O R ε σ α) : (e : PoolEvent C O R ε) → Decidable (OneAtATime p e)
  | .call _ => decidable_of_iff (∀ entry ∈ p.calls, entry.2.pending.isNone = true)
      (forall₂_congr (fun _ _ => Option.isNone_iff_eq_none))
  | .exec _ | .reply _ _ => isTrue trivial

/-- Each body of a pool ran alone, the first from a state and each from the state that the
    one before it ended in, up to the state there is now. -/
structure InTurn (H : Handler O R ε σ) (body : C → Task O R ε α) (s : σ) (p : Pool C O R ε σ α)
    (between : Nat → σ) : Prop where
  first : between 0 = s
  last : between p.calls.length = p.shared
  ended : ∀ i entry, p.calls[i]? = some entry → i + 1 < p.calls.length → entry.2.pending = none
  alone : ∀ i c rest, p.calls[i]? = some (c, rest) →
    Run H (body c) (between i) (own i p.log) rest (between (i + 1))

theorem inTurn_start (s : σ) :
    InTurn H body s ({ shared := s } : Pool C O R ε σ α) (fun _ => s) where
  first := rfl
  last := rfl
  ended i entry h := absurd h (by simp only [List.getElem?_nil, reduceCtorEq, not_false_eq_true])
  alone i c rest h := absurd h (by simp only [List.getElem?_nil, reduceCtorEq, not_false_eq_true])

/-- A call that is made in its turn. -/
theorem InTurn.call {s : σ} {between : Nat → σ} (h : InTurn H body s p between)
    (hp : InProgress body p) (hturn : ∀ entry ∈ p.calls, entry.2.pending = none) (c : C) :
    InTurn H body s { p with calls := p.calls ++ [(c, body c)] }
      (fun i => if i ≤ p.calls.length then between i else p.shared) := by
  refine ⟨?_, ?_, fun i entry hi hlt => ?_, fun i c' rest hi => ?_⟩
  · rw [if_pos (Nat.zero_le _)]
    exact h.first
  · rw [List.length_append, List.length_singleton, if_neg (Nat.not_succ_le_self _)]
  · rw [List.length_append, List.length_singleton] at hlt
    rw [List.getElem?_append_left (by omega)] at hi
    exact hturn entry (List.mem_of_getElem? hi)
  · -- The earlier calls are as they were; the new one starts where the last ended.
    by_cases hlt : i < p.calls.length
    · rw [List.getElem?_append_left hlt] at hi
      rw [if_pos (Nat.le_of_lt hlt), if_pos (Nat.succ_le_of_lt hlt)]
      exact h.alone i c' rest hi
    · rw [List.getElem?_append_right (Nat.le_of_not_lt hlt)] at hi
      obtain ⟨hfirst, heq⟩ := List.getElem?_eq_some_iff.mp hi
      rw [List.length_singleton] at hfirst
      have hi : i = p.calls.length := by omega
      subst hi
      rw [List.getElem_singleton] at heq
      obtain ⟨rfl, rfl⟩ := Prod.mk.inj heq
      rw [own_of_lt hp.called, if_pos (Nat.le_refl _), if_neg (Nat.not_succ_le_self _), h.last]
      exact Run.refl _ _

/-- Only the last call can get on. -/
theorem InTurn.step {s s' : σ} {between : Nat → σ} (h : InTurn H body s p between) {i : Nat}
    {c : C} {o : O} {k : Except ε (R o) → Task O R ε α} {r : Except ε (R o)}
    (hcall : p.calls[i]? = some (c, .call o k)) (hanswered : Answered H p.shared o r s') :
    InTurn H body s
      { shared := s', calls := p.calls.set i (c, k r), log := p.log ++ [(i, ⟨o, r⟩)] }
      (fun j => if j < p.calls.length then between j else s') := by
  have hlt : i < p.calls.length := (List.getElem?_eq_some_iff.mp hcall).1
  -- All but the last have ended, so it is the last that goes on.
  have hlast : i + 1 = p.calls.length := by
    by_contra hne
    have hended := h.ended i _ hcall (by omega)
    exact absurd hended (by simp only [Task.pending, reduceCtorEq, not_false_eq_true])
  refine ⟨?_, ?_, fun j entry hj hjlt => ?_, fun j c' rest hj => ?_⟩
  · rw [if_pos (by omega)]
    exact h.first
  · rw [List.length_set, if_neg (Nat.lt_irrefl _)]
  · rw [List.length_set] at hjlt
    rcases getElem?_set_cases hj with ⟨rfl, -⟩ | ⟨-, hold⟩
    · exact absurd hjlt (by omega)
    · exact h.ended j entry hold hjlt
  · rcases getElem?_set_cases hj with ⟨rfl, heq⟩ | ⟨hne, hold⟩
    · obtain ⟨rfl, rfl⟩ := Prod.mk.inj heq
      have hbefore := h.alone j _ _ hcall
      rw [hlast, h.last] at hbefore
      rw [own_append, own_self, if_pos hlt, if_neg (by omega)]
      exact run_trans hbefore (run_answered hanswered)
    · have hj : j < p.calls.length := (List.getElem?_eq_some_iff.mp hold).1
      rw [own_append, own_other (fun hij => hne hij.symm), List.append_nil, if_pos hj,
        if_pos (by omega)]
      exact h.alone j c' rest hold

/-- In a pool whose calls do not overlap each body runs as it would alone, from the state
    the one before it ended in. -/
theorem inTurn_run {s : σ} {es : List (PoolEvent C O R ε)}
    (hrun : (pool H body).run { shared := s } es = some p)
    (hturns : (pool H body).RunWhere OneAtATime { shared := s } es) :
    ∃ between, InTurn H body s p between := by
  have hboth : InProgress body p ∧ ∃ between, InTurn H body s p between := by
    refine Machine.run_invariant
      (I := fun p => InProgress body p ∧ ∃ between, InTurn H body s p between)
      (fun p e p' hp hturn h => ⟨inProgress_step hp.1 h, ?_⟩)
      ⟨inProgress_start body s, _, inTurn_start s⟩ hturns hrun
    obtain ⟨hprogress, between, hp⟩ := hp
    rcases pool_step_cases h with ⟨c, rfl, rfl⟩ | ⟨i, c, o, k, r, s', hcall, hanswered, rfl⟩
    · exact ⟨_, hp.call hprogress hturn c⟩
    · exact ⟨_, hp.step hcall hanswered⟩
  exact hboth.2

/-- What a body does alone it can do among others. -/
theorem run_awaitAll {t t' : Task O R ε α} {s s' : σ} {tr : List (Event O R ε)}
    (h : Run H t s tr t' s') : Run awaitAll t () tr t' () := by
  induction h with
  | refl t s => exact Run.refl _ _
  | exec o k s f tr t' s' _ _ ih | reply o k s f tr t' s' _ _ ih =>
      exact Run.reply o k () _ tr t' () rfl ih

end Async

end VellarSdk
