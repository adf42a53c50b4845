import VellarSdk.Async.Task

/-!
# Bodies in Place of Calls

What is an operation to one program is a body of another. Putting the body in the place
of the call gives one program of both, whose operations are those of the lower one, and
what was proved of either alone carries over: the conditions of the upper program hold
where its call would have been made, and the lower one's body is run from there.

The two programs have states of their own, so what is known of both at a time is a
relation. A body is a fair implementation of an operation if it is the body of a call
that was made in related states, and ends in related states in one of which the call was
answered.

## Main definitions

* `Task.implement`: A body with other bodies in place of its calls.

## Theorems

* `sat_implement`: The rule for it.
* `onlyCalls_implement`: What it can do by its calls alone.
-/

namespace VellarSdk

namespace Async

variable {O O' : Type} {R : O → Type} {R' : O' → Type} {ε σ σ' α : Type}

/-- A body with other bodies in place of its calls. -/
def Task.implement (f : (o : O) → Task O' R' ε (R o)) : Task O R ε α → Task O' R' ε α
  | .done r => .done r
  -- What a body throws is the reply to the call.
  | .call o k => (f o).attempt >>= fun r => (k r).implement f

variable {f : (o : O) → Task O' R' ε (R o)} {H : Handler O R ε σ} {H' : Handler O' R' ε σ'}
  {C : List (Event O R ε) → σ → O → Prop} {Q : List (Event O R ε) → σ → Except ε α → Prop}
  {C' : List (Event O' R' ε) → σ' → O' → Prop}
  {Q' : List (Event O' R' ε) → σ' → Except ε α → Prop}
  {S : List (Event O R ε) → σ → List (Event O' R' ε) → σ' → Prop}

/-- The rule for bodies in place of calls. `S` says how the two programs stand to each
    other between the calls. -/
theorem sat_implement
    (hcall : ∀ tr s tr' s' o, S tr s tr' s' → C tr s o → Sat H' C' (fun tr'' s'' r =>
      ∃ s₂, Answered H s o r s₂ ∧ S (tr ++ [⟨o, r⟩]) s₂ tr'' s'') (f o) tr' s')
    (hdone : ∀ tr s tr' s' r, S tr s tr' s' → Q tr s r → Q' tr' s' r)
    {t : Task O R ε α} {tr : List (Event O R ε)} {s : σ} {tr' : List (Event O' R' ε)} {s' : σ'}
    (h : Sat H C Q t tr s) (hrel : S tr s tr' s') : Sat H' C' Q' (t.implement f) tr' s' := by
  induction t generalizing tr s tr' s' with
  | done r => exact hdone tr s tr' s' r hrel h
  | call o k ih =>
      obtain ⟨hC, hrest⟩ := (sat_call k).mp h
      refine (sat_bind _ _ _ _).mpr ((sat_attempt _ _ _).mpr ?_)
      refine (hcall tr s tr' s' o hrel hC).imp (fun _ _ _ h => h) (fun tr'' s'' r hend => ?_)
      obtain ⟨s₂, hanswered, hrel₂⟩ := hend
      exact ih r (hrest r s₂ hanswered) hrel₂

theorem onlyCalls_implement {P : O → Prop} {P' : O' → Prop}
    (hf : ∀ o, P o → (f o).OnlyCalls P') {t : Task O R ε α} (h : t.OnlyCalls P) :
    (t.implement f).OnlyCalls P' := by
  induction t with
  | done r => trivial
  | call o k ih =>
      exact onlyCalls_bind (onlyCalls_attempt (hf o h.1)) (fun r => ih r (h.2 r))

end Async

end VellarSdk
