import VellarSdk.Async.Machine
import VellarSdk.Async.Task

/-!
# Calls at the Same Time

A program that is called again while it waits. Each call has a body of its own,
the bodies take turns at their awaits, and what they share is a state that some
of their operations read and write. The pool of such bodies is a machine: a call
is made, a body does what the program answers itself, or the environment answers
what it waits for. Every order of these is a run.

What one body does is proved of it alone. To a body among others the state may be
anything by the time it looks, so it is taken as it is by itself with every
operation left to the environment, and what holds of each such run holds of its
part of every run of the pool. What ties the bodies together is the log of the
pool, on which the shared state can be followed from one operation to the next.

## Main definitions

* `Pool`, `pool`: The calls of a program in progress.
* `own`: The part of a log that is one call's.
* `awaitAll`: A body among others, which finds anything.
* `Logged`: A log of what operations made of the shared state.
* `InProgress`: Each body went by its part of the log.

## Theorems

* `pool_step_cases`: What a step of a pool is.
* `inProgress_run`: Each body goes by its part of the log.
* `logged_run`: The shared state goes by the log.
* `Logged.changed`: What holds of the state was made so by an operation.
* `InProgress.at_call`, `InProgress.at_event`: What was proved of a body holds of its
  calls in the pool.
-/

namespace VellarSdk

namespace Async

/-- The calls of a program in progress: what they share, each call with what is left
    of its body, and what was done, with the call that did it. -/
structure Pool (C O : Type) (R : O → Type) (ε σ α : Type) where
  shared : σ
  calls : List (C × Task O R ε α) := []
  log : List (Nat × Event O R ε) := []

/-- What can happen: a call is made, the next operation of a body is done by the
    program, or it is answered by the environment. -/
inductive PoolEvent (C O : Type) (R : O → Type) (ε : Type) where
  | call (c : C)
  | exec (i : Nat)
  | reply (i : Nat) (answer : (o : O) → Except ε (R o))

variable {C O : Type} {R : O → Type} {ε σ α : Type}

/-- A program whose calls have these bodies. -/
def pool (H : Handler O R ε σ) (body : C → Task O R ε α) :
    Machine (Pool C O R ε σ α) (PoolEvent C O R ε) where
  step p e := match e with
    | .call c => some { p with calls := p.calls ++ [(c, body c)] }
    -- The shared state answers at once what is its own.
    | .exec i => match p.calls[i]? with
      | some (c, .call o k) => match H.exec o with
        | some f => some
            { shared := (f p.shared).2
              calls := p.calls.set i (c, k (f p.shared).1)
              log := p.log ++ [(i, ⟨o, (f p.shared).1⟩)] }
        | none => none
      | _ => none
    -- The outside answers the rest, whenever and in whatever order it does.
    | .reply i answer => match p.calls[i]? with
      | some (c, .call o k) => match H.exec o with
        | some _ => none
        | none => some
            { p with
              calls := p.calls.set i (c, k (answer o))
              log := p.log ++ [(i, ⟨o, answer o⟩)] }
      | _ => none

/-- What one call has done. -/
def own (i : Nat) (log : List (Nat × Event O R ε)) : List (Event O R ε) :=
  log.filterMap (fun e => if e.1 = i then some e.2 else none)

/-- Everything is left to the environment. -/
def awaitAll : Handler O R ε Unit where
  exec _ := none

/-- A log along which the shared state went from one value to another. -/
inductive Logged (H : Handler O R ε σ) (s : σ) : List (Nat × Event O R ε) → σ → Prop where
  | nil : Logged H s [] s
  | snoc {log : List (Nat × Event O R ε)} {s₁ s₂ : σ} (i : Nat) {o : O} {r : Except ε (R o)}
      (h : Logged H s log s₁) (hanswered : Answered H s₁ o r s₂) :
      Logged H s (log ++ [(i, ⟨o, r⟩)]) s₂

section Own

theorem own_append (i : Nat) (log log' : List (Nat × Event O R ε)) :
    own i (log ++ log') = own i log ++ own i log' :=
  List.filterMap_append

theorem own_self (i : Nat) (e : Event O R ε) : own i [(i, e)] = [e] := by
  simp only [own, List.filterMap_cons, if_pos, List.filterMap_nil]

theorem own_other {i j : Nat} (h : j ≠ i) (e : Event O R ε) : own i [(j, e)] = [] := by
  simp only [own, List.filterMap_cons, if_neg h, List.filterMap_nil]

theorem mem_own {i : Nat} {log : List (Nat × Event O R ε)} {e : Event O R ε} :
    e ∈ own i log ↔ (i, e) ∈ log := by
  unfold own
  rw [List.mem_filterMap]
  constructor
  · rintro ⟨⟨j, e'⟩, hmem, h⟩
    by_cases hj : j = i
    · rw [if_pos hj, Option.some.injEq] at h
      exact hj ▸ h ▸ hmem
    · rw [if_neg hj] at h
      exact absurd h (by simp only [reduceCtorEq, not_false_eq_true])
  · exact fun hmem => ⟨(i, e), hmem, if_pos rfl⟩

/-- What a call did first of something stands first in its part of the log. -/
theorem own_split {i : Nat} {log : List (Nat × Event O R ε)} {before after : List (Event O R ε)}
    {e : Event O R ε} (h : own i log = before ++ e :: after) :
    ∃ log₁ log₂, log = log₁ ++ (i, e) :: log₂ ∧ own i log₁ = before ∧ own i log₂ = after := by
  obtain ⟨log₁, rest, rfl, hbefore, hrest⟩ := List.filterMap_eq_append_iff.mp h
  obtain ⟨skipped, entry, log₂, rfl, hskipped, hentry, hafter⟩ :=
    List.filterMap_eq_cons_iff.mp hrest
  by_cases hi : entry.1 = i
  · rw [if_pos hi, Option.some.injEq] at hentry
    refine ⟨log₁ ++ skipped, log₂, ?_, ?_, hafter⟩
    · rw [List.append_assoc, ← hi, ← hentry]
    · have hnone : own i skipped = [] := List.filterMap_eq_nil_iff.mpr hskipped
      rw [own_append, hnone, List.append_nil]
      exact hbefore
  · rw [if_neg hi] at hentry
    exact absurd hentry (by simp only [reduceCtorEq, not_false_eq_true])

theorem own_head {i : Nat} {log : List (Nat × Event O R ε)} {after : List (Event O R ε)}
    {e : Event O R ε} (h : own i log = e :: after) :
    ∃ log₁ log₂, log = log₁ ++ (i, e) :: log₂ ∧ own i log₁ = [] ∧ own i log₂ = after :=
  own_split (h.trans (List.nil_append _).symm)

end Own

section Steps

variable {H : Handler O R ε σ} {body : C → Task O R ε α} {p p' : Pool C O R ε σ α}

/-- A step of a pool makes a call or gets one body past its next operation. -/
theorem pool_step_cases {e : PoolEvent C O R ε} (h : (pool H body).step p e = some p') :
    (∃ c, e = .call c ∧ p' = { p with calls := p.calls ++ [(c, body c)] }) ∨
    ∃ i c o k r s', p.calls[i]? = some (c, .call o k) ∧ Answered H p.shared o r s' ∧
      p' = { shared := s', calls := p.calls.set i (c, k r), log := p.log ++ [(i, ⟨o, r⟩)] } := by
  -- A call comes in, or one of those under way is answered, by the state or the outside.
  cases e with
  | call c =>
      simp only [pool, Option.some.injEq] at h
      exact .inl ⟨c, rfl, h.symm⟩
  | exec i =>
      simp only [pool] at h
      split at h
      · next c o k hcall =>
        split at h
        · next f hf =>
          rw [Option.some.injEq] at h
          refine .inr ⟨i, c, o, k, (f p.shared).1, (f p.shared).2, hcall, ?_, h.symm⟩
          simp only [Answered, hf]
        · exact absurd h (by simp only [reduceCtorEq, not_false_eq_true])
      · exact absurd h (by simp only [reduceCtorEq, not_false_eq_true])
  | reply i answer =>
      simp only [pool] at h
      split at h
      · next c o k hcall =>
        split at h
        · exact absurd h (by simp only [reduceCtorEq, not_false_eq_true])
        · next hf =>
          rw [Option.some.injEq] at h
          refine .inr ⟨i, c, o, k, answer o, p.shared, hcall, ?_, h.symm⟩
          simp only [Answered, hf]
      · exact absurd h (by simp only [reduceCtorEq, not_false_eq_true])

/-- Each body went by its part of the log, and there is nobody else's on it. -/
structure InProgress (body : C → Task O R ε α) (p : Pool C O R ε σ α) : Prop where
  runs : ∀ i c rest, p.calls[i]? = some (c, rest) →
    Run awaitAll (body c) () (own i p.log) rest ()
  called : ∀ e ∈ p.log, e.1 < p.calls.length

theorem inProgress_start (body : C → Task O R ε α) (s : σ) :
    InProgress body { shared := s } where
  runs i c rest h := absurd h (by
    simp only [List.getElem?_nil, reduceCtorEq, not_false_eq_true])
  called e he := absurd he List.not_mem_nil

theorem own_of_lt {log : List (Nat × Event O R ε)} {n : Nat} (h : ∀ e ∈ log, e.1 < n) :
    own n log = [] := by
  rw [own, List.filterMap_eq_nil_iff]
  intro e he
  rw [if_neg (Nat.ne_of_lt (h e he))]

theorem inProgress_step {e : PoolEvent C O R ε} (hp : InProgress body p)
    (h : (pool H body).step p e = some p') : InProgress body p' := by
  rcases pool_step_cases h with ⟨c, -, rfl⟩ | ⟨i, c, o, k, r, s', hcall, -, rfl⟩
  · refine ⟨fun i c' rest hi => ?_, fun e he => ?_⟩
    · rw [List.getElem?_append] at hi
      by_cases hlt : i < p.calls.length
      · rw [if_pos hlt] at hi
        exact hp.runs i c' rest hi
      · rw [if_neg hlt] at hi
        obtain ⟨hfirst, heq⟩ := List.getElem?_eq_some_iff.mp hi
        rw [List.length_singleton] at hfirst
        -- A call that was just made has done nothing.
        have hi : i = p.calls.length := by omega
        subst hi
        rw [List.getElem_singleton] at heq
        obtain ⟨rfl, rfl⟩ := Prod.mk.inj heq
        rw [own_of_lt hp.called]
        exact Run.refl _ _
    · rw [List.length_append]
      exact Nat.lt_add_right _ (hp.called e he)
  · have hi : i < p.calls.length := (List.getElem?_eq_some_iff.mp hcall).1
    refine ⟨fun j c' rest hj => ?_, fun e he => ?_⟩
    · rw [own_append]
      rcases getElem?_set_cases hj with ⟨rfl, heq⟩ | ⟨hne, hold⟩
      · obtain ⟨rfl, rfl⟩ := Prod.mk.inj heq
        rw [own_self]
        exact run_trans (hp.runs _ _ _ hcall) (Run.reply o k () r [] _ () rfl (Run.refl _ _))
      · rw [own_other (fun hij => hne hij.symm), List.append_nil]
        exact hp.runs j c' rest hold
    · rw [List.length_set]
      rcases List.mem_append.mp he with hold | hnew
      · exact hp.called e hold
      · rw [List.mem_singleton.mp hnew]
        exact hi

/-- In every run of a pool each body goes by its part of the log. -/
theorem inProgress_run {s : σ} {es : List (PoolEvent C O R ε)}
    (hrun : (pool H body).run { shared := s } es = some p) : InProgress body p :=
  Machine.run_invariant (P := fun _ _ => True) (fun _ _ _ hp _ h => inProgress_step hp h)
    (inProgress_start body s) (Machine.runWhere_of_forall_mem (fun _ _ _ => trivial)) hrun

/-- In every run of a pool the shared state goes by the log. -/
theorem logged_run {s : σ} {es : List (PoolEvent C O R ε)}
    (hrun : (pool H body).run { shared := s } es = some p) : Logged H s p.log p.shared := by
  refine Machine.run_invariant (I := fun p => Logged H s p.log p.shared) (P := fun _ _ => True)
    (fun p e p' hp _ h => ?_) .nil (Machine.runWhere_of_forall_mem (fun _ _ _ => trivial)) hrun
  rcases pool_step_cases h with ⟨c, -, rfl⟩ | ⟨i, c, o, k, r, s', -, hanswered, rfl⟩
  · exact hp
  · exact .snoc i hp hanswered

end Steps

section Logs

variable {H : Handler O R ε σ} {s s' : σ} {log log' : List (Nat × Event O R ε)}

/-- A log taken apart. -/
theorem Logged.split (h : Logged H s log s') {before after : List (Nat × Event O R ε)}
    (hlog : log = before ++ after) : ∃ s₁, Logged H s before s₁ ∧ Logged H s₁ after s' := by
  induction h generalizing after with
  | nil =>
      obtain ⟨rfl, rfl⟩ := List.append_eq_nil_iff.mp hlog.symm
      exact ⟨s, .nil, .nil⟩
  | @snoc log s₁ s₂ i o r h hanswered ih =>
      rcases List.eq_nil_or_concat after with rfl | ⟨after, e, rfl⟩
      · rw [List.append_nil] at hlog
        exact ⟨s₂, hlog ▸ .snoc i h hanswered, .nil⟩
      · rw [List.concat_eq_append, ← List.append_assoc] at hlog
        obtain ⟨hlog, he⟩ := List.append_inj' hlog rfl
        obtain ⟨s₃, hbefore, hafter⟩ := ih hlog
        rw [List.concat_eq_append, ← List.singleton_inj.mp he]
        exact ⟨s₃, hbefore, .snoc i hafter hanswered⟩

/-- At an event of a log the program answered from what the log before had made of the
    shared state. -/
theorem Logged.at_event {i : Nat} {o : O} {r : Except ε (R o)}
    {before after : List (Nat × Event O R ε)}
    (h : Logged H s (before ++ (i, ⟨o, r⟩) :: after) s') :
    ∃ s₁ s₂, Logged H s before s₁ ∧ Answered H s₁ o r s₂ ∧ Logged H s₂ after s' := by
  -- The log is cut behind the event, and what is in front once more before it.
  obtain ⟨s₂, hfirst, hafter⟩ := h.split (List.append_cons before (i, ⟨o, r⟩) after)
  obtain ⟨s₁, hbefore, hone⟩ := hfirst.split rfl
  refine ⟨s₁, s₂, hbefore, ?_, hafter⟩
  generalize hsingle : [(i, (⟨o, r⟩ : Event O R ε))] = single at hone
  cases hone with
  | nil => exact absurd hsingle (List.cons_ne_nil _ _)
  | @snoc log s₃ _ j o' r' h hanswered =>
      rw [← List.nil_append [(i, (⟨o, r⟩ : Event O R ε))]] at hsingle
      obtain ⟨hlog, he⟩ := List.append_inj' hsingle rfl
      subst hlog
      cases List.singleton_inj.mp he
      -- A log of one event has an empty one in front, at which nothing moved.
      have hstart : s₃ = s₁ := by
        generalize hnone : ([] : List (Nat × Event O R ε)) = none' at h
        cases h with
        | nil => rfl
        | snoc _ _ _ =>
            exact absurd hnone.symm (List.append_ne_nil_of_right_ne_nil _ (List.cons_ne_nil _ _))
      exact hstart ▸ hanswered

/-- What holds of the shared state and did not hold at the start was made so by an
    operation on the log. -/
theorem Logged.changed {P : σ → Prop} (h : Logged H s log s') (hstart : ¬ P s) (hend : P s') :
    ∃ before i o r after s₁ s₂, log = before ++ (i, ⟨o, r⟩) :: after ∧ Logged H s before s₁ ∧
      ¬ P s₁ ∧ Answered H s₁ o r s₂ ∧ P s₂ := by
  induction h with
  | nil => exact absurd hend hstart
  | @snoc log s₁ s₂ i o r h hanswered ih =>
      by_cases hmiddle : P s₁
      · obtain ⟨before, j, o', r', after, s₃, s₄, rfl, hrest⟩ := ih hmiddle
        exact ⟨before, j, o', r', after ++ [(i, ⟨o, r⟩)], s₃, s₄,
          by rw [List.append_assoc, List.cons_append], hrest⟩
      · exact ⟨log, i, o, r, [], s₁, s₂, rfl, h, hmiddle, hanswered, hend⟩

end Logs

section Bodies

variable {H : Handler O R ε σ} {body : C → Task O R ε α} {p : Pool C O R ε σ α}
  {G : List (Event O R ε) → Unit → O → Prop} {Q : List (Event O R ε) → Unit → Except ε α → Prop}
  {i : Nat} {c : C}

/-- What was proved of a body holds at the operation it waits for. -/
theorem InProgress.at_call (hp : InProgress body p) (hbody : Sat awaitAll G Q (body c) [] ())
    {rest : Task O R ε α} (hcall : p.calls[i]? = some (c, rest)) {o : O}
    (hpending : rest.pending = some o) : G (own i p.log) () o := by
  obtain ⟨k, rfl⟩ := Task.eq_call_of_pending hpending
  exact hbody.at_call (hp.runs i c _ hcall)

/-- And at every operation it has done. -/
theorem InProgress.at_event {G : C → List (Event O R ε) → Unit → O → Prop}
    {Q : C → List (Event O R ε) → Unit → Except ε α → Prop} (hp : InProgress body p)
    (hbody : ∀ c, Sat awaitAll (G c) (Q c) (body c) [] ())
    {before after : List (Nat × Event O R ε)} {e : Event O R ε}
    (hlog : p.log = before ++ (i, e) :: after) :
    ∃ c rest, p.calls[i]? = some (c, rest) ∧ G c (own i before) () e.op := by
  have hlt : i < p.calls.length := hp.called (i, e) (by
    rw [hlog]
    exact List.mem_append_right _ List.mem_cons_self)
  obtain ⟨⟨c, rest⟩, hcall⟩ : ∃ entry, p.calls[i]? = some entry :=
    ⟨_, List.getElem?_eq_getElem hlt⟩
  have hown : own i p.log = own i before ++ e :: own i after := by
    rw [hlog, ← List.singleton_append, own_append, own_append, own_self, List.singleton_append]
  obtain ⟨k, _, _, hbefore, -, -⟩ := run_split (hp.runs i c rest hcall) hown
  exact ⟨c, rest, hcall, (hbody c).at_call hbefore⟩

end Bodies

end Async

end VellarSdk
