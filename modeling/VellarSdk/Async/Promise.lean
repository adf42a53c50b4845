import VellarSdk.Async.Task

/-!
# Promise Chains

A heap of promises that hang on one another, sharing a state. A promise made by
`p.then(fn, fn)` waits for `p` to settle, either way, and then runs `fn` and
follows the promise that returns; one made by `p.then(ignore, ignore)` settles
right after `p`. The order in which promises that are ready get their turn is
left open, so what holds here holds for every scheduling of the jobs.

In a chain every promise hangs on the one before it. Then at most one of them
is running, and its body sees the shared state as if it were alone:
`Guarded.step` turns a property of a body running alone into one of all bodies
running together.

## Main definitions

* `Reaction`, `Status`, `Cell`: A promise, as what it does and how far it got.
* `Heap.step`: One turn of the scheduler.
* `TurnStep`: Everything one turn can do.
* `Heap.work`: The turns a heap takes before it comes to rest.
* `Chained`: Every promise hangs on the one before it.
* `Guarded`: The running body got where it is alone, from a good state.

## Theorems

* `step_eq_some`, `step_cases`: Everything one turn can do.
* `work_step`: A heap comes to rest unless it is given more to do.
* `Chained.running_unique`: One body runs at a time.
* `Guarded.step`, `Guarded.push`: The invariant of a chain.
-/

namespace VellarSdk

namespace Async

/-- What a promise does when the one it hangs on settles. -/
inductive Reaction (O : Type) (R : O → Type) (ε α : Type) where
  | run (body : Task O R ε α)
  | ignore

/-- How far a promise got. -/
inductive Status (O : Type) (R : O → Type) (ε α : Type) where
  | waiting
  | running (t : Task O R ε α)
  | settled

/-- A promise that hangs on the promise at `after`. -/
structure Cell (O : Type) (R : O → Type) (ε α : Type) where
  after : Nat
  reaction : Reaction O R ε α
  status : Status O R ε α

/-- Promises, by their position. -/
abbrev Heap (O : Type) (R : O → Type) (ε α : Type) := List (Cell O R ε α)

/-- A turn of the scheduler: start a promise that is due, answer the call one
    is waiting for, or settle one whose body has ended. -/
inductive Turn (O : Type) (R : O → Type) (ε : Type) where
  | fire (i : Nat)
  | reply (i : Nat) (answer : (o : O) → Except ε (R o))
  | settle (i : Nat)

variable {O : Type} {R : O → Type} {ε σ α : Type}

/-- Is this status final? -/
def Status.isSettled : Status O R ε α → Bool
  | .settled => true
  | .waiting | .running _ => false

/-- Has the promise at this position settled? -/
def Heap.settledAt (heap : Heap O R ε α) (i : Nat) : Bool :=
  match heap[i]? with
  | some c => c.status.isSettled
  | none => false

/-- The heap with a new status at a position. -/
def Heap.setStatus (heap : Heap O R ε α) (i : Nat) (c : Cell O R ε α)
    (status : Status O R ε α) : Heap O R ε α :=
  heap.set i { c with status := status }

/-- One turn of the scheduler. Between two awaits a body runs alone, so its
    synchronous calls are part of the turn. -/
def Heap.step (H : Handler O R ε σ) (turn : Turn O R ε) (heap : Heap O R ε α) (s : σ) :
    Option (Heap O R ε α × σ) :=
  match turn with
  | .fire i => match heap[i]? with
    | some c => match c.status, c.reaction with
      -- `then(fn, fn)`: both arguments are the same, so how the other one settled is not asked.
      | .waiting, .run body =>
          if heap.settledAt c.after then
            some (heap.setStatus i c (.running (body.advance H s).1), (body.advance H s).2)
          else none
      | .waiting, .ignore =>
          if heap.settledAt c.after then some (heap.setStatus i c .settled, s) else none
      | _, _ => none
    | none => none
  | .reply i answer => match heap[i]? with
    | some c => match c.status with
      -- The reply resumes the body, and what it then does at once belongs to this turn.
      | .running (.call o k) =>
          some (heap.setStatus i c (.running ((k (answer o)).advance H s).1),
            ((k (answer o)).advance H s).2)
      | _ => none
    | none => none
  | .settle i => match heap[i]? with
    | some c => match c.status with
      | .running (.done _) => some (heap.setStatus i c .settled, s)
      | _ => none
    | none => none

/-- What a turn does to one promise: its new status and the new state. -/
inductive CellStep (H : Handler O R ε σ) (heap : Heap O R ε α) (s : σ) :
    Cell O R ε α → Status O R ε α → σ → Prop where
  | start (c : Cell O R ε α) (body : Task O R ε α) (hstatus : c.status = .waiting)
      (hreaction : c.reaction = .run body) (hafter : heap.settledAt c.after = true) :
      CellStep H heap s c (.running (body.advance H s).1) (body.advance H s).2
  | skip (c : Cell O R ε α) (hstatus : c.status = .waiting)
      (hafter : heap.settledAt c.after = true) : CellStep H heap s c .settled s
  -- The reply is any at all: the scheduler's answer at this operation.
  | resume (c : Cell O R ε α) (o : O) (k : Except ε (R o) → Task O R ε α) (r : Except ε (R o))
      (hstatus : c.status = .running (.call o k)) :
      CellStep H heap s c (.running ((k r).advance H s).1) ((k r).advance H s).2
  | finish (c : Cell O R ε α) (r : Except ε α) (hstatus : c.status = .running (.done r)) :
      CellStep H heap s c .settled s

/-- A turn that a promise takes, with what becomes of the promise and of the
    state. -/
inductive TurnStep (H : Handler O R ε σ) (heap : Heap O R ε α) (s : σ) (i : Nat)
    (c : Cell O R ε α) : Turn O R ε → Status O R ε α → σ → Prop where
  | start (body : Task O R ε α) (hstatus : c.status = .waiting) (hreaction : c.reaction = .run body)
      (hafter : heap.settledAt c.after = true) :
      TurnStep H heap s i c (.fire i) (.running (body.advance H s).1) (body.advance H s).2
  | skip (hstatus : c.status = .waiting) (hreaction : c.reaction = .ignore)
      (hafter : heap.settledAt c.after = true) : TurnStep H heap s i c (.fire i) .settled s
  | resume (answer : (o : O) → Except ε (R o)) (o : O) (k : Except ε (R o) → Task O R ε α)
      (hstatus : c.status = .running (.call o k)) :
      TurnStep H heap s i c (.reply i answer) (.running ((k (answer o)).advance H s).1)
        ((k (answer o)).advance H s).2
  | finish (r : Except ε α) (hstatus : c.status = .running (.done r)) :
      TurnStep H heap s i c (.settle i) .settled s

/-- A turn happens when some promise takes it. -/
theorem step_eq_some {H : Handler O R ε σ} {turn : Turn O R ε} {heap heap' : Heap O R ε α}
    {s s' : σ} : heap.step H turn s = some (heap', s') ↔
      ∃ i c status, heap[i]? = some c ∧ TurnStep H heap s i c turn status s' ∧
        heap' = heap.setStatus i c status := by
  constructor
  · intro h
    -- A turn is possible for a cell that is there and in the state the turn is for.
    cases turn with
    | fire i =>
        cases hc : heap[i]? with
        | none => simp only [Heap.step, hc, reduceCtorEq] at h
        | some c =>
            simp only [Heap.step, hc] at h
            split at h
            · next body hstatus hreaction =>
                split at h
                · next hafter =>
                    rcases Prod.mk.inj (Option.some.inj h) with ⟨rfl, rfl⟩
                    exact ⟨i, c, _, hc, .start body hstatus hreaction hafter, rfl⟩
                · exact absurd h (by simp only [reduceCtorEq, not_false_eq_true])
            · next hstatus hreaction =>
                split at h
                · next hafter =>
                    rcases Prod.mk.inj (Option.some.inj h) with ⟨rfl, rfl⟩
                    exact ⟨i, c, _, hc, .skip hstatus hreaction hafter, rfl⟩
                · exact absurd h (by simp only [reduceCtorEq, not_false_eq_true])
            · exact absurd h (by simp only [reduceCtorEq, not_false_eq_true])
    | reply i answer =>
        cases hc : heap[i]? with
        | none => simp only [Heap.step, hc, reduceCtorEq] at h
        | some c =>
            simp only [Heap.step, hc] at h
            split at h
            · next o k hstatus =>
                rcases Prod.mk.inj (Option.some.inj h) with ⟨rfl, rfl⟩
                exact ⟨i, c, _, hc, .resume answer o k hstatus, rfl⟩
            · exact absurd h (by simp only [reduceCtorEq, not_false_eq_true])
    | settle i =>
        cases hc : heap[i]? with
        | none => simp only [Heap.step, hc, reduceCtorEq] at h
        | some c =>
            simp only [Heap.step, hc] at h
            split at h
            · next r hstatus =>
                rcases Prod.mk.inj (Option.some.inj h) with ⟨rfl, rfl⟩
                exact ⟨i, c, _, hc, .finish r hstatus, rfl⟩
            · exact absurd h (by simp only [reduceCtorEq, not_false_eq_true])
  · rintro ⟨i, c, status, hc, hstep, rfl⟩
    cases hstep with
    | start body hstatus hreaction hafter =>
        simp only [Heap.step, hc, hstatus, hreaction, hafter, if_true]
    | skip hstatus hreaction hafter =>
        simp only [Heap.step, hc, hstatus, hreaction, hafter, if_true]
    | resume answer o k hstatus => simp only [Heap.step, hc, hstatus]
    | finish r hstatus => simp only [Heap.step, hc, hstatus]

/-- Whichever turn it was, the promise took a step. -/
theorem TurnStep.cellStep {H : Handler O R ε σ} {heap : Heap O R ε α} {s s' : σ} {i : Nat}
    {c : Cell O R ε α} {turn : Turn O R ε} {status : Status O R ε α}
    (h : TurnStep H heap s i c turn status s') : CellStep H heap s c status s' := by
  cases h with
  | start body hstatus hreaction hafter => exact .start c body hstatus hreaction hafter
  | skip hstatus _ hafter => exact .skip c hstatus hafter
  | resume answer o k hstatus => exact .resume c o k (answer o) hstatus
  | finish r hstatus => exact .finish c r hstatus

/-- Everything one turn can do. -/
theorem step_cases {H : Handler O R ε σ} {turn : Turn O R ε} {heap heap' : Heap O R ε α}
    {s s' : σ} (h : heap.step H turn s = some (heap', s')) :
    ∃ i c status, heap[i]? = some c ∧ CellStep H heap s c status s' ∧
      heap' = heap.setStatus i c status := by
  obtain ⟨i, c, status, hc, hstep, hheap⟩ := step_eq_some.mp h
  exact ⟨i, c, status, hc, hstep.cellStep, hheap⟩

/-- Only a promise that has not settled takes a turn. -/
theorem CellStep.not_settled {H : Handler O R ε σ} {heap : Heap O R ε α} {s s' : σ}
    {c : Cell O R ε α} {status : Status O R ε α} (h : CellStep H heap s c status s') :
    c.status.isSettled = false := by
  cases h with
  | start _ hstatus _ _ | skip hstatus _ | resume _ _ _ hstatus | finish _ hstatus =>
      rw [hstatus]
      rfl

/-- Every promise hangs on the one before it, the first has settled, and one
    that has started finds all before it settled. -/
structure Chained (heap : Heap O R ε α) : Prop where
  root : heap.settledAt 0 = true
  after : ∀ i c, heap[i + 1]? = some c → c.after = i
  order : ∀ i c, heap[i + 1]? = some c → c.status ≠ .waiting → ∀ j ≤ i, heap.settledAt j = true

section Chain

variable {H : Handler O R ε σ} {heap heap' : Heap O R ε α} {s s' : σ} {i : Nat}
  {c : Cell O R ε α} {status : Status O R ε α}

theorem settledAt_eq_true : heap.settledAt i = true ↔
    ∃ c, heap[i]? = some c ∧ c.status.isSettled = true := by
  unfold Heap.settledAt
  cases heap[i]? with
  | none => simp only [Bool.false_eq_true, reduceCtorEq, false_and, exists_false]
  | some c => simp only [Option.some.injEq, exists_eq_left']

/-- A lookup after a status changed. -/
theorem getElem?_setStatus (hc : heap[i]? = some c) (j : Nat) :
    (heap.setStatus i c status)[j]? = if i = j then some { c with status := status }
      else heap[j]? := by
  have hlt : i < heap.length := (List.getElem?_eq_some_iff.mp hc).1
  rw [Heap.setStatus, List.getElem?_set]
  by_cases hij : i = j
  · rw [if_pos hij, if_pos hij, if_pos hlt]
  · rw [if_neg hij, if_neg hij]

/-- Settled promises stay settled. -/
theorem settledAt_setStatus (hc : heap[i]? = some c) (hstep : CellStep H heap s c status s')
    {j : Nat} (hj : heap.settledAt j = true) : (heap.setStatus i c status).settledAt j = true := by
  rcases settledAt_eq_true.mp hj with ⟨c', hc', hsettled⟩
  -- A promise that takes a turn has not settled, so it is not the one at `j`.
  have hij : i ≠ j := by
    rintro rfl
    rw [hc, Option.some.injEq] at hc'
    rw [← hc', hstep.not_settled] at hsettled
    exact Bool.false_ne_true hsettled
  refine settledAt_eq_true.mpr ⟨c', ?_, hsettled⟩
  rw [getElem?_setStatus hc, if_neg hij]
  exact hc'

/-- Everything before a settled promise has settled. -/
theorem Chained.settled_below (h : Chained heap) (hi : heap.settledAt i = true) :
    ∀ j ≤ i, heap.settledAt j = true := by
  intro j hj
  -- Not an induction: a settled promise has started, and `order` then covers all below it.
  cases i with
  | zero => rwa [Nat.le_zero.mp hj]
  | succ i =>
      rcases Nat.lt_or_ge i j with hlt | hge
      · rwa [show j = i + 1 by omega]
      · rcases settledAt_eq_true.mp hi with ⟨c, hc, hsettled⟩
        refine h.order i c hc ?_ j hge
        intro hwaiting
        rw [hwaiting] at hsettled
        exact Bool.false_ne_true hsettled

/-- One body runs at a time. -/
theorem Chained.running_unique (h : Chained heap) {j : Nat} {c' : Cell O R ε α}
    {t t' : Task O R ε α} (hc : heap[i]? = some c) (ht : c.status = .running t)
    (hc' : heap[j]? = some c') (ht' : c'.status = .running t') : i = j := by
  -- Of two that run, the later one found the earlier one settled.
  have hbelow : ∀ (i j : Nat) (c c' : Cell O R ε α) (t t' : Task O R ε α), heap[i]? = some c →
      c.status = .running t → heap[j]? = some c' → c'.status = .running t' → ¬ i < j := by
    intro i j c c' t t' hc ht hc' ht' hlt
    cases j with
    | zero => omega
    | succ j =>
        have hsettled := h.order j c' hc' (by rw [ht']; simp only [ne_eq, reduceCtorEq,
          not_false_eq_true]) i (by omega)
        rcases settledAt_eq_true.mp hsettled with ⟨d, hd, hds⟩
        rw [hc, Option.some.injEq] at hd
        rw [← hd, ht] at hds
        exact Bool.false_ne_true hds
  have h1 := hbelow i j c c' t t' hc ht hc' ht'
  have h2 := hbelow j i c' c t' t hc' ht' hc ht
  omega

/-- A turn keeps the chain. A promise starts only when the one before it has
    settled, and then so have all the others before it. -/
theorem Chained.setStatus (h : Chained heap) (hc : heap[i]? = some c)
    (hstep : CellStep H heap s c status s') : Chained (heap.setStatus i c status) := by
  refine ⟨settledAt_setStatus hc hstep h.root, fun j d hd => ?_, fun j d hd hnot k hk => ?_⟩
  · rw [getElem?_setStatus hc] at hd
    by_cases hij : i = j + 1
    · rw [if_pos hij, Option.some.injEq] at hd
      subst hij
      rw [← hd]
      exact h.after j c hc
    · rw [if_neg hij] at hd
      exact h.after j d hd
  · refine settledAt_setStatus hc hstep ?_
    rw [getElem?_setStatus hc] at hd
    by_cases hij : i = j + 1
    · subst hij
      have hprev := h.after j c hc
      cases hstep with
      -- It only starts now: the one it hangs on has settled, hence all below that.
      | start _ _ _ hafter | skip _ hafter =>
          rw [hprev] at hafter
          exact h.settled_below hafter k hk
      -- It had started before, when the same already held.
      | resume _ _ _ hstatus | finish _ hstatus =>
          exact h.order j c hc (by rw [hstatus]; simp only [ne_eq, reduceCtorEq,
            not_false_eq_true]) k hk
    · rw [if_neg hij] at hd
      exact h.order j d hd hnot k hk

/-- Every promise of a longer heap is an old one or the one that was added. -/
theorem getElem?_push {added : Cell O R ε α} (hc : (heap ++ [added])[i]? = some c) :
    heap[i]? = some c ∨ i = heap.length ∧ c = added := by
  rcases Nat.lt_or_ge i heap.length with hlt | hge
  · rw [List.getElem?_append_left hlt] at hc
    exact .inl hc
  · rw [List.getElem?_append_right hge, List.getElem?_singleton] at hc
    split at hc
    · exact .inr ⟨by omega, (Option.some.inj hc).symm⟩
    · exact absurd hc (by simp only [reduceCtorEq, not_false_eq_true])

theorem getElem?_push_of_some (added : Cell O R ε α) (hc : heap[i]? = some c) :
    (heap ++ [added])[i]? = some c := by
  rw [List.getElem?_append_left (List.getElem?_eq_some_iff.mp hc).1, hc]

/-- A chain grows by a promise that waits for its last one. -/
theorem Chained.push (h : Chained heap) (reaction : Reaction O R ε α) {tail : Nat}
    (htail : heap.length = tail + 1) : Chained (heap ++ [⟨tail, reaction, .waiting⟩]) := by
  have hsettled : ∀ i, heap.settledAt i = true →
      (heap ++ [⟨tail, reaction, .waiting⟩] : Heap O R ε α).settledAt i = true := by
    intro i hi
    rcases settledAt_eq_true.mp hi with ⟨c, hc, hcs⟩
    exact settledAt_eq_true.mpr ⟨c, getElem?_push_of_some _ hc, hcs⟩
  refine ⟨hsettled 0 h.root, fun i c hc => ?_, fun i c hc hnot j hj => ?_⟩
  · rcases getElem?_push hc with hc | ⟨hi, rfl⟩
    · exact h.after i c hc
    · exact Nat.succ.inj (htail.symm.trans hi.symm)
  · rcases getElem?_push hc with hc | ⟨-, rfl⟩
    · exact hsettled j (h.order i c hc hnot j hj)
    · exact absurd rfl hnot

end Chain

section Work

/-- The turns a promise takes of its own accord before it settles. -/
def Cell.work (c : Cell O R ε α) : Nat :=
  match c.status, c.reaction with
  | .waiting, .run _ => 2
  | .waiting, .ignore => 1
  | .running _, _ => 1
  | .settled, _ => 0

/-- What a heap has left to do, apart from the replies it waits for. -/
def Heap.work : Heap O R ε α → Nat
  | [] => 0
  | c :: heap => c.work + Heap.work heap

/-- Is the turn one the scheduler takes of its own accord? -/
def Turn.effort : Turn O R ε → Nat
  | .fire _ | .settle _ => 1
  | .reply _ _ => 0

variable {H : Handler O R ε σ} {heap heap' : Heap O R ε α} {s s' : σ} {i : Nat}
  {c : Cell O R ε α} {status : Status O R ε α} {turn : Turn O R ε}

theorem work_append (heap heap' : Heap O R ε α) :
    Heap.work (heap ++ heap') = heap.work + heap'.work := by
  induction heap with
  | nil => rw [List.nil_append, Heap.work, Nat.zero_add]
  | cons c heap ih => rw [List.cons_append, Heap.work, Heap.work, ih, Nat.add_assoc]

/-- A promise changes by itself. -/
theorem work_setStatus (status : Status O R ε α) (hc : heap[i]? = some c) :
    (heap.setStatus i c status).work + c.work = heap.work + Cell.work { c with status := status } := by
  obtain ⟨hlt, hget⟩ := List.getElem?_eq_some_iff.mp hc
  have hsplit : heap = heap.take i ++ c :: heap.drop (i + 1) := by
    rw [← hget, ← List.drop_eq_getElem_cons hlt, List.take_append_drop]
  have hset : heap.setStatus i c status =
      heap.take i ++ { c with status := status } :: heap.drop (i + 1) :=
    List.set_eq_take_append_cons_drop.trans (if_pos hlt)
  calc (heap.setStatus i c status).work + c.work
      = Heap.work (heap.take i ++ { c with status := status } :: heap.drop (i + 1)) + c.work := by
        rw [hset]
    _ = Heap.work (heap.take i ++ c :: heap.drop (i + 1)) + Cell.work { c with status := status } := by
        rw [work_append, work_append]
        simp only [Heap.work]
        omega
    _ = heap.work + Cell.work { c with status := status } := by rw [← hsplit]

/-- Every turn the scheduler takes of its own accord is one less to take. -/
theorem work_step (h : heap.step H turn s = some (heap', s')) :
    heap'.work + turn.effort = heap.work := by
  obtain ⟨i, c, status, hc, hstep, rfl⟩ := step_eq_some.mp h
  -- Only the cell of the turn changes, and its work shrinks by what the turn did.
  have hwork := work_setStatus status hc
  cases hstep with
  | start body hstatus hreaction _ =>
      simp only [Cell.work, hstatus, hreaction] at hwork
      simp only [Turn.effort]
      omega
  | skip hstatus hreaction _ =>
      simp only [Cell.work, hstatus, hreaction] at hwork
      simp only [Turn.effort]
      omega
  | resume answer o k hstatus =>
      simp only [Cell.work, hstatus] at hwork
      simp only [Turn.effort]
      omega
  | finish r hstatus =>
      simp only [Cell.work, hstatus] at hwork
      simp only [Turn.effort]
      omega

end Work

/-- A body that stands at an awaited call, or has ended. -/
def Task.Awaiting (H : Handler O R ε σ) (t : Task O R ε α) : Prop :=
  ∀ o k, t = .call o k → H.exec o = none

theorem advance_awaiting (H : Handler O R ε σ) (t : Task O R ε α) (s : σ) :
    (t.advance H s).1.Awaiting H := by
  induction t generalizing s with
  | done r =>
      intro o k h
      exact absurd h (by simp only [Task.advance, reduceCtorEq, not_false_eq_true])
  | call o k ih =>
      cases hf : H.exec o with
      | none =>
          simp only [Task.advance, hf]
          intro o' k' h
          injection h with ho _
          rw [← ho]
          exact hf
      | some f =>
          simp only [Task.advance, hf]
          exact ih _ _

/-- The invariant of a chain of bodies over a shared state: the state is good,
    and the body that runs got where it is alone, from a good state. -/
structure Guarded (H : Handler O R ε σ) (Body : Task O R ε α → Prop) (Good : σ → Prop)
    (heap : Heap O R ε α) (s : σ) : Prop where
  chained : Chained heap
  good : Good s
  bodies : ∀ (i : Nat) (c : Cell O R ε α) body, heap[i]? = some c → c.reaction = .run body →
    Body body
  alone : ∀ (i : Nat) (c : Cell O R ε α) t, heap[i]? = some c → c.status = .running t →
    t.Awaiting H ∧ ∃ body s₀ tr, Body body ∧ Good s₀ ∧ Run H body s₀ tr t s

section Invariant

variable {H : Handler O R ε σ} {Body : Task O R ε α → Prop} {Good : σ → Prop}
  {heap heap' : Heap O R ε α} {s s' : σ}

/-- What a turn does to the promise that takes it: it settles and the state is
    untouched, or its body moved on, alone. -/
theorem Guarded.turn (h : Guarded H Body Good heap s) {i : Nat} {c : Cell O R ε α}
    {status : Status O R ε α} (hc : heap[i]? = some c)
    (hstep : CellStep H heap s c status s') :
    status = .settled ∧ s' = s ∨ ∃ t, status = .running t ∧ t.Awaiting H ∧
      ∃ body s₀ tr, Body body ∧ Good s₀ ∧ Run H body s₀ tr t s' := by
  cases hstep with
  | start body _ hreaction _ =>
      rcases run_advance H body s with ⟨tr, hrun⟩
      exact Or.inr ⟨_, rfl, advance_awaiting H body s, body, s, tr,
        h.bodies i c body hc hreaction, h.good, hrun⟩
  | skip _ _ => exact Or.inl ⟨rfl, rfl⟩
  | resume o k r hstatus =>
      rcases h.alone i c _ hc hstatus with ⟨hawait, body, s₀, tr, hbody, hgood, hrun⟩
      rcases run_advance H (k r) s with ⟨tr', hrun'⟩
      -- The run so far, the reply, and then the calls up to the next await.
      have hreply := Run.reply o k s r tr' _ _ (hawait o k rfl) hrun'
      exact Or.inr ⟨_, rfl, advance_awaiting H (k r) s, body, s₀, _, hbody, hgood,
        run_trans hrun hreply⟩
  | finish _ _ => exact Or.inl ⟨rfl, rfl⟩

/-- Bodies that keep the state good when they run alone keep it good when they
    run together. While one of them runs no other does, so nothing that
    happens to the state in between is somebody else's. -/
theorem Guarded.step
    (hsafe : ∀ body s₀ tr t s, Body body → Good s₀ → Run H body s₀ tr t s → Good s)
    (h : Guarded H Body Good heap s) {turn : Turn O R ε}
    (hturn : heap.step H turn s = some (heap', s')) : Guarded H Body Good heap' s' := by
  rcases step_cases hturn with ⟨i, c, status, hc, hstep, rfl⟩
  have hchained := h.chained.setStatus hc hstep
  have hself : (heap.setStatus i c status)[i]? = some { c with status := status } := by
    rw [getElem?_setStatus hc, if_pos rfl]
  refine ⟨hchained, ?_, fun j d body hd hreaction => ?_, fun j d t hd ht => ?_⟩
  -- The state is good because the body alone would have made it so.
  · rcases h.turn hc hstep with ⟨-, rfl⟩ | ⟨t, -, -, body, s₀, tr, hbody, hgood, hrun⟩
    · exact h.good
    · exact hsafe body s₀ tr t s' hbody hgood hrun
  · rw [getElem?_setStatus hc] at hd
    by_cases hij : i = j
    · rw [if_pos hij, Option.some.injEq] at hd
      rw [← hd] at hreaction
      exact h.bodies i c body hc hreaction
    · rw [if_neg hij] at hd
      exact h.bodies j d body hd hreaction
  · rcases h.turn hc hstep with ⟨rfl, rfl⟩ | ⟨t', rfl, hawait, hrun⟩
    · -- The turn settled its promise, so what runs is another one, untouched.
      rw [getElem?_setStatus hc] at hd
      by_cases hij : i = j
      · rw [if_pos hij, Option.some.injEq] at hd
        rw [← hd] at ht
        exact absurd ht (by simp only [reduceCtorEq, not_false_eq_true])
      · rw [if_neg hij] at hd
        exact h.alone j d t hd ht
    · -- What runs is the promise that took the turn.
      have hij : i = j := hchained.running_unique hself rfl hd ht
      subst hij
      rw [hself, Option.some.injEq] at hd
      rw [← hd] at ht
      injection ht with ht
      rw [← ht]
      exact ⟨hawait, hrun⟩

/-- A body joins the chain behind the others. -/
theorem Guarded.push (h : Guarded H Body Good heap s) (reaction : Reaction O R ε α)
    (hreaction : ∀ body, reaction = .run body → Body body) {tail : Nat}
    (htail : heap.length = tail + 1) :
    Guarded H Body Good (heap ++ [⟨tail, reaction, .waiting⟩]) s := by
  refine ⟨h.chained.push reaction htail, h.good, fun i c body hc hr => ?_, fun i c t hc ht => ?_⟩
  · rcases getElem?_push hc with hc | ⟨-, rfl⟩
    · exact h.bodies i c body hc hr
    · exact hreaction body hr
  · rcases getElem?_push hc with hc | ⟨-, rfl⟩
    · exact h.alone i c t hc ht
    · exact absurd ht (by simp only [reduceCtorEq, not_false_eq_true])

end Invariant

end Async

end VellarSdk
