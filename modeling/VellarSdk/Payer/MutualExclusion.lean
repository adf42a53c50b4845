import Mathlib.Data.List.Nodup
import VellarSdk.Async.Machine
import VellarSdk.Payer.Concurrent

/-!
# Mutual Exclusion

What the promise chain of the mutex is for. Sections come in at any time, also
while others run, and end either way. At most one of them runs, they start in
the order they came in, and a caller gets what its own section came to.

Two promises are made for each section, the result the caller holds and the tail
that swallows the outcome, so of the promises after the root the odd ones are
results. The sections that have started are then a prefix of those that came in,
and so are those that have ended: `Logged` says this of any property of a promise
that the ones below it had first.

Nothing is assumed about the order of turns. A turn the scheduler takes of its own
accord is one less to take, and when there are none left every section has had its
turn, unless one of them still waits for a reply.

## Main definitions

* `MutexState`, `mutexMachine`: A mutex in use, with what its callers saw.
* `Idle`: The scheduler has nothing to do.
* `Logged`: The promises that got so far are the first ones.
* `Fair`: What holds of a mutex throughout.

## Theorems

* `fair_step`: The invariant is kept.
* `idle_done`: When there is nothing to do, everything was done.
* `effort_run`: And it comes to that.
* `mutex_is_fair`: Exclusion, order, outcomes and progress, in every run.
-/

namespace VellarSdk

namespace Payer

open Async

/-- A mutex in use: what it guards, the promises that were handed out with their
    sections, the sections that started, and the answers the callers got, each
    list in the order in which that happened. -/
structure MutexState (O : Type) (R : O → Type) (ε σ α : Type) where
  exclusive : Mutex O R ε α
  shared : σ
  calls : List (Nat × Task O R ε α)
  started : List Nat
  answers : List (Nat × Except ε α)

/-- A call of `run`, or a turn of the scheduler. -/
inductive MutexEvent (O : Type) (R : O → Type) (ε α : Type) where
  | run (fn : Task O R ε α)
  | turn (turn : Turn O R ε)

variable {O : Type} {R : O → Type} {ε σ α : Type}

/-- The promise `run` returns. -/
def Mutex.result (m : Mutex O R ε α) : Nat :=
  m.heap.length

/-- The section a turn starts. -/
def startedBy (heap : Heap O R ε α) : Turn O R ε → List Nat
  | .fire i => match heap[i]? with
    | some c => match c.reaction with
      | .run _ => [i]
      | .ignore => []
    | none => []
  | .reply _ _ | .settle _ => []

/-- The answer a turn gives to a caller. -/
def answeredBy (heap : Heap O R ε α) : Turn O R ε → List (Nat × Except ε α)
  | .settle i => match heap[i]? with
    | some c => match c.status with
      | .running (.done r) => [(i, r)]
      | _ => []
    | none => []
  | .fire _ | .reply _ _ => []

/-- What can happen to a mutex. -/
def mutexMachine (H : Handler O R ε σ) : Machine (MutexState O R ε σ α) (MutexEvent O R ε α) where
  step m
    | .run fn => some { m with
        exclusive := m.exclusive.run fn
        calls := m.calls ++ [(m.exclusive.result, fn)] }
    | .turn turn => match m.exclusive.heap.step H turn m.shared with
      | some (heap, shared) => some {
          exclusive := { m.exclusive with heap := heap }
          shared := shared
          calls := m.calls
          started := m.started ++ startedBy m.exclusive.heap turn
          answers := m.answers ++ answeredBy m.exclusive.heap turn }
      | none => none

/-- A new mutex, guarding a state. -/
def newMutex (shared : σ) : MutexState O R ε σ α :=
  { exclusive := createMutex, shared := shared, calls := [], started := [], answers := [] }

namespace MutexState

/-- The promises that were handed out. -/
def results (m : MutexState O R ε σ α) : List Nat :=
  m.calls.map Prod.fst

/-- The callers that got an answer. -/
def answered (m : MutexState O R ε σ α) : List Nat :=
  m.answers.map Prod.fst

/-- The section is running. -/
def Running (m : MutexState O R ε σ α) (i : Nat) : Prop :=
  ∃ c t, m.exclusive.heap[i]? = some c ∧ c.status = .running t

/-- The section waits for a reply. -/
def AwaitsReply (m : MutexState O R ε σ α) (i : Nat) : Prop :=
  ∃ c o k, m.exclusive.heap[i]? = some c ∧ c.status = .running (.call o k)

/-- The scheduler has nothing to do. -/
def Idle (H : Handler O R ε σ) (m : MutexState O R ε σ α) : Prop :=
  ∀ turn, turn.effort = 1 → (mutexMachine H).step m (.turn turn) = none

end MutexState

section Logs

/-- The results that meet the condition are the first ones, as they are logged. -/
structure Logged (P : Status O R ε α → Prop) (heap : Heap O R ε α) (results log : List Nat) :
    Prop where
  initial : log <+: results
  marks : ∀ k c, heap[2 * k + 1]? = some c → (k < log.length ↔ P c.status)

variable {P : Status O R ε α → Prop} {heap : Heap O R ε α} {results log : List Nat} {i k : Nat}
  {c : Cell O R ε α} {status : Status O R ε α}

/-- The next element makes a longer prefix. -/
theorem prefix_concat {l p : List Nat} {x : Nat} (h : p <+: l) (hx : l[p.length]? = some x) :
    p ++ [x] <+: l := by
  obtain ⟨rest, rfl⟩ := h
  rw [List.getElem?_append_right (Nat.le_refl _), Nat.sub_self] at hx
  cases rest with
  | nil => exact absurd hx (by simp only [List.getElem?_nil, reduceCtorEq, not_false_eq_true])
  | cons y rest =>
      rw [List.getElem?_cons_zero, Option.some.injEq] at hx
      subst hx
      exact ⟨rest, by rw [List.append_assoc, List.singleton_append]⟩

/-- A turn that makes no difference to whether a result meets the condition leaves
    the log alone. -/
theorem Logged.keep (h : Logged P heap results log) (hc : heap[i]? = some c)
    (hsame : ∀ k, i = 2 * k + 1 → (P status ↔ P c.status)) : Logged P (heap.setStatus i c status) results log := by
  refine ⟨h.initial, fun k d hd => ?_⟩
  rw [getElem?_setStatus hc] at hd
  by_cases hik : i = 2 * k + 1
  · rw [if_pos hik, Option.some.injEq] at hd
    subst hik hd
    rw [h.marks k c hc, hsame k rfl]
  · rw [if_neg hik] at hd
    exact h.marks k d hd

/-- A result that meets the condition after all before it is the next of the log. -/
theorem Logged.add (h : Logged P heap results log) (hc : heap[2 * k + 1]? = some c)
    (hbelow : ∀ j < k, ∃ d, heap[2 * j + 1]? = some d ∧ P d.status) (hnot : ¬ P c.status)
    (hnow : P status) (hresult : results[k]? = some (2 * k + 1)) :
    Logged P (heap.setStatus (2 * k + 1) c status) results (log ++ [2 * k + 1]) := by
  -- All before were logged and this one was not, so it is the next.
  have hlength : log.length = k := by
    have hge : ¬ k < log.length := fun hlt => hnot ((h.marks k c hc).mp hlt)
    cases k with
    | zero => omega
    | succ k =>
        obtain ⟨d, hd, hP⟩ := hbelow k (Nat.lt_succ_self k)
        have hlt := (h.marks k d hd).mpr hP
        omega
  refine ⟨prefix_concat h.initial (by rw [hlength, hresult]), fun j d hd => ?_⟩
  rw [getElem?_setStatus hc] at hd
  rw [List.length_append, List.length_singleton, hlength]
  by_cases hjk : 2 * k + 1 = 2 * j + 1
  · rw [if_pos hjk, Option.some.injEq] at hd
    subst hd
    exact iff_of_true (by omega) hnow
  · rw [if_neg hjk] at hd
    have hold := h.marks j d hd
    rw [hlength] at hold
    rw [← hold]
    omega

/-- A new result, which does not meet the condition yet. -/
theorem Logged.push (h : Logged P heap results log) (hlength : heap.length = 2 * results.length + 1)
    (hwaiting : ¬ P .waiting) {reaction : Reaction O R ε α} {after result : Nat}
    {swallow : Cell O R ε α} :
    Logged P ((heap ++ [⟨after, reaction, .waiting⟩]) ++ [swallow]) (results ++ [result]) log := by
  refine ⟨h.initial.trans (List.prefix_append _ _), fun k c hc => ?_⟩
  have hle := h.initial.length_le
  rcases Nat.lt_trichotomy k results.length with hlt | rfl | hgt
  · rw [List.append_assoc, List.getElem?_append_left (by omega)] at hc
    exact h.marks k c hc
  · rw [List.append_assoc, List.getElem?_append_right (by omega), hlength, Nat.sub_self,
      List.singleton_append, List.getElem?_cons_zero, Option.some.injEq] at hc
    subst hc
    exact iff_of_false (by omega) hwaiting
  · rw [List.getElem?_eq_none (by simp only [List.length_append, List.length_singleton]; omega)] at hc
    exact absurd hc (by simp only [reduceCtorEq, not_false_eq_true])

end Logs

/-- What holds of a mutex throughout: its promises come in pairs, what runs is the
    section its promise was made for, alone so far, and the logs say how far the
    sections got. -/
structure Fair (H : Handler O R ε σ) (m : MutexState O R ε σ α) : Prop where
  chained : Chained m.exclusive.heap
  length : m.exclusive.heap.length = 2 * m.calls.length + 1
  tail : m.exclusive.tail = 2 * m.calls.length
  paired : ∀ k i fn, m.calls[k]? = some (i, fn) → i = 2 * k + 1 ∧
    ∃ c, m.exclusive.heap[i]? = some c ∧ c.reaction = .run fn
  swallows : ∀ k c, m.exclusive.heap[2 * k]? = some c → c.reaction = .ignore
  alone : ∀ (i : Nat) (c : Cell O R ε α) t, m.exclusive.heap[i]? = some c →
    c.status = .running t → t.Awaiting H ∧
      ∃ fn s₀ tr, c.reaction = .run fn ∧ Run H fn s₀ tr t m.shared
  starts : Logged (fun status => status ≠ .waiting) m.exclusive.heap m.results m.started
  ends : Logged (fun status => status.isSettled = true) m.exclusive.heap m.results m.answered
  outcomes : ∀ i r, (i, r) ∈ m.answers →
    ∃ fn s₀ tr s₁, (i, fn) ∈ m.calls ∧ Run H fn s₀ tr (.done r) s₁

section Invariant

variable {H : Handler O R ε σ} {m m' : MutexState O R ε σ α} {i k : Nat} {c : Cell O R ε α}
  {fn : Task O R ε α} {shared : σ}

/-- Only the sections run, and each under the promise it was made for. -/
theorem Fair.section_of_run (h : Fair H m) (hc : m.exclusive.heap[i]? = some c)
    (hreaction : c.reaction = .run fn) :
    ∃ k, i = 2 * k + 1 ∧ m.results[k]? = some i ∧ (i, fn) ∈ m.calls := by
  have hlt : i < m.exclusive.heap.length := (List.getElem?_eq_some_iff.mp hc).1
  have hlength := h.length
  rcases Nat.even_or_odd' i with ⟨k, rfl | rfl⟩
  · rw [h.swallows k c hc] at hreaction
    exact absurd hreaction (by simp only [reduceCtorEq, not_false_eq_true])
  · obtain ⟨⟨j, fn'⟩, hcall⟩ : ∃ call, m.calls[k]? = some call :=
      ⟨_, List.getElem?_eq_getElem (by omega)⟩
    obtain ⟨rfl, d, hd, hfn⟩ := h.paired k j fn' hcall
    rw [hc, Option.some.injEq] at hd
    subst hd
    rw [hreaction, Reaction.run.injEq] at hfn
    subst hfn
    exact ⟨k, rfl, by rw [MutexState.results, List.getElem?_map, hcall]; rfl,
      List.mem_of_getElem? hcall⟩

/-- What has started found every result before it settled. -/
theorem settled_before {heap : Heap O R ε α} (h : Chained heap)
    (hc : heap[2 * k + 1]? = some c) (hstarted : heap.settledAt c.after = true ∨ c.status ≠ .waiting) :
    ∀ j < k, ∃ d, heap[2 * j + 1]? = some d ∧ d.status.isSettled = true := by
  intro j hj
  refine settledAt_eq_true.mp ?_
  rcases hstarted with hafter | hstarted
  · rw [h.after _ c hc] at hafter
    exact h.settled_below hafter _ (by omega)
  · exact h.order _ c hc hstarted _ (by omega)

theorem fair_new (H : Handler O R ε σ) (shared : σ) :
    Fair H (newMutex shared : MutexState O R ε σ α) := by
  have hget : ∀ (i : Nat) (c : Cell O R ε α), (newMutex shared :
      MutexState O R ε σ α).exclusive.heap[i]? = some c → i = 0 ∧ c = ⟨0, .ignore, .settled⟩ := by
    intro i c hc
    cases i with
    | zero => exact ⟨rfl, (Option.some.inj hc).symm⟩
    | succ i => exact absurd hc (by simp only [newMutex, createMutex, List.getElem?_cons_succ,
        List.getElem?_nil, reduceCtorEq, not_false_eq_true])
  refine ⟨⟨rfl, fun i c hc => ?_, fun i c hc => ?_⟩, rfl, rfl, fun k i fn hcall => ?_,
    fun k c hc => ?_, fun i c t hc ht => ?_, ⟨List.prefix_rfl, fun k c hc => ?_⟩,
    ⟨List.prefix_rfl, fun k c hc => ?_⟩, fun i r hr => ?_⟩
  · exact absurd (hget _ c hc).1 (Nat.succ_ne_zero i)
  · exact absurd (hget _ c hc).1 (Nat.succ_ne_zero i)
  · exact absurd hcall (by simp only [newMutex, List.getElem?_nil, reduceCtorEq, not_false_eq_true])
  · rw [(hget _ c hc).2]
  · rw [(hget i c hc).2] at ht
    exact absurd ht (by simp only [reduceCtorEq, not_false_eq_true])
  · exact absurd (hget _ c hc).1 (Nat.succ_ne_zero _)
  · exact absurd (hget _ c hc).1 (Nat.succ_ne_zero _)
  · exact absurd hr List.not_mem_nil

/-- A new section is queued behind the others. -/
theorem fair_call (h : Fair H m) (hstep : (mutexMachine H).step m (.run fn) = some m') :
    Fair H m' := by
  have hm' : m' = { m with
      exclusive := m.exclusive.run fn
      calls := m.calls ++ [(m.exclusive.result, fn)] } := (Option.some.inj hstep).symm
  subst hm'
  have hlength := h.length
  have hresult : m.exclusive.result = 2 * m.calls.length + 1 := hlength
  have hresults : m.results.length = m.calls.length := List.length_map ..
  have hheap : (m.exclusive.run fn).heap = (m.exclusive.heap ++
      [⟨2 * m.calls.length, .run fn, .waiting⟩]) ++ [⟨2 * m.calls.length + 1, .ignore, .waiting⟩] := by
    rw [Mutex.run, h.tail, hlength]
  -- A lookup in the longer heap.
  have hget : ∀ (i : Nat) (c : Cell O R ε α), (m.exclusive.run fn).heap[i]? = some c →
      m.exclusive.heap[i]? = some c ∨
      (i = 2 * m.calls.length + 1 ∧ c = ⟨2 * m.calls.length, .run fn, .waiting⟩) ∨
      (i = 2 * m.calls.length + 2 ∧ c = ⟨2 * m.calls.length + 1, .ignore, .waiting⟩) := by
    intro i c hc
    rw [hheap] at hc
    rcases getElem?_push hc with hc | ⟨hi, rfl⟩
    · rcases getElem?_push hc with hc | ⟨hi, rfl⟩
      · exact .inl hc
      · exact .inr (.inl ⟨hi.trans hlength, rfl⟩)
    · rw [List.length_append, hlength, List.length_singleton] at hi
      exact .inr (.inr ⟨hi, rfl⟩)
  have hchained : Chained (m.exclusive.run fn).heap := by
    rw [hheap]
    exact (h.chained.push _ hlength).push _ (by rw [List.length_append, hlength,
      List.length_singleton])
  refine ⟨hchained, ?_, ?_, fun k i fn' hcall => ?_, fun k c hc => ?_, fun i c t hc ht => ?_, ?_, ?_,
    fun i r hr => ?_⟩
  · simp only [Mutex.run, List.length_append, List.length_singleton, hlength]
    omega
  · simp only [Mutex.run, List.length_append, List.length_singleton, hlength]
    omega
  · rcases Nat.lt_or_ge k m.calls.length with hlt | hge
    · rw [List.getElem?_append_left hlt] at hcall
      obtain ⟨hi, c, hc, hreaction⟩ := h.paired k i fn' hcall
      exact ⟨hi, c, getElem?_push_of_some _ (getElem?_push_of_some _ hc), hreaction⟩
    · rw [List.getElem?_append_right hge, List.getElem?_singleton] at hcall
      split at hcall
      · next hk =>
          obtain ⟨rfl, rfl⟩ := Prod.mk.inj (Option.some.inj hcall)
          refine ⟨by omega, ⟨m.exclusive.tail, .run fn, .waiting⟩, ?_, rfl⟩
          rw [Mutex.run, Mutex.result, List.append_assoc,
            List.getElem?_append_right (Nat.le_refl _), Nat.sub_self]
          rfl
      · exact absurd hcall (by simp only [reduceCtorEq, not_false_eq_true])
  · rcases hget _ c hc with hc | ⟨hi, rfl⟩ | ⟨-, rfl⟩
    · exact h.swallows k c hc
    · omega
    · rfl
  · rcases hget i c hc with hc | ⟨-, rfl⟩ | ⟨-, rfl⟩
    · exact h.alone i c t hc ht
    · exact absurd ht (by simp only [reduceCtorEq, not_false_eq_true])
    · exact absurd ht (by simp only [reduceCtorEq, not_false_eq_true])
  · rw [MutexState.results, List.map_append]
    exact h.starts.push (by rw [hlength, hresults]) (fun hnot => hnot rfl)
  · rw [MutexState.results, List.map_append]
    exact h.ends.push (by rw [hlength, hresults]) Bool.false_ne_true
  · obtain ⟨fn', s₀, tr, s₁, hmem, hrun⟩ := h.outcomes i r hr
    exact ⟨fn', s₀, tr, s₁, List.mem_append_left _ hmem, hrun⟩

/-- While one section gets on, no other runs, so what it finds is what it left. -/
theorem Fair.alone_turn (h : Fair H m) {turn : Turn O R ε} {status : Status O R ε α}
    (hc : m.exclusive.heap[i]? = some c)
    (hstep : TurnStep H m.exclusive.heap m.shared i c turn status shared) :
    ∀ (j : Nat) (d : Cell O R ε α) t, (m.exclusive.heap.setStatus i c status)[j]? = some d →
      d.status = .running t → t.Awaiting H ∧
        ∃ fn s₀ tr, d.reaction = .run fn ∧ Run H fn s₀ tr t shared := by
  intro j d t hd ht
  have hchained := h.chained.setStatus hc hstep.cellStep
  by_cases hij : i = j
  · subst hij
    rw [getElem?_setStatus hc, if_pos rfl, Option.some.injEq] at hd
    subst hd
    cases hstep with
    | start body _ hreaction _ =>
        obtain rfl := Status.running.inj ht
        obtain ⟨tr, hrun⟩ := run_advance H body m.shared
        exact ⟨advance_awaiting H body m.shared, body, m.shared, tr, hreaction, hrun⟩
    | skip _ _ _ => exact absurd ht (by simp only [reduceCtorEq, not_false_eq_true])
    | resume answer o k hstatus =>
        obtain rfl := Status.running.inj ht
        obtain ⟨hawait, fn, s₀, tr, hreaction, hrun⟩ := h.alone i c _ hc hstatus
        obtain ⟨tr', hrun'⟩ := run_advance H (k (answer o)) m.shared
        -- The run so far, the reply, and then the calls up to the next await.
        exact ⟨advance_awaiting H (k (answer o)) m.shared, fn, s₀, _, hreaction,
          run_trans hrun (Run.reply o k m.shared (answer o) tr' _ _ (hawait o k rfl) hrun')⟩
    | finish _ _ => exact absurd ht (by simp only [reduceCtorEq, not_false_eq_true])
  · have hself : (m.exclusive.heap.setStatus i c status)[i]? = some { c with status := status } := by
      rw [getElem?_setStatus hc, if_pos rfl]
    have hold : m.exclusive.heap[j]? = some d := by
      rw [getElem?_setStatus hc, if_neg hij] at hd
      exact hd
    cases hstep with
    | start _ _ _ _ | resume _ _ _ _ => exact absurd (hchained.running_unique hself rfl hd ht) hij
    | skip _ _ _ | finish _ _ => exact h.alone j d t hold ht

/-- A turn changes no reaction, so the sections keep their promises. -/
theorem Fair.paired_turn (h : Fair H m) (hc : m.exclusive.heap[i]? = some c)
    (status : Status O R ε α) : ∀ k j fn, m.calls[k]? = some (j, fn) → j = 2 * k + 1 ∧
      ∃ d, (m.exclusive.heap.setStatus i c status)[j]? = some d ∧ d.reaction = .run fn := by
  intro k j fn hcall
  obtain ⟨hj, d, hd, hreaction⟩ := h.paired k j fn hcall
  by_cases hij : i = j
  · subst hij
    rw [hc, Option.some.injEq] at hd
    refine ⟨hj, { c with status := status }, ?_, hd ▸ hreaction⟩
    rw [getElem?_setStatus hc, if_pos rfl]
  · exact ⟨hj, d, by rw [getElem?_setStatus hc, if_neg hij, hd], hreaction⟩

/-- And the tails between them run nothing. -/
theorem Fair.swallows_turn (h : Fair H m) (hc : m.exclusive.heap[i]? = some c)
    (status : Status O R ε α) : ∀ k d, (m.exclusive.heap.setStatus i c status)[2 * k]? = some d →
      d.reaction = .ignore := by
  intro k d hd
  rw [getElem?_setStatus hc] at hd
  by_cases hik : i = 2 * k
  · rw [if_pos hik, Option.some.injEq] at hd
    subst hik hd
    exact h.swallows k c hc
  · rw [if_neg hik] at hd
    exact h.swallows k d hd

/-- A promise that runs nothing is no section's. -/
theorem Fair.not_section (h : Fair H m) (hc : m.exclusive.heap[i]? = some c)
    (hreaction : c.reaction = .ignore) : ∀ k, i ≠ 2 * k + 1 := by
  rintro k rfl
  have hlt := (List.getElem?_eq_some_iff.mp hc).1
  have hlength := h.length
  obtain ⟨⟨j, fn⟩, hcall⟩ : ∃ call, m.calls[k]? = some call :=
    ⟨_, List.getElem?_eq_getElem (by omega)⟩
  obtain ⟨rfl, d, hd, hfn⟩ := h.paired k j fn hcall
  rw [hc, Option.some.injEq] at hd
  rw [← hd, hreaction] at hfn
  exact absurd hfn (by simp only [reduceCtorEq, not_false_eq_true])

/-- A turn keeps the invariant. Only a section that starts or ends is logged. -/
theorem fair_turn (h : Fair H m) {turn : Turn O R ε}
    (hstep : (mutexMachine H).step m (.turn turn) = some m') : Fair H m' := by
  cases hturn : m.exclusive.heap.step H turn m.shared with
  | none => exact absurd hstep (by simp only [mutexMachine, hturn, reduceCtorEq, not_false_eq_true])
  | some next =>
  obtain ⟨heap, shared⟩ := next
  simp only [mutexMachine, hturn, Option.some.injEq] at hstep
  obtain ⟨i, c, status, hc, hmoves, rfl⟩ := step_eq_some.mp hturn
  have hchained := h.chained.setStatus hc hmoves.cellStep
  have halone := h.alone_turn hc hmoves
  have hlength : (m.exclusive.heap.setStatus i c status).length = 2 * m.calls.length + 1 :=
    List.length_set.trans h.length
  have hpaired := h.paired_turn hc status
  have hswallows := h.swallows_turn hc status
  subst hstep
  cases hmoves with
  | start body hstatus hreaction hafter =>
      obtain ⟨k, rfl, hresult, -⟩ := h.section_of_run hc hreaction
      have hlogs : startedBy m.exclusive.heap (.fire (2 * k + 1) : Turn O R ε) = [2 * k + 1] := by
        simp only [startedBy, hc, hreaction]
      have hbelow : ∀ j < k, ∃ d, m.exclusive.heap[2 * j + 1]? = some d ∧ d.status ≠ .waiting := by
        intro j hj
        obtain ⟨d, hd, hsettled⟩ := settled_before h.chained hc (.inl hafter) j hj
        refine ⟨d, hd, fun hwaiting => ?_⟩
        rw [hwaiting] at hsettled
        exact Bool.false_ne_true hsettled
      refine ⟨hchained, hlength, h.tail, hpaired, hswallows, halone, ?_, ?_, ?_⟩
      · rw [hlogs]
        exact h.starts.add hc hbelow (fun hnot => hnot hstatus)
          (by simp only [ne_eq, reduceCtorEq, not_false_eq_true]) hresult
      · simp only [MutexState.answered, answeredBy, List.append_nil]
        exact h.ends.keep hc (fun _ _ => by simp only [hstatus, Status.isSettled])
      · simp only [answeredBy, List.append_nil]
        exact h.outcomes
  | skip hstatus hreaction hafter =>
      -- A tail, which no log is about.
      have hnot := h.not_section hc hreaction
      have hlogs : startedBy m.exclusive.heap (.fire i : Turn O R ε) = [] := by
        simp only [startedBy, hc, hreaction]
      refine ⟨hchained, hlength, h.tail, hpaired, hswallows, halone, ?_, ?_, ?_⟩
      · rw [hlogs, List.append_nil]
        exact h.starts.keep hc (fun k hk => absurd hk (hnot k))
      · simp only [MutexState.answered, answeredBy, List.append_nil]
        exact h.ends.keep hc (fun k hk => absurd hk (hnot k))
      · simp only [answeredBy, List.append_nil]
        exact h.outcomes
  | resume answer o k hstatus =>
      refine ⟨hchained, hlength, h.tail, hpaired, hswallows, halone, ?_, ?_, ?_⟩
      · simp only [startedBy, List.append_nil]
        exact h.starts.keep hc (fun _ _ => by simp only [hstatus, ne_eq, reduceCtorEq,
          not_false_eq_true])
      · simp only [MutexState.answered, answeredBy, List.append_nil]
        exact h.ends.keep hc (fun _ _ => by simp only [hstatus, Status.isSettled])
      · simp only [answeredBy, List.append_nil]
        exact h.outcomes
  | finish r hstatus =>
      obtain ⟨-, fn, s₀, tr, hreaction, hrun⟩ := h.alone i c _ hc hstatus
      obtain ⟨k, rfl, hresult, hcall⟩ := h.section_of_run hc hreaction
      have hlogs : answeredBy m.exclusive.heap (.settle (2 * k + 1) : Turn O R ε) =
          [(2 * k + 1, r)] := by
        simp only [answeredBy, hc, hstatus]
      have hbelow := settled_before h.chained hc (.inr (by simp only [hstatus, ne_eq,
        reduceCtorEq, not_false_eq_true]))
      refine ⟨hchained, hlength, h.tail, hpaired, hswallows, halone, ?_, ?_, ?_⟩
      · simp only [startedBy, List.append_nil]
        exact h.starts.keep hc (fun _ _ => by simp only [hstatus, ne_eq, reduceCtorEq,
          not_false_eq_true])
      · rw [MutexState.answered, hlogs, List.map_append]
        exact h.ends.add hc hbelow (by simp only [hstatus, Status.isSettled, Bool.false_eq_true,
          not_false_eq_true]) rfl hresult
      · intro j r' hr
        rw [hlogs] at hr
        rcases List.mem_append.mp hr with hr | hr
        · exact h.outcomes j r' hr
        · obtain ⟨rfl, rfl⟩ := Prod.mk.inj (List.mem_singleton.mp hr)
          exact ⟨fn, s₀, tr, m.shared, hcall, hrun⟩

theorem fair_step {e : MutexEvent O R ε α} (h : Fair H m)
    (hstep : (mutexMachine H).step m e = some m') : Fair H m' := by
  cases e with
  | run fn => exact fair_call h hstep
  | turn turn => exact fair_turn h hstep

/-- A turn that a promise is ready for can be taken. -/
theorem MutexState.Idle.not_ready (hidle : m.Idle H) (turn : Turn O R ε) {status : Status O R ε α}
    (heffort : turn.effort = 1) (hc : m.exclusive.heap[i]? = some c) :
    ¬ TurnStep H m.exclusive.heap m.shared i c turn status shared := by
  intro hmoves
  have hturn := step_eq_some.mpr ⟨i, c, status, hc, hmoves, rfl⟩
  have hnone := hidle turn heffort
  simp only [mutexMachine, hturn, reduceCtorEq] at hnone

/-- The promises are settled as far as the first section without an answer. -/
theorem Fair.settled_upto (h : Fair H m) (hidle : m.Idle H) {k : Nat}
    (hk : m.answered.length = k) (hlt : k < m.calls.length) :
    m.exclusive.heap.settledAt (2 * k) = true := by
  cases k with
  | zero => exact h.chained.root
  | succ k =>
      have hlength := h.length
      obtain ⟨c, hc⟩ : ∃ c, m.exclusive.heap[2 * k + 1]? = some c :=
        ⟨_, List.getElem?_eq_getElem (by omega)⟩
      obtain ⟨d, hd⟩ : ∃ d, m.exclusive.heap[2 * (k + 1)]? = some d :=
        ⟨_, List.getElem?_eq_getElem (by omega)⟩
      -- The section before has its answer, so its tail is due.
      have hsettled : m.exclusive.heap.settledAt (2 * k + 1) = true :=
        settledAt_eq_true.mpr ⟨c, hc, (h.ends.marks k c hc).mp (by omega)⟩
      have hafter := h.chained.after (2 * k + 1) d hd
      have hreaction := h.swallows (k + 1) d hd
      refine settledAt_eq_true.mpr ⟨d, hd, ?_⟩
      cases hstatus : d.status with
      | settled => rfl
      | running t =>
          obtain ⟨-, fn, -, -, hfn, -⟩ := h.alone _ d t hd hstatus
          rw [hreaction] at hfn
          exact absurd hfn (by simp only [reduceCtorEq, not_false_eq_true])
      | waiting =>
          exact absurd (.skip hstatus hreaction (hafter ▸ hsettled))
            (hidle.not_ready (.fire (2 * (k + 1))) rfl hd)

/-- Every section that has ended has started. -/
theorem Fair.answered_le_started (h : Fair H m) : m.answered.length ≤ m.started.length := by
  by_contra hlt
  have hresults : m.results.length = m.calls.length := List.length_map ..
  have hends := h.ends.initial.length_le
  have hlength := h.length
  obtain ⟨c, hc⟩ : ∃ c, m.exclusive.heap[2 * m.started.length + 1]? = some c :=
    ⟨_, List.getElem?_eq_getElem (by omega)⟩
  have hsettled := (h.ends.marks _ c hc).mp (by omega)
  have hwaiting := mt (h.starts.marks _ c hc).mpr (lt_irrefl _)
  rw [not_not] at hwaiting
  rw [hwaiting] at hsettled
  exact Bool.false_ne_true hsettled

/-- And at most one that has started has not ended. -/
theorem Fair.started_le_answered_succ (h : Fair H m) :
    m.started.length ≤ m.answered.length + 1 := by
  by_contra hlt
  have hresults : m.results.length = m.calls.length := List.length_map ..
  have hstarts := h.starts.initial.length_le
  have hlength := h.length
  obtain ⟨c, hc⟩ : ∃ c, m.exclusive.heap[2 * m.answered.length + 1]? = some c :=
    ⟨_, List.getElem?_eq_getElem (by omega)⟩
  obtain ⟨d, hd⟩ : ∃ d, m.exclusive.heap[2 * (m.answered.length + 1) + 1]? = some d :=
    ⟨_, List.getElem?_eq_getElem (by omega)⟩
  have hnext := (h.starts.marks _ d hd).mp (by omega)
  obtain ⟨c', hc', hsettled⟩ := settled_before h.chained hd (.inr hnext) _ (Nat.lt_succ_self _)
  obtain rfl : c = c' := Option.some.inj (hc.symm.trans hc')
  exact absurd ((h.ends.marks _ c hc).mpr hsettled) (lt_irrefl _)

/-- When there is nothing to do every section has run and every caller has its
    answer, or the section that started last waits for a reply. -/
theorem idle_done (h : Fair H m) (hidle : m.Idle H) :
    (m.started = m.results ∧ m.answered = m.results) ∨
      ∃ i, m.started.getLast? = some i ∧ m.AwaitsReply i := by
  have hresults : m.results.length = m.calls.length := List.length_map ..
  have hlength := h.length
  have hle : m.answered.length ≤ m.results.length := h.ends.initial.length_le
  rcases Nat.lt_or_ge m.answered.length m.calls.length with hlt | hge
  · obtain ⟨k, hk⟩ : ∃ k, m.answered.length = k := ⟨_, rfl⟩
    -- The first call without an answer is looked at: all before it have settled.
    have hbelow := h.settled_upto hidle hk (hk ▸ hlt)
    obtain ⟨c, hc⟩ : ∃ c, m.exclusive.heap[2 * k + 1]? = some c :=
      ⟨_, List.getElem?_eq_getElem (by omega)⟩
    obtain ⟨⟨j, fn⟩, hcall⟩ : ∃ call, m.calls[k]? = some call :=
      ⟨_, List.getElem?_eq_getElem (by omega)⟩
    obtain ⟨rfl, d, hd, hreaction⟩ := h.paired k j fn hcall
    obtain rfl : c = d := Option.some.inj (hc.symm.trans hd)
    have hafter := h.chained.after (2 * k) c hc
    -- Were it ready to move, the machine would not be idle.
    cases hstatus : c.status with
    | settled =>
        have hanswered := (h.ends.marks k c hc).mpr (by rw [hstatus]; rfl)
        omega
    | waiting =>
        exact absurd (.start fn hstatus hreaction (hafter ▸ hbelow))
          (hidle.not_ready (.fire (2 * k + 1)) rfl hc)
    | running t =>
        cases t with
        | done r =>
            exact absurd (.finish r hstatus)
              (hidle.not_ready (.settle (2 * k + 1)) rfl hc)
        | call o reply =>
            refine .inr ⟨2 * k + 1, ?_, c, o, reply, hc, hstatus⟩
            have hgt : k < m.started.length := (h.starts.marks k c hc).mpr (by
              simp only [hstatus, ne_eq, reduceCtorEq, not_false_eq_true])
            have hlast : m.started.length = k + 1 := by
              have hnext := h.started_le_answered_succ
              omega
            rw [List.getLast?_eq_getElem?, hlast, Nat.add_sub_cancel,
              List.getElem?_eq_getElem hgt, ← List.prefix_iff_getElem?.mp h.starts.initial k hgt,
              MutexState.results, List.getElem?_map, hcall]
            rfl
  · have hstarted := h.answered_le_started
    have hstarts := h.starts.initial.length_le
    have hall : m.started.length = m.results.length := by omega
    exact .inl ⟨h.starts.initial.eq_of_length hall, h.ends.initial.eq_of_length (by omega)⟩

/-- The promises are handed out one after the other. -/
theorem Fair.results_nodup (h : Fair H m) : m.results.Nodup := by
  refine List.nodup_iff_getElem?_ne_getElem?.mpr (fun j k hjk hk heq => ?_)
  have hresults : m.results.length = m.calls.length := List.length_map ..
  obtain ⟨⟨p, fn⟩, hcall⟩ : ∃ call, m.calls[j]? = some call :=
    ⟨_, List.getElem?_eq_getElem (by omega)⟩
  obtain ⟨⟨q, fn'⟩, hcall'⟩ : ∃ call, m.calls[k]? = some call :=
    ⟨_, List.getElem?_eq_getElem (by omega)⟩
  rw [MutexState.results, List.getElem?_map, List.getElem?_map, hcall, hcall', Option.map_some,
    Option.map_some, Option.some.injEq] at heq
  have hp := (h.paired j p fn hcall).1
  have hq := (h.paired k q fn' hcall').1
  dsimp only at heq
  omega

end Invariant

section Effort

variable {H : Handler O R ε σ} {m m' : MutexState O R ε σ α}

/-- The turns the scheduler takes of its own accord. -/
def MutexEvent.effort : MutexEvent O R ε α → Nat
  | .run _ => 0
  | .turn next => next.effort

/-- A section is three turns' work, and every turn does one of them. -/
theorem effort_step {e : MutexEvent O R ε α} (hstep : (mutexMachine H).step m e = some m') :
    m'.exclusive.heap.work + e.effort + 3 * m.calls.length =
      m.exclusive.heap.work + 3 * m'.calls.length := by
  cases e with
  | run fn =>
      obtain rfl := Option.some.inj hstep
      simp only [Mutex.run, work_append, Heap.work, Cell.work, MutexEvent.effort, List.length_append,
        List.length_singleton]
      omega
  | turn turn =>
      cases hturn : m.exclusive.heap.step H turn m.shared with
      | none => exact absurd hstep (by simp only [mutexMachine, hturn, reduceCtorEq,
          not_false_eq_true])
      | some next =>
          simp only [mutexMachine, hturn, Option.some.injEq] at hstep
          subst hstep
          have hwork := work_step hturn
          simp only [MutexEvent.effort]
          omega

theorem effort_run {es : List (MutexEvent O R ε α)} (hrun : (mutexMachine H).run m es = some m') :
    m'.exclusive.heap.work + (es.map MutexEvent.effort).sum + 3 * m.calls.length =
      m.exclusive.heap.work + 3 * m'.calls.length := by
  induction es generalizing m with
  | nil =>
      obtain rfl := Option.some.inj hrun
      rfl
  | cons e es ih =>
      obtain ⟨m₁, hstep, hrest⟩ := Machine.run_cons_iff.mp hrun
      have hfirst := effort_step hstep
      have hlater := ih hrest
      rw [List.map_cons, List.sum_cons]
      omega

end Effort

/-- Whatever sections come in, whenever they do and however they end: at most one
    runs, they start once each in the order they came in, a caller gets what its own
    section came to, once, and when the scheduler has no turns left, which is after
    three for each section, all of this has happened, or the last section to start
    waits for a reply. -/
theorem mutex_is_fair (H : Handler O R ε σ) (shared : σ) (es : List (MutexEvent O R ε α))
    (m : MutexState O R ε σ α) (hrun : (mutexMachine H).run (newMutex shared) es = some m) :
    (∀ i j, m.Running i → m.Running j → i = j) ∧
    (m.results.Nodup ∧ m.started <+: m.results) ∧
    (m.answered <+: m.started ∧ ∀ i r, (i, r) ∈ m.answers →
      ∃ fn s₀ tr s₁, (i, fn) ∈ m.calls ∧ Run H fn s₀ tr (.done r) s₁) ∧
    (m.Idle H → (m.started = m.results ∧ m.answered = m.results) ∨
      ∃ i, m.started.getLast? = some i ∧ m.AwaitsReply i) ∧
    (es.map MutexEvent.effort).sum ≤ 3 * m.calls.length := by
  -- One invariant of every step says all five.
  have hfair : Fair H m := Machine.run_invariant (P := fun _ _ => True)
    (fun _ _ _ h _ hstep => fair_step h hstep) (fair_new H shared)
    (Machine.runWhere_of_forall_mem (fun _ _ _ => trivial)) hrun
  refine ⟨?_, ⟨hfair.results_nodup, hfair.starts.initial⟩, ⟨?_, hfair.outcomes⟩,
    fun hidle => idle_done hfair hidle, ?_⟩
  · rintro i j ⟨c, t, hc, ht⟩ ⟨c', t', hc', ht'⟩
    exact hfair.chained.running_unique hc ht hc' ht'
  · exact List.prefix_of_prefix_length_le hfair.ends.initial hfair.starts.initial
      hfair.answered_le_started
  · have heffort := effort_run hrun
    have hstart : (newMutex shared : MutexState O R ε σ α).exclusive.heap.work = 0 := rfl
    have hcalls : (newMutex shared : MutexState O R ε σ α).calls.length = 0 := rfl
    omega

/-- All replies come from outside. -/
def awaitingHandler : Handler Unit (fun _ => Unit) Nat Unit :=
  ⟨fun _ => none⟩

/-- A section comes in, and while it waits another one does. The first rejects. -/
def rejectedFirst : List (MutexEvent Unit (fun _ => Unit) Nat Nat) :=
  [.run (.call () (fun _ => .done (.error 7))), .turn (.fire 1), .run (.done (.ok 8)),
    .turn (.reply 1 (fun _ => .ok ())), .turn (.settle 1), .turn (.fire 2), .turn (.fire 3),
    .turn (.settle 3)]

/-- The second has its turn all the same. -/
theorem mutex_is_fair_rejectedFirst : ∃ m,
    (mutexMachine awaitingHandler).run (newMutex ()) rejectedFirst = some m ∧
      m.answers = [(1, .error 7), (3, .ok 8)] ∧ m.started <+: m.results :=
  ⟨_, rfl, rfl, (mutex_is_fair awaitingHandler () rejectedFirst _ rfl).2.1.2⟩

end Payer

end VellarSdk
