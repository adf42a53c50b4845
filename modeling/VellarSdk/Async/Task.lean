import Mathlib.Tactic.Common

/-!
# Async Function Bodies

An async function as the tree of the operations it calls. Between two awaits a
JavaScript function runs alone, so what matters about its body is which
operation it calls next and how it goes on for each reply. `Task` is that tree:
a node calls an operation and continues with the reply, a value or a thrown
error, and a leaf is the promise's outcome. Bodies are written in `do` notation
and thrown errors skip to the end, as in the source.

A `Handler` says which operations are answered by the program's own state, at
once, and leaves the others to the environment: those are the awaited calls,
and nothing is assumed about their replies. `Run` is one execution of a body
alone, from a state to any point it can reach, with every call made and every
reply received on its trace. A body that waits forever is a run that stops at
the pending call, so a property of all runs speaks about every prefix of every
execution.

`Sat` is the matching program logic: a condition at every call and a condition
on the outcome, both of the trace so far and the current state. `sat_bind` makes
it compositional, and `Sat.of_run` is its soundness. `Task.OnlyCalls` is the
special case of a condition on the calls alone, which needs no state.

## Main definitions

* `Task`: The tree of calls of an async body.
* `Handler`: The operations answered by the program's own state.
* `Event`: A call with the reply it received.
* `Answered`: What a call was answered, and what it left of the state.
* `Run`: A partial execution and its trace.
* `Task.advance`: Running up to the next await.
* `Task.replay`: Running against a script of answers.
* `Sat`: A condition at every call and at the end.
* `Task.OnlyCalls`: A condition on every call a body can make.

## Theorems

* `run_trans`, `run_split`: Runs compose, and come apart.
* `run_advance`, `run_replay`: Advancing and replaying are runs.
* `sat_call`, `sat_bind`: The rules for a call and for sequencing.
* `sat_lift_bind`, `Sat.imp`: The rules for synchronous code and of consequence.
* `sat_await_bind`, `sat_exec_bind`, `sat_attempt_bind`: The rule at a call.
* `Sat.of_run`: What was proved of a body holds at every point of its runs.
* `Sat.trace_invariant`: What every call keeps true of the trace.
* `Sat.at_call`, `Sat.at_done`: The conditions at a pending call and at the
  outcome.
* `sat_of_runs`: What holds at every point of a body's runs is proved of the body.
* `onlyCalls_run`, `onlyCalls_state`: What a body can do by its calls alone.
* `run_bind_ok`, `run_lift_bind_ok`, `run_await_bind_ok`, `run_tryCatch_ok`: A
  run that returned, taken apart.
* `run_bind`, `run_lift_bind`, `run_await_bind`, `run_exec_bind`: A run put
  together.
-/

namespace VellarSdk

namespace Async

/-- The body of an async function. `O` are the operations it can call, and
    `R o` is what a successful call of `o` returns. -/
inductive Task (O : Type) (R : O → Type) (ε α : Type) : Type where
  | done (r : Except ε α)
  | call (o : O) (k : Except ε (R o) → Task O R ε α)

namespace Task

variable {O : Type} {R : O → Type} {ε α β : Type}

/-- Sequencing: a thrown error skips the rest. -/
def bind : Task O R ε α → (α → Task O R ε β) → Task O R ε β
  | done (.ok a), f => f a
  | done (.error e), _ => done (.error e)
  | call o k, f => call o (fun r => bind (k r) f)

instance : Monad (Task O R ε) where
  pure a := done (.ok a)
  bind := bind

/-- Catching: the outcome as a value, which never throws. -/
def attempt : Task O R ε α → Task O R ε (Except ε α)
  | done r => done (.ok r)
  | call o k => call o (fun r => attempt (k r))

/-- Calling one operation. -/
def perform (o : O) : Task O R ε (R o) :=
  call o done

/-- Synchronous code that may throw. -/
def ofExcept (x : Except ε α) : Task O R ε α :=
  done x

instance : MonadLift (Except ε) (Task O R ε) := ⟨ofExcept⟩

instance : MonadExceptOf ε (Task O R ε) where
  throw e := done (.error e)
  -- The handler runs outside the `try`, so what it throws is not caught again.
  tryCatch t f := bind (attempt t) (fun
    | .ok a => done (.ok a)
    | .error e => f e)

/-- The operation a body is about to call, if it has not ended. -/
def pending : Task O R ε α → Option O
  | done _ => none
  | call o _ => some o

/-- The outcome of a body that has ended. -/
def outcome : Task O R ε α → Option (Except ε α)
  | done r => some r
  | call _ _ => none

/-- Synchronous code that returned is followed by what comes after it. -/
theorem lift_ok_bind {x : Except ε α} {a : α} (hx : x = .ok a) (f : α → Task O R ε β) :
    ((liftM x : Task O R ε α) >>= f) = f a := by
  subst hx
  rfl

/-- Synchronous code that threw is followed by nothing. -/
theorem lift_error_bind {x : Except ε α} {e : ε} (hx : x = .error e) (f : α → Task O R ε β) :
    ((liftM x : Task O R ε α) >>= f) = done (.error e) := by
  subst hx
  rfl

theorem pending_bind {t : Task O R ε α} {o : O} (h : t.pending = some o)
    (f : α → Task O R ε β) : (t >>= f).pending = some o := by
  cases t with
  | done r => exact absurd h (by simp only [pending, reduceCtorEq, not_false_eq_true])
  | call o' k => exact h

theorem pending_tryCatch {t : Task O R ε α} {o : O} (h : t.pending = some o)
    (f : ε → Task O R ε α) : (tryCatch t f).pending = some o := by
  cases t with
  | done r => exact absurd h (by simp only [pending, reduceCtorEq, not_false_eq_true])
  | call o' k => exact h

theorem eq_done_of_outcome {t : Task O R ε α} {r : Except ε α} (h : t.outcome = some r) :
    t = done r := by
  cases t with
  | done r' => rw [Option.some.inj h]
  | call o k => exact absurd h (by simp only [outcome, reduceCtorEq, not_false_eq_true])

/-- A body has ended when something is known of its outcome. -/
theorem done_of_outcome_map {γ : Type} {t : Task O R ε α} {f : Except ε α → γ} {c : γ}
    (h : t.outcome.map f = some c) : ∃ r, t = done r ∧ f r = c := by
  rcases Option.map_eq_some_iff.mp h with ⟨r, hr, hf⟩
  exact ⟨r, eq_done_of_outcome hr, hf⟩

theorem eq_call_of_pending {t : Task O R ε α} {o : O} (h : t.pending = some o) :
    ∃ k, t = call o k := by
  cases t with
  | done r => exact absurd h (by simp only [pending, reduceCtorEq, not_false_eq_true])
  | call o' k =>
      injection h with h
      subst h
      exact ⟨k, rfl⟩

end Task

/-- The operations answered by the program's own state `σ`. The others, where
    `exec` gives nothing, are awaited: the environment answers them. -/
structure Handler (O : Type) (R : O → Type) (ε σ : Type) where
  exec : (o : O) → Option (σ → Except ε (R o) × σ)

/-- A call with the reply it received. -/
structure Event (O : Type) (R : O → Type) (ε : Type) where
  op : O
  reply : Except ε (R op)

variable {O : Type} {R : O → Type} {ε σ α β : Type} {H : Handler O R ε σ}

/-- What a call was answered, and what it left of the state. -/
def Answered (H : Handler O R ε σ) (s : σ) (o : O) (r : Except ε (R o)) (s' : σ) : Prop :=
  match H.exec o with
  | some f => f s = (r, s')
  | none => s' = s

/-- A partial execution of a body alone, with its trace. -/
inductive Run (H : Handler O R ε σ) :
    Task O R ε α → σ → List (Event O R ε) → Task O R ε α → σ → Prop where
  | refl (t : Task O R ε α) (s : σ) : Run H t s [] t s
  | exec (o : O) (k : Except ε (R o) → Task O R ε α) (s : σ) (f : σ → Except ε (R o) × σ)
      (tr : List (Event O R ε)) (t' : Task O R ε α) (s' : σ) (hf : H.exec o = some f)
      (h : Run H (k (f s).1) (f s).2 tr t' s') : Run H (.call o k) s (⟨o, (f s).1⟩ :: tr) t' s'
  | reply (o : O) (k : Except ε (R o) → Task O R ε α) (s : σ) (r : Except ε (R o))
      (tr : List (Event O R ε)) (t' : Task O R ε α) (s' : σ) (hf : H.exec o = none)
      (h : Run H (k r) s tr t' s') : Run H (.call o k) s (⟨o, r⟩ :: tr) t' s'

theorem run_trans {t t' t'' : Task O R ε α} {s s' s'' : σ} {tr tr' : List (Event O R ε)}
    (h : Run H t s tr t' s') (h' : Run H t' s' tr' t'' s'') : Run H t s (tr ++ tr') t'' s'' := by
  induction h with
  | refl t s => exact h'
  | exec o k s f tr t' s' hf _ ih => exact Run.exec o k s f _ t'' s'' hf (ih h')
  | reply o k s r tr t' s' hf _ ih => exact Run.reply o k s r _ t'' s'' hf (ih h')

/-- One call of a body, as it is answered. -/
theorem run_answered {o : O} {k : Except ε (R o) → Task O R ε α} {r : Except ε (R o)} {s s' : σ}
    (h : Answered H s o r s') : Run H (.call o k) s [⟨o, r⟩] (k r) s' := by
  unfold Answered at h
  cases hf : H.exec o with
  | some f =>
      rw [hf] at h
      have hr : (f s).1 = r := by rw [h]
      have hs : (f s).2 = s' := by rw [h]
      subst hr hs
      exact Run.exec o k s f [] _ _ hf (Run.refl _ _)
  | none =>
      rw [hf] at h
      subst h
      exact Run.reply o k s' r [] _ _ hf (Run.refl _ _)

/-- A run up to one of its events, and from there. -/
theorem run_split {t t' : Task O R ε α} {s s' : σ} {tr before after : List (Event O R ε)}
    {e : Event O R ε} (h : Run H t s tr t' s') (htr : tr = before ++ e :: after) :
    ∃ k s₁ s₂, Run H t s before (.call e.op k) s₁ ∧ Answered H s₁ e.op e.reply s₂ ∧
      Run H (k e.reply) s₂ after t' s' := by
  induction h generalizing before with
  | refl t s =>
      exact absurd htr.symm (List.append_ne_nil_of_right_ne_nil _ (List.cons_ne_nil _ _))
  -- The event is the first of the run, or it is one of the rest.
  | exec o k s f tr t' s' hf hrest ih =>
      cases before with
      | nil =>
          rw [List.nil_append, List.cons.injEq] at htr
          obtain ⟨rfl, rfl⟩ := htr
          refine ⟨k, s, (f s).2, Run.refl _ _, ?_, hrest⟩
          simp only [Answered, hf]
      | cons e' before =>
          rw [List.cons_append, List.cons.injEq] at htr
          obtain ⟨rfl, htr⟩ := htr
          obtain ⟨k', s₁, s₂, hbefore, hanswered, hafter⟩ := ih htr
          exact ⟨k', s₁, s₂, Run.exec o k s f before _ _ hf hbefore, hanswered, hafter⟩
  | reply o k s r tr t' s' hf hrest ih =>
      cases before with
      | nil =>
          rw [List.nil_append, List.cons.injEq] at htr
          obtain ⟨rfl, rfl⟩ := htr
          refine ⟨k, s, s, Run.refl _ _, ?_, hrest⟩
          simp only [Answered, hf]
      | cons e' before =>
          rw [List.cons_append, List.cons.injEq] at htr
          obtain ⟨rfl, htr⟩ := htr
          obtain ⟨k', s₁, s₂, hbefore, hanswered, hafter⟩ := ih htr
          exact ⟨k', s₁, s₂, Run.reply o k s r before _ _ hf hbefore, hanswered, hafter⟩

/-- Run the calls the program answers itself, up to the next await. In
    JavaScript nothing else happens in between. -/
def Task.advance (H : Handler O R ε σ) : Task O R ε α → σ → Task O R ε α × σ
  | .done r, s => (.done r, s)
  | .call o k, s => match H.exec o with
    | some f => Task.advance H (k (f s).1) (f s).2
    | none => (.call o k, s)

theorem run_advance (H : Handler O R ε σ) (t : Task O R ε α) (s : σ) :
    ∃ tr, Run H t s tr (t.advance H s).1 (t.advance H s).2 := by
  induction t generalizing s with
  | done r => exact ⟨[], Run.refl _ _⟩
  | call o k ih =>
      cases hf : H.exec o with
      | none =>
          refine ⟨[], ?_⟩
          simp only [Task.advance, hf]
          exact Run.refl _ _
      | some f =>
          rcases ih (f s).1 (f s).2 with ⟨tr, hrun⟩
          refine ⟨⟨o, (f s).1⟩ :: tr, ?_⟩
          simp only [Task.advance, hf]
          exact Run.exec o k s f tr _ _ hf hrun

/-- Run a body against a script of the environment's answers, one for each
    awaited call, up to the first call the script does not answer. -/
def Task.replay (H : Handler O R ε σ) : Task O R ε α → List ((o : O) → Except ε (R o)) → σ →
    List (Event O R ε) × Task O R ε α × σ
  | .done r, _, s => ([], .done r, s)
  | .call o k, answers, s => match H.exec o with
    | some f =>
        let rest := Task.replay H (k (f s).1) answers (f s).2
        (⟨o, (f s).1⟩ :: rest.1, rest.2)
    | none => match answers with
      | [] => ([], .call o k, s)
      | answer :: answers =>
          let rest := Task.replay H (k (answer o)) answers s
          (⟨o, answer o⟩ :: rest.1, rest.2)

/-- A replay is a run. -/
theorem run_replay (H : Handler O R ε σ) (t : Task O R ε α)
    (answers : List ((o : O) → Except ε (R o))) (s : σ) :
    Run H t s (t.replay H answers s).1 (t.replay H answers s).2.1 (t.replay H answers s).2.2 := by
  induction t generalizing answers s with
  | done r => exact Run.refl _ _
  | call o k ih =>
      -- The script is only looked at when a call is awaited, so both cases are split by handler.
      cases answers with
      | nil =>
          cases hf : H.exec o with
          | some f =>
              simp only [Task.replay, hf]
              exact Run.exec o k s f _ _ _ hf (ih _ [] _)
          | none =>
              simp only [Task.replay, hf]
              exact Run.refl _ _
      | cons answer answers =>
          cases hf : H.exec o with
          | some f =>
              simp only [Task.replay, hf]
              exact Run.exec o k s f _ _ _ hf (ih _ (answer :: answers) _)
          | none =>
              simp only [Task.replay, hf]
              exact Run.reply o k s (answer o) _ _ _ hf (ih _ answers _)

/-- A replay of a body that has no state of its own. -/
theorem run_replay_unit (H : Handler O R ε Unit) (t : Task O R ε α)
    (answers : List ((o : O) → Except ε (R o))) :
    Run H t () (t.replay H answers ()).1 (t.replay H answers ()).2.1 () :=
  run_replay H t answers ()

/-- Such a replay up to a pending call. -/
theorem run_replay_call (H : Handler O R ε Unit) (t : Task O R ε α)
    (answers : List ((o : O) → Except ε (R o))) {o : O}
    (h : (t.replay H answers ()).2.1.pending = some o) :
    ∃ k, Run H t () (t.replay H answers ()).1 (.call o k) () := by
  have hrun := run_replay_unit H t answers
  rcases Task.eq_call_of_pending h with ⟨k, hk⟩
  rw [hk] at hrun
  exact ⟨k, hrun⟩

/-- Every call of the body is made under `C`, and its outcome satisfies `Q`.
    Both speak about the trace so far and the current state. -/
def Sat (H : Handler O R ε σ) (C : List (Event O R ε) → σ → O → Prop)
    (Q : List (Event O R ε) → σ → Except ε α → Prop) :
    Task O R ε α → List (Event O R ε) → σ → Prop
  | .done r, tr, s => Q tr s r
  | .call o k, tr, s => C tr s o ∧ match H.exec o with
    | some f => Sat H C Q (k (f s).1) (tr ++ [⟨o, (f s).1⟩]) (f s).2
    | none => ∀ r, Sat H C Q (k r) (tr ++ [⟨o, r⟩]) s

section Rules

variable {C : List (Event O R ε) → σ → O → Prop}
  {Q : List (Event O R ε) → σ → Except ε α → Prop} {tr : List (Event O R ε)} {s : σ}

/-- A call the program answers itself. -/
theorem sat_exec {o : O} {f : σ → Except ε (R o) × σ} (hf : H.exec o = some f)
    (k : Except ε (R o) → Task O R ε α) :
    Sat H C Q (.call o k) tr s ↔
      C tr s o ∧ Sat H C Q (k (f s).1) (tr ++ [⟨o, (f s).1⟩]) (f s).2 := by
  simp only [Sat, hf]

/-- An awaited call: any reply may come. -/
theorem sat_await {o : O} (hf : H.exec o = none) (k : Except ε (R o) → Task O R ε α) :
    Sat H C Q (.call o k) tr s ↔ C tr s o ∧ ∀ r, Sat H C Q (k r) (tr ++ [⟨o, r⟩]) s := by
  simp only [Sat, hf]

/-- A call, whoever answers it. -/
theorem sat_call {o : O} (k : Except ε (R o) → Task O R ε α) :
    Sat H C Q (.call o k) tr s ↔
      C tr s o ∧ ∀ r s', Answered H s o r s' → Sat H C Q (k r) (tr ++ [⟨o, r⟩]) s' := by
  unfold Answered
  cases hf : H.exec o with
  | some f =>
      rw [sat_exec hf]
      refine and_congr_right (fun _ => ⟨fun h r s' hanswered => ?_, fun h => h _ _ rfl⟩)
      rw [hanswered] at h
      exact h
  | none =>
      rw [sat_await hf]
      refine and_congr_right (fun _ => ⟨fun h r s' hsame => ?_, fun h r => h r s rfl⟩)
      rw [hsame]
      exact h r

/-- The rule for sequencing: the continuation takes over where the first body
    returns, and an error it throws is the outcome. -/
theorem sat_bind {Q : List (Event O R ε) → σ → Except ε β → Prop} (t : Task O R ε α)
    (f : α → Task O R ε β) (tr : List (Event O R ε)) (s : σ) :
    Sat H C Q (t >>= f) tr s ↔
      Sat H C (fun tr s r => match r with
        | .ok a => Sat H C Q (f a) tr s
        | .error e => Q tr s (.error e)) t tr s := by
  -- The induction is on the first body; its trace and state vary along it.
  change Sat H C Q (Task.bind t f) tr s ↔ _
  induction t generalizing tr s with
  | done r => cases r <;> exact Iff.rfl
  | call o k ih =>
      cases hf : H.exec o with
      | none =>
          rw [Task.bind, sat_await hf, sat_await hf]
          exact and_congr_right (fun _ => forall_congr' (fun r => ih r _ _))
      | some g =>
          rw [Task.bind, sat_exec hf, sat_exec hf]
          exact and_congr_right (fun _ => ih _ _ _)

/-- Sequencing after synchronous code that returned. -/
theorem sat_ok_bind {x : Except ε β} {b : β} (hx : x = .ok b) (f : β → Task O R ε α) :
    Sat H C Q ((liftM x : Task O R ε β) >>= f) tr s ↔ Sat H C Q (f b) tr s := by
  subst hx
  exact Iff.rfl

/-- Sequencing after synchronous code that threw. -/
theorem sat_error_bind {x : Except ε β} {e : ε} (hx : x = .error e) (f : β → Task O R ε α) :
    Sat H C Q ((liftM x : Task O R ε β) >>= f) tr s ↔ Q tr s (.error e) := by
  subst hx
  exact Iff.rfl

/-- Sequencing after synchronous code, whichever way it went. -/
theorem sat_lift_bind {x : Except ε β} {f : β → Task O R ε α}
    (hok : ∀ b, x = .ok b → Sat H C Q (f b) tr s)
    (herror : ∀ e, x = .error e → Q tr s (.error e)) :
    Sat H C Q ((liftM x : Task O R ε β) >>= f) tr s := by
  cases hx : x with
  | ok b => exact (sat_ok_bind rfl f).mpr (hok b hx)
  | error e => exact (sat_error_bind rfl f).mpr (herror e hx)

/-- The rule of consequence. -/
theorem Sat.imp {C' : List (Event O R ε) → σ → O → Prop}
    {Q' : List (Event O R ε) → σ → Except ε α → Prop} {t : Task O R ε α}
    (h : Sat H C Q t tr s) (hC : ∀ tr s o, C tr s o → C' tr s o)
    (hQ : ∀ tr s r, Q tr s r → Q' tr s r) : Sat H C' Q' t tr s := by
  induction t generalizing tr s with
  | done r => exact hQ tr s r h
  | call o k ih =>
      cases hf : H.exec o with
      | none =>
          rw [sat_await hf] at h ⊢
          exact ⟨hC tr s o h.1, fun r => ih r (h.2 r)⟩
      | some f =>
          rw [sat_exec hf] at h ⊢
          exact ⟨hC tr s o h.1, ih _ h.2⟩

/-- Sequencing after an awaited call: it returns anything or throws anything. -/
theorem sat_await_bind {o : O} (hf : H.exec o = none) (f : R o → Task O R ε α) :
    Sat H C Q (Task.perform o >>= f) tr s ↔ C tr s o ∧
      (∀ a, Sat H C Q (f a) (tr ++ [⟨o, .ok a⟩]) s) ∧
      ∀ e, Q (tr ++ [⟨o, .error e⟩]) s (.error e) := by
  rw [sat_bind, Task.perform, sat_await hf]
  refine and_congr_right (fun _ => ⟨fun h => ⟨fun a => h (.ok a), fun e => h (.error e)⟩, ?_⟩)
  rintro ⟨hok, herror⟩ r
  cases r with
  | ok a => exact hok a
  | error e => exact herror e

/-- Sequencing after a call the program answers itself, when it returns. -/
theorem sat_exec_bind {o : O} {g : σ → Except ε (R o) × σ} {a : R o} {s' : σ}
    (hf : H.exec o = some g) (hg : g s = (.ok a, s')) (f : R o → Task O R ε α) :
    Sat H C Q (Task.perform o >>= f) tr s ↔
      C tr s o ∧ Sat H C Q (f a) (tr ++ [⟨o, .ok a⟩]) s' := by
  rw [sat_bind, Task.perform, sat_exec hf, hg]
  exact Iff.rfl

/-- Sequencing after a call the program answers itself, when it throws. -/
theorem sat_exec_bind_error {o : O} {g : σ → Except ε (R o) × σ} {e : ε} {s' : σ}
    (hf : H.exec o = some g) (hg : g s = (.error e, s')) (f : R o → Task O R ε α) :
    Sat H C Q (Task.perform o >>= f) tr s ↔
      C tr s o ∧ Q (tr ++ [⟨o, .error e⟩]) s' (.error e) := by
  rw [sat_bind, Task.perform, sat_exec hf, hg]
  exact Iff.rfl

/-- The rule for catching: both outcomes are values. -/
theorem sat_attempt {Q : List (Event O R ε) → σ → Except ε (Except ε α) → Prop}
    (t : Task O R ε α) (tr : List (Event O R ε)) (s : σ) :
    Sat H C Q t.attempt tr s ↔ Sat H C (fun tr s r => Q tr s (.ok r)) t tr s := by
  induction t generalizing tr s with
  | done r => exact Iff.rfl
  | call o k ih =>
      cases hf : H.exec o with
      | none =>
          rw [Task.attempt, sat_await hf, sat_await hf]
          exact and_congr_right (fun _ => forall_congr' (fun r => ih r _ _))
      | some g =>
          rw [Task.attempt, sat_exec hf, sat_exec hf]
          exact and_congr_right (fun _ => ih _ _ _)

/-- Sequencing after an awaited call whose failure is ignored. -/
theorem sat_attempt_bind {o : O} (hf : H.exec o = none)
    (f : Except ε (R o) → Task O R ε α) :
    Sat H C Q ((Task.perform o).attempt >>= f) tr s ↔
      C tr s o ∧ ∀ r, Sat H C Q (f r) (tr ++ [⟨o, r⟩]) s := by
  rw [sat_bind, sat_attempt, Task.perform, sat_await hf]
  exact Iff.rfl

/-- What was proved of a body holds of what is left of it at every point of
    every run. -/
theorem Sat.of_run {t t' : Task O R ε α} {s s' : σ} {tr tr' : List (Event O R ε)}
    (h : Sat H C Q t tr s) (hrun : Run H t s tr' t' s') : Sat H C Q t' (tr ++ tr') s' := by
  -- Each event moves from the front of the run to the end of the trace so far.
  induction hrun generalizing tr with
  | refl t s => rwa [List.append_nil]
  | exec o k s f tr' t' s' hf _ ih =>
      rw [sat_exec hf] at h
      have hrest := ih h.2
      rwa [List.append_assoc, List.singleton_append] at hrest
  | reply o k s r tr' t' s' hf _ ih =>
      rw [sat_await hf] at h
      have hrest := ih (h.2 r)
      rwa [List.append_assoc, List.singleton_append] at hrest

/-- What every call keeps true of the trace is true of the trace of every
    run. -/
theorem Sat.trace_invariant {I : List (Event O R ε) → Prop} {t t' : Task O R ε α} {s s' : σ}
    {tr' : List (Event O R ε)} (h : Sat H C Q t tr s)
    (hstep : ∀ tr s o r, I tr → C tr s o → I (tr ++ [⟨o, r⟩])) (hI : I tr)
    (hrun : Run H t s tr' t' s') : I (tr ++ tr') := by
  induction hrun generalizing tr with
  | refl t s => rwa [List.append_nil]
  | exec o k s f tr' t' s' hf _ ih =>
      rw [sat_exec hf] at h
      have hrest := ih h.2 (hstep tr s o _ hI h.1)
      rwa [List.append_assoc, List.singleton_append] at hrest
  | reply o k s r tr' t' s' hf _ ih =>
      rw [sat_await hf] at h
      have hrest := ih (h.2 r) (hstep tr s o r hI h.1)
      rwa [List.append_assoc, List.singleton_append] at hrest

/-- The condition at a pending call. -/
theorem Sat.at_call {t : Task O R ε α} {o : O} {k : Except ε (R o) → Task O R ε α} {s s' : σ}
    {tr : List (Event O R ε)} (h : Sat H C Q t [] s) (hrun : Run H t s tr (.call o k) s') :
    C tr s' o := by
  have hrest := h.of_run hrun
  rw [List.nil_append] at hrest
  cases hf : H.exec o with
  | none => exact ((sat_await hf k).mp hrest).1
  | some f => exact ((sat_exec hf k).mp hrest).1

/-- The condition at the outcome. -/
theorem Sat.at_done {t : Task O R ε α} {r : Except ε α} {s s' : σ} {tr : List (Event O R ε)}
    (h : Sat H C Q t [] s) (hrun : Run H t s tr (.done r) s') : Q tr s' r := by
  have hrest := h.of_run hrun
  rwa [List.nil_append] at hrest

/-- What holds at every pending call and at every outcome of a run is proved of the
    body, after anything that came before it. -/
theorem sat_of_runs_after {t : Task O R ε α} {s : σ} (before : List (Event O R ε))
    (hC : ∀ tr s' o k, Run H t s tr (.call o k) s' → C (before ++ tr) s' o)
    (hQ : ∀ tr s' r, Run H t s tr (.done r) s' → Q (before ++ tr) s' r) : Sat H C Q t before s := by
  induction t generalizing before s with
  | done r =>
      have hdone := hQ [] s r (Run.refl _ _)
      rwa [List.append_nil] at hdone
  | call o k ih =>
      have hhere := hC [] s o k (Run.refl _ _)
      rw [List.append_nil] at hhere
      -- The next call is answered by the handler or by the environment; a run from there
      -- is one from here with that call in front.
      cases hf : H.exec o with
      | some f =>
          refine (sat_exec hf k).mpr ⟨hhere, ih _ _ ?_ ?_⟩
          · intro tr s' o' k' hrun
            rw [List.append_assoc, List.singleton_append]
            exact hC _ s' o' k' (Run.exec o k s f tr _ s' hf hrun)
          · intro tr s' r hrun
            rw [List.append_assoc, List.singleton_append]
            exact hQ _ s' r (Run.exec o k s f tr _ s' hf hrun)
      | none =>
          refine (sat_await hf k).mpr ⟨hhere, fun r => ih r _ ?_ ?_⟩
          · intro tr s' o' k' hrun
            rw [List.append_assoc, List.singleton_append]
            exact hC _ s' o' k' (Run.reply o k s r tr _ s' hf hrun)
          · intro tr s' r' hrun
            rw [List.append_assoc, List.singleton_append]
            exact hQ _ s' r' (Run.reply o k s r tr _ s' hf hrun)

/-- What holds at every pending call and at every outcome of a run is proved of the body. -/
theorem sat_of_runs {t : Task O R ε α} {s : σ}
    (hC : ∀ tr s' o k, Run H t s tr (.call o k) s' → C tr s' o)
    (hQ : ∀ tr s' r, Run H t s tr (.done r) s' → Q tr s' r) : Sat H C Q t [] s :=
  sat_of_runs_after [] hC hQ

end Rules

/-- Every call the body can ever make satisfies `P`. -/
def Task.OnlyCalls (P : O → Prop) : Task O R ε α → Prop
  | .done _ => True
  | .call o k => P o ∧ ∀ r, Task.OnlyCalls P (k r)

section OnlyCalls

variable {P : O → Prop}

theorem onlyCalls_bind {t : Task O R ε α} {f : α → Task O R ε β} (ht : t.OnlyCalls P)
    (hf : ∀ a, (f a).OnlyCalls P) : (t >>= f).OnlyCalls P := by
  -- The induction needs the recursion of `bind`, which the instance hides.
  change (Task.bind t f).OnlyCalls P
  induction t with
  | done r =>
      cases r with
      | ok a => exact hf a
      | error e => trivial
  | call o k ih => exact ⟨ht.1, fun r => ih r (ht.2 r)⟩

/-- Synchronous code calls nothing, and what follows may use its value. -/
theorem onlyCalls_lift_bind {x : Except ε α} {f : α → Task O R ε β}
    (hf : ∀ a, x = .ok a → (f a).OnlyCalls P) :
    ((liftM x : Task O R ε α) >>= f).OnlyCalls P := by
  cases x with
  | ok a => exact hf a rfl
  | error e => trivial

theorem onlyCalls_attempt {t : Task O R ε α} (ht : t.OnlyCalls P) : t.attempt.OnlyCalls P := by
  induction t with
  | done r => trivial
  | call o k ih => exact ⟨ht.1, fun r => ih r (ht.2 r)⟩

theorem onlyCalls_perform {o : O} (h : P o) :
    (Task.perform o : Task O R ε (R o)).OnlyCalls P :=
  ⟨h, fun _ => trivial⟩

theorem onlyCalls_tryCatch {t : Task O R ε α} {f : ε → Task O R ε α} (ht : t.OnlyCalls P)
    (hf : ∀ e, (f e).OnlyCalls P) : (tryCatch t f).OnlyCalls P := by
  refine onlyCalls_bind (onlyCalls_attempt ht) (fun r => ?_)
  cases r with
  | ok a => trivial
  | error e => exact hf e

/-- What runs of such a body look like. -/
theorem onlyCalls_run {t t' : Task O R ε α} {s s' : σ} {tr : List (Event O R ε)}
    (h : t.OnlyCalls P) (hrun : Run H t s tr t' s') :
    (∀ e ∈ tr, P e.op) ∧ t'.OnlyCalls P := by
  induction hrun with
  | refl t s => exact ⟨fun _ he => absurd he List.not_mem_nil, h⟩
  | exec o k s f tr t' s' _ _ ih | reply o k s f tr t' s' _ _ ih =>
      rcases ih (h.2 _) with ⟨hops, ht⟩
      refine ⟨fun e he => ?_, ht⟩
      rcases List.mem_cons.mp he with rfl | he
      · exact h.1
      · exact hops e he

/-- As a condition at every call. -/
theorem sat_of_onlyCalls {t : Task O R ε α} (h : t.OnlyCalls P) (tr : List (Event O R ε)) (s : σ) :
    Sat H (fun _ _ o => P o) (fun _ _ _ => True) t tr s := by
  induction t generalizing tr s with
  | done r => trivial
  | call o k ih =>
      cases hf : H.exec o with
      | some f => exact (sat_exec hf k).mpr ⟨h.1, ih _ (h.2 _) _ _⟩
      | none => exact (sat_await hf k).mpr ⟨h.1, fun r => ih r (h.2 r) _ _⟩

/-- A body whose calls do not touch the state leaves it alone. -/
theorem onlyCalls_state (hkeep : ∀ o f s, P o → H.exec o = some f → (f s).2 = s)
    {t t' : Task O R ε α} {s s' : σ} {tr : List (Event O R ε)} (h : t.OnlyCalls P)
    (hrun : Run H t s tr t' s') : s' = s := by
  induction hrun with
  | refl t s => rfl
  -- Only calls the program answers itself can change the state.
  | exec o k s f tr t' s' hf _ ih => rw [ih (h.2 _), hkeep o f s h.1 hf]
  | reply o k s r tr t' s' _ _ ih => exact ih (h.2 r)

end OnlyCalls

section Returned

variable {s s' : σ} {tr : List (Event O R ε)}

theorem run_done {r : Except ε α} {t' : Task O R ε α} (h : Run H (.done r) s tr t' s') :
    t' = .done r ∧ tr = [] ∧ s' = s := by
  cases h
  exact ⟨rfl, rfl, rfl⟩

/-- A body that only throws does not return. -/
theorem run_error_ok {e : ε} {a : α} :
    ¬ Run H (.done (.error e) : Task O R ε α) s tr (.done (.ok a)) s' := by
  intro h
  exact absurd (run_done h).1 (by simp only [Task.done.injEq, reduceCtorEq, not_false_eq_true])

/-- A sequence returned: its first part did, and then its second. -/
theorem run_bind_ok {t : Task O R ε α} {f : α → Task O R ε β} {b : β}
    (h : Run H (t >>= f) s tr (.done (.ok b)) s') :
    ∃ a s₁ tr₁ tr₂, Run H t s tr₁ (.done (.ok a)) s₁ ∧
      Run H (f a) s₁ tr₂ (.done (.ok b)) s' ∧ tr = tr₁ ++ tr₂ := by
  change Run H (Task.bind t f) s tr _ s' at h
  induction t generalizing s tr with
  | done r =>
      cases r with
      | ok a => exact ⟨a, s, [], tr, Run.refl _ _, h, rfl⟩
      -- An error would have been the outcome of the whole.
      | error e => exact (run_error_ok h).elim
  | call o k ih =>
      cases h with
      | exec _ _ _ g tr _ _ hf h =>
          rcases ih _ h with ⟨a, s₁, tr₁, tr₂, ht, hrest, rfl⟩
          exact ⟨a, s₁, _, tr₂, Run.exec o k s g tr₁ _ s₁ hf ht, hrest, rfl⟩
      | reply _ _ _ r tr _ _ hf h =>
          rcases ih _ h with ⟨a, s₁, tr₁, tr₂, ht, hrest, rfl⟩
          exact ⟨a, s₁, _, tr₂, Run.reply o k s r tr₁ _ s₁ hf ht, hrest, rfl⟩

/-- A sequence that starts with synchronous code returned. -/
theorem run_lift_bind_ok {x : Except ε α} {f : α → Task O R ε β} {b : β}
    (h : Run H ((liftM x : Task O R ε α) >>= f) s tr (.done (.ok b)) s') :
    ∃ a, x = .ok a ∧ Run H (f a) s tr (.done (.ok b)) s' := by
  rcases run_bind_ok h with ⟨a, s₁, tr₁, tr₂, hdone, hrest, htr⟩
  rcases run_done hdone with ⟨hx, rfl, rfl⟩
  injection hx with hx
  rw [htr]
  exact ⟨a, hx.symm, hrest⟩

/-- A sequence that starts with an awaited call returned. -/
theorem run_await_bind_ok {o : O} {f : R o → Task O R ε β} {b : β} (hf : H.exec o = none)
    (h : Run H (Task.perform o >>= f) s tr (.done (.ok b)) s') :
    ∃ a tr', tr = ⟨o, .ok a⟩ :: tr' ∧ Run H (f a) s tr' (.done (.ok b)) s' := by
  rcases run_bind_ok h with ⟨a, s₁, tr₁, tr₂, hcall, hrest, htr⟩
  cases hcall with
  -- An awaited call is not answered by the program.
  | exec _ _ _ g _ _ _ hg _ => exact absurd (hf.symm.trans hg) (by simp only [reduceCtorEq,
      not_false_eq_true])
  | reply _ _ _ r _ _ _ _ hdone =>
      rcases run_done hdone with ⟨hr, rfl, rfl⟩
      injection hr with hr
      rw [htr, ← hr]
      exact ⟨a, tr₂, rfl, hrest⟩

theorem run_attempt_ok {t : Task O R ε α} {r : Except ε α}
    (h : Run H t.attempt s tr (.done (.ok r)) s') : Run H t s tr (.done r) s' := by
  induction t generalizing s tr with
  | done r' =>
      rcases run_done h with ⟨hr, rfl, rfl⟩
      injection hr with hr
      injection hr with hr
      rw [hr]
      exact Run.refl _ _
  | call o k ih =>
      cases h with
      | exec _ _ _ g tr _ _ hf h => exact Run.exec o k s g tr _ _ hf (ih _ h)
      | reply _ _ _ r' tr _ _ hf h => exact Run.reply o k s r' tr _ _ hf (ih _ h)

/-- A `try` returned: what it holds did, or that threw and the handler returned. -/
theorem run_tryCatch_ok {t : Task O R ε α} {f : ε → Task O R ε α} {a : α}
    (h : Run H (tryCatch t f) s tr (.done (.ok a)) s') :
    Run H t s tr (.done (.ok a)) s' ∨ ∃ e s₁ tr₁ tr₂, Run H t s tr₁ (.done (.error e)) s₁ ∧
      Run H (f e) s₁ tr₂ (.done (.ok a)) s' ∧ tr = tr₁ ++ tr₂ := by
  rcases run_bind_ok h with ⟨r, s₁, tr₁, tr₂, hbody, hrest, htr⟩
  cases r with
  | ok b =>
      rcases run_done hrest with ⟨hb, rfl, rfl⟩
      rw [hb, htr, List.append_nil]
      exact .inl (run_attempt_ok hbody)
  | error e => exact .inr ⟨e, s₁, tr₁, tr₂, run_attempt_ok hbody, hrest, htr⟩

/-- A body that only returns. -/
theorem run_pure_ok {a b : α} (h : Run H (pure a : Task O R ε α) s tr (.done (.ok b)) s') :
    b = a ∧ tr = [] := by
  rcases run_done h with ⟨hdone, htr, -⟩
  injection hdone with hdone
  injection hdone with hdone
  exact ⟨hdone, htr⟩

end Returned

section Composed

variable {s s₁ s' : σ} {tr tr' : List (Event O R ε)}

/-- A sequence whose first part returns goes on with the second. -/
theorem run_bind {t : Task O R ε α} {f : α → Task O R ε β} {t' : Task O R ε β} {a : α}
    (h : Run H t s tr (.done (.ok a)) s₁) (h' : Run H (f a) s₁ tr' t' s') :
    Run H (t >>= f) s (tr ++ tr') t' s' := by
  change Run H (Task.bind t f) s _ t' s'
  induction t generalizing s tr with
  | done r =>
      obtain ⟨hr, rfl, rfl⟩ := run_done h
      injection hr with hr
      rw [← hr]
      exact h'
  | call o k ih =>
      cases h with
      | exec _ _ _ g _ _ _ hf h => exact Run.exec o _ s g _ t' s' hf (ih _ h)
      | reply _ _ _ r _ _ _ hf h => exact Run.reply o _ s r _ t' s' hf (ih _ h)

/-- A sequence that starts with synchronous code that returned. -/
theorem run_lift_bind {x : Except ε α} {a : α} {f : α → Task O R ε β} {t' : Task O R ε β}
    (hx : x = .ok a) (h : Run H (f a) s tr t' s') :
    Run H ((liftM x : Task O R ε α) >>= f) s tr t' s' := by
  rw [Task.lift_ok_bind hx]
  exact h

/-- A sequence that starts with an awaited call. -/
theorem run_await_bind {o : O} {f : R o → Task O R ε β} {t' : Task O R ε β} (hf : H.exec o = none)
    (a : R o) (h : Run H (f a) s tr t' s') :
    Run H (Task.perform o >>= f) s (⟨o, .ok a⟩ :: tr) t' s' :=
  run_bind (Run.reply o .done s (.ok a) [] _ s hf (Run.refl _ s)) h

/-- A sequence that starts with a call the program answers itself. -/
theorem run_exec_bind {o : O} {f : R o → Task O R ε β} {t' : Task O R ε β}
    {g : σ → Except ε (R o) × σ} {a : R o} (hf : H.exec o = some g) (hg : g s = (.ok a, s₁))
    (h : Run H (f a) s₁ tr t' s') : Run H (Task.perform o >>= f) s (⟨o, .ok a⟩ :: tr) t' s' := by
  have hcall : Run H (Task.perform o) s [⟨o, .ok a⟩] (.done (.ok a)) s₁ := by
    have hrun := Run.exec o .done s g [] (.done (g s).1) (g s).2 hf (Run.refl _ _)
    rwa [hg] at hrun
  exact run_bind hcall h

/-- What a body came to, as a value. -/
theorem run_attempt {t : Task O R ε α} {r : Except ε α} (h : Run H t s tr (.done r) s') :
    Run H t.attempt s tr (.done (.ok r)) s' := by
  induction t generalizing s tr with
  | done r' =>
      obtain ⟨hr, rfl, rfl⟩ := run_done h
      injection hr with hr
      rw [← hr]
      exact Run.refl _ _
  | call o k ih =>
      cases h with
      | exec _ _ _ g tr _ _ hf h => exact Run.exec o _ s g tr _ _ hf (ih _ h)
      | reply _ _ _ r' tr _ _ hf h => exact Run.reply o _ s r' tr _ _ hf (ih _ h)

end Composed

end Async

end VellarSdk
