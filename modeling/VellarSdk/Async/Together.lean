import Mathlib.Data.List.Forall2
import VellarSdk.Async.Pool

/-!
# Bodies Started Together

`Promise.all` over the bodies of a list. All of them are started, in the order of the
list, and are answered in any order at all. The result is the list of their results, in
the order of the list, once there are all of them, or the first error there is. A body
that is under way then goes on, and what becomes of it is not waited for.

## Main definitions

* `Together`, `together`: Bodies that were started together, and their result.
* `Settling`: What the result says of the bodies.
* `oneCall`: A body of one call.

## Theorems

* `settling_run`: The result goes by the bodies, in every order of answers.
* `oneCall_settled`: Where each body makes one call, by the answers to the calls.
-/

namespace VellarSdk

namespace Async

variable {C O : Type} {R : O → Type} {ε σ α : Type}

/-- The results of bodies that have all returned. -/
def fulfilled : List (C × Task O R ε α) → Option (List α)
  | [] => some []
  | (_, .done (.ok a)) :: rest => (fulfilled rest).map (a :: ·)
  | _ :: _ => none

/-- The first error in the list of a body that has thrown. -/
def rejected : List (C × Task O R ε α) → Option ε
  | [] => none
  | (_, .done (.error e)) :: _ => some e
  | _ :: rest => rejected rest

/-- The result is that of the first time there is one. -/
def settle (calls : List (C × Task O R ε α)) :
    Option (Except ε (List α)) → Option (Except ε (List α))
  | some r => some r
  | none => match rejected calls with
    | some e => some (.error e)
    | none => (fulfilled calls).map .ok

/-- Bodies that were started together, and their result if there is one. -/
structure Together (C O : Type) (R : O → Type) (ε σ α : Type) where
  pool : Pool C O R ε σ α
  settled : Option (Except ε (List α))

/-- The bodies of a list, started. -/
def startTogether (body : C → Task O R ε α) (s : σ) (cs : List C) : Together C O R ε σ α where
  pool := { shared := s, calls := cs.map (fun c => (c, body c)) }
  settled := settle (cs.map (fun c => (c, body c))) none

/-- Their steps. No body joins later. -/
def together (H : Handler O R ε σ) (body : C → Task O R ε α) :
    Machine (Together C O R ε σ α) (PoolEvent C O R ε) where
  step g e := match e with
    | .call _ => none
    | e => ((pool H body).step g.pool e).map
        (fun p => { pool := p, settled := settle p.calls g.settled })

section Results

variable {calls : List (C × Task O R ε α)}

theorem fulfilled_eq_some {as : List α} : fulfilled calls = some as ↔
    List.Forall₂ (fun c a => c.2 = .done (.ok a)) calls as := by
  induction calls generalizing as with
  | nil =>
      rw [fulfilled, Option.some.injEq, List.forall₂_nil_left_iff]
      exact eq_comm
  | cons c rest ih =>
      obtain ⟨c, t⟩ := c
      cases t with
      | call o k =>
          -- A call that is not done, or has failed, leaves nothing to be fulfilled.
          refine iff_of_false (by simp only [fulfilled, reduceCtorEq, not_false_eq_true]) ?_
          rintro (_ | ⟨h, _⟩)
          exact absurd h (by simp only [reduceCtorEq, not_false_eq_true])
      | done r =>
          cases r with
          | error e =>
              refine iff_of_false (by simp only [fulfilled, reduceCtorEq, not_false_eq_true]) ?_
              rintro (_ | ⟨h, _⟩)
              exact absurd h (by simp only [Task.done.injEq, reduceCtorEq, not_false_eq_true])
          | ok a =>
              rw [fulfilled, Option.map_eq_some_iff]
              constructor
              · rintro ⟨as, has, rfl⟩
                exact .cons rfl (ih.mp has)
              · rintro (_ | ⟨h, hrest⟩)
                injection h with h
                injection h with h
                exact ⟨_, ih.mpr hrest, by rw [h]⟩

theorem mem_of_rejected {e : ε} (h : rejected calls = some e) :
    ∃ c, (c, .done (.error e)) ∈ calls := by
  induction calls with
  | nil => exact absurd h (by simp only [rejected, reduceCtorEq, not_false_eq_true])
  | cons c rest ih =>
      obtain ⟨c, t⟩ := c
      have hlater : rejected rest = some e → ∃ c', (c', .done (.error e)) ∈ (c, t) :: rest :=
        fun h => (ih h).imp (fun c' hc' => List.mem_cons_of_mem _ hc')
      cases t with
      | call o k => exact hlater h
      | done r =>
          cases r with
          | ok a => exact hlater h
          | error e' =>
              obtain rfl := Option.some.inj h
              exact ⟨c, List.mem_cons_self⟩

theorem returned_of_forall {as : List α}
    (h : List.Forall₂ (fun c a => c.2 = .done (.ok a)) calls as) {c : C × Task O R ε α}
    (hc : c ∈ calls) : ∃ a, c.2 = .done (.ok a) := by
  induction h with
  | nil => exact absurd hc List.not_mem_nil
  | cons hfirst _ ih =>
      rcases List.mem_cons.mp hc with rfl | hc
      · exact ⟨_, hfirst⟩
      · exact ih hc

/-- Where nothing was thrown and not everything has returned, something is under way. -/
theorem waiting_of_unsettled (hrejected : rejected calls = none) (h : fulfilled calls = none) :
    ∃ c ∈ calls, ∀ r, c.2 ≠ .done r := by
  induction calls with
  | nil => exact absurd h (by simp only [fulfilled, reduceCtorEq, not_false_eq_true])
  | cons c rest ih =>
      obtain ⟨c, t⟩ := c
      cases t with
      | call o k =>
          exact ⟨_, List.mem_cons_self, fun r => by simp only [ne_eq, reduceCtorEq,
            not_false_eq_true]⟩
      | done r =>
          cases r with
          | error e => exact absurd hrejected (by simp only [rejected, reduceCtorEq,
              not_false_eq_true])
          | ok a =>
              obtain ⟨c', hc', hwaits⟩ := ih hrejected (Option.map_eq_none_iff.mp h)
              exact ⟨c', List.mem_cons_of_mem _ hc', hwaits⟩

end Results

/-- What a result says of the bodies, and what it says that there is none. -/
def Settling (calls : List (C × Task O R ε α)) : Option (Except ε (List α)) → Prop
  | some (.ok as) => List.Forall₂ (fun c a => c.2 = .done (.ok a)) calls as
  | some (.error e) => ∃ c, (c, .done (.error e)) ∈ calls
  | none => ∃ c ∈ calls, ∀ r, c.2 ≠ .done r

theorem settling_settle (calls : List (C × Task O R ε α)) : Settling calls (settle calls none) := by
  unfold settle
  cases hrejected : rejected calls with
  | some e => exact mem_of_rejected hrejected
  | none =>
      cases hfulfilled : fulfilled calls with
      | some as => exact fulfilled_eq_some.mp hfulfilled
      | none => exact waiting_of_unsettled hrejected hfulfilled

/-- What a list of bodies and their result have to do with each other. -/
structure SettlingInvariant (body : C → Task O R ε α) (cs : List C) (g : Together C O R ε σ α) :
    Prop where
  progress : InProgress body g.pool
  members : g.pool.calls.map Prod.fst = cs
  settling : Settling g.pool.calls g.settled

section Runs

variable {H : Handler O R ε σ} {body : C → Task O R ε α} {s : σ} {cs : List C}
  {g g' : Together C O R ε σ α}

theorem settling_start (body : C → Task O R ε α) (s : σ) (cs : List C) :
    SettlingInvariant body cs (startTogether body s cs) where
  progress :=
    { runs := fun i c rest hi => by
        obtain ⟨c', -, heq⟩ := List.mem_map.mp (List.mem_of_getElem? hi)
        obtain ⟨rfl, rfl⟩ := Prod.mk.inj heq
        exact Run.refl _ _
      called := fun e he => absurd he List.not_mem_nil }
  members := by
    rw [startTogether, List.map_map]
    exact List.map_id cs
  settling := settling_settle _

theorem settling_step {e : PoolEvent C O R ε} (hg : SettlingInvariant body cs g)
    (h : (together H body).step g e = some g') : SettlingInvariant body cs g' := by
  have hstep : ∃ p, (pool H body).step g.pool e = some p ∧ (∀ c, e ≠ .call c) ∧
      g' = { pool := p, settled := settle p.calls g.settled } := by
    cases e with
    | call c => exact absurd h (by simp only [together, reduceCtorEq, not_false_eq_true])
    | exec i | reply i answer =>
        obtain ⟨p, hp, rfl⟩ := Option.map_eq_some_iff.mp h
        exact ⟨p, hp, fun c => by simp only [ne_eq, reduceCtorEq, not_false_eq_true], rfl⟩
  obtain ⟨p, hp, hnew, rfl⟩ := hstep
  refine ⟨inProgress_step hg.progress hp, ?_, ?_⟩
  · rcases pool_step_cases hp with ⟨c, hc, -⟩ | ⟨i, c, o, k, r, s', hcall, -, rfl⟩
    · exact absurd hc (hnew c)
    · have hi : (g.pool.calls.map Prod.fst)[i]? = some c := by
        rw [List.getElem?_map, hcall]
        rfl
      obtain ⟨hlt, heq⟩ := List.getElem?_eq_some_iff.mp hi
      rw [← hg.members, List.map_set, ← heq, List.set_getElem_self]
  · rcases pool_step_cases hp with ⟨c, hc, -⟩ | ⟨i, c, o, k, r, s', hcall, -, rfl⟩
    · exact absurd hc (hnew c)
    · have hsettling := hg.settling
      cases hsettled : g.settled with
      | none => exact settling_settle _
      | some r' =>
          rw [hsettled] at hsettling
          cases r' with
          | ok as =>
              -- All have returned, so none of them gets on.
              obtain ⟨a, ha⟩ := returned_of_forall hsettling (List.mem_of_getElem? hcall)
              exact absurd ha (by simp only [reduceCtorEq, not_false_eq_true])
          | error e =>
              obtain ⟨c', hmem⟩ := hsettling
              obtain ⟨j, hj⟩ := List.mem_iff_getElem?.mp hmem
              refine ⟨c', List.mem_of_getElem? (i := j) ?_⟩
              rw [List.getElem?_set_ne (fun hij => ?_)]
              · exact hj
              · rw [← hij, hcall, Option.some.injEq, Prod.mk.injEq] at hj
                exact absurd hj.2 (by simp only [reduceCtorEq, not_false_eq_true])

/-- Whatever order the bodies are answered in, the result goes by them. -/
theorem settling_run {es : List (PoolEvent C O R ε)}
    (hrun : (together H body).run (startTogether body s cs) es = some g) :
    SettlingInvariant body cs g :=
  Machine.run_invariant (P := fun _ _ => True) (fun _ _ _ hg _ h => settling_step hg h)
    (settling_start body s cs) (Machine.runWhere_of_forall_mem (fun _ _ _ => trivial)) hrun

end Runs

section OneCall

variable {H : Handler O R ε σ} {op : C → O} {report : (c : C) → Except ε (R (op c)) → Except ε α}
  {s : σ} {cs : List C} {g : Together C O R ε σ α}

/-- A body that makes one call and ends with what it makes of the answer. -/
def oneCall (op : C → O) (report : (c : C) → Except ε (R (op c)) → Except ε α) (c : C) :
    Task O R ε α :=
  .call (op c) (fun r => .done (report c r))

theorem oneCall_run {c : C} {tr : List (Event O R ε)} {t : Task O R ε α}
    (h : Run awaitAll (oneCall op report c) () tr t ()) :
    (tr = [] ∧ t = oneCall op report c) ∨ ∃ r, tr = [⟨op c, r⟩] ∧ t = .done (report c r) := by
  cases h with
  | refl => exact .inl ⟨rfl, rfl⟩
  | exec _ _ _ f _ _ _ hf _ =>
      exact absurd hf (by simp only [awaitAll, reduceCtorEq, not_false_eq_true])
  | reply _ _ _ r _ _ _ _ hrest =>
      cases hrest with
      | refl => exact .inr ⟨r, rfl, rfl⟩

/-- What a result is made of, where each body makes one call. -/
def Reported (op : C → O) (report : (c : C) → Except ε (R (op c)) → Except ε α) (cs : List C)
    (log : List (Nat × Event O R ε)) : Option (Except ε (List α)) → Prop
  | some (.ok as) => as.length = cs.length ∧ ∀ i c a, cs[i]? = some c → as[i]? = some a →
      ∃ r, own i log = [⟨op c, r⟩] ∧ report c r = .ok a
  | some (.error e) => ∃ i c r, cs[i]? = some c ∧ own i log = [⟨op c, r⟩] ∧ report c r = .error e
  | none => ∃ i c, cs[i]? = some c ∧ own i log = []

/-- Where each body makes one call, the results are what was made of the answers, each in
    its place, and there is a result once there are all answers. -/
theorem oneCall_settled {es : List (PoolEvent C O R ε)}
    (hrun : (together H (oneCall op report)).run (startTogether (oneCall op report) s cs) es =
      some g) : Reported op report cs g.pool.log g.settled := by
  obtain ⟨hprogress, rfl, hsettling⟩ := settling_run hrun
  -- The calls keep their places, and each of them makes one call and is done.
  have hplace : ∀ (i : Nat) c, (g.pool.calls.map Prod.fst)[i]? = some c →
      ∃ t, g.pool.calls[i]? = some (c, t) := by
    intro i c hi
    rw [List.getElem?_map, Option.map_eq_some_iff] at hi
    obtain ⟨⟨c', t⟩, hcall, rfl⟩ := hi
    exact ⟨t, hcall⟩
  have hdone : ∀ (i : Nat) c t r, g.pool.calls[i]? = some (c, t) → t = .done r →
      ∃ r', own i g.pool.log = [⟨op c, r'⟩] ∧ report c r' = r := by
    rintro i c t r hcall rfl
    rcases oneCall_run (hprogress.runs i c _ hcall) with ⟨-, hwaits⟩ | ⟨r', htr, hr⟩
    · exact absurd hwaits (by simp only [oneCall, reduceCtorEq, not_false_eq_true])
    · injection hr with hr
      exact ⟨r', htr, hr.symm⟩
  cases hsettled : g.settled with
  | none =>
      -- One of them still waits, and so it has not been answered.
      rw [hsettled] at hsettling
      obtain ⟨⟨c, t⟩, hc, hwaits⟩ := hsettling
      obtain ⟨i, hi⟩ := List.mem_iff_getElem?.mp hc
      refine ⟨i, c, by rw [List.getElem?_map, hi]; rfl, ?_⟩
      rcases oneCall_run (hprogress.runs i c t hi) with ⟨htr, -⟩ | ⟨r', -, rfl⟩
      · exact htr
      · exact absurd rfl (hwaits _)
  | some r =>
      rw [hsettled] at hsettling
      cases r with
      | error e =>
          -- The first failure is that of one of them.
          obtain ⟨c, hc⟩ := hsettling
          obtain ⟨i, hi⟩ := List.mem_iff_getElem?.mp hc
          obtain ⟨r', hown, hr⟩ := hdone i c _ _ hi rfl
          exact ⟨i, c, r', by rw [List.getElem?_map, hi]; rfl, hown, hr⟩
      | ok as =>
          refine ⟨by rw [List.length_map, hsettling.length_eq], fun i c a hc ha => ?_⟩
          obtain ⟨t, hi⟩ := hplace i c hc
          obtain ⟨hlt, hget⟩ := List.getElem?_eq_some_iff.mp hi
          obtain ⟨hlt', hget'⟩ := List.getElem?_eq_some_iff.mp ha
          have heach := (List.forall₂_iff_get.mp hsettling).2 i hlt hlt'
          rw [List.get_eq_getElem, List.get_eq_getElem, hget, hget'] at heach
          exact hdone i c t _ hi heach

end OneCall

end Async

end VellarSdk
