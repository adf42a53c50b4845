import VellarSdk.Session.Store

/-!
# What a Session Store Keeps To

Two things are expected of the store. The session in memory and the status agree
in every state, and a session that was ended stays ended. Both hold as long as
operations do not overlap, and both fail when a touch overlaps with an end.

A touch looks for the session when it is called, and writes it when the storage
has answered, without looking again and without setting the status. So when the
session is ended in between, it comes back beside a status that says that there
is none, and the copy in the storage comes back as well.

`TouchesWhileConnected` is exactly what a run has to keep to for the first.
`NoLateWrite` is enough for the second: no call writes a session over an end it
does not know of, neither in the storage nor in memory. Starting and restoring
after the end was called is a new session and no concern of it.

## Main definitions

* `Coherent`: The session and the status agree.
* `EndIsFinal`: A session that was ended stays ended.
* `TouchesWhileConnected`, `NoLateWrite`: The conditions for them.

## Theorems

* `coherent_step`, `ended_step`: What a step keeps.
* `coherent_iff`: The runs along which the store is coherent.
* `end_is_final`: Ends are final along runs that meet the condition.
-/

namespace VellarSdk

namespace Session

open Js Async

variable {o : CreateSessionStoreOptions} {s s' : SessionStore} {a : StoreAction}

/-- There is a session exactly when the status is that there is one. -/
def Coherent (s : SessionStore) : Prop :=
  s.session.isSome = true ↔ s.status = .connected

/-- A touch that goes on finds the store connected. -/
def TouchesWhileConnected (s : SessionStore) (a : StoreAction) : Prop :=
  ∀ i updated found, a = .resolve i → s.calls[i]? = some ⟨.touch updated, .effected found⟩ →
    s.status = .connected

/-- A session is written with the status, except by a touch. -/
theorem coherent_resume (op : StoreOp) (found : JsValue) :
    Coherent (s.resume o op found) ↔ ∀ updated, op = .touch updated → s.status = .connected := by
  obtain ⟨status, timer, heq, hstatus⟩ := resume_eq o s op found
  unfold Coherent
  rw [heq]
  rcases hstatus with ⟨updated, rfl, rfl⟩ | ⟨hother, rfl⟩
  · simp only [StoreOp.written, Option.isSome_some, true_iff, StoreOp.touch.injEq, forall_eq']
  · refine ⟨fun _ updated htouch => absurd htouch (hother updated), fun _ => ?_⟩
    by_cases hsome : (op.written found).isSome = true
    · simp only [hsome, if_true]
    · simp only [hsome, if_false, reduceCtorEq]

theorem coherent_fail (hs : Coherent s) (op : StoreOp) : Coherent (s.fail op) := by
  cases op with
  | restore => simp only [Coherent, SessionStore.fail, Option.isSome_none, Bool.false_eq_true,
      reduceCtorEq]
  | _ => exact hs

theorem touchesWhileConnected_of_ne (h : ∀ i, a ≠ .resolve i) : TouchesWhileConnected s a :=
  fun i _ _ ha => absurd ha (h i)

/-- A step leaves the store coherent exactly when it is no touch of a store that
    is not connected. -/
theorem coherent_step (hs : Coherent s) (h : (sessionStore o).step s a = some s') :
    Coherent s' ↔ TouchesWhileConnected s a := by
  rcases step_cases h with ⟨hsession, hstatus, -, -, hother⟩ | ⟨op, rfl, hother⟩ |
    ⟨i, op, found, rfl, -, rfl⟩ | ⟨i, op, found, rfl, hcall, rfl⟩ | ⟨i, op, phase, rfl, -, rfl⟩
  · refine iff_of_true ?_ (touchesWhileConnected_of_ne hother)
    unfold Coherent
    rw [hsession, hstatus]
    exact hs
  · exact iff_of_true hs (touchesWhileConnected_of_ne hother)
  · exact iff_of_true hs (touchesWhileConnected_of_ne nofun)
  · refine (coherent_resume op found).trans ⟨fun hwrites j updated found' hj hcall' => ?_, ?_⟩
    · cases hj
      rw [hcall, Option.some.injEq, StoreCall.mk.injEq] at hcall'
      exact hwrites updated hcall'.1
    · intro htouches updated hop
      exact htouches i updated found rfl (hop ▸ hcall)
  · exact iff_of_true (coherent_fail hs op) (touchesWhileConnected_of_ne nofun)

/-- The store is coherent all along a run exactly when every touch of it that
    goes on finds the store connected. -/
theorem coherent_iff (o : CreateSessionStoreOptions) (stored : Option JsValue)
    (actions : List StoreAction) :
    (sessionStore o).Always Coherent { stored := stored } actions ↔
      (sessionStore o).RunWhere TouchesWhileConnected { stored := stored } actions := by
  refine Machine.always_iff_runWhere ?_ (fun _ _ _ hs h => coherent_step hs h) ?_
  · rintro s a hstuck i updated found rfl hcall
    simp only [sessionStore, hcall] at hstuck
    exact absurd hstuck (by simp only [reduceCtorEq, not_false_eq_true])
  · simp only [Coherent, Option.isSome_none, Bool.false_eq_true, reduceCtorEq]

/-- Some session. -/
def someSession : WalletSession where
  value := .obj [(js "accountId", .str (js "C")), (js "network", .str (js "testnet")),
    (js "connected", .bool true), (js "authMethod", .str (js "passkey")),
    (js "createdAt", .str (js "2026-07-16T10:00:00.000Z")),
    (js "lastActiveAt", .str (js "2026-07-16T10:00:00.000Z"))]
  object := rfl

/-- A session is started; a touch is called, and before the storage is done with
    it the session is ended. -/
def touchThenEnd : List StoreAction :=
  [.start someSession, .effect 0 .null, .resolve 0, .touch (some (js "2026-07-16T10:05:00.000Z")),
    .end', .effect 2 .null, .resolve 2, .effect 1 .null, .resolve 1]

/-- A touch that was called before the session ended brings it back beside a
    status that says it is gone. -/
theorem touch_after_end_incoherent :
    ¬ ∀ o stored actions, (sessionStore o).Always Coherent { stored := stored } actions := by
  intro h
  have hcoherent := h {} none touchThenEnd touchThenEnd [] _ (List.append_nil _).symm rfl
  exact absurd (hcoherent.mp rfl) (by decide)

/-- Does the operation begin a session? -/
def StoreOp.begins : StoreOp → Bool
  | .start _ | .restore => true
  | _ => false

/-- Does the operation write to the storage? -/
def StoreOp.saves : StoreOp → Bool
  | .start _ | .touch _ => true
  | _ => false

/-- Has the storage done what it was called for, without having refused it? -/
def Phase.done : Phase → Bool
  | .effected _ | .resolved => true
  | _ => false

/-- Is the operation that made the call over? -/
def Phase.over : Phase → Bool
  | .resolved | .rejected => true
  | _ => false

/-- No session was begun after the `k`-th call was made. -/
def LastWord (s : SessionStore) (k : Nat) : Prop :=
  ∀ j c, k < j → s.calls[j]? = some c → c.op.begins = false

/-- Where an end was resolved, no session was begun after it was called, and
    nothing is under way, there is no session: neither in memory nor stored. -/
def EndIsFinal (s : SessionStore) : Prop :=
  ∀ k, s.calls[k]? = some ⟨.end', .resolved⟩ → LastWord s k → (∀ c ∈ s.calls, c.phase.over = true) →
    s.session = none ∧ s.status = .disconnected ∧ s.stored = none

/-- No session is written to a storage that was cleared for an end that has the
    last word, and none is written to memory after such an end was resolved. -/
def NoLateWrite (s : SessionStore) (a : StoreAction) : Prop :=
  (∀ i found op, a = .effect i found → s.calls[i]? = some ⟨op, .waiting⟩ → op.saves = true →
    ∀ k phase, s.calls[k]? = some ⟨.end', phase⟩ → phase.done = true → ¬ LastWord s k) ∧
  (∀ i found op, a = .resolve i → s.calls[i]? = some ⟨op, .effected found⟩ →
    (op.written found).isSome = true →
    ∀ k, s.calls[k]? = some ⟨.end', .resolved⟩ → ¬ LastWord s k)

/-- What an end that has the last word has done so far. -/
def Ended (s : SessionStore) : Prop :=
  ∀ k phase, s.calls[k]? = some ⟨.end', phase⟩ → LastWord s k → phase.done = true →
    s.stored = none ∧ (phase = .resolved → s.session = none ∧ s.status = .disconnected)

/-- The phase a call is in has nothing to do with who has the last word. -/
theorem lastWord_of_setPhase {i k : Nat} {op : StoreOp} {phase phase' : Phase}
    (hcall : s.calls[i]? = some ⟨op, phase⟩) (hcalls : s'.calls = s.calls.set i ⟨op, phase'⟩)
    (h : LastWord s' k) : LastWord s k := by
  intro j c hkj hj
  by_cases hij : i = j
  · subst hij
    rw [hcall, Option.some.injEq] at hj
    subst hj
    refine h i ⟨op, phase'⟩ hkj ?_
    rw [hcalls, List.getElem?_set_self (List.getElem?_eq_some_iff.mp hcall).1]
  · refine h j c hkj ?_
    rw [hcalls, List.getElem?_set_ne hij]
    exact hj

/-- The call made last is not done yet. -/
theorem call_of_await {k : Nat} {op : StoreOp} {c : StoreCall}
    (h : (s.await op).calls[k]? = some c) (hdone : c.phase.done = true) :
    s.calls[k]? = some c := by
  simp only [SessionStore.await] at h
  by_cases hk : k < s.calls.length
  · rwa [List.getElem?_append_left hk] at h
  · rw [List.getElem?_append_right (not_lt.mp hk)] at h
    obtain rfl := List.mem_singleton.mp (List.mem_of_getElem? h)
    exact absurd hdone (by simp only [Phase.done, Bool.false_eq_true, not_false_eq_true])

theorem lastWord_of_await {k : Nat} {op : StoreOp} (h : LastWord (s.await op) k) :
    LastWord s k := by
  intro j c hkj hj
  refine h j c hkj ?_
  simp only [SessionStore.await]
  rw [List.getElem?_append_left (List.getElem?_eq_some_iff.mp hj).1]
  exact hj

/-- The storage does what it was called for: a save comes before every end that
    has the last word. -/
theorem ended_effect {i : Nat} {op : StoreOp} {found : JsValue} (hs : Ended s)
    (hlate : NoLateWrite s (.effect i found)) (hcall : s.calls[i]? = some ⟨op, .waiting⟩) :
    Ended (s.effect i op found) := by
  intro k phase hk hlast hdone
  have hword : LastWord s k := lastWord_of_setPhase hcall rfl hlast
  rcases getElem?_set_cases hk with ⟨rfl, heq⟩ | ⟨-, hk'⟩
  · rw [StoreCall.mk.injEq] at heq
    obtain ⟨rfl, rfl⟩ := heq
    exact ⟨rfl, nofun⟩
  · obtain ⟨hstored, hmemory⟩ := hs k phase hk' hword hdone
    refine ⟨?_, hmemory⟩
    cases op with
    | start session => exact absurd hword (hlate.1 i found _ rfl hcall rfl k phase hk' hdone)
    | touch updated => exact absurd hword (hlate.1 i found _ rfl hcall rfl k phase hk' hdone)
    | end' => rfl
    | restore => exact hstored

/-- An operation goes on: one that writes a session comes before every end that
    has the last word. -/
theorem ended_resolve {i : Nat} {op : StoreOp} {found : JsValue} (hs : Ended s)
    (hlate : NoLateWrite s (.resolve i)) (hcall : s.calls[i]? = some ⟨op, .effected found⟩) :
    Ended ((s.resume o op found).setPhase i op .resolved) := by
  obtain ⟨status, timer, hresume, hstatus⟩ := resume_eq o s op found
  rw [hresume]
  intro k phase hk hlast hdone
  have hword : LastWord s k := lastWord_of_setPhase hcall rfl hlast
  -- An operation that writes no session writes that there is none.
  have hnone : op.written found = none →
      op.written found = none ∧ status = .disconnected := by
    intro hwritten
    refine ⟨hwritten, ?_⟩
    rcases hstatus with ⟨updated, rfl, -⟩ | ⟨-, rfl⟩
    · exact absurd hwritten (by simp only [StoreOp.written, reduceCtorEq, not_false_eq_true])
    · simp only [hwritten, Option.isSome_none, Bool.false_eq_true, if_false]
  rcases getElem?_set_cases hk with ⟨rfl, heq⟩ | ⟨-, hk'⟩
  · rw [StoreCall.mk.injEq] at heq
    obtain ⟨rfl, rfl⟩ := heq
    exact ⟨(hs k _ hcall hword rfl).1, fun _ => hnone rfl⟩
  · obtain ⟨hstored, -⟩ := hs k phase hk' hword hdone
    refine ⟨hstored, fun hresolved => hnone ?_⟩
    subst hresolved
    by_contra hsome
    exact hlate.2 i found op rfl hcall (Option.isSome_iff_ne_none.mpr hsome) k hk' hword

theorem ended_reject {i : Nat} {op : StoreOp} {phase₀ : Phase} (hs : Ended s)
    (hcall : s.calls[i]? = some ⟨op, phase₀⟩) :
    Ended ((s.fail op).setPhase i op .rejected) := by
  intro k phase hk hlast hdone
  have hcalls : ((s.fail op).setPhase i op .rejected).calls = s.calls.set i ⟨op, .rejected⟩ := by
    rw [SessionStore.setPhase, fail_calls]
  rw [hcalls] at hk
  have hword : LastWord s k := lastWord_of_setPhase hcall hcalls hlast
  rcases getElem?_set_cases hk with ⟨-, heq⟩ | ⟨-, hk'⟩
  · rw [StoreCall.mk.injEq] at heq
    obtain ⟨-, rfl⟩ := heq
    exact absurd hdone (by decide)
  · obtain ⟨hstored, hmemory⟩ := hs k phase hk' hword hdone
    refine ⟨(fail_stored s op).trans hstored, fun hresolved => ?_⟩
    cases op with
    | restore => exact ⟨rfl, rfl⟩
    | _ => exact hmemory hresolved

theorem ended_step (hs : Ended s) (hlate : NoLateWrite s a)
    (h : (sessionStore o).step s a = some s') : Ended s' := by
  rcases step_cases h with ⟨hsession, hstatus, hstored, hcalls, -⟩ | ⟨op, rfl, -⟩ |
    ⟨i, op, found, rfl, hcall, rfl⟩ | ⟨i, op, found, rfl, hcall, rfl⟩ |
    ⟨i, op, phase, rfl, hcall, rfl⟩
  · intro k phase hk hlast hdone
    unfold LastWord at hlast
    rw [hcalls] at hk hlast
    rw [hsession, hstatus, hstored]
    exact hs k phase hk hlast hdone
  · intro k phase hk hlast hdone
    exact hs k phase (call_of_await hk hdone) (lastWord_of_await hlast) hdone
  · exact ended_effect hs hlate hcall
  · exact ended_resolve hs hlate hcall
  · exact ended_reject hs hcall

/-- A session that was ended stays ended as long as no call writes one over an
    end that has the last word. -/
theorem end_is_final (o : CreateSessionStoreOptions) (stored : Option JsValue)
    (actions : List StoreAction)
    (hlate : (sessionStore o).RunWhere NoLateWrite { stored := stored } actions) :
    (sessionStore o).Always EndIsFinal { stored := stored } actions := by
  have hended : (sessionStore o).Always Ended { stored := stored } actions := by
    refine Machine.always_of_runWhere (fun _ _ _ hs hc h => ended_step hs hc h) ?_ hlate
    intro k phase hk
    exact absurd hk (by simp only [List.getElem?_nil, reduceCtorEq, not_false_eq_true])
  intro before after s hsplit hrun k hk hlast _
  obtain ⟨hstored', hmemory⟩ := hended before after s hsplit hrun k .resolved hk hlast rfl
  exact ⟨(hmemory rfl).1, (hmemory rfl).2, hstored'⟩

/-- Has the storage been cleared for the call? -/
def StoreCall.cleared (c : StoreCall) : Bool :=
  match c.op with
  | .end' => c.phase.done
  | _ => false

/-- Before any end is done, nothing is late. -/
theorem noLateWrite_of_not_cleared (h : s.calls.all (fun c => !c.cleared) = true) :
    NoLateWrite s a := by
  have hnone : ∀ (k : Nat) phase, s.calls[k]? = some ⟨.end', phase⟩ → phase.done = false := by
    intro k phase hk
    have hcall := List.all_eq_true.mp h _ (List.mem_of_getElem? hk)
    simpa only [StoreCall.cleared, Bool.not_eq_true'] using hcall
  refine ⟨fun i found op _ _ _ k phase hk hdone => ?_, fun i found op _ _ _ k hk => ?_⟩
  · rw [hnone k phase hk] at hdone
    exact absurd hdone (by simp only [Bool.false_eq_true, not_false_eq_true])
  · exact absurd (hnone k .resolved hk) (by decide)

/-- A touch that goes on before the storage is cleared for the end. -/
def touchBeforeEnd : List StoreAction :=
  [.start someSession, .effect 0 .null, .resolve 0, .touch (some (js "2026-07-16T10:05:00.000Z")),
    .end', .effect 1 .null, .resolve 1, .effect 2 .null, .resolve 2]

theorem end_is_final_touchBeforeEnd :
    (sessionStore {}).Always EndIsFinal { stored := none } touchBeforeEnd := by
  refine end_is_final {} none touchBeforeEnd ?_
  refine Machine.runWhere_cons rfl (noLateWrite_of_not_cleared rfl) ?_
  refine Machine.runWhere_cons rfl (noLateWrite_of_not_cleared rfl) ?_
  refine Machine.runWhere_cons rfl (noLateWrite_of_not_cleared rfl) ?_
  refine Machine.runWhere_cons rfl (noLateWrite_of_not_cleared rfl) ?_
  refine Machine.runWhere_cons rfl (noLateWrite_of_not_cleared rfl) ?_
  refine Machine.runWhere_cons rfl (noLateWrite_of_not_cleared rfl) ?_
  refine Machine.runWhere_cons rfl (noLateWrite_of_not_cleared rfl) ?_
  refine Machine.runWhere_cons rfl (noLateWrite_of_not_cleared rfl) ?_
  refine Machine.runWhere_cons rfl ⟨nofun, ?_⟩ trivial
  -- The end is done, and it writes no session.
  intro i found op hi hcall hsome
  cases hi
  cases hcall
  exact absurd hsome (by decide)

/-- The call made last has the last word. -/
theorem lastWord_of_length {k : Nat} (h : s.calls.length = k + 1) : LastWord s k := by
  intro j c hkj hj
  have hlt : j < s.calls.length := (List.getElem?_eq_some_iff.mp hj).1
  omega

/-- A touch that was called before the session ended brings it back, in memory
    and in a storage that holds what was last saved. -/
theorem touch_after_end_undoes_it : ¬ ∀ o stored actions,
    (sessionStore o).RunWhere ReadsBack { stored := stored } actions →
      (sessionStore o).Always EndIsFinal { stored := stored } actions := by
  intro h
  -- Nothing is loaded.
  have hreads : (sessionStore {}).RunWhere ReadsBack { stored := none } touchThenEnd := by
    refine Machine.runWhere_cons rfl nofun ?_
    refine Machine.runWhere_cons rfl (by rintro i found ⟨⟩ ⟨⟩) ?_
    refine Machine.runWhere_cons rfl nofun ?_
    refine Machine.runWhere_cons rfl nofun ?_
    refine Machine.runWhere_cons rfl nofun ?_
    refine Machine.runWhere_cons rfl (by rintro i found ⟨⟩ ⟨⟩) ?_
    refine Machine.runWhere_cons rfl nofun ?_
    refine Machine.runWhere_cons rfl (by rintro i found ⟨⟩ ⟨⟩) ?_
    exact Machine.runWhere_cons rfl nofun trivial
  have hfinal := h {} none touchThenEnd hreads touchThenEnd [] _ (List.append_nil _).symm rfl 2 rfl
  exact absurd (hfinal (lastWord_of_length rfl) (List.all_eq_true.mp rfl)).1 nofun

end Session

end VellarSdk
