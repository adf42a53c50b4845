import VellarSdk.Session.Coherence

/-!
# The Refresh Interval of a Session Store

The store again, with the intervals of the runtime. `setInterval` hands out a handle
and the interval fires until that handle is cleared, whether the store still has it
or not, so a handle that is lost leaves an interval behind that nothing can stop.
`RefreshingStore` keeps the intervals that fire beside the handle that the store
holds, and is the store of before when the handle is forgotten: `step_refines`.

That they are the same is kept by every step, whatever overlaps. That the interval is
live only while the store is connected is not, as a restore that finds no session
disconnects the store and leaves the interval alone.

## Main definitions

* `RefreshingStore`, `refreshing`: The store with its intervals.
* `OneInterval`: The intervals that fire are the one that is held.
* `Operation`, `sequential`: Operations one after the other.
* `PollsWhileConnected`: An interval is live only while the store is connected.
* `KeepsPolling`, `RestoresQuietly`: A restore that disconnects finds no interval.

## Theorems

* `step_refines`: The store without its intervals.
* `interval_cases`: Everything a step can do to the intervals.
* `refresh_interval_is_unique`: One interval at most, and none after a disposal.
* `polling_stops_iff`: When polling stops with the connection.
-/

namespace VellarSdk

namespace Session

open Js Async

/-- A store with the handle of its interval, the intervals that fire, and how many
    handles there were. -/
structure RefreshingStore where
  store : SessionStore
  timer : Option Nat := none
  held : store.timer = timer.isSome
  live : List Nat := []
  created : Nat := 0

namespace RefreshingStore

variable (o : CreateSessionStoreOptions) (s : RefreshingStore)

/-- A store that was just created. -/
def create (stored : Option JsValue) : RefreshingStore where
  store := { stored := stored }
  held := rfl

/-- `timer = setInterval(...)`. -/
def setInterval : RefreshingStore where
  store := { s.store with timer := true }
  timer := some s.created
  held := rfl
  live := s.live ++ [s.created]
  created := s.created + 1

def startRefresh : RefreshingStore :=
  if s.store.disposed then s
  else if s.timer.isSome then s
  else match o.refreshIntervalMs with
    | none => s
    | some ms => if JsNum.lt (.ofNat 0) ms then s.setInterval else s

/-- `clearInterval(timer)`, and forget the handle. -/
def stopRefresh : RefreshingStore :=
  match s.timer with
  | some handle =>
      { store := { s.store with timer := false }
        timer := none
        held := rfl
        live := s.live.filter (fun other => other != handle)
        created := s.created }
  | none => s

def dispose : RefreshingStore :=
  stopRefresh { s with store := { s.store with disposed := true }, held := s.held }

/-- `set({ session, status })`. -/
def set (session : Option WalletSession) (status : SessionStatus) : RefreshingStore :=
  { s with store := { s.store with session := session, status := status }, held := s.held }

theorem touch_timer (store : SessionStore) (now : Option JsString) :
    (store.touch now).timer = store.timer := by
  unfold SessionStore.touch
  split <;> rfl

theorem fail_timer (store : SessionStore) (op : StoreOp) : (store.fail op).timer = store.timer := by
  cases op <;> rfl

/-- Something that leaves the handle alone. -/
def update (store : SessionStore) (h : store.timer = s.store.timer) : RefreshingStore :=
  { s with store := store, held := h.trans s.held }

/-- An operation goes on after the storage has done what it was called for. -/
def resume : StoreOp → JsValue → RefreshingStore
  | .start session, _ => (s.set (some session) .connected).startRefresh o
  | .touch updated, _ => s.set (some updated) s.store.status
  | .end', _ => s.stopRefresh.set none .disconnected
  | .restore, found => match restored found with
    | some session => (s.set (some session) .connected).startRefresh o
    | none => s.set none .disconnected

def setPhase (i : Nat) (op : StoreOp) (phase : Phase) : RefreshingStore :=
  s.update (s.store.setPhase i op phase) rfl

def touch (now : Option JsString) : RefreshingStore :=
  s.update (s.store.touch now) (touch_timer s.store now)

/-- An interval fires. -/
def tick (now : JsString) : RefreshingStore :=
  if s.store.disposed then s else s.touch (some now)

end RefreshingStore

/-- The methods of one store and its intervals, in any order and overlapping. -/
def refreshing (o : CreateSessionStoreOptions) : Machine RefreshingStore StoreAction where
  step s a := match a with
    | .start session => some (s.update (s.store.await (.start session)) rfl)
    | .touch now => some (s.touch now)
    | .end' => some (s.update (s.store.await .end') rfl)
    | .restore => some (s.update (s.store.await .restore) rfl)
    | .dispose => some s.dispose
    | .tick now => if s.live.isEmpty then none else some (s.tick now)
    | .effect i found => match s.store.calls[i]? with
      | some ⟨op, .waiting⟩ => some (s.update (s.store.effect i op found) rfl)
      | _ => none
    | .resolve i => match s.store.calls[i]? with
      | some ⟨op, .effected found⟩ => some ((s.resume o op found).setPhase i op .resolved)
      | _ => none
    | .reject i => match s.store.calls[i]? with
      | some ⟨op, .waiting⟩ | some ⟨op, .effected _⟩ =>
          some ((s.update (s.store.fail op)
            (RefreshingStore.fail_timer s.store op)).setPhase i op .rejected)
      | _ => none

/-- The intervals that fire are the one whose handle is held, and a store that was
    disposed of holds none. -/
structure OneInterval (s : RefreshingStore) : Prop where
  live : s.live = s.timer.toList
  disposed : s.store.disposed = true → s.timer = none

section Refinement

variable (o : CreateSessionStoreOptions) (s : RefreshingStore)

@[simp] theorem set_store (session : Option WalletSession) (status : SessionStatus) :
    (s.set session status).store = { s.store with session := session, status := status } := rfl

theorem startRefresh_store : (s.startRefresh o).store = s.store.startRefresh o := by
  unfold RefreshingStore.startRefresh SessionStore.startRefresh
  rw [s.held]
  by_cases hdisposed : s.store.disposed = true
  · rw [if_pos hdisposed, if_pos hdisposed]
  rw [if_neg hdisposed, if_neg hdisposed]
  by_cases htimer : s.timer.isSome = true
  · rw [if_pos htimer, if_pos htimer]
  rw [if_neg htimer, if_neg htimer]
  cases o.refreshIntervalMs with
  | none => rfl
  | some ms =>
      by_cases hms : JsNum.lt (.ofNat 0) ms = true
      · simp only [hms, if_true]
        rfl
      · simp only [hms, Bool.false_eq_true, if_false]

theorem stopRefresh_store : s.stopRefresh.store = s.store.stopRefresh := by
  have hheld := s.held
  unfold RefreshingStore.stopRefresh SessionStore.stopRefresh
  cases htimer : s.timer with
  | some handle => rfl
  | none =>
      rw [htimer, Option.isSome_none] at hheld
      exact congrArg (fun timer => { s.store with timer := timer }) hheld

theorem dispose_store : s.dispose.store = s.store.dispose := by
  rw [RefreshingStore.dispose, stopRefresh_store]
  rfl

theorem resume_store (op : StoreOp) (found : JsValue) :
    (s.resume o op found).store = s.store.resume o op found := by
  cases op with
  | start session => exact startRefresh_store o _
  | touch updated => rfl
  | end' => rw [RefreshingStore.resume, set_store, stopRefresh_store, SessionStore.resume]
  | restore =>
      rw [RefreshingStore.resume, SessionStore.resume]
      cases restored found with
      | none => rfl
      | some session => exact startRefresh_store o _

end Refinement

variable {o : CreateSessionStoreOptions} {s s' : RefreshingStore} {a : StoreAction}

/-- Without its intervals it is the store of before: a step of the one is a step of
    the other. -/
theorem step_refines (hs : OneInterval s) (h : (refreshing o).step s a = some s') :
    (sessionStore o).step s.store a = some s'.store := by
  cases a with
  | dispose =>
      simp only [refreshing, Option.some.injEq] at h
      subst h
      rw [dispose_store]
      rfl
  | tick now =>
      simp only [refreshing] at h
      -- Without an interval nothing ticks; with one, it is the one the variable names.
      by_cases hlive : s.live.isEmpty = true
      · rw [if_pos hlive] at h
        exact absurd h (by simp only [reduceCtorEq, not_false_eq_true])
      · rw [if_neg hlive, Option.some.injEq] at h
        have htimer : s.store.timer = true := by
          rw [s.held]
          cases htimer : s.timer with
          | some handle => rfl
          | none =>
              rw [hs.live, htimer] at hlive
              exact absurd rfl hlive
        simp only [sessionStore, htimer, if_true, Option.some.injEq]
        rw [← h, RefreshingStore.tick, SessionStore.tick]
        by_cases hdisposed : s.store.disposed = true
        · rw [if_pos hdisposed, if_pos hdisposed]
        · rw [if_neg hdisposed, if_neg hdisposed]
          rfl
  | resolve i =>
      -- The store resumes in one step, which here sets or clears an interval besides.
      simp only [refreshing] at h
      split at h
      next op found hcall =>
        obtain rfl := Option.some.inj h
        simp only [sessionStore, hcall]
        rw [← resume_store]
        rfl
      next => exact absurd h (by simp only [reduceCtorEq, not_false_eq_true])
  | effect i found =>
      simp only [refreshing] at h
      split at h
      next op hcall =>
        obtain rfl := Option.some.inj h
        simp only [sessionStore, hcall]
        rfl
      next => exact absurd h (by simp only [reduceCtorEq, not_false_eq_true])
  | reject i =>
      simp only [refreshing] at h
      split at h
      next op hcall =>
        obtain rfl := Option.some.inj h
        simp only [sessionStore, hcall]
        rfl
      next op found hcall =>
        obtain rfl := Option.some.inj h
        simp only [sessionStore, hcall]
        rfl
      next => exact absurd h (by simp only [reduceCtorEq, not_false_eq_true])
  -- What is left neither reads nor changes an interval.
  | _ =>
      simp only [refreshing, Option.some.injEq] at h
      subst h
      rfl

/-- An interval fires where there is one, and does nothing or touches the session. -/
theorem tick_cases {now : JsString} (h : (refreshing o).step s (.tick now) = some s') :
    s.live.isEmpty = false ∧ (s' = s ∨ s' = s.touch (some now)) := by
  simp only [refreshing] at h
  by_cases hlive : s.live.isEmpty = true
  · rw [if_pos hlive] at h
    exact absurd h (by simp only [reduceCtorEq, not_false_eq_true])
  · rw [if_neg hlive, Option.some.injEq, RefreshingStore.tick] at h
    rw [Bool.not_eq_true] at hlive
    by_cases hdisposed : s.store.disposed = true
    · rw [if_pos hdisposed] at h
      exact ⟨hlive, .inl h.symm⟩
    · rw [if_neg hdisposed] at h
      exact ⟨hlive, .inr h.symm⟩

/-- A touch is a call of the storage at most. -/
theorem touch_store (s : RefreshingStore) (now : Option JsString) :
    (s.touch now).store.disposed = s.store.disposed ∧
      (s.touch now).store.status = s.store.status := by
  show (s.store.touch now).disposed = _ ∧ (s.store.touch now).status = _
  rcases touch_cases s.store now with heq | ⟨updated, heq⟩
  · rw [heq]
    exact ⟨rfl, rfl⟩
  · rw [heq]
    exact ⟨rfl, rfl⟩

/-- The intervals, and whether there may be more of them, are as they were. -/
structure SameIntervals (s s' : RefreshingStore) : Prop where
  timer : s'.timer = s.timer
  live : s'.live = s.live
  created : s'.created = s.created
  disposed : s'.store.disposed = s.store.disposed

/-- An interval is started only where none is held. -/
theorem startRefresh_cases (o : CreateSessionStoreOptions) (s : RefreshingStore) :
    s.startRefresh o = s ∨
      (s.store.disposed = false ∧ s.timer = none ∧ s.startRefresh o = s.setInterval) := by
  unfold RefreshingStore.startRefresh
  by_cases hdisposed : s.store.disposed = true
  · exact .inl (if_pos hdisposed)
  rw [if_neg hdisposed]
  by_cases htimer : s.timer.isSome = true
  · exact .inl (if_pos htimer)
  rw [if_neg htimer]
  cases o.refreshIntervalMs with
  | none => exact .inl rfl
  | some ms =>
      by_cases hms : JsNum.lt (.ofNat 0) ms = true
      · rw [Option.not_isSome_iff_eq_none] at htimer
        rw [Bool.not_eq_true] at hdisposed
        exact .inr ⟨hdisposed, htimer, if_pos hms⟩
      · exact .inl (if_neg hms)

/-- Stopping the interval that is held stops all there are. -/
theorem stopRefresh_live (hlive : s.live = s.timer.toList) :
    s.stopRefresh.live = [] ∧ s.stopRefresh.timer = none ∧ s.stopRefresh.created = s.created ∧
      s.stopRefresh.store.disposed = s.store.disposed := by
  unfold RefreshingStore.stopRefresh
  cases htimer : s.timer with
  | none =>
      rw [htimer] at hlive
      exact ⟨hlive, htimer, rfl, rfl⟩
  | some handle =>
      refine ⟨?_, rfl, rfl, rfl⟩
      rw [htimer] at hlive
      simp only [hlive, Option.toList_some, List.filter_cons, bne_self_eq_false,
        Bool.false_eq_true, if_false, List.filter_nil]

/-- What an operation that goes on does to the intervals. -/
theorem resume_intervals (o : CreateSessionStoreOptions) (s : RefreshingStore) (op : StoreOp)
    (found : JsValue) :
    SameIntervals s (s.resume o op found) ∨
    (s.store.disposed = false ∧ s.timer = none ∧ SameIntervals s.setInterval (s.resume o op found)) ∨
    (op = .end' ∧ SameIntervals s.stopRefresh (s.resume o op found)) := by
  have hbegin : ∀ session,
      SameIntervals s ((s.set session .connected).startRefresh o) ∨
      (s.store.disposed = false ∧ s.timer = none ∧
        SameIntervals s.setInterval ((s.set session .connected).startRefresh o)) := by
    intro session
    rcases startRefresh_cases o (s.set session .connected) with heq | ⟨hdisposed, htimer, heq⟩
    · rw [heq]
      exact .inl ⟨rfl, rfl, rfl, rfl⟩
    · rw [heq]
      exact .inr ⟨hdisposed, htimer, rfl, rfl, rfl, rfl⟩
  cases op with
  | start session => exact (hbegin (some session)).imp_right .inl
  | touch updated => exact .inl ⟨rfl, rfl, rfl, rfl⟩
  | end' => exact .inr (.inr ⟨rfl, rfl, rfl, rfl, rfl⟩)
  | restore =>
      rw [RefreshingStore.resume]
      cases restored found with
      | none => exact .inl ⟨rfl, rfl, rfl, rfl⟩
      | some session => exact (hbegin (some session)).imp_right .inl

/-- Everything a step can do to the intervals: nothing, start one where none is held
    and the store was not disposed of, and stop it. -/
theorem interval_cases (h : (refreshing o).step s a = some s') :
    SameIntervals s s' ∨
    (s.store.disposed = false ∧ s.timer = none ∧ SameIntervals s.setInterval s') ∨
    SameIntervals s.stopRefresh s' ∨ (a = .dispose ∧ s' = s.dispose) := by
  -- A touch saves, and leaves the intervals alone.
  have htouch : ∀ now, SameIntervals s (s.touch now) :=
    fun now => ⟨rfl, rfl, rfl, (touch_store s now).1⟩
  cases a with
  | dispose =>
      simp only [refreshing, Option.some.injEq] at h
      exact .inr (.inr (.inr ⟨rfl, h.symm⟩))
  | touch now =>
      simp only [refreshing, Option.some.injEq] at h
      exact .inl (h ▸ htouch now)
  | tick now =>
      rcases tick_cases h with ⟨-, rfl | rfl⟩
      · exact .inl ⟨rfl, rfl, rfl, rfl⟩
      · exact .inl (htouch (some now))
  | resolve i =>
      -- Only going on after an answer starts an interval or stops one.
      simp only [refreshing] at h
      split at h
      next op found hcall =>
        obtain rfl := Option.some.inj h
        rcases resume_intervals o s op found with ⟨h₁, h₂, h₃, h₄⟩ |
          ⟨hdisposed, htimer, h₁, h₂, h₃, h₄⟩ | ⟨-, h₁, h₂, h₃, h₄⟩
        · exact .inl ⟨h₁, h₂, h₃, h₄⟩
        · exact .inr (.inl ⟨hdisposed, htimer, h₁, h₂, h₃, h₄⟩)
        · exact .inr (.inr (.inl ⟨h₁, h₂, h₃, h₄⟩))
      next => exact absurd h (by simp only [reduceCtorEq, not_false_eq_true])
  | effect i found =>
      simp only [refreshing] at h
      split at h
      next op hcall => exact .inl (Option.some.inj h ▸ ⟨rfl, rfl, rfl, rfl⟩)
      next => exact absurd h (by simp only [reduceCtorEq, not_false_eq_true])
  | reject i =>
      -- A failure of a restore clears the session, but not the interval.
      have hfail : ∀ op, (s.store.fail op).disposed = s.store.disposed := by
        intro op
        cases op <;> rfl
      simp only [refreshing] at h
      split at h
      next op hcall => exact .inl (Option.some.inj h ▸ ⟨rfl, rfl, rfl, hfail op⟩)
      next op found hcall => exact .inl (Option.some.inj h ▸ ⟨rfl, rfl, rfl, hfail op⟩)
      next => exact absurd h (by simp only [reduceCtorEq, not_false_eq_true])
  | _ =>
      simp only [refreshing, Option.some.injEq] at h
      exact .inl (h ▸ ⟨rfl, rfl, rfl, rfl⟩)

theorem OneInterval.of_same (hs : OneInterval s) (h : SameIntervals s s') : OneInterval s' where
  live := by rw [h.live, h.timer, hs.live]
  disposed := fun hdisposed => by rw [h.timer, hs.disposed (h.disposed ▸ hdisposed)]

theorem oneInterval_dispose (hs : OneInterval s) : OneInterval s.dispose := by
  obtain ⟨hlive, htimer, -⟩ := stopRefresh_live
    (s := { s with store := { s.store with disposed := true }, held := s.held }) hs.live
  exact ⟨by rw [RefreshingStore.dispose, hlive, htimer]; rfl, fun _ => htimer⟩

theorem oneInterval_step (hs : OneInterval s) (h : (refreshing o).step s a = some s') :
    OneInterval s' := by
  rcases interval_cases h with hsame | ⟨hdisposed, htimer, hsame⟩ | hsame | ⟨-, rfl⟩
  · exact hs.of_same hsame
  · -- The new interval is the only one, as none was held.
    refine OneInterval.of_same ⟨?_, fun h => ?_⟩ hsame
    · rw [RefreshingStore.setInterval, hs.live, htimer]
      rfl
    · exact absurd (hdisposed.symm.trans h) Bool.false_ne_true
  · obtain ⟨hlive, htimer, -⟩ := stopRefresh_live hs.live
    exact OneInterval.of_same ⟨by rw [hlive, htimer]; rfl, fun _ => htimer⟩ hsame
  · exact oneInterval_dispose hs

theorem oneInterval_create (stored : Option JsValue) :
    OneInterval (RefreshingStore.create stored) :=
  ⟨rfl, fun h => absurd h Bool.false_ne_true⟩

/-- Nothing is started by a store that was disposed of. -/
theorem created_step (hs : OneInterval s) (hdisposed : s.store.disposed = true)
    (h : (refreshing o).step s a = some s') :
    s'.store.disposed = true ∧ s'.created = s.created := by
  rcases interval_cases h with hsame | ⟨hnot, -⟩ | hsame | ⟨-, rfl⟩
  · exact ⟨hsame.disposed.trans hdisposed, hsame.created⟩
  · exact absurd (hnot.symm.trans hdisposed) Bool.false_ne_true
  · obtain ⟨-, -, hcreated, hlatch⟩ := stopRefresh_live hs.live
    exact ⟨hsame.disposed.trans (hlatch.trans hdisposed), hsame.created.trans hcreated⟩
  · obtain ⟨-, -, hcreated, hlatch⟩ := stopRefresh_live
      (s := { s with store := { s.store with disposed := true }, held := s.held }) hs.live
    exact ⟨hlatch, hcreated⟩

/-- At most one interval is live, the one whose handle is held. -/
def IntervalHeld (s : RefreshingStore) : Prop :=
  s.live.length ≤ 1 ∧ ∀ handle ∈ s.live, s.timer = some handle

theorem OneInterval.intervalHeld (h : OneInterval s) : IntervalHeld s := by
  unfold IntervalHeld
  rw [h.live]
  cases s.timer with
  | none => exact ⟨Nat.zero_le 1, fun handle h => absurd h List.not_mem_nil⟩
  | some held => exact ⟨le_refl 1, fun handle h => by rw [List.mem_singleton.mp h]⟩

/-- At most one interval is live at any time, and its handle is the one that is held;
    and from a disposal on none is live and none is created. -/
theorem refresh_interval_is_unique (o : CreateSessionStoreOptions) (stored : Option JsValue)
    (actions : List StoreAction) :
    (refreshing o).Always IntervalHeld (.create stored) actions ∧
    ∀ before after s t, actions = before ++ .dispose :: after →
      (refreshing o).run (.create stored) (before ++ [.dispose]) = some s →
      (refreshing o).run s after = some t → t.live = [] ∧ t.created = s.created := by
  have hone : (refreshing o).Always OneInterval (.create stored) actions :=
    Machine.always_of_runWhere (P := fun _ _ => True)
      (fun _ _ _ hs _ h => oneInterval_step hs h) (oneInterval_create stored)
      (Machine.runWhere_of_forall_mem (fun _ _ _ => trivial))
  refine ⟨fun before after s hsplit hrun => (hone before after s hsplit hrun).intervalHeld, ?_⟩
  intro before after s t hsplit hbefore hafter
  -- From the disposal on, the latch stays and no interval is created.
  have hs : OneInterval s := by
    refine hone (before ++ [.dispose]) after s ?_ hbefore
    rw [hsplit, List.append_assoc, List.singleton_append]
  have hdisposed : s.store.disposed = true := by
    obtain ⟨s₀, hs₀, hlast⟩ := Machine.run_append.mp hbefore
    obtain ⟨s₁, hstep, hend⟩ := Machine.run_cons_iff.mp hlast
    simp only [refreshing, Option.some.injEq] at hstep
    simp only [Machine.run, Option.some.injEq] at hend
    rw [← hend, ← hstep, dispose_store]
    rfl
  have hlater := Machine.run_invariant
    (I := fun t => OneInterval t ∧ t.store.disposed = true ∧ t.created = s.created)
    (P := fun _ _ => True)
    (fun t a t' ht _ hstep => by
      obtain ⟨hlatch, hcreated⟩ := created_step ht.1 ht.2.1 hstep
      exact ⟨oneInterval_step ht.1 hstep, hlatch, hcreated.trans ht.2.2⟩)
    ⟨hs, hdisposed, rfl⟩ (Machine.runWhere_of_forall_mem (fun _ _ _ => trivial)) hafter
  refine ⟨?_, hlater.2.2⟩
  rw [hlater.1.live, hlater.1.disposed hlater.2.1]
  rfl

/-- A store that polls every 100 milliseconds. -/
def polling : CreateSessionStoreOptions where
  refreshIntervalMs := some (JsNum.ofNat 100)

/-- A session is started, its interval fires, and the store is disposed of while the
    touch waits. -/
def disposedWhilePolling : List StoreAction :=
  [.start someSession, .effect 0 .null, .resolve 0, .tick (js "2026-07-16T10:05:00.000Z"),
    .dispose, .effect 1 .null, .resolve 1]

theorem refresh_interval_is_unique_disposed : ∃ s,
    (refreshing polling).run (.create none) disposedWhilePolling = some s ∧ IntervalHeld s ∧
      s.live = [] ∧ s.created = 1 := by
  obtain ⟨hheld, hdisposed⟩ := refresh_interval_is_unique polling none disposedWhilePolling
  have hlast := hdisposed (disposedWhilePolling.take 4) (disposedWhilePolling.drop 5) _ _ rfl rfl rfl
  exact ⟨_, rfl, hheld disposedWhilePolling [] _ (List.append_nil _).symm rfl, hlast.1, hlast.2⟩

/-- An interval is live only while the store is connected. -/
def PollsWhileConnected (s : RefreshingStore) : Prop :=
  s.live ≠ [] → s.store.status = .connected

/-- A restore that does not go on with a session finds no interval. -/
def RestoresQuietly (s : RefreshingStore) (a : StoreAction) : Prop :=
  (∀ i found, a = .resolve i → s.store.calls[i]? = some ⟨.restore, .effected found⟩ →
    restored found = none → s.live = []) ∧
  ∀ i phase, a = .reject i → s.store.calls[i]? = some ⟨.restore, phase⟩ → s.live = []

/-- How the storage answers a call. It may have done what it was called for when it
    refuses. -/
inductive Answer where
  | done (found : JsValue)
  | refused
  | refusedLate (found : JsValue)

/-- A method that is called, or an interval that fires, with how the storage
    answers. -/
inductive Operation where
  | start (session : WalletSession) (answer : Answer)
  | touch (now : Option JsString) (answer : Answer)
  | end' (answer : Answer)
  | restore (answer : Answer)
  | tick (now : JsString) (answer : Answer)
  | dispose

/-- What the storage does with a call. -/
def Answer.actions (i : Nat) : Answer → List StoreAction
  | .done found => [.effect i found, .resolve i]
  | .refused => [.reject i]
  | .refusedLate found => [.effect i found, .reject i]

/-- The session a restore goes on with. -/
def Answer.session : Answer → Option WalletSession
  | .done found => restored found
  | .refused | .refusedLate _ => none

namespace Operation

def call : Operation → StoreAction
  | start session _ => .start session
  | touch now _ => .touch now
  | end' _ => .end'
  | restore _ => .restore
  | tick now _ => .tick now
  | dispose => .dispose

def answer : Operation → Answer
  | start _ answer | touch _ answer | end' answer | restore answer | tick _ answer => answer
  -- A disposal does not call the storage.
  | dispose => .refused

end Operation

/-- Operations each of which is completed before the next begins. A touch without a
    session does not call the storage. -/
def sequential (o : CreateSessionStoreOptions) : Machine RefreshingStore Operation where
  step s op := do
    let s₁ ← (refreshing o).step s op.call
    if s₁.store.calls.length = s.store.calls.length then some s₁
    else (refreshing o).run s₁ (op.answer.actions s.store.calls.length)

/-- A restore that does not go on with a session finds no interval. -/
def KeepsPolling (s : RefreshingStore) (op : Operation) : Prop :=
  ∀ answer, op = .restore answer → answer.session = none → s.live = []

theorem polls_of_same (hp : PollsWhileConnected s) (hlive : s'.live = s.live)
    (hstatus : s'.store.status = s.store.status) : PollsWhileConnected s' := by
  intro h
  rw [hstatus]
  exact hp (hlive ▸ h)

theorem polls_of_connected (h : s.store.status = .connected) : PollsWhileConnected s :=
  fun _ => h

theorem polls_of_stopped (h : s.live = []) : PollsWhileConnected s :=
  fun hlive => absurd h hlive

/-- A session that begins is connected. -/
theorem status_begin (o : CreateSessionStoreOptions) (s : RefreshingStore)
    (session : Option WalletSession) :
    ((s.set session .connected).startRefresh o).store.status = .connected := by
  rcases startRefresh_cases o (s.set session .connected) with heq | ⟨-, -, heq⟩ <;> rw [heq] <;> rfl

/-- Disconnecting without stopping the interval is right where there is none. -/
theorem polls_set_disconnected_iff :
    PollsWhileConnected (s.set none .disconnected) ↔ s.live = [] := by
  constructor
  · intro h
    by_contra hlive
    have hstatus : SessionStatus.disconnected = .connected := h hlive
    exact absurd hstatus (by decide)
  · intro hlive
    exact polls_of_stopped hlive

/-- An operation that goes on keeps polling to the connection, unless it is a restore
    that found no session. -/
theorem polls_resume_iff (hs : OneInterval s) (hp : PollsWhileConnected s) (op : StoreOp)
    (found : JsValue) : PollsWhileConnected (s.resume o op found) ↔
      (op = .restore → restored found = none → s.live = []) := by
  cases op with
  | start session =>
      exact iff_of_true (polls_of_connected (status_begin o s (some session))) nofun
  | touch updated => exact iff_of_true (polls_of_same hp rfl rfl) nofun
  | end' => exact iff_of_true (polls_of_stopped (stopRefresh_live hs.live).1) nofun
  | restore =>
      rw [RefreshingStore.resume]
      cases hrestored : restored found with
      | some session =>
          exact iff_of_true (polls_of_connected (status_begin o s (some session)))
            (fun _ hnone => absurd hnone (Option.some_ne_none session))
      | none =>
          rw [polls_set_disconnected_iff]
          exact ⟨fun hlive _ _ => hlive, fun h => h rfl rfl⟩

/-- So does one that fails, unless it is a restore. -/
theorem polls_fail_iff (hp : PollsWhileConnected s) (op : StoreOp) :
    PollsWhileConnected (s.update (s.store.fail op) (RefreshingStore.fail_timer s.store op)) ↔
      (op = .restore → s.live = []) := by
  cases op with
  | restore =>
      have hset := polls_set_disconnected_iff (s := s)
      exact ⟨fun h _ => hset.mp h, fun h => hset.mpr (h rfl)⟩
  | _ => exact iff_of_true (polls_of_same hp rfl rfl) nofun

/-- Reaching another phase of a call has no bearing on the interval. -/
theorem polls_setPhase_iff {i : Nat} {op : StoreOp} {phase : Phase} :
    PollsWhileConnected (s.setPhase i op phase) ↔ PollsWhileConnected s :=
  Iff.rfl

theorem restoresQuietly_resolve_iff {i : Nat} {op : StoreOp} {found : JsValue}
    (hcall : s.store.calls[i]? = some ⟨op, .effected found⟩) :
    RestoresQuietly s (.resolve i) ↔ (op = .restore → restored found = none → s.live = []) := by
  constructor
  · rintro ⟨hquiet, -⟩ rfl hnone
    exact hquiet i found rfl hcall hnone
  · intro hquiet
    refine ⟨fun j found' hj hcall' hnone => ?_, nofun⟩
    cases hj
    rw [hcall, Option.some.injEq, StoreCall.mk.injEq, Phase.effected.injEq] at hcall'
    exact hquiet hcall'.1 (hcall'.2 ▸ hnone)

theorem restoresQuietly_reject_iff {i : Nat} {op : StoreOp} {phase : Phase}
    (hcall : s.store.calls[i]? = some ⟨op, phase⟩) :
    RestoresQuietly s (.reject i) ↔ (op = .restore → s.live = []) := by
  constructor
  · rintro ⟨-, hquiet⟩ rfl
    exact hquiet i phase rfl hcall
  · intro hquiet
    refine ⟨nofun, fun j phase' hj hcall' => ?_⟩
    cases hj
    rw [hcall, Option.some.injEq, StoreCall.mk.injEq] at hcall'
    exact hquiet hcall'.1

theorem restoresQuietly_effect (i : Nat) (found : JsValue) :
    RestoresQuietly s (.effect i found) := by
  refine ⟨fun j found' heq => ?_, fun j phase heq => ?_⟩
  · exact absurd heq (by simp only [reduceCtorEq, not_false_eq_true])
  · exact absurd heq (by simp only [reduceCtorEq, not_false_eq_true])

theorem polls_step_iff (hs : OneInterval s) (hp : PollsWhileConnected s)
    (h : (refreshing o).step s a = some s') :
    PollsWhileConnected s' ↔ RestoresQuietly s a := by
  have htouch : ∀ now, PollsWhileConnected (s.touch now) :=
    fun now => polls_of_same hp rfl (touch_store s now).2
  cases a with
  | touch now =>
      simp only [refreshing, Option.some.injEq] at h
      exact iff_of_true (h ▸ htouch now) ⟨nofun, nofun⟩
  | tick now =>
      -- A tick of an interval that was stopped does nothing.
      rcases tick_cases h with ⟨-, rfl | rfl⟩
      · exact iff_of_true hp ⟨nofun, nofun⟩
      · exact iff_of_true (htouch (some now)) ⟨nofun, nofun⟩
  | dispose =>
      -- Nothing is polled once every interval is stopped.
      simp only [refreshing, Option.some.injEq] at h
      obtain ⟨hlive, -⟩ := stopRefresh_live
        (s := { s with store := { s.store with disposed := true }, held := s.held }) hs.live
      exact iff_of_true (h ▸ polls_of_stopped hlive) ⟨nofun, nofun⟩
  | effect i found =>
      simp only [refreshing] at h
      split at h
      next op hcall =>
        exact iff_of_true (Option.some.inj h ▸ polls_of_same hp rfl rfl)
          (restoresQuietly_effect i found)
      next => exact absurd h (by simp only [reduceCtorEq, not_false_eq_true])
  | resolve i =>
      -- The two steps that can end the agreement are those that take up an answer.
      simp only [refreshing] at h
      split at h
      next op found hcall =>
        rw [← Option.some.inj h, polls_setPhase_iff, polls_resume_iff hs hp,
          restoresQuietly_resolve_iff hcall]
      next => exact absurd h (by simp only [reduceCtorEq, not_false_eq_true])
  | reject i =>
      simp only [refreshing] at h
      split at h
      next op hcall =>
        rw [← Option.some.inj h, polls_setPhase_iff, polls_fail_iff hp,
          restoresQuietly_reject_iff hcall]
      next op found hcall =>
        rw [← Option.some.inj h, polls_setPhase_iff, polls_fail_iff hp,
          restoresQuietly_reject_iff hcall]
      next => exact absurd h (by simp only [reduceCtorEq, not_false_eq_true])
  | _ =>
      simp only [refreshing, Option.some.injEq] at h
      exact iff_of_true (h ▸ polls_of_same hp rfl rfl) ⟨nofun, nofun⟩

/-- The storage does what it was called for: nothing else is different. -/
theorem effect_eq {i : Nat} {op : StoreOp} {found : JsValue}
    (hcall : s.store.calls[i]? = some ⟨op, .waiting⟩)
    (h : (refreshing o).step s (.effect i found) = some s') :
    s'.live = s.live ∧ s'.store.calls[i]? = some ⟨op, .effected found⟩ := by
  simp only [refreshing, hcall, Option.some.injEq] at h
  subst h
  exact ⟨rfl, List.getElem?_set_self (List.getElem?_eq_some_iff.mp hcall).1⟩

/-- A call that is answered keeps polling to the connection, unless it is a restore
    that goes on without a session. -/
theorem polls_answer_iff {i : Nat} {op : StoreOp} (answer : Answer) (hs : OneInterval s)
    (hp : PollsWhileConnected s) (hcall : s.store.calls[i]? = some ⟨op, .waiting⟩)
    (h : (refreshing o).run s (answer.actions i) = some s') :
    PollsWhileConnected s' ↔ (op = .restore → answer.session = none → s.live = []) := by
  -- An answer is one step or two, and the last of them takes it up.
  have hlast : ∀ {s₁ : RefreshingStore} {a : StoreAction}, OneInterval s₁ →
      PollsWhileConnected s₁ → (refreshing o).run s₁ [a] = some s' →
      (PollsWhileConnected s' ↔ RestoresQuietly s₁ a) := by
    intro s₁ a hs₁ hp₁ hrun
    obtain ⟨s₂, hstep, hend⟩ := Machine.run_cons_iff.mp hrun
    simp only [Machine.run, Option.some.injEq] at hend
    subst hend
    exact polls_step_iff hs₁ hp₁ hstep
  -- The step before it only says what the storage found.
  have hfirst : ∀ {found : JsValue} {a : StoreAction},
      (refreshing o).run s [.effect i found, a] = some s' → ∃ s₁,
        s₁.live = s.live ∧ s₁.store.calls[i]? = some ⟨op, .effected found⟩ ∧
        (PollsWhileConnected s' ↔ RestoresQuietly s₁ a) := by
    intro found a hrun
    obtain ⟨s₁, hstep, hrest⟩ := Machine.run_cons_iff.mp hrun
    obtain ⟨hlive, hcall₁⟩ := effect_eq hcall hstep
    have hp₁ := (polls_step_iff hs hp hstep).mpr (restoresQuietly_effect i found)
    exact ⟨s₁, hlive, hcall₁, hlast (oneInterval_step hs hstep) hp₁ hrest⟩
  cases answer with
  | done found =>
      obtain ⟨s₁, hlive, hcall₁, hiff⟩ := hfirst h
      rw [restoresQuietly_resolve_iff hcall₁, hlive] at hiff
      exact hiff
  | refused =>
      have hiff := hlast hs hp h
      rw [restoresQuietly_reject_iff hcall] at hiff
      exact hiff.trans ⟨fun hquiet hop _ => hquiet hop, fun hquiet hop => hquiet hop rfl⟩
  | refusedLate found =>
      obtain ⟨s₁, hlive, hcall₁, hiff⟩ := hfirst h
      rw [restoresQuietly_reject_iff hcall₁, hlive] at hiff
      exact hiff.trans ⟨fun hquiet hop _ => hquiet hop, fun hquiet hop => hquiet hop rfl⟩

/-- Calling a method calls the storage, or ends there. -/
theorem call_cases {op : Operation} (h : (refreshing o).step s op.call = some s') :
    (s'.store.calls = s.store.calls ∧ ∀ answer, op ≠ .restore answer) ∨
    ∃ called, s'.store.calls = s.store.calls ++ [⟨called, .waiting⟩] ∧
      (called = .restore → ∃ answer, op = .restore answer) ∧
      ((∃ answer, op = .restore answer) → called = .restore ∧ s'.live = s.live) := by
  -- A touch without a session makes no call.
  have htouch : ∀ now, (s.touch now).store.calls = s.store.calls ∨ ∃ updated,
      (s.touch now).store.calls = s.store.calls ++ [⟨.touch updated, .waiting⟩] := by
    intro now
    rcases touch_cases s.store now with heq | ⟨updated, heq⟩
    · exact .inl (congrArg SessionStore.calls heq)
    · exact .inr ⟨updated, congrArg SessionStore.calls heq⟩
  cases op with
  | start session answer =>
      simp only [refreshing, Operation.call, Option.some.injEq] at h
      subst h
      exact .inr ⟨.start session, rfl, nofun, nofun⟩
  | end' answer =>
      simp only [refreshing, Operation.call, Option.some.injEq] at h
      subst h
      exact .inr ⟨.end', rfl, nofun, nofun⟩
  | restore answer =>
      simp only [refreshing, Operation.call, Option.some.injEq] at h
      subst h
      exact .inr ⟨.restore, rfl, fun _ => ⟨answer, rfl⟩, fun _ => ⟨rfl, rfl⟩⟩
  | dispose =>
      simp only [refreshing, Operation.call, Option.some.injEq] at h
      subst h
      refine .inl ⟨?_, nofun⟩
      rw [dispose_store]
      rfl
  | touch now answer =>
      simp only [refreshing, Operation.call, Option.some.injEq] at h
      subst h
      rcases htouch now with heq | ⟨updated, heq⟩
      · exact .inl ⟨heq, nofun⟩
      · exact .inr ⟨.touch updated, heq, nofun, nofun⟩
  | tick now answer =>
      -- A tick is a touch, unless its interval is gone.
      rcases tick_cases h with ⟨-, rfl | rfl⟩
      · exact .inl ⟨rfl, nofun⟩
      · rcases htouch (some now) with heq | ⟨updated, heq⟩
        · exact .inl ⟨heq, nofun⟩
        · exact .inr ⟨.touch updated, heq, nofun, nofun⟩

/-- A call is no answer. -/
theorem restoresQuietly_call (s : RefreshingStore) (op : Operation) :
    RestoresQuietly s op.call := by
  cases op <;> exact ⟨nofun, nofun⟩

theorem oneInterval_run {actions : List StoreAction} (hs : OneInterval s)
    (h : (refreshing o).run s actions = some s') : OneInterval s' :=
  Machine.run_invariant (P := fun _ _ => True) (fun _ _ _ hs _ h => oneInterval_step hs h) hs
    (Machine.runWhere_of_forall_mem (fun _ _ _ => trivial)) h

theorem oneInterval_sequential {op : Operation} (hs : OneInterval s)
    (h : (sequential o).step s op = some s') : OneInterval s' := by
  simp only [sequential, Option.bind_eq_bind, Option.bind_eq_some_iff] at h
  obtain ⟨s₁, hcall, h⟩ := h
  have hs₁ := oneInterval_step hs hcall
  by_cases hlength : s₁.store.calls.length = s.store.calls.length
  · rw [if_pos hlength, Option.some.injEq] at h
    exact h ▸ hs₁
  · rw [if_neg hlength] at h
    exact oneInterval_run hs₁ h

/-- An operation from beginning to end. -/
theorem polls_sequential_iff {op : Operation} (hs : OneInterval s) (hp : PollsWhileConnected s)
    (h : (sequential o).step s op = some s') :
    PollsWhileConnected s' ↔ KeepsPolling s op := by
  simp only [sequential, Option.bind_eq_bind, Option.bind_eq_some_iff] at h
  obtain ⟨s₁, hcall, h⟩ := h
  -- The call itself keeps the agreement, so it is left to the answer.
  have hs₁ := oneInterval_step hs hcall
  have hp₁ := (polls_step_iff hs hp hcall).mpr (restoresQuietly_call s op)
  rcases call_cases hcall with ⟨hcalls, hother⟩ | ⟨called, hcalls, honly, hrestore⟩
  · rw [if_pos (by rw [hcalls]), Option.some.injEq] at h
    subst h
    exact iff_of_true hp₁ (fun answer hop => absurd hop (hother answer))
  · -- The call that was made is the last one, and is answered at once.
    have hlength : ¬ s₁.store.calls.length = s.store.calls.length := by
      rw [hcalls, List.length_append, List.length_singleton]
      omega
    have hwaiting : s₁.store.calls[s.store.calls.length]? = some ⟨called, .waiting⟩ := by
      rw [hcalls]
      exact List.getElem?_concat_length
    rw [if_neg hlength] at h
    refine (polls_answer_iff op.answer hs₁ hp₁ hwaiting h).trans ⟨?_, ?_⟩
    · rintro hquiet answer rfl hnone
      obtain ⟨rfl, hlive⟩ := hrestore ⟨answer, rfl⟩
      exact hlive ▸ hquiet rfl hnone
    · rintro hquiet rfl hnone
      obtain ⟨answer, rfl⟩ := honly rfl
      exact (hrestore ⟨answer, rfl⟩).2 ▸ hquiet answer rfl hnone

/-- The storage can answer a call that waits in each of the ways. -/
theorem answer_isSome {i : Nat} {op : StoreOp}
    (hcall : s.store.calls[i]? = some ⟨op, .waiting⟩) (answer : Answer) :
    ∃ s', (refreshing o).run s (answer.actions i) = some s' := by
  -- An answer that is there can be taken up.
  have heffect : ∀ found, ∃ s₁, (refreshing o).step s (.effect i found) = some s₁ ∧
      s₁.store.calls[i]? = some ⟨op, .effected found⟩ := by
    intro found
    have hstep : (refreshing o).step s (.effect i found) =
        some (s.update (s.store.effect i op found) rfl) := by
      simp only [refreshing, hcall]
    exact ⟨_, hstep, (effect_eq hcall hstep).2⟩
  cases answer with
  | done found =>
      obtain ⟨s₁, hfirst, hcall₁⟩ := heffect found
      have hsecond : (refreshing o).step s₁ (.resolve i) =
          some ((s₁.resume o op found).setPhase i op .resolved) := by
        simp only [refreshing, hcall₁]
      exact ⟨_, Machine.run_cons_iff.mpr ⟨s₁, hfirst, Machine.run_cons_iff.mpr ⟨_, hsecond, rfl⟩⟩⟩
  | refused =>
      have hfirst : (refreshing o).step s (.reject i) = some ((s.update (s.store.fail op)
          (RefreshingStore.fail_timer s.store op)).setPhase i op .rejected) := by
        simp only [refreshing, hcall]
      exact ⟨_, Machine.run_cons_iff.mpr ⟨_, hfirst, rfl⟩⟩
  | refusedLate found =>
      obtain ⟨s₁, hfirst, hcall₁⟩ := heffect found
      have hsecond : (refreshing o).step s₁ (.reject i) = some ((s₁.update (s₁.store.fail op)
          (RefreshingStore.fail_timer s₁.store op)).setPhase i op .rejected) := by
        simp only [refreshing, hcall₁]
      exact ⟨_, Machine.run_cons_iff.mpr ⟨s₁, hfirst, Machine.run_cons_iff.mpr ⟨_, hsecond, rfl⟩⟩⟩

/-- A restore can always be made, and completed. -/
theorem sequential_restore (o : CreateSessionStoreOptions) (s : RefreshingStore)
    (answer : Answer) : ∃ s', (sequential o).step s (.restore answer) = some s' := by
  have hwaiting : (s.update (s.store.await .restore) rfl).store.calls[s.store.calls.length]? =
      some ⟨.restore, .waiting⟩ := List.getElem?_concat_length
  obtain ⟨s', hs'⟩ := answer_isSome (o := o) hwaiting answer
  refine ⟨s', ?_⟩
  have hlength : ¬ (s.update (s.store.await .restore) rfl).store.calls.length =
      s.store.calls.length := by
    show ¬ (s.store.calls ++ [_]).length = s.store.calls.length
    rw [List.length_append, List.length_singleton]
    omega
  show (if _ then _ else _) = some s'
  rw [if_neg hlength]
  exact hs'

/-- Of operations that are completed one after the other, polling stops with the
    connection exactly if no restore goes on without a session while the interval is
    live. Whatever overlaps, it does as long as no restore does that. -/
theorem polling_stops_iff (o : CreateSessionStoreOptions) (stored : Option JsValue) :
    (∀ operations, (sequential o).Always PollsWhileConnected (.create stored) operations ↔
      (sequential o).RunWhere KeepsPolling (.create stored) operations) ∧
    ∀ actions, (refreshing o).RunWhere RestoresQuietly (.create stored) actions →
      (refreshing o).Always PollsWhileConnected (.create stored) actions := by
  have hcreated := oneInterval_create stored
  have hpolls : PollsWhileConnected (.create stored) := fun h => absurd rfl h
  constructor
  · intro operations
    have hone : (sequential o).Always OneInterval (.create stored) operations :=
      Machine.always_of_runWhere (P := fun _ _ => True)
        (fun _ _ _ hs _ h => oneInterval_sequential hs h) hcreated
        (Machine.runWhere_of_forall_mem (fun _ _ _ => trivial))
    have hboth : (sequential o).Always (fun s => OneInterval s ∧ PollsWhileConnected s)
        (.create stored) operations ↔
          (sequential o).RunWhere KeepsPolling (.create stored) operations := by
      refine Machine.always_iff_runWhere ?_ ?_ ⟨hcreated, hpolls⟩
      · -- A restore is never stuck, and nothing is asked of the others.
        rintro s op hstuck answer rfl -
        obtain ⟨s', hs'⟩ := sequential_restore o s answer
        exact absurd (hstuck.symm.trans hs') (by simp only [reduceCtorEq, not_false_eq_true])
      · rintro s op s' ⟨hs, hp⟩ hstep
        exact (and_iff_right (oneInterval_sequential hs hstep)).trans
          (polls_sequential_iff hs hp hstep)
    rw [← hboth]
    constructor
    · intro halways before after s hsplit hrun
      exact ⟨hone before after s hsplit hrun, halways before after s hsplit hrun⟩
    · intro halways before after s hsplit hrun
      exact (halways before after s hsplit hrun).2
  · intro actions hquiet
    have hboth : (refreshing o).Always (fun s => OneInterval s ∧ PollsWhileConnected s)
        (.create stored) actions :=
      Machine.always_of_runWhere
        (fun s a s' hs hP h => ⟨oneInterval_step hs.1 h, (polls_step_iff hs.1 hs.2 h).mpr hP⟩)
        ⟨hcreated, hpolls⟩ hquiet
    exact fun before after s hsplit hrun => (hboth before after s hsplit hrun).2

/-- A session is started and ended, and then the storage cannot be read. -/
theorem polling_stops_iff_ended : (sequential polling).Always PollsWhileConnected (.create none)
    [.start someSession (.done .undefined), .end' (.done .undefined), .restore .refused] := by
  refine ((polling_stops_iff polling none).1 _).mpr ?_
  refine Machine.runWhere_cons rfl (fun _ => nofun) ?_
  refine Machine.runWhere_cons rfl (fun _ => nofun) ?_
  exact Machine.runWhere_cons rfl (fun _ _ _ => rfl) trivial

/-- A session is started, and then the storage cannot be read. -/
theorem polls_while_disconnected : ¬ ∀ o stored operations,
    (sequential o).Always PollsWhileConnected (.create stored) operations := by
  intro h
  have hpolls := h polling none
    [.start someSession (.done .undefined), .restore .refused] _ [] _ (List.append_nil _).symm rfl
  exact absurd (hpolls (by decide)) (by decide)

end Session

end VellarSdk
