import VellarSdk.Async.Machine
import VellarSdk.Js.Number

/-!
# The Session Store

The store that holds the session in memory and keeps a copy of it in a storage.
Each of its operations calls the storage once, waits, and goes on when the
storage has answered. While it waits any other operation may be called or go on,
so a state of the store holds every call that was made, in the order they were
made, with how far the storage is with it.

The storage is whatever the surface supplies. A call of it takes effect at some
moment before it is answered, and it may be refused before or after that. What a
load finds is left open: `ReadsBack` says that it is what the storage holds.

A session is held only as an object, so that a session in memory is never
`null`. What the storage holds is any value.

## Main definitions

* `isWalletSession`, `WalletSession`: Sessions.
* `SessionStore`, `StoreOp`, `Phase`: The store and its calls.
* `StoreAction`, `sessionStore`: What can happen to it.

## Theorems

* `resume_eq`: What an operation that goes on changes.
* `step_cases`: Everything that can happen to a store.
-/

namespace VellarSdk

namespace Session

open Js Async

/-- `typeof value === "object" && value !== null`. -/
def isObject : JsValue → Bool
  | .obj _ | .arr _ | .buffer _ => true
  | _ => false

/-- `typeof value === "string"`. -/
def isString : JsValue → Bool
  | .str _ => true
  | _ => false

/-- `typeof value === "boolean"`. -/
def isBoolean : JsValue → Bool
  | .bool _ => true
  | _ => false

def isWalletSession (value : JsValue) : Bool :=
  isObject value &&
    -- The text that is falsy is the empty one.
    isString (value.field (js "accountId")) && (value.field (js "accountId")).truthy &&
    ((value.field (js "network")).strictEq (js "testnet") ||
      (value.field (js "network")).strictEq (js "mainnet")) &&
    isBoolean (value.field (js "connected")) &&
    (value.field (js "authMethod")).strictEq (js "passkey") &&
    isString (value.field (js "createdAt")) &&
    isString (value.field (js "lastActiveAt"))

/-- What the store holds as a session: an object. -/
structure WalletSession where
  value : JsValue
  object : isObject value = true

theorem isObject_withField (value : JsValue) (name : JsString) (w : JsValue) :
    isObject (value.withField name w) = true := by
  cases value <;> rfl

theorem isObject_of_isWalletSession {value : JsValue} (h : isWalletSession value = true) :
    isObject value = true := by
  unfold isWalletSession at h
  simp only [Bool.and_eq_true] at h
  exact h.1.1.1.1.1.1.1

/-- The session with the time of the last activity set. -/
def WalletSession.touched (session : WalletSession) (lastActiveAt : JsString) : WalletSession where
  value := session.value.withField (js "lastActiveAt") lastActiveAt
  object := isObject_withField _ _ _

/-- What `restore` takes over of what was loaded. -/
def restored (stored : JsValue) : Option WalletSession :=
  if h : stored.truthy = true ∧ isWalletSession stored = true then
    some ⟨stored, isObject_of_isWalletSession h.2⟩
  else none

inductive SessionStatus where
  | loading
  | connected
  | disconnected
  deriving DecidableEq, Repr

structure CreateSessionStoreOptions where
  refreshIntervalMs : Option JsNum := none

/-- An operation that waits for the storage, with what it goes on with. -/
inductive StoreOp where
  | start (session : WalletSession)
  | touch (updated : WalletSession)
  | end'
  | restore

/-- How far the storage is with a call. A load has found some value. -/
inductive Phase where
  | waiting
  | effected (found : JsValue)
  | resolved
  | rejected

/-- A call of the storage. -/
structure StoreCall where
  op : StoreOp
  phase : Phase

/-- The store, what the storage holds, and the calls in the order they were
    made. -/
structure SessionStore where
  session : Option WalletSession := none
  status : SessionStatus := .loading
  timer : Bool := false
  disposed : Bool := false
  stored : Option JsValue
  calls : List StoreCall := []

/-- What can happen to a store: its methods are called, its interval fires, or
    the storage gets on with a call. The time of a touch is the text of its
    date, where it has one. -/
inductive StoreAction where
  | start (session : WalletSession)
  | touch (now : Option JsString)
  | end'
  | restore
  | dispose
  | tick (now : JsString)
  | effect (i : Nat) (found : JsValue)
  | resolve (i : Nat)
  | reject (i : Nat)

/-- What a call does to the storage. -/
def StoreOp.store : StoreOp → Option JsValue → Option JsValue
  | .start session, _ => some session.value
  | .touch updated, _ => some updated.value
  | .end', _ => none
  | .restore, stored => stored

/-- The session an operation writes when it goes on. -/
def StoreOp.written : StoreOp → JsValue → Option WalletSession
  | .start session, _ => some session
  | .touch updated, _ => some updated
  | .end', _ => none
  | .restore, found => restored found

namespace SessionStore

variable (o : CreateSessionStoreOptions) (s : SessionStore)

def startRefresh : SessionStore :=
  if s.disposed then s
  else if s.timer then s
  else match o.refreshIntervalMs with
    | none => s
    | some ms => if JsNum.lt (.ofNat 0) ms then { s with timer := true } else s

def stopRefresh : SessionStore :=
  { s with timer := false }

def dispose : SessionStore :=
  stopRefresh { s with disposed := true }

/-- An operation that calls the storage and waits. -/
def await (op : StoreOp) : SessionStore :=
  { s with calls := s.calls ++ [⟨op, .waiting⟩] }

/-- A touch of a date that is none throws before the storage is called. -/
def touch (now : Option JsString) : SessionStore :=
  match s.session, now with
  | some session, some iso => s.await (.touch (session.touched iso))
  | _, _ => s

/-- The interval fires. -/
def tick (now : JsString) : SessionStore :=
  if s.disposed then s else s.touch (some now)

/-- An operation goes on after the storage has done what it was called for. -/
def resume : StoreOp → JsValue → SessionStore
  | .start session, _ =>
      startRefresh o { s with session := some session, status := .connected }
  | .touch updated, _ => { s with session := some updated }
  | .end', _ => { s.stopRefresh with session := none, status := .disconnected }
  | .restore, found => match restored found with
    | some session => startRefresh o { s with session := some session, status := .connected }
    | none => { s with session := none, status := .disconnected }

/-- An operation ends as the storage has refused. Only `restore` has a handler
    for it. -/
def fail : StoreOp → SessionStore
  | .restore => { s with session := none, status := .disconnected }
  | _ => s

/-- A call of the storage has got to another phase. -/
def setPhase (i : Nat) (op : StoreOp) (phase : Phase) : SessionStore :=
  { s with calls := s.calls.set i ⟨op, phase⟩ }

/-- The storage does what it was called for. -/
def effect (i : Nat) (op : StoreOp) (found : JsValue) : SessionStore :=
  setPhase { s with stored := op.store s.stored } i op (.effected found)

end SessionStore

/-- The methods of one store, in any order and overlapping. -/
def sessionStore (o : CreateSessionStoreOptions) : Machine SessionStore StoreAction where
  step s a := match a with
    | .start session => some (s.await (.start session))
    | .touch now => some (s.touch now)
    | .end' => some (s.await .end')
    | .restore => some (s.await .restore)
    | .dispose => some s.dispose
    | .tick now => if s.timer then some (s.tick now) else none
    | .effect i found => match s.calls[i]? with
      | some ⟨op, .waiting⟩ => some (s.effect i op found)
      | _ => none
    | .resolve i => match s.calls[i]? with
      | some ⟨op, .effected found⟩ => some ((s.resume o op found).setPhase i op .resolved)
      | _ => none
    | .reject i => match s.calls[i]? with
      | some ⟨op, .waiting⟩ | some ⟨op, .effected _⟩ =>
          some ((s.fail op).setPhase i op .rejected)
      | _ => none

/-- What a load finds is what the storage holds. -/
def ReadsBack (s : SessionStore) (a : StoreAction) : Prop :=
  ∀ i found, a = .effect i found → s.calls[i]? = some ⟨.restore, .waiting⟩ →
    found = s.stored.getD .null

section Frames

variable (o : CreateSessionStoreOptions) (s : SessionStore)

/-- Starting the interval changes the timer alone. -/
theorem startRefresh_eq : ∃ timer, s.startRefresh o = { s with timer := timer } := by
  unfold SessionStore.startRefresh
  by_cases hdisposed : s.disposed = true
  · exact ⟨s.timer, by rw [if_pos hdisposed]⟩
  by_cases htimer : s.timer = true
  · exact ⟨s.timer, by rw [if_neg hdisposed, if_pos htimer]⟩
  rw [if_neg hdisposed, if_neg htimer]
  cases o.refreshIntervalMs with
  | none => exact ⟨s.timer, rfl⟩
  | some ms =>
      by_cases hms : JsNum.lt (.ofNat 0) ms = true
      · exact ⟨true, by simp only [hms, if_true]⟩
      · exact ⟨s.timer, by simp only [hms, Bool.false_eq_true, if_false]⟩

/-- An operation that goes on writes a session, or none. -/
theorem resume_eq (op : StoreOp) (found : JsValue) :
    ∃ status timer, s.resume o op found =
      { s with session := op.written found, status := status, timer := timer } ∧
      ((∃ updated, op = .touch updated ∧ status = s.status) ∨
        ((∀ updated, op ≠ .touch updated) ∧
          status = if (op.written found).isSome then .connected else .disconnected)) := by
  -- The refresh starts a timer and leaves the rest of the state.
  have hrefresh : ∀ session, ∃ timer,
      SessionStore.startRefresh o { s with session := some session, status := .connected } =
        { s with session := some session, status := .connected, timer := timer } :=
    fun session => startRefresh_eq o { s with session := some session, status := .connected }
  cases op with
  | start session =>
      obtain ⟨timer, heq⟩ := hrefresh session
      exact ⟨.connected, timer, heq, .inr ⟨nofun, rfl⟩⟩
  | touch updated => exact ⟨s.status, s.timer, rfl, .inl ⟨updated, rfl, rfl⟩⟩
  | end' => exact ⟨.disconnected, false, rfl, .inr ⟨nofun, rfl⟩⟩
  | restore =>
      rcases (restored found).eq_none_or_eq_some with hnone | ⟨session, hsome⟩
      · simp only [SessionStore.resume, StoreOp.written, hnone]
        exact ⟨.disconnected, s.timer, rfl, .inr ⟨nofun, rfl⟩⟩
      · obtain ⟨timer, heq⟩ := hrefresh session
        simp only [SessionStore.resume, StoreOp.written, hsome]
        exact ⟨.connected, timer, heq, .inr ⟨nofun, rfl⟩⟩

/-- A restore that goes on has the session it found, and is connected if that is
    one. -/
theorem resume_restore (found : JsValue) :
    (s.resume o .restore found).session = restored found ∧
      (s.resume o .restore found).status =
        if (restored found).isSome then .connected else .disconnected := by
  obtain ⟨status, timer, heq, ⟨updated, hop, -⟩ | ⟨-, hstatus⟩⟩ := resume_eq o s .restore found
  · exact absurd hop (by simp only [reduceCtorEq, not_false_eq_true])
  · rw [heq]
    exact ⟨rfl, hstatus⟩

@[simp] theorem fail_stored (op : StoreOp) : (s.fail op).stored = s.stored := by
  cases op <;> rfl

@[simp] theorem fail_calls (op : StoreOp) : (s.fail op).calls = s.calls := by
  cases op <;> rfl

end Frames

variable {o : CreateSessionStoreOptions} {s s' : SessionStore} {a : StoreAction}

/-- A touch calls the storage, or does nothing. -/
theorem touch_cases (s : SessionStore) (now : Option JsString) :
    s.touch now = s ∨ ∃ updated, s.touch now = s.await (.touch updated) := by
  unfold SessionStore.touch
  cases s.session with
  | none => exact .inl rfl
  | some session =>
      cases now with
      | none => exact .inl rfl
      | some iso => exact .inr ⟨session.touched iso, rfl⟩

/-- Everything that can happen to a store: nothing that is looked at here, a new
    call of the storage, and the three ways the storage gets on with one. -/
theorem step_cases (h : (sessionStore o).step s a = some s') :
    (s'.session = s.session ∧ s'.status = s.status ∧ s'.stored = s.stored ∧
      s'.calls = s.calls ∧ ∀ i, a ≠ .resolve i) ∨
    (∃ op, s' = s.await op ∧ ∀ i, a ≠ .resolve i) ∨
    (∃ i op found, a = .effect i found ∧ s.calls[i]? = some ⟨op, .waiting⟩ ∧
      s' = s.effect i op found) ∨
    (∃ i op found, a = .resolve i ∧ s.calls[i]? = some ⟨op, .effected found⟩ ∧
      s' = (s.resume o op found).setPhase i op .resolved) ∨
    (∃ i op phase, a = .reject i ∧ s.calls[i]? = some ⟨op, phase⟩ ∧
      s' = (s.fail op).setPhase i op .rejected) := by
  -- A touch writes, or finds nothing to write.
  have htouch : ∀ now, s' = s.touch now → (∀ i, a ≠ .resolve i) →
      (s'.session = s.session ∧ s'.status = s.status ∧ s'.stored = s.stored ∧
        s'.calls = s.calls ∧ ∀ i, a ≠ .resolve i) ∨
      ∃ op, s' = s.await op ∧ ∀ i, a ≠ .resolve i := by
    rintro now rfl hother
    rcases touch_cases s now with heq | ⟨updated, heq⟩
    · rw [heq]
      exact .inl ⟨rfl, rfl, rfl, rfl, hother⟩
    · exact .inr ⟨_, heq, hother⟩
  cases a with
  | start session =>
      simp only [sessionStore, Option.some.injEq] at h
      exact .inr (.inl ⟨_, h.symm, nofun⟩)
  | touch now =>
      simp only [sessionStore, Option.some.injEq] at h
      exact (htouch now h.symm nofun).imp_right .inl
  | end' =>
      simp only [sessionStore, Option.some.injEq] at h
      exact .inr (.inl ⟨_, h.symm, nofun⟩)
  | restore =>
      simp only [sessionStore, Option.some.injEq] at h
      exact .inr (.inl ⟨_, h.symm, nofun⟩)
  | dispose =>
      simp only [sessionStore, Option.some.injEq] at h
      subst h
      exact .inl ⟨rfl, rfl, rfl, rfl, nofun⟩
  | tick now =>
      simp only [sessionStore, Option.ite_none_right_eq_some, Option.some.injEq,
        SessionStore.tick] at h
      obtain ⟨-, h⟩ := h
      by_cases hdisposed : s.disposed = true
      · rw [if_pos hdisposed] at h
        subst h
        exact .inl ⟨rfl, rfl, rfl, rfl, nofun⟩
      · rw [if_neg hdisposed] at h
        exact (htouch (some now) h.symm nofun).imp_right .inl
  | effect i found =>
      simp only [sessionStore] at h
      split at h
      next op hcall =>
        exact .inr (.inr (.inl ⟨i, op, found, rfl, hcall, (Option.some.inj h).symm⟩))
      next => exact absurd h (by simp only [reduceCtorEq, not_false_eq_true])
  | resolve i =>
      simp only [sessionStore] at h
      split at h
      next op found hcall =>
        exact .inr (.inr (.inr (.inl ⟨i, op, found, rfl, hcall, (Option.some.inj h).symm⟩)))
      next => exact absurd h (by simp only [reduceCtorEq, not_false_eq_true])
  | reject i =>
      simp only [sessionStore] at h
      split at h
      next op hcall =>
        exact .inr (.inr (.inr (.inr ⟨i, op, _, rfl, hcall, (Option.some.inj h).symm⟩)))
      next op found hcall =>
        exact .inr (.inr (.inr (.inr ⟨i, op, _, rfl, hcall, (Option.some.inj h).symm⟩)))
      next => exact absurd h (by simp only [reduceCtorEq, not_false_eq_true])

end Session

end VellarSdk
