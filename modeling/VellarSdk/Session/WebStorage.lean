import VellarSdk.Js.JsonRoundTrip
import VellarSdk.Session.Coherence

/-!
# Sessions in a Web Storage

The adapter that keeps the session in a `Storage` under one key, and the store over
it. The adapter writes the session as JSON and takes over what it reads only if that
is a session, so that a `Storage`, which holds nothing but texts, does for a storage
of sessions.

Its calls are made and answered at once, and what goes on behind them later is a
step of its own: the answer is taken up, or the call's failure. A call fails when
the `Storage` throws, as it does when it is full or not to be had. Other code may
write what it likes under any key, and the page may be loaded again, which leaves a
new store and the same `Storage`.

The value that was last written for good is what the store over an ideal storage
would find, and `Holds` ties the text to it.

## Main definitions

* `webLoad`, `webSave`: The adapter.
* `WebStore`, `WebAction`, `webStore`: The store over it, and what can happen.
* `Holds`: The text of what an ideal storage holds.
* `RestoreCalled`, `AllAnswered`: When a restore was called, and what it is answered.

## Theorems

* `isWalletSession_jsonView`: What is left of a session that was written is one.
* `act_cases`, `settle_cases`: What a step does to the store and to the text.
* `loaded_step`, `sound_step`, `holds_step`, `allAnswered_step`: What a step keeps.
* `restore_settles`: Whatever is in the `Storage`, a restore ends with the session
  that was under the key when it was called, or without one.
* `reload_restores`: What was saved is there again after the page is loaded again.
-/

namespace VellarSdk

namespace Session

open Js Async

/-! ## The adapter -/

section Adapter

variable (r : Rounding)

/-- `load()`: a text that is no JSON is a `SyntaxError`. -/
def webLoad : Option JsString → Except NativeError JsValue
  | none => .ok .null
  | some raw => match jsonParse r raw with
    | none => .error .syntaxError
    | some parsed => .ok (if isWalletSession parsed then parsed else .null)

end Adapter

/-- The text `save(session)` writes. Only what has no JSON has none, and a
    `Storage` turns that into a text of its own. -/
def webSave (session : JsValue) : Except NativeError JsString :=
  session.stringify.map (fun text => text.getD (js "undefined"))

/-- A call of the adapter: what is under its key afterwards, and what it
    answers. -/
def webCall (r : Rounding) :
    StoreOp → Option JsString → Except NativeError (Option JsString × JsValue)
  | .start session, _ => (webSave session.value).map (fun text => (some text, .undefined))
  | .touch updated, _ => (webSave updated.value).map (fun text => (some text, .undefined))
  | .end', _ => .ok (none, .undefined)
  | .restore, raw => (webLoad r raw).map (fun found => (raw, found))

/-! ## The store over it -/

/-- The store, and the texts that are in the `Storage`. -/
structure WebStore where
  store : SessionStore := { stored := none }
  items : JsString → Option JsString

/-- What can happen: something is done with the store and the `Storage` accepts the
    call or throws, a call is taken up where it was left, other code writes or
    removes an item, and the page is loaded again. -/
inductive WebAction where
  | store (a : StoreAction) (accepted : Bool)
  | settle (i : Nat)
  | foreign (key : JsString) (text : Option JsString)
  | reload

/-- The methods of a store and its interval, and not the answers of a storage. -/
def StoreAction.isOwn : StoreAction → Bool
  | .effect _ _ | .resolve _ | .reject _ => false
  | _ => true

namespace WebStore

variable (r : Rounding) (o : CreateSessionStoreOptions) (key : JsString)

/-- The adapter is called. Where it throws, nothing is written and the call waits
    for its failure to be taken up. -/
def serve (s : WebStore) (i : Nat) (op : StoreOp) : WebStore :=
  match webCall r op (s.items key) with
  | .ok (text, found) =>
      { store := s.store.effect i op found, items := Function.update s.items key text }
  | .error _ => s

/-- Something is done with the store, which may call the adapter. -/
def act (s : WebStore) (a : StoreAction) (accepted : Bool) : Option WebStore :=
  if !a.isOwn then none
  else (sessionStore o).step s.store a |>.map (fun store =>
    match store.calls[s.store.calls.length]? with
    | some call =>
        if accepted then serve r key { s with store := store } s.store.calls.length call.op
        else { s with store := store }
    | none => { s with store := store })

/-- A call is taken up: what answered it, or its failure. -/
def settle (s : WebStore) (i : Nat) : Option WebStore :=
  match s.store.calls[i]? with
  | some ⟨_, .effected _⟩ =>
      ((sessionStore o).step s.store (.resolve i)).map (fun store => { s with store := store })
  | some ⟨_, .waiting⟩ =>
      ((sessionStore o).step s.store (.reject i)).map (fun store => { s with store := store })
  | _ => none

end WebStore

/-- A store over the adapter for one key. -/
def webStore (r : Rounding) (o : CreateSessionStoreOptions) (key : JsString) :
    Machine WebStore WebAction where
  step s a := match a with
    | .store a accepted => s.act r o key a accepted
    | .settle i => s.settle o i
    | .foreign k text => some { s with items := Function.update s.items k text }
    | .reload => some { s with store := { stored := s.store.stored } }

/-! ## What is left of a session -/

theorem lookup_viewFields {fields : List (JsString × JsValue)} (h : Enumerated fields)
    (name : JsString) :
    (viewFields fields).lookup name = (fields.lookup name).bind jsonView := by
  induction fields with
  | nil => rfl
  | cons e rest ih =>
      rcases e with ⟨k, v⟩
      obtain ⟨hfirst, hrest⟩ := enumerated_cons.mp h
      rw [viewFields]
      by_cases hk : name = k
      · subst hk
        rw [List.lookup_cons_self, Option.bind_some]
        cases hview : jsonView v with
        | some w => exact List.lookup_cons_self
        | none =>
            -- The name is not used again.
            rw [ih hrest]
            have hnone : rest.lookup name = none := by
              exact List.lookup_eq_none_iff.mpr (fun e he => bne_iff_ne.mpr (hfirst e he).1)
            rw [hnone, Option.bind_none]
      · have hne : (name == k) = false := beq_eq_false_iff_ne.mpr hk
        rw [List.lookup_cons, hne]
        cases jsonView v with
        | some w => rw [List.lookup_cons, hne, ih hrest]
        | none => exact ih hrest

/-- Texts and booleans are left as they are, and nothing else becomes one. -/
theorem field_jsonView {fields : List (JsString × JsValue)} (h : Enumerated fields)
    (name : JsString) : (JsValue.obj (viewFields fields)).field name =
      (jsonView ((JsValue.obj fields).field name)).getD .undefined := by
  rw [JsValue.field, JsValue.field, lookup_viewFields h]
  cases fields.lookup name <;> rfl

theorem isString_jsonView (v : JsValue) :
    isString ((jsonView v).getD .undefined) = isString v := by
  cases v with
  | num n => cases n <;> rfl
  | _ => rfl

theorem isBoolean_jsonView (v : JsValue) :
    isBoolean ((jsonView v).getD .undefined) = isBoolean v := by
  cases v with
  | num n => cases n <;> rfl
  | _ => rfl

theorem strictEq_jsonView (v : JsValue) (s : JsString) :
    ((jsonView v).getD .undefined).strictEq (.str s) = v.strictEq (.str s) := by
  cases v with
  | num n => cases n <;> rfl
  | _ => rfl

/-- A text is left with its truth. -/
theorem truthy_jsonView {v : JsValue} (h : isString v = true) :
    ((jsonView v).getD .undefined).truthy = v.truthy := by
  cases v with
  | str s => rfl
  | _ => exact absurd h (by simp only [isString, Bool.false_eq_true, not_false_eq_true])

theorem isWalletSession_view {fields : List (JsString × JsValue)} (h : Enumerated fields) :
    isWalletSession (.obj (viewFields fields)) = isWalletSession (.obj fields) := by
  have hobject : isObject (.obj (viewFields fields)) = isObject (.obj fields) := rfl
  unfold isWalletSession
  simp only [field_jsonView h, hobject, isString_jsonView, isBoolean_jsonView, strictEq_jsonView]
  by_cases hstring : isString ((JsValue.obj fields).field (js "accountId")) = true
  · rw [truthy_jsonView hstring]
  · rw [Bool.not_eq_true] at hstring
    simp only [hstring, Bool.and_false, Bool.false_and]

/-- What is left of a session that was written is a session, and of another value
    none. -/
theorem isWalletSession_jsonView {r : Rounding} {v w : JsValue} (h : Storable r v)
    (hw : jsonView v = some w) : isWalletSession w = isWalletSession v := by
  cases h with
  | undefined => exact absurd hw (by simp only [jsonView, reduceCtorEq, not_false_eq_true])
  | obj fields henum _ =>
      rw [jsonView, Option.some.injEq] at hw
      rw [← hw, isWalletSession_view henum]
  | arr items _ =>
      rw [jsonView, Option.some.injEq] at hw
      rw [← hw]
      rfl
  | buffer bytes =>
      rw [jsonView, Option.some.injEq] at hw
      rw [← hw]
      rfl
  | _ =>
      simp only [jsonView, Option.some.injEq] at hw
      rw [← hw]
      try rfl

/-! ## What a step keeps -/

theorem setFields_eq {name : JsString} (h : arrayIndex name = none)
    (fields : List (JsString × JsValue)) (w : JsValue) :
    JsValue.setFields fields name w = insertField fields name w := by
  induction fields with
  | nil => rfl
  | cons e rest ih =>
      rcases e with ⟨k, v⟩
      have hover : overtakes name k = false := by rw [overtakes, h]
      rw [JsValue.setFields, insertField, hover, if_neg Bool.false_ne_true, ih]
      by_cases hk : k = name
      · subst hk
        rw [if_pos rfl, if_pos (beq_self_eq_true k)]
      · have hne : ¬ (name == k) = true := by
          rw [beq_iff_eq]
          exact fun heq => hk heq.symm
        rw [if_neg hk, if_neg hne]

/-- A session that was touched can be written as well. -/
theorem storable_withField {r : Rounding} {v w : JsValue} (hv : Storable r v) (hw : Storable r w)
    {name : JsString} (hname : arrayIndex name = none) : Storable r (v.withField name w) := by
  have hsingle : Storable r (.obj [(name, w)]) :=
    .obj _ (List.pairwise_singleton _ _) (List.forall_mem_singleton.mpr hw)
  cases hv with
  | obj fields henum h =>
      rw [JsValue.withField, setFields_eq hname]
      refine .obj _ (enumerated_insertField henum name w) (fun e he => ?_)
      rcases mem_insertField he with he | rfl
      · exact h e he
      · exact hw
  | _ => exact hsingle

/-- The values an operation may write can be written. -/
def StoreOp.Storable (r : Rounding) : StoreOp → Prop
  | .start session => Js.Storable r session.value
  | .touch updated => Js.Storable r updated.value
  | _ => True

/-- What a load may find: nothing, or a session that was read from a text. -/
def Restorable (r : Rounding) (found : JsValue) : Prop :=
  found = .null ∨ (isWalletSession found = true ∧ Parsed r found)

theorem webLoad_restorable {r : Rounding} {raw : Option JsString} {found : JsValue}
    (h : webLoad r raw = .ok found) : Restorable r found := by
  unfold webLoad at h
  split at h
  · injection h with h
    exact .inl h.symm
  · split at h
    · exact absurd h (by simp only [reduceCtorEq, not_false_eq_true])
    · next parsed hparsed =>
      injection h with h
      by_cases hsession : isWalletSession parsed = true
      · rw [if_pos hsession] at h
        subst h
        exact .inr ⟨hsession, jsonParse_spec hparsed⟩
      · rw [if_neg hsession] at h
        exact .inl h.symm

section Steps

variable {r : Rounding} {o : CreateSessionStoreOptions} {key : JsString} {s s' : WebStore}

/-- The operations that call the storage when something is done with a store. -/
def Issued (store : SessionStore) (a : StoreAction) (op : StoreOp) : Prop :=
  (∃ session, a = .start session ∧ op = .start session) ∨
    (∃ session now, store.session = some session ∧ op = .touch (session.touched now)) ∨
    op = .end' ∨ (a = .restore ∧ op = .restore)

/-- Nothing that is looked at here changes, or the storage is called. -/
theorem own_cases {store store' : SessionStore} {a : StoreAction} (hown : a.isOwn = true)
    (h : (sessionStore o).step store a = some store') :
    (store'.session = store.session ∧ store'.stored = store.stored ∧
      store'.calls = store.calls) ∨
    ∃ op, Issued store a op ∧ store' = store.await op := by
  -- A touch does nothing without a session or a time, and is a save otherwise.
  have htouch : ∀ now, (store.touch now = store) ∨
      ∃ session iso, store.session = some session ∧
        store.touch now = store.await (.touch (session.touched iso)) := by
    intro now
    unfold SessionStore.touch
    cases store.session with
    | none => exact .inl rfl
    | some session =>
        cases now with
        | none => exact .inl rfl
        | some iso => exact .inr ⟨session, iso, rfl, rfl⟩
  have htouched : ∀ {a : StoreAction} now, store.touch now = store' →
      (store'.session = store.session ∧ store'.stored = store.stored ∧
        store'.calls = store.calls) ∨ ∃ op, Issued store a op ∧ store' = store.await op := by
    rintro a now rfl
    rcases htouch now with heq | ⟨session, iso, hsession, heq⟩
    · rw [heq]
      exact .inl ⟨rfl, rfl, rfl⟩
    · exact .inr ⟨_, .inr (.inl ⟨session, iso, hsession, rfl⟩), heq⟩
  cases a with
  | start session =>
      injection h with h
      exact .inr ⟨.start session, .inl ⟨session, rfl, rfl⟩, h.symm⟩
  | touch now =>
      injection h with h
      exact htouched now h
  | end' =>
      injection h with h
      exact .inr ⟨.end', .inr (.inr (.inl rfl)), h.symm⟩
  | restore =>
      injection h with h
      exact .inr ⟨.restore, .inr (.inr (.inr ⟨rfl, rfl⟩)), h.symm⟩
  | dispose =>
      injection h with h
      subst h
      exact .inl ⟨rfl, rfl, rfl⟩
  | tick now =>
      -- A tick is a touch, as long as the store was not disposed of.
      simp only [sessionStore, Option.ite_none_right_eq_some, Option.some.injEq,
        SessionStore.tick] at h
      obtain ⟨-, h⟩ := h
      by_cases hdisposed : store.disposed = true
      · rw [if_pos hdisposed] at h
        subst h
        exact .inl ⟨rfl, rfl, rfl⟩
      · rw [if_neg hdisposed] at h
        exact htouched (some now) h
  -- What is left is the storage's to do.
  | _ => exact absurd hown (by simp only [StoreAction.isOwn, Bool.false_eq_true,
      not_false_eq_true])

/-- Something that is done with the store calls the adapter at most once, and the
    call waits if the `Storage` or the adapter throws. -/
theorem act_cases {a : StoreAction} {accepted : Bool} (h : s.act r o key a accepted = some s') :
    (∃ store, store.session = s.store.session ∧ store.stored = s.store.stored ∧
      store.calls = s.store.calls ∧ s' = { s with store := store }) ∨
    (∃ op, Issued s.store a op ∧
      (accepted = true → (webCall r op (s.items key)).isOk = false) ∧
      s' = { s with store := s.store.await op }) ∨
    (∃ op text found, Issued s.store a op ∧ accepted = true ∧
      webCall r op (s.items key) = .ok (text, found) ∧
      s' = { store := (s.store.await op).effect s.store.calls.length op found
             items := Function.update s.items key text }) := by
  unfold WebStore.act at h
  by_cases hown : a.isOwn = true
  rotate_left
  · simp only [hown, Bool.not_false, if_true, reduceCtorEq] at h
  simp only [hown, Bool.not_true, Bool.false_eq_true, if_false, Option.map_eq_some_iff] at h
  obtain ⟨store, hstep, h⟩ := h
  rcases own_cases hown hstep with ⟨hsession, hstored, hcalls⟩ | ⟨op, hop, rfl⟩
  · -- Nothing was called, so nothing is served.
    have hnone : store.calls[s.store.calls.length]? = none := by
      rw [hcalls]
      exact List.getElem?_eq_none (Nat.le_refl _)
    rw [hnone] at h
    exact .inl ⟨store, hsession, hstored, hcalls, h.symm⟩
  -- The call is the last of them, and is served at once where the storage accepts it.
  have hcall : (s.store.await op).calls[s.store.calls.length]? = some ⟨op, .waiting⟩ :=
    List.getElem?_concat_length
  rw [hcall] at h
  by_cases haccepted : accepted = true
  · simp only [haccepted, if_true, WebStore.serve] at h
    cases hserve : webCall r op (s.items key) with
    | error e =>
        -- `setItem` or `JSON.parse` threw inside the adapter.
        rw [hserve] at h
        exact .inr (.inl ⟨op, hop, fun _ => by rw [hserve]; rfl, h.symm⟩)
    | ok answer =>
        rcases answer with ⟨text, found⟩
        rw [hserve] at h
        exact .inr (.inr ⟨op, text, found, hop, haccepted, hserve, h.symm⟩)
  · simp only [haccepted, Bool.false_eq_true, if_false] at h
    exact .inr (.inl ⟨op, hop, fun haccept => absurd haccept haccepted, h.symm⟩)

/-- A call that is taken up goes on or fails. -/
theorem settle_cases {i : Nat} (h : s.settle o i = some s') :
    (∃ op found, s.store.calls[i]? = some ⟨op, .effected found⟩ ∧
      s' = { s with store := (s.store.resume o op found).setPhase i op .resolved }) ∨
    (∃ op, s.store.calls[i]? = some ⟨op, .waiting⟩ ∧
      s' = { s with store := (s.store.fail op).setPhase i op .rejected }) := by
  unfold WebStore.settle at h
  split at h
  · next op found hcall =>
    simp only [sessionStore, hcall, Option.map_some, Option.some.injEq] at h
    exact .inl ⟨op, found, hcall, h.symm⟩
  · next op hcall =>
    simp only [sessionStore, hcall, Option.map_some, Option.some.injEq] at h
    exact .inr ⟨op, hcall, h.symm⟩
  · exact absurd h (by simp only [reduceCtorEq, not_false_eq_true])

/-- The text under the key is that of the value an ideal storage holds. -/
def Holds (r : Rounding) (key : JsString) (s : WebStore) : Prop :=
  match s.store.stored with
  | none => s.items key = none
  | some v => Storable r v ∧ ∃ text, v.stringify = .ok (some text) ∧ s.items key = some text

/-- A load has found nothing, or a session. -/
def Loaded (r : Rounding) (s : SessionStore) : Prop :=
  ∀ c ∈ s.calls, ∀ found, c.op = .restore → c.phase = .effected found → Restorable r found

/-- What is in memory, and what the calls write, can be written. -/
structure Sound (r : Rounding) (s : SessionStore) : Prop where
  session : ∀ session, s.session = some session → Storable r session.value
  ops : ∀ c ∈ s.calls, c.op.Storable r

/-- What is done with the store is given sessions that can be written. -/
def StartsPlain (r : Rounding) (_ : WebStore) (a : WebAction) : Prop :=
  ∀ session accepted, a = .store (.start session) accepted → Storable r session.value

/-- No other code writes under the key. -/
def KeyIsOwn (key : JsString) (_ : WebStore) (a : WebAction) : Prop :=
  ∀ text, a ≠ .foreign key text

theorem restorable_storable {found : JsValue} (h : Restorable r found) : Storable r found := by
  rcases h with rfl | ⟨-, -, h⟩
  · exact .null
  · exact h

/-- What an operation leaves in memory can be written. -/
theorem storable_written {op : StoreOp} {found : JsValue} (hop : op.Storable r)
    (hfound : op = .restore → Restorable r found) {session : WalletSession}
    (h : op.written found = some session) : Storable r session.value := by
  cases op with
  | start w =>
      injection h with h
      exact h ▸ hop
  | touch w =>
      injection h with h
      exact h ▸ hop
  | end' => exact absurd h (by simp only [StoreOp.written, reduceCtorEq, not_false_eq_true])
  | restore =>
      rw [StoreOp.written, restored] at h
      split at h
      · injection h with h
        rw [← h]
        exact restorable_storable (hfound rfl)
      · exact absurd h (by simp only [reduceCtorEq, not_false_eq_true])

/-- A call that is made writes what can be written. -/
theorem storable_issued {a : StoreAction} {op : StoreOp} {store : SessionStore}
    (hs : Sound r store) (hplain : ∀ session, a = .start session → Storable r session.value)
    (h : Issued store a op) : op.Storable r := by
  rcases h with ⟨session, ha, rfl⟩ | ⟨session, now, hsession, rfl⟩ | rfl | ⟨-, rfl⟩
  · exact hplain session ha
  · exact storable_withField (hs.session session hsession) (.str now) (by decide)
  · trivial
  · trivial

theorem sound_await {op : StoreOp} {store : SessionStore} (hs : Sound r store)
    (hop : op.Storable r) : Sound r (store.await op) where
  session := hs.session
  ops := List.forall_mem_append.mpr ⟨hs.ops, List.forall_mem_singleton.mpr hop⟩

theorem sound_setPhase {store : SessionStore} (hs : Sound r store) {i : Nat} {op : StoreOp}
    {phase : Phase} (hop : op.Storable r) : Sound r (store.setPhase i op phase) where
  session := hs.session
  ops := fun c hc => by
    rcases List.mem_or_eq_of_mem_set hc with hc | rfl
    · exact hs.ops c hc
    · exact hop

theorem loaded_await {store : SessionStore} (hs : Loaded r store) (op : StoreOp) :
    Loaded r (store.await op) := by
  refine List.forall_mem_append.mpr ⟨hs, List.forall_mem_singleton.mpr ?_⟩
  intro found _ hphase
  exact absurd hphase (by simp only [reduceCtorEq, not_false_eq_true])

/-- A call gets to another phase. -/
theorem loaded_set {store : SessionStore} (hs : Loaded r store) {i : Nat} {c : StoreCall}
    (hc : ∀ found, c.op = .restore → c.phase = .effected found → Restorable r found) :
    ∀ c' ∈ store.calls.set i c, ∀ found, c'.op = .restore → c'.phase = .effected found →
      Restorable r found := by
  intro c' hc'
  rcases List.mem_or_eq_of_mem_set hc' with hc' | rfl
  · exact hs c' hc'
  · exact hc

/-- A load that is served has found nothing, or a session. -/
theorem restorable_webCall {op : StoreOp} {raw text : Option JsString} {found : JsValue}
    (h : webCall r op raw = .ok (text, found)) (hop : op = .restore) : Restorable r found := by
  subst hop
  cases hload : webLoad r raw with
  | error e =>
      rw [webCall, hload] at h
      exact absurd h (by simp only [Except.map, reduceCtorEq, not_false_eq_true])
  | ok v =>
      rw [webCall, hload] at h
      simp only [Except.map, Except.ok.injEq, Prod.mk.injEq] at h
      exact h.2 ▸ webLoad_restorable hload

/-- Whatever texts are in the `Storage`, no more than sessions is loaded. -/
theorem loaded_step {a : WebAction} (hs : Loaded r s.store)
    (h : (webStore r o key).step s a = some s') : Loaded r s'.store := by
  -- A phase other than an answer says nothing.
  have hdone : ∀ {op : StoreOp} {phase : Phase}, (∀ found, phase ≠ .effected found) →
      ∀ found, op = .restore → phase = .effected found → Restorable r found :=
    fun hphase found _ heq => absurd heq (hphase found)
  cases a with
  | store a accepted =>
      rcases act_cases h with ⟨store, -, -, hcalls, rfl⟩ | ⟨op, -, -, rfl⟩ |
        ⟨op, text, found, -, -, hcall, rfl⟩
      · unfold Loaded
        rw [hcalls]
        exact hs
      · exact loaded_await hs op
      · refine loaded_set (loaded_await hs op) ?_
        rintro found' hrestore hphase
        injection hphase with hphase
        exact hphase ▸ restorable_webCall hcall hrestore
  | settle i =>
      rcases settle_cases h with ⟨op, found, -, rfl⟩ | ⟨op, -, rfl⟩
      · obtain ⟨status, timer, heq, -⟩ := resume_eq o s.store op found
        unfold Loaded
        rw [heq]
        exact loaded_set hs (hdone (by simp only [ne_eq, reduceCtorEq, not_false_eq_true,
          implies_true]))
      · unfold Loaded
        rw [SessionStore.setPhase, fail_calls]
        exact loaded_set hs (hdone (by simp only [ne_eq, reduceCtorEq, not_false_eq_true,
          implies_true]))
  | foreign k text =>
      injection h with h
      exact h ▸ hs
  | reload =>
      injection h with h
      rw [← h]
      -- A page that was loaded again has no calls.
      exact fun _ hc => absurd hc List.not_mem_nil

theorem sound_step {a : WebAction} (hs : Sound r s.store) (hloaded : Loaded r s.store)
    (hplain : StartsPlain r s a) (h : (webStore r o key).step s a = some s') :
    Sound r s'.store := by
  cases a with
  | store a accepted =>
      have hstart : ∀ session, a = .start session → Storable r session.value := by
        rintro session rfl
        exact hplain session accepted rfl
      rcases act_cases h with ⟨store, hsession, -, hcalls, rfl⟩ | ⟨op, hop, -, rfl⟩ |
        ⟨op, text, found, hop, -, -, rfl⟩
      · exact ⟨hsession ▸ hs.session, hcalls ▸ hs.ops⟩
      · exact sound_await hs (storable_issued hs hstart hop)
      · -- The text that is stored is that of the session the call was made with.
        have hstorable := storable_issued hs hstart hop
        have hawait := sound_await hs hstorable
        have hset : Sound r { s.store.await op with stored := op.store s.store.stored } :=
          ⟨hawait.session, hawait.ops⟩
        exact sound_setPhase hset hstorable
  | settle i =>
      rcases settle_cases h with ⟨op, found, hcall, rfl⟩ | ⟨op, hcall, rfl⟩
      · have hmem := List.mem_of_getElem? hcall
        have hop := hs.ops _ hmem
        obtain ⟨status, timer, heq, -⟩ := resume_eq o s.store op found
        rw [heq]
        -- What the call leaves in the store was given to it, or was read from a text.
        have hwritten : Sound r
            { s.store with
              session := op.written found
              status := status
              timer := timer } := by
          refine ⟨fun session hsession => ?_, hs.ops⟩
          exact storable_written hop (fun hrestore => hloaded _ hmem found hrestore rfl) hsession
        exact sound_setPhase hwritten hop
      · have hop := hs.ops _ (List.mem_of_getElem? hcall)
        refine sound_setPhase ⟨fun session hsession => ?_, ?_⟩ hop
        · cases op with
          -- A load that failed leaves no session, any other failure the one there was.
          | restore => exact absurd hsession (by simp only [SessionStore.fail, reduceCtorEq,
              not_false_eq_true])
          | _ => exact hs.session session hsession
        · rw [fail_calls]
          exact hs.ops
  | foreign k text =>
      injection h with h
      exact h ▸ hs
  | reload =>
      injection h with h
      rw [← h]
      exact ⟨fun _ hsession => absurd hsession (by simp only [reduceCtorEq, not_false_eq_true]),
        fun _ hc => absurd hc List.not_mem_nil⟩

theorem jsonView_of_isObject {v : JsValue} (h : isObject v = true) : ∃ w, jsonView v = some w := by
  cases v with
  | buffer bytes => exact ⟨_, by rw [jsonView]⟩
  | arr items => exact ⟨_, by rw [jsonView]⟩
  | obj fields => exact ⟨_, by rw [jsonView]⟩
  | _ => exact absurd h (by simp only [isObject, Bool.false_eq_true, not_false_eq_true])

/-- The adapter writes the text of what an ideal storage would hold. -/
theorem holds_serve {op : StoreOp} {text : Option JsString} {found : JsValue}
    (hs : Holds r key s) (hop : op.Storable r)
    (h : webCall r op (s.items key) = .ok (text, found)) :
    Holds r key { store := (s.store.await op).effect s.store.calls.length op found
                  items := Function.update s.items key text } := by
  have hsave : ∀ v : JsValue, Storable r v → isObject v = true →
      (webSave v).map (fun text => (some text, JsValue.undefined)) = .ok (text, found) →
      ∃ t, text = some t ∧ v.stringify = .ok (some t) := by
    intro v hv hobject hsave
    cases htext : v.stringify with
    | error e =>
        rw [webSave, htext] at hsave
        exact absurd hsave (by simp only [Except.map, reduceCtorEq, not_false_eq_true])
    | ok t =>
        rw [webSave, htext] at hsave
        simp only [Except.map, Except.ok.injEq, Prod.mk.injEq] at hsave
        -- An object has a text.
        have hrel := reads_stringify v hv t htext
        cases t with
        | some t => exact ⟨t, hsave.1.symm, rfl⟩
        | none =>
            obtain ⟨w, hw⟩ := jsonView_of_isObject hobject
            rw [hw] at hrel
            cases hrel
  unfold Holds at hs ⊢
  simp only [Function.update_self]
  cases op with
  | start session =>
      obtain ⟨t, rfl, ht⟩ := hsave session.value hop session.object h
      exact ⟨hop, t, ht, rfl⟩
  | touch updated =>
      obtain ⟨t, rfl, ht⟩ := hsave updated.value hop updated.object h
      exact ⟨hop, t, ht, rfl⟩
  | end' =>
      injection h with h
      rw [Prod.mk.injEq] at h
      exact h.1.symm
  | restore =>
      cases hload : webLoad r (s.items key) with
      | error e =>
          rw [webCall, hload] at h
          exact absurd h (by simp only [Except.map, reduceCtorEq, not_false_eq_true])
      | ok v =>
          rw [webCall, hload] at h
          simp only [Except.map, Except.ok.injEq, Prod.mk.injEq] at h
          rw [← h.1]
          exact hs

theorem holds_step {a : WebAction} (hs : Holds r key s) (hsound : Sound r s.store)
    (hplain : StartsPlain r s a) (hown : KeyIsOwn key s a)
    (h : (webStore r o key).step s a = some s') : Holds r key s' := by
  cases a with
  | store a accepted =>
      rcases act_cases h with ⟨store, -, hstored, -, rfl⟩ | ⟨op, -, -, rfl⟩ |
        ⟨op, text, found, hop, -, hcall, rfl⟩
      · unfold Holds at hs ⊢
        rw [hstored]
        exact hs
      · exact hs
      · refine holds_serve hs (storable_issued hsound ?_ hop) hcall
        rintro session rfl
        exact hplain session accepted rfl
  | settle i =>
      rcases settle_cases h with ⟨op, found, -, rfl⟩ | ⟨op, -, rfl⟩
      · obtain ⟨status, timer, heq, -⟩ := resume_eq o s.store op found
        unfold Holds at hs ⊢
        rw [heq]
        exact hs
      · unfold Holds at hs ⊢
        simp only [SessionStore.setPhase, fail_stored]
        exact hs
  | foreign k text =>
      injection h with h
      subst h
      -- Other code writes elsewhere, so the text under the key is the same.
      have hne : key ≠ k := by
        rintro rfl
        exact hown text rfl
      unfold Holds at hs ⊢
      simp only [Function.update_of_ne hne]
      exact hs
  | reload =>
      injection h with h
      exact h ▸ hs

/-- What a load answers while no other code has written under the key. -/
theorem webLoad_of_holds (h : Holds r key s) : webLoad r (s.items key) =
    .ok (((s.store.stored.filter isWalletSession).bind jsonView).getD .null) := by
  unfold Holds at h
  cases hstored : s.store.stored with
  | none =>
      rw [hstored] at h
      rw [h]
      rfl
  | some v =>
      rw [hstored] at h
      obtain ⟨hv, text, htext, hitem⟩ := h
      -- The text is one that was written, so it is read back as far as a text can hold it.
      have hparse := jsonParse_stringify hv htext
      have hrel := reads_stringify v hv (some text) htext
      rw [hitem, webLoad]
      cases hview : jsonView v with
      | none =>
          rw [hview] at hrel
          cases hrel
      | some w =>
          rw [hview] at hparse
          simp only [hparse, isWalletSession_jsonView hv hview]
          -- The check on loading sees what it would have seen before the session was written.
          by_cases hsession : isWalletSession v = true
          · rw [if_pos hsession, Option.filter_some, if_pos hsession, Option.bind_some, hview,
              Option.getD_some]
          · rw [if_neg hsession, Option.filter_some, if_neg hsession, Option.bind_none,
              Option.getD_none]

/-- What is left of the session that was written is a session. -/
theorem isWalletSession_of_view (h : Holds r key s) {w : JsValue}
    (hw : (s.store.stored.filter isWalletSession).bind jsonView = some w) :
    isWalletSession w = true := by
  obtain ⟨v, hv, hview⟩ := Option.bind_eq_some_iff.mp hw
  obtain ⟨hstored, hsession⟩ := Option.filter_eq_some_iff.mp hv
  unfold Holds at h
  rw [hstored] at h
  rw [isWalletSession_jsonView h.1 hview, hsession]

/-- What `restore` takes over of what a load answers. -/
theorem restored_of_restorable {found : JsValue} (h : Restorable r found) :
    (found = .null ∧ restored found = none) ∨
      ∃ session, restored found = some session ∧ session.value = found ∧
        isWalletSession found = true ∧ Parsed r found := by
  rcases h with rfl | ⟨hsession, hparsed⟩
  · exact .inl ⟨rfl, rfl⟩
  · have htruthy : found.truthy = true := by
      cases found <;> first
        | rfl
        | exact absurd (isObject_of_isWalletSession hsession) (by simp only [isObject,
            Bool.false_eq_true, not_false_eq_true])
    exact .inr ⟨_, dif_pos ⟨htruthy, hsession⟩, rfl, hsession, hparsed⟩

/-- The session a text is read as, if it is that of one. -/
def readSession (r : Rounding) (raw : Option JsString) : Option JsValue :=
  (raw.bind (jsonParse r)).filter isWalletSession

/-- What `restore` takes over is the session that is under the key. -/
theorem restored_of_webLoad {raw : Option JsString} {found : JsValue}
    (h : webLoad r raw = .ok found) :
    (restored found).map WalletSession.value = readSession r raw := by
  have hnull : restored .null = none := rfl
  cases raw with
  | none =>
      injection h with h
      rw [← h, hnull]
      rfl
  | some text =>
      rw [readSession, Option.bind_some]
      cases hparse : jsonParse r text with
      | none =>
          rw [webLoad, hparse] at h
          exact absurd h (by simp only [reduceCtorEq, not_false_eq_true])
      | some parsed =>
          have hload := webLoad_restorable h
          simp only [webLoad, hparse, Except.ok.injEq] at h
          -- The adapter checks what was parsed, and the store checks it again.
          by_cases hsession : isWalletSession parsed = true
          · rw [if_pos hsession] at h
            subst h
            rw [Option.filter_some, if_pos hsession]
            rcases restored_of_restorable hload with ⟨rfl, -⟩ | ⟨session, hsome, rfl, -, -⟩
            · exact absurd hsession (by decide)
            · rw [hsome, Option.map_some]
          · rw [if_neg hsession] at h
            rw [← h, hnull, Option.filter_some, if_neg hsession, Option.map_none]

/-- Where the adapter throws, there is no session under the key. -/
theorem readSession_of_webLoad {raw : Option JsString} (h : (webLoad r raw).isOk = false) :
    readSession r raw = none := by
  cases raw with
  | none => rfl
  | some text =>
      rw [readSession, Option.bind_some]
      cases hparse : jsonParse r text with
      | none => rfl
      | some parsed =>
          rw [webLoad, hparse] at h
          exact absurd h (by simp only [Except.isOk, Except.toBool, reduceCtorEq,
            not_false_eq_true])

theorem webCall_restore (r : Rounding) (raw : Option JsString) :
    (webCall r .restore raw).isOk = (webLoad r raw).isOk := by
  rw [webCall]
  cases webLoad r raw <;> rfl

/-- `restore()` was called as the `i`-th of the calls since the page was loaded:
    whether the `Storage` accepted it, and what was under the key at that moment. -/
def RestoreCalled (r : Rounding) (o : CreateSessionStoreOptions) (key : JsString)
    (items : JsString → Option JsString) (actions : List WebAction) (i : Nat) (accepted : Bool)
    (raw : Option JsString) : Prop :=
  ∃ before rest s, actions = before ++ .store .restore accepted :: rest ∧
    (∀ a ∈ rest, a ≠ .reload) ∧
    (webStore r o key).run { items := items } before = some s ∧
    s.store.calls.length = i ∧ s.items key = raw

/-- A load that the `Storage` accepts leaves it as it is. -/
theorem step_restore (s : WebStore) {found : JsValue} (h : webLoad r (s.items key) = .ok found) :
    (webStore r o key).step s (.store .restore true) =
      some { s with
        store := (s.store.await .restore).effect s.store.calls.length .restore found } := by
  have hserve : webCall r .restore (s.items key) = .ok (s.items key, found) := by
    rw [webCall, h]
    rfl
  have hcall : (s.store.await .restore).calls[s.store.calls.length]? = some ⟨.restore, .waiting⟩ :=
    List.getElem?_concat_length
  show WebStore.act r o key s .restore true = _
  simp only [WebStore.act, StoreAction.isOwn, Bool.not_true, Bool.false_eq_true, if_false,
    sessionStore, Option.map_some, hcall, if_true, WebStore.serve, hserve,
    Function.update_eq_self]

/-- What is kept of a call of `restore()` until it is taken up: it waits for its
    failure, or it has the answer of what was under the key. -/
def Answers (r : Rounding) (accepted : Bool) (raw : Option JsString) : Phase → Prop
  | .waiting => accepted = true → (webLoad r raw).isOk = false
  | .effected found => accepted = true ∧ webLoad r raw = .ok found
  | _ => True

/-- Every call of `restore()` has been answered with what was under the key when it
    was made. -/
def AllAnswered (r : Rounding) (o : CreateSessionStoreOptions) (key : JsString)
    (items : JsString → Option JsString) (actions : List WebAction) (s : WebStore) : Prop :=
  ∀ i phase, s.store.calls[i]? = some ⟨.restore, phase⟩ →
    ∃ accepted raw, RestoreCalled r o key items actions i accepted raw ∧ Answers r accepted raw phase

theorem restoreCalled_append {items : JsString → Option JsString} {actions : List WebAction}
    {i : Nat} {accepted : Bool} {raw : Option JsString} {a : WebAction} (ha : a ≠ .reload)
    (h : RestoreCalled r o key items actions i accepted raw) :
    RestoreCalled r o key items (actions ++ [a]) i accepted raw := by
  obtain ⟨before, rest, s, rfl, hrest, hrun, hi, hraw⟩ := h
  refine ⟨before, rest ++ [a], s, ?_, ?_, hrun, hi, hraw⟩
  · rw [List.append_assoc, List.cons_append]
  · exact List.forall_mem_append.mpr ⟨hrest, List.forall_mem_singleton.mpr ha⟩

section History

variable {items : JsString → Option JsString} {actions : List WebAction}

/-- The calls there were keep their answers while the page is not loaded again. -/
theorem allAnswered_append (hs : AllAnswered r o key items actions s) {a : WebAction}
    (ha : a ≠ .reload) {i : Nat} {phase : Phase}
    (hcall : s.store.calls[i]? = some ⟨.restore, phase⟩) :
    ∃ accepted raw, RestoreCalled r o key items (actions ++ [a]) i accepted raw ∧
      Answers r accepted raw phase := by
  obtain ⟨accepted, raw, hcalled, hanswers⟩ := hs i phase hcall
  exact ⟨accepted, raw, restoreCalled_append ha hcalled, hanswers⟩

/-- A call that is made now is the last one. -/
theorem allAnswered_issued (hrun : (webStore r o key).run { items := items } actions = some s)
    (hs : AllAnswered r o key items actions s) {a : StoreAction} {accepted : Bool} {op : StoreOp}
    (hop : Issued s.store a op) (phase : Phase) {calls : List StoreCall}
    (hcalls : calls = s.store.calls ++ [⟨op, phase⟩])
    (hphase : op = .restore → Answers r accepted (s.items key) phase) {i : Nat} {phase' : Phase}
    (hcall : calls[i]? = some ⟨.restore, phase'⟩) :
    ∃ accepted' raw, RestoreCalled r o key items (actions ++ [.store a accepted]) i accepted' raw ∧
      Answers r accepted' raw phase' := by
  rw [hcalls, List.getElem?_append] at hcall
  -- An earlier call was answered already; the last one is the one that was made now.
  by_cases hi : i < s.store.calls.length
  · rw [if_pos hi] at hcall
    exact allAnswered_append hs (by simp only [ne_eq, reduceCtorEq, not_false_eq_true]) hcall
  · rw [if_neg hi] at hcall
    obtain ⟨hlt, heq⟩ := List.getElem?_eq_some_iff.mp hcall
    rw [List.length_singleton] at hlt
    have hlast : i = s.store.calls.length := by omega
    subst hlast
    rw [List.getElem_singleton, StoreCall.mk.injEq] at heq
    obtain ⟨rfl, rfl⟩ := heq
    -- Only `restore()` makes a call to load.
    rcases hop with ⟨_, _, hne⟩ | ⟨_, _, _, hne⟩ | hne | ⟨rfl, -⟩
    · exact absurd hne (by simp only [reduceCtorEq, not_false_eq_true])
    · exact absurd hne (by simp only [reduceCtorEq, not_false_eq_true])
    · exact absurd hne (by simp only [reduceCtorEq, not_false_eq_true])
    exact ⟨accepted, s.items key, ⟨actions, [], s, rfl, fun _ ha => absurd ha List.not_mem_nil,
      hrun, rfl, rfl⟩, hphase rfl⟩

/-- Nothing is kept of a call that was taken up. -/
theorem allAnswered_settled (hs : AllAnswered r o key items actions s) {k : Nat} {op : StoreOp}
    {made : Phase} (hmade : s.store.calls[k]? = some ⟨op, made⟩) (done : Phase)
    (hdone : ∀ accepted raw, Answers r accepted raw done) {i : Nat} {phase : Phase}
    (hcall : (s.store.calls.set k ⟨op, done⟩)[i]? = some ⟨.restore, phase⟩) :
    ∃ accepted raw, RestoreCalled r o key items (actions ++ [.settle k]) i accepted raw ∧
      Answers r accepted raw phase := by
  have hstay : WebAction.settle k ≠ .reload := by
    simp only [ne_eq, reduceCtorEq, not_false_eq_true]
  rcases getElem?_set_cases hcall with ⟨rfl, heq⟩ | ⟨-, hcall⟩
  · rw [StoreCall.mk.injEq] at heq
    obtain ⟨rfl, rfl⟩ := heq
    obtain ⟨accepted, raw, hcalled, -⟩ := allAnswered_append hs hstay hmade
    exact ⟨accepted, raw, hcalled, hdone accepted raw⟩
  · exact allAnswered_append hs hstay hcall

/-- A step answers a call of `restore()` with what is under the key, or leaves the
    answers there were. -/
theorem allAnswered_step (hrun : (webStore r o key).run { items := items } actions = some s)
    (hs : AllAnswered r o key items actions s) {a : WebAction}
    (h : (webStore r o key).step s a = some s') :
    AllAnswered r o key items (actions ++ [a]) s' := by
  intro i phase hcall
  cases a with
  | store a accepted =>
      -- Every call that was there stays as it was; one may be made and served at once.
      have hstay : WebAction.store a accepted ≠ .reload := by
        simp only [ne_eq, reduceCtorEq, not_false_eq_true]
      rcases act_cases h with ⟨store, -, -, hcalls, rfl⟩ | ⟨op, hop, hthrew, rfl⟩ |
        ⟨op, text, found, hop, haccepted, hserved, rfl⟩
      · exact allAnswered_append hs hstay (hcalls ▸ hcall)
      · -- The storage threw, so the call waits to fail.
        refine allAnswered_issued hrun hs hop .waiting rfl (fun hrestore => ?_) hcall
        subst hrestore
        rw [webCall_restore] at hthrew
        exact hthrew
      · refine allAnswered_issued hrun hs hop (.effected found) ?_ (fun hrestore => ?_)
          hcall
        · exact List.set_append_right _ _ (Nat.le_refl _) |>.trans
            (by rw [Nat.sub_self, List.set_cons_zero])
        · subst hrestore
          refine ⟨haccepted, ?_⟩
          cases hload : webLoad r (s.items key) with
          | error e =>
              rw [webCall, hload] at hserved
              exact absurd hserved (by simp only [Except.map, reduceCtorEq, not_false_eq_true])
          | ok v =>
              rw [webCall, hload] at hserved
              simp only [Except.map, Except.ok.injEq, Prod.mk.injEq] at hserved
              rw [hserved.2]
  | settle k =>
      -- What is taken up is answered, whichever way.
      rcases settle_cases h with ⟨op, found, hmade, rfl⟩ | ⟨op, hmade, rfl⟩
      · obtain ⟨status, timer, heq, -⟩ := resume_eq o s.store op found
        rw [heq] at hcall
        exact allAnswered_settled hs hmade .resolved (fun _ _ => trivial) hcall
      · rw [SessionStore.setPhase, fail_calls] at hcall
        exact allAnswered_settled hs hmade .rejected (fun _ _ => trivial) hcall
  | foreign k text =>
      injection h with h
      subst h
      exact allAnswered_append hs (by simp only [ne_eq, reduceCtorEq, not_false_eq_true]) hcall
  | reload =>
      injection h with h
      rw [← h] at hcall
      exact absurd hcall (by simp only [List.getElem?_nil, reduceCtorEq, not_false_eq_true])

end History

/-- Whatever the `Storage` holds and whatever it refuses, a restore can be taken up,
    which leaves the session that was under the key when it was called, if the
    `Storage` accepted the call and the text is that of one, and none otherwise. -/
theorem restore_settles (r : Rounding) (o : CreateSessionStoreOptions) (key : JsString)
    {items : JsString → Option JsString} {actions : List WebAction} {s : WebStore}
    (hrun : (webStore r o key).run { items := items } actions = some s) {i : Nat} {phase : Phase}
    (hcall : s.store.calls[i]? = some ⟨.restore, phase⟩)
    (hphase : phase = .waiting ∨ ∃ found, phase = .effected found) :
    ∃ s' accepted raw, (webStore r o key).step s (.settle i) = some s' ∧ s'.items = s.items ∧
      RestoreCalled r o key items actions i accepted raw ∧
      s'.store.session.map WalletSession.value =
        (if accepted then readSession r raw else none) ∧
      s'.store.status = (if s'.store.session.isSome then .connected else .disconnected) := by
  have hanswered : AllAnswered r o key items actions s := by
    refine (Machine.run_history (m := webStore r o key) (P := fun _ _ => True)
      (I := fun before s => (webStore r o key).run { items := items } before = some s ∧
        AllAnswered r o key items before s) ?_ ⟨rfl, ?_⟩
      (Machine.runWhere_of_forall_mem (fun _ _ _ => trivial)) hrun).2
    · rintro before s a s' ⟨hbefore, hs⟩ - h
      exact ⟨Machine.run_append.mpr ⟨s, hbefore, Machine.run_cons_iff.mpr ⟨s', h, rfl⟩⟩,
        allAnswered_step hbefore hs h⟩
    · intro i phase hnone
      exact absurd hnone (by simp only [List.getElem?_nil, reduceCtorEq, not_false_eq_true])
  obtain ⟨accepted, raw, hcalled, hanswers⟩ := hanswered i phase hcall
  rcases hphase with rfl | ⟨found, rfl⟩
  · -- The failure is taken up.
    refine ⟨{ s with store := (s.store.fail .restore).setPhase i .restore .rejected }, accepted,
      raw, ?_, rfl, hcalled, ?_, rfl⟩
    · simp only [webStore, WebStore.settle, hcall, sessionStore, Option.map_some]
    · by_cases haccepted : accepted = true
      · rw [if_pos haccepted, readSession_of_webLoad (hanswers haccepted)]
        rfl
      · rw [if_neg haccepted]
        rfl
  · obtain ⟨rfl, hload⟩ := hanswers
    obtain ⟨hsession, hstatus⟩ := resume_restore o s.store found
    refine ⟨{ s with store := (s.store.resume o .restore found).setPhase i .restore .resolved },
      true, raw, ?_, rfl, hcalled, ?_, ?_⟩
    · simp only [webStore, WebStore.settle, hcall, sessionStore, Option.map_some]
    · rw [SessionStore.setPhase, hsession, if_pos rfl]
      exact restored_of_webLoad hload
    · rw [SessionStore.setPhase, hsession]
      exact hstatus

/-- A `Storage` with something under the key that is no JSON. -/
def corrupted : WebStore where
  items _ := some (js "\x7bnot json")

/-- The text of a session. -/
def sessionText : JsString :=
  js "\x7b\"accountId\":\"C\",\"network\":\"testnet\",\"connected\":true,\"authMethod\":\"passkey\"," ++
    js "\"createdAt\":\"\",\"lastActiveAt\":\"\"\x7d"

/-- A restore is called, another page writes a session, and a restore is called
    again. -/
def restoreTwice : List WebAction :=
  [.store .restore true, .foreign (js "vellar.session") (some sessionText), .store .restore true]

/-- Nothing can be read of the first text, and the store goes on without a session;
    the second is read. -/
theorem restore_settles_sample :
    ∃ s, (webStore exactRounding {} (js "vellar.session")).run corrupted restoreTwice = some s ∧
      (∃ s' accepted raw,
        (webStore exactRounding {} (js "vellar.session")).step s (.settle 0) = some s' ∧
        s'.items = s.items ∧
        RestoreCalled exactRounding {} (js "vellar.session") corrupted.items restoreTwice 0
          accepted raw ∧
        s'.store.session.map WalletSession.value =
          (if accepted then readSession exactRounding raw else none) ∧
        s'.store.status = (if s'.store.session.isSome then .connected else .disconnected)) ∧
      (∃ s' accepted raw,
        (webStore exactRounding {} (js "vellar.session")).step s (.settle 1) = some s' ∧
        s'.items = s.items ∧
        RestoreCalled exactRounding {} (js "vellar.session") corrupted.items restoreTwice 1
          accepted raw ∧
        s'.store.session.map WalletSession.value =
          (if accepted then readSession exactRounding raw else none) ∧
        s'.store.status = (if s'.store.session.isSome then .connected else .disconnected)) ∧
      (readSession exactRounding (corrupted.items (js "vellar.session"))).isNone = true ∧
      (readSession exactRounding (some sessionText)).isSome = true := by
  have hread : (readSession exactRounding (some sessionText)).isSome = true := by decide +kernel
  have hnone : (readSession exactRounding (corrupted.items (js "vellar.session"))).isNone = true :=
    by decide +kernel
  obtain ⟨found, hload⟩ : ∃ found, webLoad exactRounding (some sessionText) = .ok found := by
    cases hparse : jsonParse exactRounding sessionText with
    | none =>
        rw [readSession, Option.bind_some, hparse] at hread
        exact absurd hread (by decide)
    | some parsed => exact ⟨_, by rw [webLoad, hparse]⟩
  -- The failure of the first call waits while the second is answered.
  let written : WebStore :=
    { store := corrupted.store.await .restore
      items := Function.update corrupted.items (js "vellar.session") (some sessionText) }
  have hwritten : webLoad exactRounding (written.items (js "vellar.session")) = .ok found := by
    have hitem : written.items (js "vellar.session") = some sessionText :=
      Function.update_self (js "vellar.session") (some sessionText) corrupted.items
    rw [hitem]
    exact hload
  have hrun : (webStore exactRounding {} (js "vellar.session")).run corrupted restoreTwice =
      some { written with store := (written.store.await .restore).effect 1 .restore found } :=
    Machine.run_cons_iff.mpr ⟨_, rfl, Machine.run_cons_iff.mpr ⟨written, rfl,
      Machine.run_cons_iff.mpr ⟨_, step_restore written hwritten, rfl⟩⟩⟩
  exact ⟨_, hrun, restore_settles exactRounding {} (js "vellar.session") hrun rfl (.inl rfl),
    restore_settles exactRounding {} (js "vellar.session") hrun rfl (.inr ⟨found, rfl⟩),
    hnone, hread⟩

/-- A page that is loaded again goes on with the session that was last written for
    good, if it is one, and is disconnected otherwise. -/
theorem reload_restores (r : Rounding) (o : CreateSessionStoreOptions) (key : JsString)
    {items : JsString → Option JsString} (hempty : items key = none) {actions : List WebAction}
    {s : WebStore} (hrun : (webStore r o key).run { items := items } actions = some s)
    (hplain : (webStore r o key).RunWhere (StartsPlain r) { items := items } actions)
    (hown : (webStore r o key).RunWhere (KeyIsOwn key) { items := items } actions) :
    ∃ s', (webStore r o key).run s [.reload, .store .restore true, .settle 0] = some s' ∧
      s'.store.session.map WalletSession.value =
        (s.store.stored.filter isWalletSession).bind jsonView ∧
      s'.store.status = (if s'.store.session.isSome then .connected else .disconnected) ∧
      s'.items = s.items := by
  have hinv : Loaded r s.store ∧ Sound r s.store ∧ Holds r key s := by
    refine Machine.run_invariant (I := fun s => Loaded r s.store ∧ Sound r s.store ∧ Holds r key s)
      (fun s a s' hs hwhere h => ?_) ?_ (Machine.runWhere_and hplain hown) hrun
    · exact ⟨loaded_step hs.1 h, sound_step hs.2.1 hs.1 hwhere.1 h,
        holds_step hs.2.2 hs.2.1 hwhere.1 hwhere.2 h⟩
    · exact ⟨fun _ hc => absurd hc List.not_mem_nil,
        ⟨fun _ h => absurd h (by simp only [reduceCtorEq, not_false_eq_true]),
          fun _ hc => absurd hc List.not_mem_nil⟩, hempty⟩
  have hload := webLoad_of_holds hinv.2.2
  generalize hview : (s.store.stored.filter isWalletSession).bind jsonView = view at hload ⊢
  generalize hfound : view.getD .null = found at hload
  have hrestorable := webLoad_restorable hload
  -- The new store calls the adapter, which answers at once.
  let fresh : SessionStore := { stored := s.store.stored }
  let called := (fresh.await .restore).effect 0 .restore found
  have hserved : (webStore r o key).step { s with store := fresh } (.store .restore true) =
      some { s with store := called } := step_restore { s with store := fresh } hload
  have hsettled : (webStore r o key).step { s with store := called } (.settle 0) =
      some { s with store := (called.resume o .restore found).setPhase 0 .restore .resolved } :=
    rfl
  refine ⟨_, Machine.run_cons_iff.mpr ⟨_, rfl, Machine.run_cons_iff.mpr ⟨_, hserved,
    Machine.run_cons_iff.mpr ⟨_, hsettled, rfl⟩⟩⟩, ?_, ?_, rfl⟩
  all_goals
    obtain ⟨hsession, hstatus⟩ := resume_restore o called found
    rw [SessionStore.setPhase, hsession]
  · cases view with
    | none =>
        rw [← hfound]
        rfl
    | some w =>
        rw [Option.getD_some] at hfound
        subst hfound
        rcases restored_of_restorable hrestorable with ⟨rfl, -⟩ | ⟨session, hsome, rfl, -, -⟩
        -- What is left of a session is no `null`.
        · exact absurd (isWalletSession_of_view hinv.2.2 hview) (by decide)
        · rw [hsome, Option.map_some]
  · exact hstatus

end Steps

theorem storable_someSession (r : Rounding) : Storable r someSession.value := by
  refine .obj _ (by decide +kernel) ?_
  simp only [List.forall_mem_cons]
  exact ⟨.str _, .str _, .bool _, .str _, .str _, .str _, fun _ he => absurd he List.not_mem_nil⟩

/-- A session is started and touched, and the page is loaded again before the touch
    is taken up. -/
def touchThenReload : List WebAction :=
  [.store (.start someSession) true, .settle 0,
    .store (.touch (some (js "2026-07-16T10:05:00.000Z"))) true]

theorem reload_restores_touched :
    ∃ s, (webStore exactRounding {} (js "vellar.session")).run { items := fun _ => none }
        touchThenReload = some s ∧
      ∃ s', (webStore exactRounding {} (js "vellar.session")).run s
          [.reload, .store .restore true, .settle 0] = some s' ∧
        s'.store.session.map WalletSession.value =
          (s.store.stored.filter isWalletSession).bind jsonView ∧
        s'.store.status = (if s'.store.session.isSome then .connected else .disconnected) ∧
        s'.items = s.items := by
  have hrun : ∃ s, (webStore exactRounding {} (js "vellar.session")).run
      { items := fun _ => none } touchThenReload = some s := ⟨_, rfl⟩
  obtain ⟨s, hrun⟩ := hrun
  refine ⟨s, hrun, reload_restores exactRounding {} (js "vellar.session") rfl hrun ?_ ?_⟩
  · refine Machine.runWhere_of_forall_mem (fun a ha s session accepted heq => ?_)
    subst heq
    simp only [touchThenReload, List.mem_cons, WebAction.store.injEq, StoreAction.start.injEq,
      reduceCtorEq, List.not_mem_nil, or_false, false_and] at ha
    exact ha.1 ▸ storable_someSession exactRounding
  · refine Machine.runWhere_of_forall_mem (fun a ha s text heq => ?_)
    subst heq
    exact absurd ha (by simp only [touchThenReload, List.mem_cons, reduceCtorEq, List.not_mem_nil,
      or_self, not_false_eq_true])

end Session

end VellarSdk
