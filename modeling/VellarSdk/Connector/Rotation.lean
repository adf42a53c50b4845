import VellarSdk.Async.Machine
import VellarSdk.Js.Text

/-!
# Rotation of Session Keys

What `connectWallet` of a connector does to the session key of the agent. Once
the passkey ceremony has named a wallet, it takes the key the connector holds as
the previous one, mints a new key, holds that, and revokes the previous one. A
mint or a revoke that fails is logged, and the wallet is connected anyway.

The connector holds one key. Between taking it as the previous key and holding
the new one lies the mint, and any number of calls of `connectWallet` may be
under way on one connector. A state of the connector has every call made so far,
with how far it is, and the log of the rotations, so that its runs are the
interleavings of the calls.

The log says what became of every key: `minted` are the keys that were minted,
`passed` those that were passed to `revoke`, and `revoked` and `failed` what came
of that. A key is passed to `revoke` at the moment its successor is held, so it
is logged with it.

## Main definitions

* `PublicKey`, `RotationEvent`: Keys, and what is logged of them.
* `PasskeyKitConnector`, `ConnectPhase`: The connector and its calls.
* `ConnectorAction`, `connector`: What can happen to it.
* `Moves`: What an answer does to the call that waits for it.

## Theorems

* `step_cases`: Everything that can happen to a connector.
* `accounted_step`: What was passed to `revoke` is under way, revoked or failed.
* `active_never_revoked`: The key that is held was never passed to `revoke`.
-/

namespace VellarSdk

namespace Connector

open Js Async

/-- The public key of a session key. It is not the empty text, which the
    connector would take for no key at all. -/
structure PublicKey where
  text : JsString
  nonempty : text ≠ []
  deriving DecidableEq

inductive Network where
  | testnet
  | mainnet
  deriving DecidableEq, Repr

/-- The network the connector is for, whether the environment has passkeys, and
    whether session keys are rotated. -/
structure PasskeyKitConnectorOptions where
  network : Network
  browser : Bool
  sessionKeyRotation : Bool

/-- Why no wallet was connected. -/
inductive ConnectError where
  | passkeyBrowserRequired
  | walletNetworkMismatch (expected actual : Network)
  | ceremony (error : JsString)

/-- What is logged of a rotation, with the contract id of the wallet that is
    connected. -/
inductive RotationEvent where
  -- `session-key-rotation-mint-failed`
  | mintFailed (wallet : JsString) (previous : Option PublicKey) (error : JsString)
  -- `session-key-rotated`
  | rotated (wallet : JsString) (previous : Option PublicKey) (key : PublicKey)
  -- `session-key-revoked`
  | revoked (wallet : JsString) (key : PublicKey)
  -- `session-key-revoke-failed`
  | revokeFailed (wallet : JsString) (key : PublicKey) (error : JsString)

namespace RotationEvent

def mint : RotationEvent → Option (JsString × PublicKey)
  | .rotated wallet _ key => some (wallet, key)
  | _ => none

/-- A rotation passes the previous key to `revoke`. -/
def passedKey : RotationEvent → Option PublicKey
  | .rotated _ previous _ => previous
  | _ => none

def revokedKey : RotationEvent → Option PublicKey
  | .revoked _ key => some key
  | _ => none

def failedKey : RotationEvent → Option PublicKey
  | .revokeFailed _ key _ => some key
  | _ => none

end RotationEvent

/-- The keys that were minted, with the wallets they were minted for. -/
def mints (log : List RotationEvent) : List (JsString × PublicKey) :=
  log.filterMap RotationEvent.mint

def minted (log : List RotationEvent) : List PublicKey :=
  (mints log).map Prod.snd

def passed (log : List RotationEvent) : List PublicKey :=
  log.filterMap RotationEvent.passedKey

def revoked (log : List RotationEvent) : List PublicKey :=
  log.filterMap RotationEvent.revokedKey

def failed (log : List RotationEvent) : List PublicKey :=
  log.filterMap RotationEvent.failedKey

/-- How far a call of `connectWallet` is. -/
inductive ConnectPhase where
  | connecting
  | minting (wallet : JsString) (previous : Option PublicKey)
  | revoking (wallet : JsString) (previous : PublicKey)
  | returned (wallet : JsString)
  | failed (error : ConnectError)

/-- The key that a call waits to see revoked. -/
def ConnectPhase.revokingKey : ConnectPhase → Option PublicKey
  | .revoking _ previous => some previous
  | _ => none

def ConnectPhase.isMinting : ConnectPhase → Bool
  | .minting _ _ => true
  | _ => false

/-- Is the call over? -/
def ConnectPhase.over : ConnectPhase → Bool
  | .returned _ | .failed _ => true
  | _ => false

/-- A connector: the key it holds, its calls and its log. -/
structure PasskeyKitConnector where
  activeSessionKeyPublicKey : Option PublicKey := none
  calls : List ConnectPhase := []
  log : List RotationEvent := []

/-- The keys that calls wait to see revoked. -/
def PasskeyKitConnector.pending (s : PasskeyKitConnector) : List PublicKey :=
  s.calls.filterMap ConnectPhase.revokingKey

/-- What can happen to a connector: a wallet is to be connected, or what a call
    waits for is answered. -/
inductive ConnectorAction where
  | connectWallet (requested : Network)
  | connected (i : Nat) (wallet : JsString)
  | ceremonyFailed (i : Nat) (error : JsString)
  | minted (i : Nat) (key : PublicKey)
  | mintFailed (i : Nat) (error : JsString)
  | revoked (i : Nat)
  | revokeFailed (i : Nat) (error : JsString)

/-- The checks a call makes before the ceremony. -/
def connectWallet (o : PasskeyKitConnectorOptions) (requested : Network) : ConnectPhase :=
  if o.browser = false then .failed .passkeyBrowserRequired
  else if requested ≠ o.network then .failed (.walletNetworkMismatch o.network requested)
  else .connecting

/-- What is left of a rotation once the new key is held. -/
def afterMint (wallet : JsString) : Option PublicKey → ConnectPhase
  | none => .returned wallet
  | some previous => .revoking wallet previous

/-- The calls of one connector, in any order and overlapping. -/
def connector (o : PasskeyKitConnectorOptions) : Machine PasskeyKitConnector ConnectorAction where
  step s a := match a with
    | .connectWallet requested => some { s with calls := s.calls ++ [connectWallet o requested] }
    | .connected i wallet => match s.calls[i]? with
      | some .connecting =>
          if o.sessionKeyRotation then
            some { s with calls := s.calls.set i (.minting wallet s.activeSessionKeyPublicKey) }
          else some { s with calls := s.calls.set i (.returned wallet) }
      | _ => none
    | .ceremonyFailed i error => match s.calls[i]? with
      | some .connecting => some { s with calls := s.calls.set i (.failed (.ceremony error)) }
      | _ => none
    -- The new key is active at once; the old one is kept in the call until it is revoked.
    | .minted i key => match s.calls[i]? with
      | some (.minting wallet previous) => some
          { activeSessionKeyPublicKey := some key
            calls := s.calls.set i (afterMint wallet previous)
            log := s.log ++ [.rotated wallet previous key] }
      | _ => none
    -- A rotation that fails is only logged, and the connect goes on.
    | .mintFailed i error => match s.calls[i]? with
      | some (.minting wallet previous) => some
          { s with
            calls := s.calls.set i (.returned wallet)
            log := s.log ++ [.mintFailed wallet previous error] }
      | _ => none
    | .revoked i => match s.calls[i]? with
      | some (.revoking wallet previous) => some
          { s with
            calls := s.calls.set i (.returned wallet)
            log := s.log ++ [.revoked wallet previous] }
      | _ => none
    -- The old key is forgotten all the same.
    | .revokeFailed i error => match s.calls[i]? with
      | some (.revoking wallet previous) => some
          { s with
            calls := s.calls.set i (.returned wallet)
            log := s.log ++ [.revokeFailed wallet previous error] }
      | _ => none

/-- A key that is minted was not minted before. -/
def Fresh (s : PasskeyKitConnector) (a : ConnectorAction) : Prop :=
  ∀ i key, a = .minted i key → key ∉ minted s.log

instance (s : PasskeyKitConnector) : (a : ConnectorAction) → Decidable (Fresh s a)
  | .minted i key => decidable_of_iff (key ∉ minted s.log)
      ⟨fun h _ _ heq => by cases heq; exact h, fun h => h i key rfl⟩
  | .connectWallet _ | .connected _ _ | .ceremonyFailed _ _ | .mintFailed _ _ | .revoked _
  | .revokeFailed _ _ => isTrue (fun _ _ heq => nomatch heq)

/-- What an answer does: the call it is for, the phase that call was in and the
    one it gets to, the key that is held then, and what is logged. -/
inductive Moves (active : Option PublicKey) : ConnectorAction → Nat → ConnectPhase → ConnectPhase →
    Option PublicKey → List RotationEvent → Prop where
  | rotates (i wallet) :
      Moves active (.connected i wallet) i .connecting (.minting wallet active) active []
  | returns (i wallet) : Moves active (.connected i wallet) i .connecting (.returned wallet) active []
  | ceremonyFailed (i error) :
      Moves active (.ceremonyFailed i error) i .connecting (.failed (.ceremony error)) active []
  | minted (i key wallet previous) :
      Moves active (.minted i key) i (.minting wallet previous) (afterMint wallet previous) (some key)
        [.rotated wallet previous key]
  | mintFailed (i error wallet previous) :
      Moves active (.mintFailed i error) i (.minting wallet previous) (.returned wallet) active
        [.mintFailed wallet previous error]
  | revoked (i wallet previous) :
      Moves active (.revoked i) i (.revoking wallet previous) (.returned wallet) active
        [.revoked wallet previous]
  | revokeFailed (i error wallet previous) :
      Moves active (.revokeFailed i error) i (.revoking wallet previous) (.returned wallet) active
        [.revokeFailed wallet previous error]

variable {o : PasskeyKitConnectorOptions} {s s' : PasskeyKitConnector} {a : ConnectorAction}

/-- A call that is made is over at once or waits for the ceremony. -/
theorem connectWallet_cases (o : PasskeyKitConnectorOptions) (requested : Network) :
    (∃ error, connectWallet o requested = .failed error) ∨
      connectWallet o requested = .connecting := by
  unfold connectWallet
  by_cases hbrowser : o.browser = false
  · exact .inl ⟨_, if_pos hbrowser⟩
  · rw [if_neg hbrowser]
    by_cases hnetwork : requested ≠ o.network
    · exact .inl ⟨_, if_pos hnetwork⟩
    · exact .inr (if_neg hnetwork)

/-- Everything that can happen to a connector: a call is made, or one moves. -/
theorem step_cases (h : (connector o).step s a = some s') :
    (∃ requested, a = .connectWallet requested ∧
      s' = { s with calls := s.calls ++ [connectWallet o requested] }) ∨
    (∃ i phase phase' active' events, s.calls[i]? = some phase ∧
      Moves s.activeSessionKeyPublicKey a i phase phase' active' events ∧
      s' = ⟨active', s.calls.set i phase', s.log ++ events⟩) := by
  cases a with
  | connectWallet requested =>
      simp only [connector, Option.some.injEq] at h
      exact .inl ⟨requested, rfl, h.symm⟩
  | connected i wallet =>
      -- What follows the ceremony depends on the options alone.
      simp only [connector] at h
      split at h
      next hcall =>
        by_cases hrotates : o.sessionKeyRotation = true
        · rw [if_pos hrotates, Option.some.injEq] at h
          exact .inr ⟨i, _, _, _, _, hcall, .rotates i wallet, by rw [← h, List.append_nil]⟩
        · rw [if_neg hrotates, Option.some.injEq] at h
          exact .inr ⟨i, _, _, _, _, hcall, .returns i wallet, by rw [← h, List.append_nil]⟩
      next => exact absurd h (by simp only [reduceCtorEq, not_false_eq_true])
  | ceremonyFailed i error =>
      simp only [connector] at h
      split at h
      next hcall =>
        rw [Option.some.injEq] at h
        exact .inr ⟨i, _, _, _, _, hcall, .ceremonyFailed i error, by rw [← h, List.append_nil]⟩
      next => exact absurd h (by simp only [reduceCtorEq, not_false_eq_true])
  | minted i key =>
      -- From here on a call moves only where it waits for just this answer.
      simp only [connector] at h
      split at h
      next wallet previous hcall =>
        rw [Option.some.injEq] at h
        exact .inr ⟨i, _, _, _, _, hcall, .minted i key wallet previous, h.symm⟩
      next => exact absurd h (by simp only [reduceCtorEq, not_false_eq_true])
  | mintFailed i error =>
      simp only [connector] at h
      split at h
      next wallet previous hcall =>
        rw [Option.some.injEq] at h
        exact .inr ⟨i, _, _, _, _, hcall, .mintFailed i error wallet previous, h.symm⟩
      next => exact absurd h (by simp only [reduceCtorEq, not_false_eq_true])
  | revoked i =>
      simp only [connector] at h
      split at h
      next wallet previous hcall =>
        rw [Option.some.injEq] at h
        exact .inr ⟨i, _, _, _, _, hcall, .revoked i wallet previous, h.symm⟩
      next => exact absurd h (by simp only [reduceCtorEq, not_false_eq_true])
  | revokeFailed i error =>
      simp only [connector] at h
      split at h
      next wallet previous hcall =>
        rw [Option.some.injEq] at h
        exact .inr ⟨i, _, _, _, _, hcall, .revokeFailed i error wallet previous, h.symm⟩
      next => exact absurd h (by simp only [reduceCtorEq, not_false_eq_true])

/-- A move holds a new key that was minted, or leaves everything about keys as it
    is but that a rotation may take the key that is held as the previous one. -/
theorem moves_cases {active active' : Option PublicKey} {i : Nat} {phase phase' : ConnectPhase}
    {events : List RotationEvent} (h : Moves active a i phase phase' active' events) :
    (∃ key wallet previous, a = .minted i key ∧ phase = .minting wallet previous ∧
      phase' = afterMint wallet previous ∧ active' = some key ∧
      events = [.rotated wallet previous key]) ∨
    (active' = active ∧ mints events = [] ∧ passed events = [] ∧
      ∀ wallet previous, phase' = .minting wallet previous →
        previous = active ∧ a = .connected i wallet) := by
  cases h with
  | minted i key wallet previous => exact .inl ⟨key, wallet, previous, rfl, rfl, rfl, rfl, rfl⟩
  | rotates i wallet =>
      refine .inr ⟨rfl, rfl, rfl, fun wallet' previous heq => ?_⟩
      cases heq
      exact ⟨rfl, rfl⟩
  | _ => exact .inr ⟨rfl, rfl, rfl, nofun⟩

theorem afterMint_ne_minting (wallet wallet' : JsString) (previous previous' : Option PublicKey) :
    afterMint wallet previous ≠ .minting wallet' previous' := by
  cases previous <;> exact nofun

@[simp] theorem mints_append (log events : List RotationEvent) :
    mints (log ++ events) = mints log ++ mints events :=
  List.filterMap_append

@[simp] theorem minted_append (log events : List RotationEvent) :
    minted (log ++ events) = minted log ++ minted events := by
  rw [minted, mints_append, List.map_append, minted, minted]

@[simp] theorem passed_append (log events : List RotationEvent) :
    passed (log ++ events) = passed log ++ passed events :=
  List.filterMap_append

theorem minted_of_mints {events : List RotationEvent} (h : mints events = []) :
    minted events = [] := by
  rw [minted, h, List.map_nil]

theorem passed_rotated (wallet : JsString) (previous : Option PublicKey) (key : PublicKey) :
    passed [.rotated wallet previous key] = previous.toList := by
  cases previous <;> rfl

/-- What one entry more or less of a list adds to what is picked out of it. -/
theorem count_filterMap_set {α β : Type} [DecidableEq β] (f : α → Option β) {l : List α} {i : Nat}
    {y : α} (h : l[i]? = some y) (x : α) (b : β) :
    ((l.set i x).filterMap f).count b + (f y).toList.count b =
      (l.filterMap f).count b + (f x).toList.count b := by
  induction l generalizing i with
  | nil => exact absurd h (by simp only [List.getElem?_nil, reduceCtorEq, not_false_eq_true])
  | cons z l ih =>
      cases i with
      | zero =>
          simp only [List.getElem?_cons_zero, Option.some.injEq] at h
          subst h
          simp only [List.set_cons_zero, List.filterMap_cons]
          cases f z <;> cases f x <;> simp only [Option.toList, List.count_cons, List.count_nil] <;>
            omega
      | succ i =>
          simp only [List.getElem?_cons_succ] at h
          have hrest := ih h
          simp only [List.set_cons_succ, List.filterMap_cons]
          cases f z <;> simp only [List.count_cons] <;> omega

/-- A key that a move passes to `revoke` is waited for, and one that is no longer
    waited for is revoked or failed. -/
theorem moves_balanced {active active' : Option PublicKey} {i : Nat} {phase phase' : ConnectPhase}
    {events : List RotationEvent} (h : Moves active a i phase phase' active' events)
    (key : PublicKey) :
    (passed events).count key + phase.revokingKey.toList.count key =
      phase'.revokingKey.toList.count key +
        ((revoked events).count key + (failed events).count key) := by
  cases h with
  | minted i key' wallet previous => cases previous <;> rfl
  | revokeFailed i error wallet previous => exact congrArg (0 + ·) (Nat.zero_add _).symm
  | _ => rfl

/-- Every key that was passed to `revoke` is waited for, revoked or failed. -/
def Accounted (s : PasskeyKitConnector) : Prop :=
  ∀ key, (passed s.log).count key =
    s.pending.count key + ((revoked s.log).count key + (failed s.log).count key)

theorem accounted_step (hs : Accounted s) (h : (connector o).step s a = some s') :
    Accounted s' := by
  intro key
  have hbefore := hs key
  rcases step_cases h with ⟨requested, -, rfl⟩ | ⟨i, phase, phase', active', events, hcall, hmove, rfl⟩
  · have hnone : (connectWallet o requested).revokingKey = none := by
      rcases connectWallet_cases o requested with ⟨error, heq⟩ | heq <;> rw [heq] <;> rfl
    simp only [PasskeyKitConnector.pending, List.filterMap_append, List.filterMap_cons, hnone,
      List.filterMap_nil, List.append_nil]
    exact hbefore
  · have hpending := count_filterMap_set ConnectPhase.revokingKey hcall phase' key
    have hbalanced := moves_balanced hmove key
    simp only [PasskeyKitConnector.pending, passed, revoked, failed, List.filterMap_append,
      List.count_append] at hbefore hbalanced ⊢
    omega

/-- The keys that have to do with `revoke` are keys that were minted before the
    one that is held. -/
structure Superseded (s : PasskeyKitConnector) : Prop where
  active_minted : ∀ key, s.activeSessionKeyPublicKey = some key → key ∈ minted s.log
  active_of_minted : minted s.log ≠ [] → s.activeSessionKeyPublicKey ≠ none
  previous_minted : ∀ wallet key, .minting wallet (some key) ∈ s.calls → key ∈ minted s.log
  passed_minted : ∀ key ∈ passed s.log, key ∈ minted s.log
  active_not_passed : ∀ key, s.activeSessionKeyPublicKey = some key → key ∉ passed s.log

/-- A key that was not minted before is held; the previous one was. -/
theorem superseded_minted {i : Nat} {key : PublicKey} {wallet : JsString}
    {previous : Option PublicKey} (hs : Superseded s) (hfresh : key ∉ minted s.log)
    (hcall : s.calls[i]? = some (.minting wallet previous)) :
    Superseded ⟨some key, s.calls.set i (afterMint wallet previous),
      s.log ++ [.rotated wallet previous key]⟩ := by
  have hminted : minted (s.log ++ [.rotated wallet previous key]) = minted s.log ++ [key] := by
    rw [minted_append]
    rfl
  have hpassed : passed (s.log ++ [.rotated wallet previous key]) =
      passed s.log ++ previous.toList := by
    rw [passed_append, passed_rotated]
  -- The old key was minted before, since the call remembers the one that was active.
  have hprevious : ∀ q ∈ previous.toList, q ∈ minted s.log := by
    intro q hq
    rw [Option.mem_toList] at hq
    cases hq
    exact hs.previous_minted wallet q (List.mem_of_getElem? hcall)
  constructor
  · intro k hk
    cases hk
    rw [hminted]
    exact List.mem_append_right _ List.mem_cons_self
  · intro _
    exact nofun
  · intro wallet' k hk
    rw [hminted]
    rcases List.mem_or_eq_of_mem_set hk with hk | hk
    · exact List.mem_append_left _ (hs.previous_minted wallet' k hk)
    · exact absurd hk.symm (afterMint_ne_minting wallet wallet' previous (some k))
  · intro k hk
    rw [hpassed, List.mem_append] at hk
    rw [hminted]
    exact List.mem_append_left _ (hk.elim (hs.passed_minted k) (hprevious k))
  · intro k hk hmem
    cases hk
    rw [hpassed, List.mem_append] at hmem
    -- The new key is fresh, so nothing minted or passed on is the same.
    exact hfresh (hmem.elim (hs.passed_minted key) (hprevious key))

theorem superseded_step (hs : Superseded s) (hfresh : Fresh s a)
    (h : (connector o).step s a = some s') : Superseded s' := by
  rcases step_cases h with ⟨requested, -, rfl⟩ | ⟨i, phase, phase', active', events, hcall, hmove, rfl⟩
  · refine { hs with previous_minted := fun wallet key hkey => ?_ }
    rcases List.mem_append.mp hkey with hkey | hkey
    · exact hs.previous_minted wallet key hkey
    · -- A call that begins is not minting yet.
      rcases connectWallet_cases o requested with ⟨error, heq⟩ | heq <;>
        · rw [List.mem_singleton, heq] at hkey
          exact absurd hkey (by simp only [reduceCtorEq, not_false_eq_true])
  · rcases moves_cases hmove with ⟨key, wallet, previous, rfl, rfl, rfl, rfl, rfl⟩ |
      ⟨rfl, hmints, hpassed, hminting⟩
    · exact superseded_minted hs (hfresh i key rfl) hcall
    · -- Whatever else happens, no key is minted and none is passed on.
      have hlog : minted (s.log ++ events) = minted s.log := by
        rw [minted_append, minted_of_mints hmints, List.append_nil]
      have hlog' : passed (s.log ++ events) = passed s.log := by
        rw [passed_append, hpassed, List.append_nil]
      constructor
      · rw [hlog]
        exact hs.active_minted
      · rw [hlog]
        exact hs.active_of_minted
      · intro wallet key hkey
        rw [hlog]
        rcases List.mem_or_eq_of_mem_set hkey with hkey | hkey
        · exact hs.previous_minted wallet key hkey
        · exact hs.active_minted key (hminting wallet (some key) hkey.symm).1.symm
      · rw [hlog, hlog']
        exact hs.passed_minted
      · rw [hlog']
        exact hs.active_not_passed

/-- A connector that has not been used. -/
theorem superseded_start : Superseded {} where
  active_minted := nofun
  active_of_minted h := absurd rfl h
  previous_minted := nofun
  passed_minted := nofun
  active_not_passed := nofun

theorem superseded_run {actions : List ConnectorAction}
    (hfresh : (connector o).RunWhere Fresh {} actions)
    (hrun : (connector o).run {} actions = some s) : Superseded s :=
  Machine.run_invariant (fun _ _ _ hs hc h => superseded_step hs hc h) superseded_start hfresh hrun

theorem accounted_start : Accounted {} :=
  fun _ => rfl

theorem accounted_run {actions : List ConnectorAction}
    (hrun : (connector o).run {} actions = some s) : Accounted s :=
  Machine.run_invariant (P := fun _ _ => True) (fun _ _ _ hs _ h => accounted_step hs h)
    accounted_start (Machine.runWhere_of_forall_mem (fun _ _ _ => trivial)) hrun

/-- A key that was revoked was passed to `revoke`. -/
theorem passed_of_revoked (hs : Accounted s) {key : PublicKey} (h : key ∈ revoked s.log) :
    key ∈ passed s.log := by
  have hcount := hs key
  have hpos : 0 < (revoked s.log).count key := List.count_pos_iff.mpr h
  refine List.count_pos_iff.mp ?_
  omega

/-- Whatever overlaps and whatever fails, the key that is held was not passed to
    `revoke`; and once a key was minted, there is one that was not revoked. -/
theorem active_never_revoked (o : PasskeyKitConnectorOptions) (actions : List ConnectorAction)
    (s : PasskeyKitConnector) (hfresh : (connector o).RunWhere Fresh {} actions)
    (hrun : (connector o).run {} actions = some s) :
    (∀ key, s.activeSessionKeyPublicKey = some key → key ∉ passed s.log) ∧
    (minted s.log ≠ [] → ∃ key ∈ minted s.log, key ∉ revoked s.log ∧
      s.activeSessionKeyPublicKey = some key) := by
  have hs : Superseded s := superseded_run hfresh hrun
  refine ⟨hs.active_not_passed, fun hminted => ?_⟩
  obtain ⟨key, hactive⟩ := Option.ne_none_iff_exists'.mp (hs.active_of_minted hminted)
  refine ⟨key, hs.active_minted key hactive, fun hrevoked => ?_, hactive⟩
  exact hs.active_not_passed key hactive (passed_of_revoked (accounted_run hrun) hrevoked)

/-- A connector on the test network that rotates its keys. -/
def rotating : PasskeyKitConnectorOptions where
  network := .testnet
  browser := true
  sessionKeyRotation := true

def keyA : PublicKey := ⟨js "GA", by decide⟩

def keyB : PublicKey := ⟨js "GB", by decide⟩

/-- Two calls overlap: both have taken no key as the previous one when their keys
    are minted. -/
def overlappingMints : List ConnectorAction :=
  [.connectWallet .testnet, .connectWallet .testnet, .connected 0 (js "CA"), .connected 1 (js "CA"),
    .minted 0 keyA, .minted 1 keyB]

/-- What is left then: both calls are over, and the second key is held. -/
def afterOverlap : PasskeyKitConnector where
  activeSessionKeyPublicKey := some keyB
  calls := [.returned (js "CA"), .returned (js "CA")]
  log := [.rotated (js "CA") none keyA, .rotated (js "CA") none keyB]

theorem overlappingMints_run :
    (connector rotating).run {} overlappingMints = some afterOverlap :=
  rfl

theorem overlappingMints_fresh : (connector rotating).RunWhere Fresh {} overlappingMints := by
  decide

def keyC : PublicKey := ⟨js "GC", by decide⟩

/-- A third call revokes the key that the second has left. -/
def overlapThenRotation : List ConnectorAction :=
  overlappingMints ++
    [.connectWallet .testnet, .connected 2 (js "CA"), .minted 2 keyC, .revoked 2]

theorem active_never_revoked_overlapping : ∃ s,
    (connector rotating).run {} overlapThenRotation = some s ∧
    s.activeSessionKeyPublicKey = some keyC ∧ revoked s.log = [keyB] ∧ keyC ∉ passed s.log ∧
    ∃ key ∈ minted s.log, key ∉ revoked s.log ∧ s.activeSessionKeyPublicKey = some key := by
  have hfresh : (connector rotating).RunWhere Fresh {} overlapThenRotation := by decide
  obtain ⟨s, hrun, hactive, hminted, hrevoked⟩ : ∃ s,
      (connector rotating).run {} overlapThenRotation = some s ∧
      s.activeSessionKeyPublicKey = some keyC ∧ minted s.log = [keyA, keyB, keyC] ∧
      revoked s.log = [keyB] := ⟨_, rfl, rfl, rfl, rfl⟩
  have hsafe := active_never_revoked rotating overlapThenRotation s hfresh hrun
  refine ⟨s, hrun, hactive, hrevoked, hsafe.1 keyC hactive, hsafe.2 ?_⟩
  rw [hminted]
  exact List.cons_ne_nil _ _

end Connector

end VellarSdk
