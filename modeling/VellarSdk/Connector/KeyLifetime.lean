import Mathlib.Data.List.Nodup
import VellarSdk.Connector.Rotation

/-!
# What Becomes of Session Keys

A rotation is to leave one key that is valid: the one the connector holds. It
does when each rotation takes as the previous key what the rotation before it
has minted, which is so as long as none begins while another waits for its mint
(`OneRotation`). Then the keys that were minted are those that were passed to
`revoke`, in their order, and the one that is held.

Three things go wrong with the keys. Two rotations that overlap at the mint take
the same key as the previous one, and the key that is minted first is never
passed to `revoke`. A key whose revoke fails is forgotten, as the connector holds
its successor. And the key that is held is that of whichever wallet was connected
last, so after another wallet was connected it is the other's key that is
revoked. For each, the theorem says when exactly it does not happen.

## Main definitions

* `OneRotation`, `NonOverlapping`, `Succeeds`: Conditions on the steps of a run.
* `Chained`, `Alone`: What they keep.
* `RevokesOwn`: A rotation revokes the key of the wallet that is connected.

## Theorems

* `chained_step`, `alone_step`, `minted_nodup_step`: What a step keeps.
* `only_active_unrevoked`: Without overlapping mints only the key that is held
  is valid.
* `earlier_revoked_iff`: A rotation leaves no earlier key valid exactly when no
  revoke has failed.
* `revokes_own_iff`: A rotation revokes a key of its own wallet exactly when the
  last key was minted for it.
-/

namespace VellarSdk

namespace Connector

open Js Async

variable {o : PasskeyKitConnectorOptions} {s s' : PasskeyKitConnector} {a : ConnectorAction}

/-- No rotation begins while another waits for its mint. -/
def OneRotation (s : PasskeyKitConnector) (a : ConnectorAction) : Prop :=
  ∀ i wallet, a = .connected i wallet → ∀ phase ∈ s.calls, phase.isMinting = false

/-- No call is made before the ones made so far are over. -/
def NonOverlapping (s : PasskeyKitConnector) (a : ConnectorAction) : Prop :=
  ∀ requested, a = .connectWallet requested → ∀ phase ∈ s.calls, phase.over = true

/-- Neither a mint nor a revoke fails. -/
def Succeeds (_ : PasskeyKitConnector) (a : ConnectorAction) : Prop :=
  ∀ i error, a ≠ .mintFailed i error ∧ a ≠ .revokeFailed i error

instance (s : PasskeyKitConnector) : (a : ConnectorAction) → Decidable (OneRotation s a)
  | .connected i wallet => decidable_of_iff (∀ phase ∈ s.calls, phase.isMinting = false)
      ⟨fun h _ _ _ => h, fun h => h i wallet rfl⟩
  | .connectWallet _ | .ceremonyFailed _ _ | .minted _ _ | .mintFailed _ _ | .revoked _
  | .revokeFailed _ _ => isTrue (fun _ _ heq => nomatch heq)

instance (s : PasskeyKitConnector) : (a : ConnectorAction) → Decidable (NonOverlapping s a)
  | .connectWallet requested => decidable_of_iff (∀ phase ∈ s.calls, phase.over = true)
      ⟨fun h _ _ => h, fun h => h requested rfl⟩
  | .connected _ _ | .ceremonyFailed _ _ | .minted _ _ | .mintFailed _ _ | .revoked _
  | .revokeFailed _ _ => isTrue (fun _ heq => nomatch heq)

instance (s : PasskeyKitConnector) : (a : ConnectorAction) → Decidable (Succeeds s a)
  | .mintFailed i error => isFalse (fun h => (h i error).1 rfl)
  | .revokeFailed i error => isFalse (fun h => (h i error).2 rfl)
  | .connectWallet _ | .connected _ _ | .ceremonyFailed _ _ | .minted _ _ | .revoked _ =>
      isTrue (fun _ _ => ⟨nofun, nofun⟩)

/-- The one rotation that waits for its mint has taken the key that is held as
    the previous one, and the keys that were minted were passed to `revoke` one
    after the other, up to the one that is held. -/
structure Chained (s : PasskeyKitConnector) : Prop where
  previous_active : ∀ (i : Nat) wallet previous, s.calls[i]? = some (.minting wallet previous) →
    previous = s.activeSessionKeyPublicKey
  one : ∀ (i j : Nat) wallet wallet' previous previous',
    s.calls[i]? = some (.minting wallet previous) → s.calls[j]? = some (.minting wallet' previous') → i = j
  minted_eq : minted s.log = passed s.log ++ s.activeSessionKeyPublicKey.toList

theorem chained_start : Chained {} where
  previous_active := nofun
  one := nofun
  minted_eq := rfl

/-- A call that is made is not a rotation yet. -/
theorem minting_of_append {i : Nat} {requested : Network} {wallet : JsString}
    {previous : Option PublicKey}
    (h : (s.calls ++ [connectWallet o requested])[i]? = some (.minting wallet previous)) :
    s.calls[i]? = some (.minting wallet previous) := by
  by_cases hi : i < s.calls.length
  · rwa [List.getElem?_append_left hi] at h
  · rw [List.getElem?_append_right (not_lt.mp hi)] at h
    have heq := List.mem_singleton.mp (List.mem_of_getElem? h)
    rcases connectWallet_cases o requested with ⟨error, hnew⟩ | hnew <;>
      · rw [hnew] at heq
        exact absurd heq (by simp only [reduceCtorEq, not_false_eq_true])

/-- The new key is held; no other rotation waits for its mint. -/
theorem chained_minted {i : Nat} {key : PublicKey} {wallet : JsString}
    {previous : Option PublicKey} (hs : Chained s)
    (hcall : s.calls[i]? = some (.minting wallet previous)) :
    Chained ⟨some key, s.calls.set i (afterMint wallet previous),
      s.log ++ [.rotated wallet previous key]⟩ := by
  have hnone : ∀ (j : Nat) wallet' previous',
      (s.calls.set i (afterMint wallet previous))[j]? ≠ some (.minting wallet' previous') := by
    intro j wallet' previous' hj
    rcases getElem?_set_cases hj with ⟨-, heq⟩ | ⟨hne, hj⟩
    · exact afterMint_ne_minting wallet wallet' previous previous' heq.symm
    · exact hne (hs.one j i wallet' wallet previous' previous hj hcall)
  refine ⟨fun j wallet' previous' hj => absurd hj (hnone j wallet' previous'),
    fun j _ wallet' _ previous' _ hj _ => absurd hj (hnone j wallet' previous'), ?_⟩
  rw [minted_append, passed_append, passed_rotated, hs.minted_eq,
    hs.previous_active i wallet previous hcall]
  rfl

theorem chained_step (hs : Chained s) (hone : OneRotation s a)
    (h : (connector o).step s a = some s') : Chained s' := by
  rcases step_cases h with ⟨requested, -, rfl⟩ | ⟨i, phase, phase', active', events, hcall, hmove, rfl⟩
  · refine { hs with previous_active := ?_, one := ?_ }
    · intro j wallet previous hj
      exact hs.previous_active j wallet previous (minting_of_append hj)
    · intro j k wallet wallet' previous previous' hj hk
      exact hs.one j k wallet wallet' previous previous' (minting_of_append hj) (minting_of_append hk)
  · rcases moves_cases hmove with ⟨key, wallet, previous, rfl, rfl, rfl, rfl, rfl⟩ |
      ⟨rfl, hmints, hpassed, hminting⟩
    · exact chained_minted hs hcall
    · -- Where the call begins a rotation, none is under way.
      have hother : ∀ (k : Nat) wallet wallet' previous previous',
          phase' = .minting wallet previous → s.calls[k]? ≠ some (.minting wallet' previous') := by
        intro k wallet wallet' previous previous' hphase hk
        have hfalse := hone i wallet (hminting wallet previous hphase).2 _ (List.mem_of_getElem? hk)
        exact absurd hfalse (by simp only [ConnectPhase.isMinting, reduceCtorEq, not_false_eq_true])
      constructor
      · intro j wallet previous hj
        rcases getElem?_set_cases hj with ⟨-, heq⟩ | ⟨-, hj⟩
        · exact (hminting wallet previous heq.symm).1
        · exact hs.previous_active j wallet previous hj
      · intro j k wallet wallet' previous previous' hj hk
        rcases getElem?_set_cases hj with ⟨hji, heq⟩ | ⟨hji, hj⟩ <;>
          rcases getElem?_set_cases hk with ⟨hki, heq'⟩ | ⟨hki, hk⟩
        · rw [hji, hki]
        · exact absurd hk (hother k _ _ _ _ heq.symm)
        · exact absurd hj (hother j _ _ _ _ heq'.symm)
        · exact hs.one j k wallet wallet' previous previous' hj hk
      · rw [minted_append, minted_of_mints hmints, passed_append, hpassed, List.append_nil,
          List.append_nil]
        exact hs.minted_eq

theorem failed_step (hs : failed s.log = []) (hsucceeds : Succeeds s a)
    (h : (connector o).step s a = some s') : failed s'.log = [] := by
  rcases step_cases h with ⟨requested, -, rfl⟩ | ⟨i, phase, phase', active', events, -, hmove, rfl⟩
  · exact hs
  · simp only [failed, List.filterMap_append] at hs ⊢
    rw [hs, List.nil_append]
    cases hmove with
    | revokeFailed i error wallet previous => exact absurd rfl (hsucceeds i error).2
    | _ => rfl

theorem minted_nodup_step (hs : (minted s.log).Nodup) (hfresh : Fresh s a)
    (h : (connector o).step s a = some s') : (minted s'.log).Nodup := by
  rcases step_cases h with ⟨requested, -, rfl⟩ | ⟨i, phase, phase', active', events, -, hmove, rfl⟩
  · exact hs
  · rw [minted_append]
    rcases moves_cases hmove with ⟨key, wallet, previous, rfl, -, -, -, rfl⟩ | ⟨-, hmints, -, -⟩
    · have hone : minted [.rotated wallet previous key] = [key] := rfl
      rw [hone]
      refine List.nodup_append.mpr ⟨hs, List.pairwise_singleton _ key, fun k hk k' hk' heq => ?_⟩
      rw [List.mem_singleton] at hk'
      subst heq hk'
      exact hfresh i k rfl hk
    · rw [minted_of_mints hmints, List.append_nil]
      exact hs

/-- Nothing is waited for when every call is over. -/
theorem pending_of_over (h : ∀ phase ∈ s.calls, phase.over = true) : s.pending = [] := by
  refine List.filterMap_eq_nil_iff.mpr (fun phase hphase => ?_)
  have hover := h phase hphase
  cases phase with
  | revoking wallet previous =>
      exact absurd hover (by simp only [ConnectPhase.over, Bool.false_eq_true, not_false_eq_true])
  | _ => rfl

/-- Once every call is over and none has failed, a key that was passed to
    `revoke` is revoked. -/
theorem revoked_of_passed (hs : Accounted s) (hpending : s.pending = []) (hfailed : failed s.log = [])
    {key : PublicKey} (h : key ∈ passed s.log) : key ∈ revoked s.log := by
  have hcount := hs key
  rw [hpending, hfailed, List.count_nil] at hcount
  have hpos : 0 < (passed s.log).count key := List.count_pos_iff.mpr h
  refine List.count_pos_iff.mp ?_
  omega

/-- As long as no rotation begins while another waits for its mint, the key that
    is held is the only one that was minted and is not revoked, once every call
    is over. -/
theorem only_active_unrevoked (o : PasskeyKitConnectorOptions) (actions : List ConnectorAction)
    (s : PasskeyKitConnector) (hfresh : (connector o).RunWhere Fresh {} actions)
    (hsucceeds : (connector o).RunWhere Succeeds {} actions)
    (hone : (connector o).RunWhere OneRotation {} actions)
    (hrun : (connector o).run {} actions = some s) (hover : ∀ phase ∈ s.calls, phase.over = true)
    (key : PublicKey) :
    (key ∈ minted s.log ∧ key ∉ revoked s.log) ↔ s.activeSessionKeyPublicKey = some key := by
  -- Every key minted was passed on to be revoked, or is the active one.
  have hchained : Chained s :=
    Machine.run_invariant (fun _ _ _ hs hc h => chained_step hs hc h) chained_start hone hrun
  have hfailed : failed s.log = [] :=
    Machine.run_invariant (I := fun s => failed s.log = []) (fun _ _ _ hs hc h => failed_step hs hc h)
      rfl hsucceeds hrun
  have hsuperseded : Superseded s := superseded_run hfresh hrun
  have haccounted : Accounted s := accounted_run hrun
  constructor
  · rintro ⟨hminted, hunrevoked⟩
    rw [hchained.minted_eq, List.mem_append] at hminted
    rcases hminted with hpassed | hactive
    · exact absurd (revoked_of_passed haccounted (pending_of_over hover) hfailed hpassed) hunrevoked
    · exact Option.mem_toList.mp hactive
  · -- The active key was minted, and only keys passed on are revoked.
    intro hactive
    refine ⟨hsuperseded.active_minted key hactive, fun hrevoked => ?_⟩
    exact hsuperseded.active_not_passed key hactive (passed_of_revoked haccounted hrevoked)

/-- A wallet is connected, and connected again up to the mint of its key. -/
def secondRotation : List ConnectorAction :=
  [.connectWallet .testnet, .connected 0 (js "CA"), .minted 0 keyA,
    .connectWallet .testnet, .connected 1 (js "CA")]

/-- The key is minted. -/
def secondMint : List ConnectorAction :=
  secondRotation ++ [.minted 1 keyB]

/-- What is left when the first key was revoked. -/
def afterSecond : PasskeyKitConnector where
  activeSessionKeyPublicKey := some keyB
  calls := [.returned (js "CA"), .returned (js "CA")]
  log := [.rotated (js "CA") none keyA, .rotated (js "CA") (some keyA) keyB,
    .revoked (js "CA") keyA]

theorem only_active_unrevoked_afterSecond :
    keyB ∈ minted afterSecond.log ∧ keyB ∉ revoked afterSecond.log :=
  (only_active_unrevoked rotating (secondMint ++ [.revoked 1]) afterSecond (by decide) (by decide)
    (by decide) rfl (by decide) keyB).mpr rfl

/-- The first of two keys that were minted by overlapping calls is never
    revoked. -/
theorem overlapping_mints_leak : ¬ ∀ o actions s, (connector o).RunWhere Fresh {} actions →
    (connector o).RunWhere Succeeds {} actions → (connector o).run {} actions = some s →
    (∀ phase ∈ s.calls, phase.over = true) → ∀ key,
    (key ∈ minted s.log ∧ key ∉ revoked s.log) ↔ s.activeSessionKeyPublicKey = some key := by
  intro h
  have hactive := (h rotating overlappingMints afterOverlap overlappingMints_fresh (by decide)
    overlappingMints_run (by decide) keyA).mp (by decide)
  exact absurd hactive (by decide)

/-- At most one call is under way. -/
def Alone (s : PasskeyKitConnector) : Prop :=
  ∀ (i j : Nat) phase phase', s.calls[i]? = some phase → s.calls[j]? = some phase' →
    phase.over = false → phase'.over = false → i = j

theorem alone_start : Alone {} := by
  intro i j phase phase' hi
  exact absurd hi (by simp only [List.getElem?_nil, reduceCtorEq, not_false_eq_true])

/-- Only a call that is under way gets an answer. -/
theorem over_of_moves {active active' : Option PublicKey} {i : Nat} {phase phase' : ConnectPhase}
    {events : List RotationEvent} (h : Moves active a i phase phase' active' events) :
    phase.over = false := by
  cases h <;> rfl

theorem alone_step (hs : Alone s) (hnon : NonOverlapping s a)
    (h : (connector o).step s a = some s') : Alone s' := by
  rcases step_cases h with ⟨requested, rfl, rfl⟩ | ⟨i, phase, phase', active', events, hcall, hmove, rfl⟩
  · -- Every call made before is over.
    have hlast : ∀ (i : Nat) phase, (s.calls ++ [connectWallet o requested])[i]? = some phase →
        phase.over = false → i = s.calls.length := by
      intro i phase hi hunder
      by_cases hlt : i < s.calls.length
      · rw [List.getElem?_append_left hlt] at hi
        rw [hnon requested rfl phase (List.mem_of_getElem? hi)] at hunder
        exact absurd hunder (by simp only [reduceCtorEq, not_false_eq_true])
      · have hle := (List.getElem?_eq_some_iff.mp hi).1
        rw [List.length_append, List.length_singleton] at hle
        omega
    intro i j phase phase' hi hj hunder hunder'
    rw [hlast i phase hi hunder, hlast j phase' hj hunder']
  · intro j k phase₁ phase₂ hj hk hunder hunder'
    have hmoved : ∀ (j : Nat) phase₁, (s.calls.set i phase')[j]? = some phase₁ →
        phase₁.over = false → j = i := by
      intro j phase₁ hj hunder
      rcases getElem?_set_cases hj with ⟨hji, -⟩ | ⟨-, hj⟩
      · exact hji
      · exact hs j i phase₁ phase hj hcall hunder (over_of_moves hmove)
    rw [hmoved j phase₁ hj hunder, hmoved k phase₂ hk hunder']

/-- A call that is alone does not begin a rotation beside another. -/
theorem oneRotation_of_alone (hs : Alone s) (h : (connector o).step s a = some s') :
    OneRotation s a := by
  rintro i wallet rfl phase hphase
  rcases step_cases h with ⟨requested, heq, -⟩ | ⟨j, phase₁, phase', active', events, hcall, hmove, -⟩
  · exact absurd heq (by simp only [reduceCtorEq, not_false_eq_true])
  · by_contra hminting
    rw [Bool.not_eq_false] at hminting
    obtain ⟨k, hk⟩ := List.mem_iff_getElem?.mp hphase
    have hunder : phase.over = false := by
      cases phase with
      | minting wallet previous => rfl
      | _ => exact absurd hminting (by
          simp only [ConnectPhase.isMinting, Bool.false_eq_true, not_false_eq_true])
    have hkj : k = j := hs k j phase phase₁ hk hcall hunder (over_of_moves hmove)
    rw [hkj, hcall, Option.some.injEq] at hk
    subst hk
    cases hmove <;> exact absurd hminting (by
      simp only [ConnectPhase.isMinting, Bool.false_eq_true, not_false_eq_true])

/-- What calls that do not overlap keep. -/
theorem chained_of_nonOverlapping {actions : List ConnectorAction}
    (hnon : (connector o).RunWhere NonOverlapping {} actions)
    (hrun : (connector o).run {} actions = some s) : Alone s ∧ Chained s := by
  refine Machine.run_invariant (I := fun s => Alone s ∧ Chained s) (fun s a s' hs hc h => ?_)
    ⟨alone_start, chained_start⟩ hnon hrun
  exact ⟨alone_step hs.1 hc h, chained_step hs.2 (oneRotation_of_alone hs.1 h) h⟩

/-- The keys that were minted before the one that is held were passed to
    `revoke`. -/
theorem dropLast_minted (hs : Superseded s) (hchained : Chained s) :
    (minted s.log).dropLast = passed s.log := by
  cases hactive : s.activeSessionKeyPublicKey with
  | none =>
      have hminted : minted s.log = [] := by
        by_contra hne
        exact hs.active_of_minted hne hactive
      have heq := hchained.minted_eq
      rw [hactive, Option.toList_none, List.append_nil] at heq
      rw [← heq, hminted, List.dropLast_nil]
  | some key =>
      rw [hchained.minted_eq, hactive, Option.toList_some, List.dropLast_concat]

/-- Where one call is under way and it ends, every call is over. -/
theorem over_of_alone {i : Nat} {phase : ConnectPhase} {wallet : JsString} (hs : Alone s)
    (hcall : s.calls[i]? = some phase) (hunder : phase.over = false)
    (hcalls : s'.calls = s.calls.set i (.returned wallet)) :
    ∀ phase' ∈ s'.calls, phase'.over = true := by
  intro phase' hphase'
  obtain ⟨j, hj⟩ := List.mem_iff_getElem?.mp hphase'
  rw [hcalls] at hj
  rcases getElem?_set_cases hj with ⟨-, rfl⟩ | ⟨hne, hj⟩
  · rfl
  · by_contra hnot
    rw [Bool.not_eq_true] at hnot
    exact hne (hs j i phase' phase hj hcall hnot hunder)

/-- A key whose revoke failed and that was passed to `revoke` once is not among
    those that were revoked. -/
theorem failed_not_revoked (hs : Accounted s) (hnodup : (passed s.log).Nodup) {key : PublicKey}
    (hfailed : key ∈ failed s.log) : key ∈ passed s.log ∧ key ∉ revoked s.log := by
  have hcount := hs key
  have honce := List.nodup_iff_count.mp hnodup key
  have hpos : 0 < (failed s.log).count key := List.count_pos_iff.mpr hfailed
  refine ⟨List.count_pos_iff.mp (by omega), fun hrevoked => ?_⟩
  have hpos' : 0 < (revoked s.log).count key := List.count_pos_iff.mpr hrevoked
  omega

theorem minted_nodup_run {actions : List ConnectorAction}
    (hfresh : (connector o).RunWhere Fresh {} actions)
    (hrun : (connector o).run {} actions = some s) : (minted s.log).Nodup :=
  Machine.run_invariant (I := fun s => (minted s.log).Nodup)
    (fun _ _ _ hs hc h => minted_nodup_step hs hc h) (show (minted []).Nodup from List.nodup_nil)
    hfresh hrun

/-- After a rotation that has minted a key and revoked the one before it, every
    key minted earlier is revoked exactly when no revoke has failed before. -/
theorem earlier_revoked_iff (o : PasskeyKitConnectorOptions) (actions : List ConnectorAction)
    (s s' : PasskeyKitConnector) (i : Nat)
    (hnon : (connector o).RunWhere NonOverlapping {} actions)
    (hfresh : (connector o).RunWhere Fresh {} actions)
    (hrun : (connector o).run {} actions = some s)
    (hstep : (connector o).step s (.revoked i) = some s') :
    (∀ key ∈ (minted s'.log).dropLast, key ∈ revoked s'.log) ↔ failed s.log = [] := by
  obtain ⟨halone, hchained⟩ := chained_of_nonOverlapping hnon hrun
  have hchained' : Chained s' := chained_step hchained (oneRotation_of_alone halone hstep) hstep
  -- Everything that holds of runs holds after this step too, since it mints nothing.
  have hnot : Fresh s (.revoked i) := by
    intro _ _ heq
    exact absurd heq (by simp only [reduceCtorEq, not_false_eq_true])
  have hsuperseded : Superseded s' :=
    superseded_step (superseded_run hfresh hrun) hnot hstep
  have haccounted : Accounted s' := accounted_step (accounted_run hrun) hstep
  have hnodup : (minted s'.log).Nodup :=
    minted_nodup_step (minted_nodup_run hfresh hrun) hnot hstep
  rw [hchained'.minted_eq] at hnodup
  rw [dropLast_minted hsuperseded hchained']
  -- No rotation is under way any more, so what was passed on was revoked or failed.
  obtain ⟨hpending, hfailed⟩ : s'.pending = [] ∧ failed s'.log = failed s.log := by
    rcases step_cases hstep with ⟨requested, heq, -⟩ |
      ⟨j, phase, phase', active', events, hcall, hmove, rfl⟩
    · exact absurd heq (by simp only [reduceCtorEq, not_false_eq_true])
    · cases hmove with
      | revoked i wallet previous =>
          refine ⟨pending_of_over (over_of_alone halone hcall rfl rfl), ?_⟩
          rw [failed, List.filterMap_append]
          exact List.append_nil _
  rw [← hfailed]
  constructor
  · intro hall
    by_contra hne
    obtain ⟨key, hkey⟩ := List.exists_mem_of_ne_nil _ hne
    obtain ⟨hpassed, hunrevoked⟩ :=
      failed_not_revoked haccounted (List.nodup_append.mp hnodup).1 hkey
    exact hunrevoked (hall key hpassed)
  · intro hnone key hkey
    exact revoked_of_passed haccounted hpending hnone hkey

theorem earlier_revoked_afterSecond :
    keyA ∈ (minted afterSecond.log).dropLast ∧ keyA ∈ revoked afterSecond.log :=
  ⟨by decide, (earlier_revoked_iff rotating secondMint _ afterSecond 1 (by decide) (by decide) rfl
    rfl).mpr rfl keyA (by decide)⟩

/-- The revoke of the first key fails, and the wallet is connected once more. -/
def mintAfterFailure : List ConnectorAction :=
  secondMint ++ [.revokeFailed 1 (js "timeout"), .connectWallet .testnet, .connected 2 (js "CA"),
    .minted 2 keyC]

/-- A key whose revoke failed is not revoked by the next rotation that
    succeeds. -/
theorem failed_revoke_forgotten : ¬ ∀ o actions s s' i,
    (connector o).RunWhere NonOverlapping {} actions → (connector o).RunWhere Fresh {} actions →
    (connector o).run {} actions = some s → (connector o).step s (.revoked i) = some s' →
    ∀ key ∈ (minted s'.log).dropLast, key ∈ revoked s'.log := by
  intro h
  have hrevoked := h rotating mintAfterFailure _ _ 2 (by decide) (by decide) rfl rfl keyA (by decide)
  exact absurd hrevoked (by decide)

/-- The key minted last for the wallet. -/
def lastMintedFor (wallet : JsString) (log : List RotationEvent) : Option PublicKey :=
  (((mints log).filter (fun mint => mint.1 == wallet)).getLast?).map Prod.snd

/-- A rotation for a wallet, from `s` to `s'`: the key its call passes to `revoke`
    was minted for that wallet, and it is the one the new key supersedes. -/
def RevokesOwn (s s' : PasskeyKitConnector) (i : Nat) (wallet : JsString) : Prop :=
  (∀ key, (s'.calls[i]?.bind ConnectPhase.revokingKey) = some key → (wallet, key) ∈ mints s.log) ∧
  (∀ key, lastMintedFor wallet s.log = some key →
    (s'.calls[i]?.bind ConnectPhase.revokingKey) = some key)

/-- A rotation passes to `revoke` what it has taken as the previous key. -/
theorem revokingKey_of_minted {i : Nat} {key : PublicKey} {wallet : JsString}
    {previous : Option PublicKey} (hcall : s.calls[i]? = some (.minting wallet previous))
    (h : (connector o).step s (.minted i key) = some s') :
    s'.calls[i]?.bind ConnectPhase.revokingKey = previous := by
  simp only [connector, hcall, Option.some.injEq] at h
  subst h
  rw [List.getElem?_set_self (List.getElem?_eq_some_iff.mp hcall).1]
  cases previous <;> rfl

/-- The key that is held is the one minted last. -/
theorem active_eq_getLast (hs : Superseded s) (hchained : Chained s) :
    s.activeSessionKeyPublicKey = (mints s.log).getLast?.map Prod.snd := by
  rw [← List.getLast?_map]
  show s.activeSessionKeyPublicKey = (minted s.log).getLast?
  cases hactive : s.activeSessionKeyPublicKey with
  | none =>
      have hminted : minted s.log = [] := by
        by_contra hne
        exact hs.active_of_minted hne hactive
      rw [hminted, List.getLast?_nil]
  | some key =>
      rw [hchained.minted_eq, hactive, Option.toList_some, List.getLast?_concat]

/-- The last entry that is looked for is the last one where it is one. -/
theorem getLast?_filter_of_last {α : Type} {p : α → Bool} {l : List α} {x : α}
    (h : l.getLast? = some x) (hx : p x = true) : (l.filter p).getLast? = some x := by
  obtain ⟨front, rfl⟩ := List.getLast?_eq_some_iff.mp h
  rw [List.filter_append, List.filter_cons_of_pos hx, List.filter_nil]
  exact List.getLast?_concat

/-- A key that was minted once was minted for one wallet. -/
theorem wallet_unique (hnodup : (minted s.log).Nodup) {wallet wallet' : JsString} {key : PublicKey}
    (h : (wallet, key) ∈ mints s.log) (h' : (wallet', key) ∈ mints s.log) : wallet = wallet' :=
  congrArg Prod.fst (List.inj_on_of_nodup_map hnodup h h' rfl)

/-- A rotation revokes the key that was minted for its wallet before, and no other
    wallet's, exactly when the last key was minted for that wallet, if one was. -/
theorem revokes_own_iff (o : PasskeyKitConnectorOptions) (actions : List ConnectorAction)
    (s s' : PasskeyKitConnector) (i : Nat) (key : PublicKey) (wallet : JsString)
    (previous : Option PublicKey)
    (hnon : (connector o).RunWhere NonOverlapping {} actions)
    (hfresh : (connector o).RunWhere Fresh {} actions)
    (hrun : (connector o).run {} actions = some s)
    (hcall : s.calls[i]? = some (.minting wallet previous))
    (hstep : (connector o).step s (.minted i key) = some s') :
    RevokesOwn s s' i wallet ↔ ∀ mint, (mints s.log).getLast? = some mint → mint.1 = wallet := by
  obtain ⟨-, hchained⟩ := chained_of_nonOverlapping hnon hrun
  have hnodup := minted_nodup_run hfresh hrun
  -- The call revokes the key that was minted last, whoever it was minted for.
  have hprevious : previous = (mints s.log).getLast?.map Prod.snd :=
    (hchained.previous_active i wallet previous hcall).trans
      (active_eq_getLast (superseded_run hfresh hrun) hchained)
  unfold RevokesOwn
  rw [revokingKey_of_minted hcall hstep]
  constructor
  · rintro ⟨hown, -⟩ mint hmint
    rw [hmint, Option.map_some] at hprevious
    exact (wallet_unique hnodup (hown mint.2 hprevious) (List.mem_of_getLast? hmint)).symm
  · intro hlast
    cases hmint : (mints s.log).getLast? with
    | none =>
        -- Nothing was minted before, so nothing is to be revoked.
        rw [hmint, Option.map_none] at hprevious
        refine ⟨fun key hkey => absurd (hprevious ▸ hkey) nofun, fun key hkey => ?_⟩
        rw [List.getLast?_eq_none_iff] at hmint
        rw [lastMintedFor, hmint] at hkey
        exact absurd hkey nofun
    | some mint =>
        rw [hmint, Option.map_some] at hprevious
        have hwallet : mint.1 = wallet := hlast mint hmint
        refine ⟨fun key hkey => ?_, fun key hkey => ?_⟩
        · rw [hprevious, Option.some.injEq] at hkey
          rw [← hkey, ← hwallet]
          exact List.mem_of_getLast? hmint
        · rw [lastMintedFor, getLast?_filter_of_last (p := fun mint => mint.1 == wallet) hmint
            (beq_iff_eq.mpr hwallet)] at hkey
          rw [hprevious]
          exact hkey

/-- The state of a connector that waits for the second key. -/
def beforeSecondMint : PasskeyKitConnector where
  activeSessionKeyPublicKey := some keyA
  calls := [.returned (js "CA"), .minting (js "CA") (some keyA)]
  log := [.rotated (js "CA") none keyA]

/-- The second key is held, and the first is passed to `revoke`. -/
def afterSecondMint : PasskeyKitConnector where
  activeSessionKeyPublicKey := some keyB
  calls := [.returned (js "CA"), .revoking (js "CA") keyA]
  log := [.rotated (js "CA") none keyA, .rotated (js "CA") (some keyA) keyB]

theorem revokes_own_afterSecondMint : RevokesOwn beforeSecondMint afterSecondMint 1 (js "CA") :=
  (revokes_own_iff rotating secondRotation beforeSecondMint afterSecondMint 1 keyB (js "CA")
    (some keyA) (by decide) (by decide) rfl rfl rfl).mpr (by rintro mint ⟨⟩; rfl)

/-- After another wallet was connected, its key is the one that is revoked. -/
theorem other_wallet_revoked : ¬ ∀ o actions s s' i key wallet previous,
    (connector o).RunWhere NonOverlapping {} actions → (connector o).RunWhere Fresh {} actions →
    (connector o).run {} actions = some s → s.calls[i]? = some (.minting wallet previous) →
    (connector o).step s (.minted i key) = some s' → RevokesOwn s s' i wallet := by
  intro h
  have hown := h rotating [.connectWallet .testnet, .connected 0 (js "CA"), .minted 0 keyA,
    .connectWallet .testnet, .connected 1 (js "CB")] _ _ 1 keyB (js "CB") (some keyA) (by decide)
    (by decide) rfl rfl rfl
  exact absurd (hown.1 keyA rfl) (by decide)

end Connector

end VellarSdk
