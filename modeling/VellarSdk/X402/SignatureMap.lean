import Mathlib.Data.List.Sort
import VellarSdk.X402.Signer

/-!
# The Keys of the Signature Map

Soroban requires the keys of a map in their order. `setSignatureMap` sorts the
policies by the bytes of their addresses and puts the signer's own key before
them, which is its place only if its name sorts before `Policy`. `Ed25519` does,
and `Secp256r1` does not.

## Main definitions

* `MapSigner`: The two signers, as the map sees them.
* `signatureMapOf`: The map that an entry carries.
* `Canonical`: The map is in order, has one entry for the signer and one for
  each policy, and does not depend on the order the policies are given in.

## Theorems

* `compare_comparePolicyAddresses`: The comparison is the order of bytes.
* `sortPolicies_eq_ok`: The policies are sorted.
* `setSignatureMap_eq_ok`: The map that is written.
* `setSignatureMap_canonical_iff`: When it is canonical.
-/

namespace VellarSdk

namespace X402

open Js Stellar Async

theorem compare_toNat_sub (a b : UInt8) :
    compare ((a.toNat : Int) - b.toNat) 0 = compare a b := by
  change compareOfLessAndEq ((a.toNat : Int) - b.toNat) 0 = compareOfLessAndEq a b
  simp only [compareOfLessAndEq, UInt8.lt_iff_toNat_lt, ← UInt8.toNat_inj]
  have hlt : (a.toNat : Int) - b.toNat < 0 ↔ a.toNat < b.toNat := by omega
  have heq : (a.toNat : Int) - b.toNat = 0 ↔ a.toNat = b.toNat := by omega
  simp only [hlt, heq]

/-- The comparison is the order of bytes. -/
theorem compare_comparePolicyAddresses (ab bb : Bytes) :
    compare (comparePolicyAddresses ab bb) 0 = compare ab bb := by
  induction ab generalizing bb with
  | nil =>
      cases bb with
      | nil => rfl
      | cons b bb =>
          have hneg : comparePolicyAddresses [] (b :: bb) < 0 := by
            simp only [comparePolicyAddresses, List.length_nil, List.length_cons]
            omega
          exact compare_lt_iff_lt.mpr hneg
  | cons a ab ih =>
      cases bb with
      | nil =>
          have hpos : comparePolicyAddresses (a :: ab) [] > 0 := by
            simp only [comparePolicyAddresses, List.length_nil, List.length_cons]
            omega
          exact compare_gt_iff_gt.mpr hpos
      | cons b bb =>
          rw [List.compare_cons_cons, ← ih, ← compare_toNat_sub, comparePolicyAddresses]
          -- The difference of the heads decides unless it is zero.
          by_cases hdiff : (a.toNat : Int) - b.toNat = 0
          · rw [if_neg (not_not_intro hdiff), hdiff]
            rfl
          · rw [if_pos hdiff]
            cases hcmp : compare ((a.toNat : Int) - b.toNat) 0 with
            | eq => exact absurd (compare_eq_iff_eq.mp hcmp) hdiff
            | lt => rfl
            | gt => rfl
/-- The order the policies are sorted by. -/
def policyLe (idOf : JsString → Bytes) (policy policy' : JsString) : Bool :=
  comparePolicyAddresses (idOf policy) (idOf policy') ≤ 0

theorem policyLe_iff {idOf : JsString → Bytes} {policy policy' : JsString} :
    policyLe idOf policy policy' = true ↔ (compare (idOf policy) (idOf policy')).isLE = true := by
  rw [policyLe, decide_eq_true_iff, ← compare_comparePolicyAddresses, Std.isLE_compare]

/-- The policies are contracts with these ids: an address decodes to its id, and
    the id is written as the address. -/
def ContractIds (sdk : StellarSdk) (idOf : JsString → Bytes) (policies : List JsString) : Prop :=
  ∀ policy ∈ policies, sdk.addressFromString policy = .ok (.contract (idOf policy)) ∧
    sdk.addressToString (.contract (idOf policy)) = .ok policy

section Policies

variable {sdk : StellarSdk} {idOf : JsString → Bytes} {policies policies' : List JsString}

theorem ContractIds.eq_of_id_eq (h : ContractIds sdk idOf policies) {policy policy' : JsString}
    (hp : policy ∈ policies) (hp' : policy' ∈ policies) (hid : idOf policy = idOf policy') :
    policy = policy' := by
  have htext := (h policy hp).2
  rw [hid, (h policy' hp').2, Except.ok.injEq] at htext
  exact htext.symm

theorem ContractIds.perm (h : ContractIds sdk idOf policies) (hperm : policies'.Perm policies) :
    ContractIds sdk idOf policies' :=
  fun policy hp => h policy (hperm.mem_iff.mp hp)

/-- The policies are sorted by their ids. -/
theorem sortPolicies_eq_ok (h : ContractIds sdk idOf policies) :
    sortPolicies sdk policies = .ok (policies.mergeSort (policyLe idOf)) := by
  rw [sortPolicies]
  by_cases hfew : policies.length < 2
  · rw [if_pos hfew]
    match policies, hfew with
    | [], _ => rw [List.mergeSort_nil]
    | [policy], _ => rw [List.mergeSort_singleton]
  · rw [if_neg hfew, mapM_eq_ok (g := fun policy => (policy, idOf policy))
      (fun policy hp => bind_eq_ok.mpr ⟨_, (h policy hp).1, rfl⟩)]
    refine congrArg Except.ok ?_
    -- Sorting the decoded pairs is sorting the addresses by their ids.
    have hkeyed : (policies.mergeSort (policyLe idOf)).map (fun policy => (policy, idOf policy)) =
        (policies.map (fun policy => (policy, idOf policy))).mergeSort
          (fun a b => comparePolicyAddresses a.2 b.2 ≤ 0) :=
      List.map_mergeSort (fun _ _ _ _ => rfl)
    rw [← hkeyed, List.map_map]
    exact List.map_id _

/-- Sorted policies ascend strictly: no two have the same id. -/
theorem sorted_pairwise (h : ContractIds sdk idOf policies) (hnodup : policies.Nodup) :
    (policies.mergeSort (policyLe idOf)).Pairwise
      (fun p q => compare (idOf p) (idOf q) = .lt) := by
  have hsorted : (policies.mergeSort (policyLe idOf)).Pairwise
      (fun p q => policyLe idOf p q = true) := by
    refine List.pairwise_mergeSort (fun a b c hab hbc => ?_) (fun a b => ?_) policies
    · rw [policyLe_iff] at hab hbc ⊢
      exact Std.TransOrd.isLE_trans hab hbc
    · rw [Bool.or_eq_true, policyLe_iff, policyLe_iff, Std.OrientedOrd.eq_swap (a := idOf b)]
      cases compare (idOf a) (idOf b) with
      | lt => exact .inl rfl
      | eq => exact .inl rfl
      | gt => exact .inr rfl
  have hperm := List.mergeSort_perm policies (policyLe idOf)
  -- Distinct addresses have distinct ids, so an equal id would repeat an address.
  have hne : (policies.mergeSort (policyLe idOf)).Pairwise (· ≠ ·) := hperm.nodup_iff.mpr hnodup
  refine ((hsorted.and hne).imp_of_mem ?_)
  intro p q hp hq hpq
  have hle := policyLe_iff.mp hpq.1
  cases hcmp : compare (idOf p) (idOf q) with
  | lt => rfl
  | eq => exact absurd (h.eq_of_id_eq (hperm.mem_iff.mp hp) (hperm.mem_iff.mp hq)
      (Std.LawfulEqOrd.eq_of_compare hcmp)) hpq.2
  | gt =>
      rw [hcmp] at hle
      exact absurd hle Bool.false_ne_true

/-- Sorting forgets the order the policies were given in. -/
theorem sorted_perm (h : ContractIds sdk idOf policies) (hnodup : policies.Nodup)
    (hperm : policies'.Perm policies) :
    policies'.mergeSort (policyLe idOf) = policies.mergeSort (policyLe idOf) := by
  have hsorted := sorted_pairwise h hnodup
  have hsorted' := sorted_pairwise (h.perm hperm) (hperm.nodup_iff.mpr hnodup)
  -- Two strictly sorted permutations of one list are the same list.
  refine List.Perm.eq_of_pairwise ?_ hsorted' hsorted
    ((List.mergeSort_perm _ _).trans (hperm.trans (List.mergeSort_perm _ _).symm))
  intro p q _ _ hpq hqp
  rw [Std.OrientedOrd.eq_swap, hqp] at hpq
  exact absurd hpq (by simp only [Ordering.swap, reduceCtorEq, not_false_eq_true])

end Policies

/-- The two signers as the map sees them. -/
inductive MapSigner where
  | sessionKey (rawPk signature : Bytes)
  | passkey (assertion : WebAuthnAssertion)

/-- The signer's key in the map. -/
def MapSigner.key : MapSigner → ScVal
  | .sessionKey rawPk _ => ed25519SignerKey rawPk
  | .passkey assertion => secp256r1SignerKey assertion.keyId

/-- The signer's signature. -/
def MapSigner.signature : MapSigner → ScVal
  | .sessionKey _ signature => ed25519Signature signature
  | .passkey assertion => secp256r1Signature assertion

/-- The map that an entry carries as its signature. -/
def signatureMapOf (entry : SorobanAuthorizationEntry) : Option (List (ScVal × ScVal)) :=
  match entry.credentials with
  | .address credentials => match credentials.signature with
    | .vec (some [.map entries]) => entries
    | _ => none
  | _ => none

/-- `setSignatureMap` writes this map. -/
def WritesMap (sdk : StellarSdk) (entry : SorobanAuthorizationEntry) (signer : MapSigner)
    (policies : List JsString) (entries : List (ScVal × ScVal)) : Prop :=
  ∃ entry', setSignatureMap sdk entry signer.key signer.signature policies = .ok entry' ∧
    signatureMapOf entry' = some entries

/-- The key of the policy with an id. -/
def policyKey (id : Bytes) : ScVal :=
  variant "Policy" [.address (.contract id)]

/-- The map is written with its keys in strictly ascending order, one of them
    the signer's and one for each policy, and it is the same map for every
    order of the policies. -/
def Canonical (sdk : StellarSdk) (entry : SorobanAuthorizationEntry) (signer : MapSigner)
    (idOf : JsString → Bytes) (policies : List JsString) : Prop :=
  ∃ entries, WritesMap sdk entry signer policies entries ∧ Ascending entries ∧
    (entries.map Prod.fst).Nodup ∧
    (entries.map Prod.fst).Perm (signer.key :: policies.map (fun p => policyKey (idOf p))) ∧
    ∀ policies' : List JsString, policies'.Perm policies →
      WritesMap sdk entry signer policies' entries

section Map

variable {sdk : StellarSdk} {entry : SorobanAuthorizationEntry} {signer : MapSigner}
  {idOf : JsString → Bytes} {policies : List JsString}

/-- The map that is written: the signer, and then the policies by their ids. -/
theorem setSignatureMap_eq_ok {credentials : AddressCredentials}
    (hcredentials : entry.credentials = .address credentials)
    (h : ContractIds sdk idOf policies) :
    WritesMap sdk entry signer policies ((signer.key, signer.signature) ::
      (policies.mergeSort (policyLe idOf)).map (fun p => (policyKey (idOf p), policySignature))) := by
  have hkeys : (policies.mergeSort (policyLe idOf)).mapM (fun policy => do
      let key ← policySignerKey sdk policy
      return (key, policySignature)) = .ok ((policies.mergeSort (policyLe idOf)).map
        (fun p => (policyKey (idOf p), policySignature))) := by
    refine mapM_eq_ok (fun p hp => bind_eq_ok.mpr ⟨policyKey (idOf p), ?_, rfl⟩)
    exact bind_eq_ok.mpr ⟨_, (h p (List.mem_mergeSort.mp hp)).1, rfl⟩
  rcases entry with ⟨_, root⟩
  cases hcredentials
  refine ⟨⟨.address { credentials with signature := .vec (some [.map (some
    ((signer.key, signer.signature) :: (policies.mergeSort (policyLe idOf)).map
      (fun p => (policyKey (idOf p), policySignature))))]) }, root⟩, ?_, rfl⟩
  exact bind_eq_ok.mpr ⟨_, sortPolicies_eq_ok h, bind_eq_ok.mpr ⟨_, hkeys, rfl⟩⟩

/-- Policies compare by their ids. -/
theorem policyKey_cmp (id id' : Bytes) : (policyKey id).cmp (policyKey id') = compare id id' := by
  have hname : compare (TextEncoder.encode "Policy") (TextEncoder.encode "Policy") = .eq :=
    Std.ReflOrd.compare_self
  rw [policyKey, policyKey, cmp_variant, hname]
  rfl

/-- A session key sorts before every policy. -/
theorem sessionKey_before_policy (rawPk signature id : Bytes) :
    (MapSigner.sessionKey rawPk signature).key.cmp (policyKey id) = .lt := by
  have hname : compare (TextEncoder.encode "Ed25519") (TextEncoder.encode "Policy") = .lt := by
    decide +kernel
  rw [MapSigner.key, ed25519SignerKey, policyKey, cmp_variant, hname]
  rfl

/-- A passkey sorts after every policy. -/
theorem passkey_after_policy (assertion : WebAuthnAssertion) (id : Bytes) :
    (MapSigner.passkey assertion).key.cmp (policyKey id) = .gt := by
  have hname : compare (TextEncoder.encode "Secp256r1") (TextEncoder.encode "Policy") = .gt := by
    decide +kernel
  rw [MapSigner.key, secp256r1SignerKey, policyKey, cmp_variant, hname]
  rfl

/-- The keys of the policies ascend. -/
theorem policyKeys_ascending (h : ContractIds sdk idOf policies) (hnodup : policies.Nodup) :
    ((policies.mergeSort (policyLe idOf)).map (fun p => policyKey (idOf p))).Pairwise
      (fun a b => a.cmp b = .lt) := by
  refine List.pairwise_map.mpr ((sorted_pairwise h hnodup).imp ?_)
  intro p q hpq
  rw [policyKey_cmp, hpq]

/-- No two of the keys are the same. -/
theorem keys_nodup (h : ContractIds sdk idOf policies) (hnodup : policies.Nodup) :
    (signer.key :: (policies.mergeSort (policyLe idOf)).map (fun p => policyKey (idOf p))).Nodup := by
  have hself : ∀ p : JsString, (policyKey (idOf p)).cmp (policyKey (idOf p)) = .eq := by
    intro p
    rw [policyKey_cmp]
    exact Std.ReflOrd.compare_self
  refine List.nodup_cons.mpr ⟨fun hmem => ?_, ?_⟩
  -- The signer's key has another name than every policy's.
  · rcases List.mem_map.mp hmem with ⟨p, -, hp⟩
    have hcmp := hself p
    rw [hp] at hcmp
    nth_rewrite 2 [← hp] at hcmp
    cases signer with
    | sessionKey rawPk signature =>
        rw [sessionKey_before_policy] at hcmp
        exact absurd hcmp (by simp only [reduceCtorEq, not_false_eq_true])
    | passkey assertion =>
        rw [passkey_after_policy] at hcmp
        exact absurd hcmp (by simp only [reduceCtorEq, not_false_eq_true])
  · refine (policyKeys_ascending h hnodup).imp_of_mem ?_
    intro a b ha _ hlt heq
    rcases List.mem_map.mp ha with ⟨p, -, rfl⟩
    rw [← heq, hself] at hlt
    exact absurd hlt (by simp only [reduceCtorEq, not_false_eq_true])

/-- The keys of the map that is written. -/
theorem map_fst_written (l : List JsString) :
    ((signer.key, signer.signature) ::
      l.map (fun p => (policyKey (idOf p), policySignature))).map Prod.fst =
      signer.key :: l.map (fun p => policyKey (idOf p)) := by
  rw [List.map_cons, List.map_map]
  rfl

/-- A passkey's map is out of order as soon as there is a policy. -/
theorem Canonical.no_policies {assertion : WebAuthnAssertion} {credentials : AddressCredentials}
    (h : Canonical sdk entry (.passkey assertion) idOf policies)
    (hcredentials : entry.credentials = .address credentials)
    (hids : ContractIds sdk idOf policies) : policies = [] := by
  rcases h with ⟨entries, ⟨entry', hset, hmap⟩, hascending, -⟩
  have hwrites : WritesMap sdk entry (.passkey assertion) policies _ :=
    setSignatureMap_eq_ok hcredentials hids
  rcases hwrites with ⟨entry'', hset', hmap'⟩
  rw [hset, Except.ok.injEq] at hset'
  rw [← hset', hmap, Option.some.injEq] at hmap'
  rw [Ascending, hmap', map_fst_written, List.pairwise_cons] at hascending
  refine List.eq_nil_iff_forall_not_mem.mpr (fun p hp => ?_)
  have hlt := hascending.1 _ (List.mem_map_of_mem (List.mem_mergeSort.mpr hp))
  rw [passkey_after_policy] at hlt
  exact absurd hlt (by simp only [reduceCtorEq, not_false_eq_true])

end Map

section Signers

variable {c : SignerCore} {entryXdr text : JsString} {networkPassphrase : JsValue}
  {expirationLedger : JsNum} {tr : List (Event SignerOp SignerOp.Ret JsError)}

/-- A signing sequence that returned wrote the map with what the ceremony
    gave it. -/
theorem signSequence_writes {entry : SorobanAuthorizationEntry}
    (h : Run signerHandler (signSequence c entry networkPassphrase expirationLedger) () tr
      (.done (.ok text)) ()) :
    ∃ hashed payload signed signedEntry tr',
      Run signerHandler (c.ceremony payload) () tr' (.done (.ok signed)) () ∧
      setSignatureMap c.sdk hashed signed.1 signed.2 c.policies = .ok signedEntry ∧
      c.sdk.entryToXdr signedEntry = .ok text := by
  rcases run_lift_bind_ok h with ⟨⟨hashed, payload⟩, -, h₁⟩
  rcases run_bind_ok h₁ with ⟨signed, _, tr', _, hceremony, h₂, -⟩
  rcases run_lift_bind_ok h₂ with ⟨signedEntry, hset, h₃⟩
  rcases run_done h₃ with ⟨hdone, -, -⟩
  injection hdone with hdone
  exact ⟨hashed, payload, signed, signedEntry, tr', hceremony, hset, hdone.symm⟩

/-- A signature that was returned comes from the `try`. -/
theorem signAuthEntryWith_returned
    (h : Run signerHandler (signAuthEntryWith c entryXdr networkPassphrase expirationLedger) () tr
      (.done (.ok text)) ()) :
    ∃ entry tr', Run signerHandler
      (signSequence c entry networkPassphrase expirationLedger) () tr' (.done (.ok text)) () := by
  rcases run_bind_ok h with ⟨completion, _, _, _, htry, hafter, -⟩
  rcases run_tryCatch_ok htry with hbody | ⟨e, _, _, _, -, hdenied, -⟩
  · rcases run_lift_bind_ok hbody with ⟨entry, -, h₁⟩
    rcases run_lift_bind_ok h₁ with ⟨_, -, h₂⟩
    rcases run_bind_ok h₂ with ⟨signed, _, tr', _, hsequence, h₃, -⟩
    rcases run_bind_ok h₃ with ⟨_, _, _, _, -, hret, -⟩
    rcases run_pure_ok hret with ⟨rfl, -⟩
    rcases run_pure_ok hafter with ⟨rfl, -⟩
    exact ⟨entry, tr', hsequence⟩
  -- The handler rethrows, so it returned nothing.
  · rcases run_bind_ok hdenied with ⟨_, _, _, _, -, hthrow, -⟩
    exact (run_error_ok hthrow).elim

/-- A signer that returned wrote its map by `setSignatureMap`, with the key of
    its kind. -/
theorem signers_write_map {sdk : StellarSdk} {signer : SmartAccountX402Signer}
    (h : Run signerHandler (signer.signAuthEntry entryXdr networkPassphrase expirationLedger) () tr
      (.done (.ok text)) ()) :
    (∀ config, createSessionKeySigner sdk config = .ok signer →
      ∃ rawPk signature hashed signedEntry,
        setSignatureMap sdk hashed (MapSigner.sessionKey rawPk signature).key
          (MapSigner.sessionKey rawPk signature).signature config.policies = .ok signedEntry ∧
        sdk.entryToXdr signedEntry = .ok text) ∧
    (∀ config, createPasskeyX402Signer sdk config = .ok signer →
      ∃ assertion hashed signedEntry,
        setSignatureMap sdk hashed (MapSigner.passkey assertion).key
          (MapSigner.passkey assertion).signature config.policies = .ok signedEntry ∧
        sdk.entryToXdr signedEntry = .ok text) := by
  -- Both run the one sequence; they differ in what the ceremony gives to be written.
  constructor
  · intro config hcreate
    rcases createSessionKeySigner_eq_ok hcreate with ⟨rawPk, hsign⟩
    rw [hsign] at h
    rcases signAuthEntryWith_returned h with ⟨entry, tr', hsequence⟩
    rcases signSequence_writes hsequence with ⟨hashed, _, _, signedEntry, _, hceremony, hset, hxdr⟩
    rcases run_await_bind_ok rfl hceremony with ⟨signature, _, -, hret⟩
    rcases run_pure_ok hret with ⟨rfl, -⟩
    exact ⟨rawPk, signature, hashed, signedEntry, hset, hxdr⟩
  · intro config hcreate
    rw [createPasskeyX402Signer_eq_ok hcreate] at h
    rcases signAuthEntryWith_returned h with ⟨entry, tr', hsequence⟩
    rcases signSequence_writes hsequence with ⟨hashed, _, _, signedEntry, _, hceremony, hset, hxdr⟩
    rcases run_await_bind_ok rfl hceremony with ⟨assertion, _, -, hret⟩
    rcases run_pure_ok hret with ⟨rfl, -⟩
    exact ⟨assertion, hashed, signedEntry, hset, hxdr⟩

end Signers

/-- The signature map is canonical for a session key, and for a passkey only
    when it has no policies. -/
theorem setSignatureMap_canonical_iff (sdk : StellarSdk) (entry : SorobanAuthorizationEntry)
    (credentials : AddressCredentials) (signer : MapSigner) (idOf : JsString → Bytes)
    (policies : List JsString) (hcredentials : entry.credentials = .address credentials)
    (hids : ContractIds sdk idOf policies) (hnodup : policies.Nodup) :
    Canonical sdk entry signer idOf policies ↔
      (∃ rawPk signature, signer = .sessionKey rawPk signature) ∨ policies = [] := by
  constructor
  · intro h
    cases signer with
    | sessionKey rawPk signature => exact .inl ⟨rawPk, signature, rfl⟩
    | passkey assertion => exact .inr (h.no_policies hcredentials hids)
  · intro hcase
    refine ⟨_, setSignatureMap_eq_ok hcredentials hids, ?_, ?_, ?_, fun policies' hperm => ?_⟩
    · rw [Ascending, map_fst_written, List.pairwise_cons]
      refine ⟨fun key hkey => ?_, policyKeys_ascending hids hnodup⟩
      rcases List.mem_map.mp hkey with ⟨p, hp, rfl⟩
      -- Without policies there is nothing to sort after the signer.
      rcases hcase with ⟨rawPk, signature, rfl⟩ | rfl
      · exact sessionKey_before_policy rawPk signature _
      · exact absurd (List.mem_mergeSort.mp hp) List.not_mem_nil
    · rw [map_fst_written]
      exact keys_nodup hids hnodup
    · rw [map_fst_written]
      exact ((List.mergeSort_perm _ _).map _).cons _
    · rw [← sorted_perm hids hnodup hperm]
      exact setSignatureMap_eq_ok hcredentials (hids.perm hperm)

/-- The ids of the sample contracts. -/
def sampleId (policy : JsString) : Bytes :=
  List.replicate 32 (if policy = sampleAddress 0 then 0 else 2)

theorem sample_contractIds :
    ContractIds sampleSdk sampleId [sampleAddress 2, sampleAddress 0] := by
  have hne : sampleAddress 2 ≠ sampleAddress 0 := by decide +kernel
  have hne' : sampleAddress 2 ≠ sampleAddress 1 := by decide +kernel
  intro policy hp
  rcases List.mem_cons.mp hp with rfl | hp
  · rw [sampleId, if_neg hne]
    refine ⟨?_, sampleSdk_addressToString 2 (by decide)⟩
    simp only [sampleSdk, if_neg hne, if_neg hne', if_true, sampleContract]
  · rw [List.mem_singleton.mp hp, sampleId, if_pos rfl]
    refine ⟨?_, sampleSdk_addressToString 0 (by decide)⟩
    simp only [sampleSdk, if_true, sampleContract]

/-- A session key with two policies. -/
theorem setSignatureMap_canonical_iff_sample :
    Canonical sampleSdk (sampleEntryOf 7) (.sessionKey samplePublicKey (List.replicate 64 0))
      sampleId [sampleAddress 2, sampleAddress 0] :=
  (setSignatureMap_canonical_iff sampleSdk (sampleEntryOf 7) _ _ sampleId _ rfl sample_contractIds
    (by decide +kernel)).mpr (.inl ⟨_, _, rfl⟩)

/-- A passkey with two policies: its own key stands first and belongs last. -/
theorem setSignatureMap_unordered : ¬ ∀ (sdk : StellarSdk) (entry : SorobanAuthorizationEntry)
    (credentials : AddressCredentials) (signer : MapSigner) (idOf : JsString → Bytes)
    (policies : List JsString), entry.credentials = .address credentials →
    ContractIds sdk idOf policies → policies.Nodup →
    Canonical sdk entry signer idOf policies := by
  intro hall
  have hcanonical := hall sampleSdk (sampleEntryOf 7) _ (.passkey ⟨[], [], [], [1, 2, 3]⟩)
    sampleId _ rfl sample_contractIds (by decide +kernel)
  have hnone := hcanonical.no_policies rfl sample_contractIds
  exact absurd hnone (by simp only [reduceCtorEq, not_false_eq_true])

end X402

end VellarSdk
