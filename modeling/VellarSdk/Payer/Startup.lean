import VellarSdk.Payer.Concurrent
import VellarSdk.Payer.Config

/-!
# Startup

The payer is configured by its environment, once. The secret comes from a variable or
from a file, never from both, and nothing that is printed of the configuration has it:
neither the errors nor the enumerable properties are any different for another secret.

The ledger is made of the same map that the allowlist is made of. What a running payer
may sign, and how much of it may be spent, is therefore what the setting of the assets
says, whatever happens while it runs.

## Main definitions

* `StartupDeps`: The environment.
* `readSecret`, `parsePolicies`, `parseNetwork`, `parseMaxResponseBytes`: The settings.
* `loadConfig`: The configuration.
* `Loaded`: What a configuration that was loaded says.
* `SameButSecret`: Environments that differ in the secret only.

## Theorems

* `parsePolicies_eq_ok_iff`: What the policies are read as.
* `loadSettings_loaded`: What is loaded is what the settings say.
* `allowed_iff_ceiling`: The allowlist has the assets with a ceiling.
* `loadConfig_same`: The secret shows in nothing but itself.
* `started_within_settings`: A started payer keeps to the setting of its assets.
-/

namespace VellarSdk

namespace Payer

open Js X402

/-- What startup reads: the environment variables, the files and the forms of the keys.
    A file that cannot be read gives the message of the error, if it was an `Error`. -/
structure StartupDeps where
  env : JsString → Option JsString
  readFile : JsString → Except (Option JsString) JsString
  isValidContract : JsString → Bool
  isValidEd25519SecretSeed : JsString → Bool

/-- A variable that is set to more than white space: `env[name]?.trim() || undefined`. -/
def setting (d : StartupDeps) (name : JsString) : Option JsString :=
  ((d.env name).map trim).filter (fun v => !v.isEmpty)

/-- The value of a variable that has to be set. -/
def required (d : StartupDeps) (name : JsString) : Except StartupError JsString :=
  match setting d name with
  | some v => .ok v
  | none => throwConfig (name ++ js " is required but was not set.")

/-- The secret that is configured, in the variable or in the file. -/
def configuredSecret (d : StartupDeps) : Except StartupError JsString :=
  match setting d "VELLAR_X402_SECRET_FILE", setting d "VELLAR_X402_SECRET" with
  | some _, some _ => throwConfig
      "Set exactly one of VELLAR_X402_SECRET or VELLAR_X402_SECRET_FILE, not both."
  | some file, none => match d.readFile file with
      | .ok contents => .ok (trim contents)
      | .error message => throwConfig (js "VELLAR_X402_SECRET_FILE could not be read (" ++ file ++
          js "): " ++ message.getD "unknown error")
  | none, some inline => .ok inline
  | none, none => throwConfig (js ("No payer secret configured. " ++
      "Set VELLAR_X402_SECRET (an S… ed25519 secret) " ++
      "or VELLAR_X402_SECRET_FILE (a path to a file containing one). " ++
      "The secret is never accepted as a tool argument."))

/-- Read the payer secret. -/
def readSecret (d : StartupDeps) : Except StartupError JsString := do
  let secret ← configuredSecret d
  if !d.isValidEd25519SecretSeed secret then
    throwConfig "The configured payer secret is not a valid Stellar ed25519 secret seed (S…)."
  else return secret

/-- One entry of the policies. -/
def addPolicy (isValidContract : JsString → Bool) (out : List JsString) (entry : JsString) :
    Except StartupError (List JsString) :=
  let policy := trim entry
  if policy.isEmpty then .ok out
  else if !isValidContract policy then
    throwConfig (js "VELLAR_X402_POLICIES names " ++ JsValue.quote policy ++
      js ", which is not a Soroban contract id (C…).")
  else if out.contains policy then
    throwConfig (js "VELLAR_X402_POLICIES lists " ++ policy ++ js " more than once.")
  else .ok (out ++ [policy])

/-- Parse `VELLAR_X402_POLICIES`: contract ids, separated by commas. -/
def parsePolicies (isValidContract : JsString → Bool) (raw : Option JsString) :
    Except StartupError (List JsString) :=
  match raw with
  | none => .ok []
  | some raw =>
      if (trim raw).isEmpty then .ok []
      else (raw.splitOn 44).foldlM (addPolicy isValidContract) []

/-- The networks. -/
inductive PayerNetwork where
  | testnet
  | mainnet

def PayerNetwork.name : PayerNetwork → JsString
  | testnet => "testnet"
  | mainnet => "mainnet"

/-- `CAIP2_BY_NETWORK`. -/
def PayerNetwork.caip2 : PayerNetwork → JsString
  | testnet => "stellar:testnet"
  | mainnet => "stellar:pubnet"

def parseNetwork (raw : Option JsString) : Except StartupError PayerNetwork :=
  let value := trim (raw.getD "testnet")
  if value = js "testnet" then .ok .testnet
  else if value = js "mainnet" then .ok .mainnet
  else throwConfig (js "VELLAR_X402_NETWORK must be \"testnet\" or \"mainnet\", got " ++
    JsValue.quote value ++ js ".")

/-- `DEFAULT_MAX_RESPONSE_BYTES`. -/
def defaultMaxResponseBytes : Nat := 262144

/-- The byte cap. A number is exact here, where a double would round. -/
def parseMaxResponseBytes (raw : Option JsString) : Except StartupError Nat :=
  match (raw.map trim).filter (fun v => !v.isEmpty) with
  | none => .ok defaultMaxResponseBytes
  | some trimmed =>
      if !isDigits trimmed then
        throwConfig (js "VELLAR_X402_MAX_RESPONSE_BYTES must be a positive integer, got " ++
          JsValue.quote trimmed ++ js ".")
      else if digitsToNat 10 trimmed = 0 then
        throwConfig "VELLAR_X402_MAX_RESPONSE_BYTES must be greater than 0."
      else .ok (digitsToNat 10 trimmed)

/-- The enumerable properties of a configuration. -/
structure Settings where
  network : PayerNetwork
  caip2 : JsString
  rpcUrl : Option JsString
  ceilings : JsMap Int
  allowedAssets : List JsString
  maxResponseBytes : Nat
  walletAddress : Option JsString
  policies : List JsString

/-- A configuration. The secret is a property that is not enumerable. -/
structure StartupConfig extends Settings where
  secret : JsString

/-- The smart account that pays, if there is one. -/
def walletSetting (d : StartupDeps) : Except StartupError (Option JsString) :=
  match setting d "VELLAR_X402_WALLET" with
  | none => .ok none
  | some walletAddress =>
      if !d.isValidContract walletAddress then
        throwConfig (js "VELLAR_X402_WALLET must be a Soroban contract id (C…), got " ++
          JsValue.quote walletAddress ++ js ".")
      else .ok (some walletAddress)

/-- `loadConfig` after the secret was read. -/
def loadSettings (d : StartupDeps) : Except StartupError Settings := do
  let network ← parseNetwork (d.env "VELLAR_X402_NETWORK")
  let ceilings ← parseAssets d.isValidContract (← required d "VELLAR_X402_ASSETS")
  let maxResponseBytes ← parseMaxResponseBytes (d.env "VELLAR_X402_MAX_RESPONSE_BYTES")
  let walletAddress ← walletSetting d
  let policies ← parsePolicies d.isValidContract (d.env "VELLAR_X402_POLICIES")
  -- Policies bound what the signer of a wallet may spend; without one they bound nothing.
  if !policies.isEmpty && walletAddress.isNone then
    throwConfig (js ("VELLAR_X402_POLICIES is set but VELLAR_X402_WALLET is not. " ++
      "Policies apply to a smart account's signer; " ++
      "without a wallet there is no on-chain budget to enforce."))
  else return {
    network := network
    caip2 := network.caip2
    rpcUrl := setting d "VELLAR_X402_RPC_URL"
    ceilings := ceilings
    allowedAssets := ceilings.stringKeys
    maxResponseBytes := maxResponseBytes
    walletAddress := walletAddress
    policies := policies }

/-- Build the payer configuration from the environment. -/
def loadConfig (d : StartupDeps) : Except StartupError StartupConfig := do
  let secret ← readSecret d
  let settings ← loadSettings d
  return { settings with secret := secret }

/-- The policies that a setting lists. -/
def policiesIn (raw : Option JsString) : List JsString :=
  (((raw.getD []).splitOn 44).map trim).filter (fun policy => !policy.isEmpty)

/-- The configuration, as the payer reads it. -/
def StartupConfig.toPayerConfig (config : StartupConfig) : PayerConfig :=
  { network := config.network.name, caip2 := config.caip2, allowedAssets := config.allowedAssets
    maxResponseBytes := config.maxResponseBytes }

/-- A configuration says what the settings say: the ceilings are those that are listed, the
    allowlist are their assets, and there are no policies without a wallet. -/
structure Loaded (d : StartupDeps) (settings : Settings) (c : Ceilings d.isValidContract) :
    Prop where
  listed : ∃ raw, setting d "VELLAR_X402_ASSETS" = some raw ∧
    List.Forall₂ (fun e entry => IsAssetEntry e.1 e.2 entry) c.entries (entriesOf raw)
  ceilings : settings.ceilings = c.toMap
  allowed : settings.allowedAssets = c.entries.map Prod.fst
  caip2 : settings.caip2 = settings.network.caip2
  maxResponseBytes : 0 < settings.maxResponseBytes
  wallet : settings.walletAddress = setting d "VELLAR_X402_WALLET"
  walletAddress : ∀ a, settings.walletAddress = some a → d.isValidContract a = true
  policies : settings.policies = policiesIn (d.env "VELLAR_X402_POLICIES")
  contracts : ∀ p ∈ settings.policies, d.isValidContract p = true
  distinct : settings.policies.Nodup
  enforced : settings.policies ≠ [] → settings.walletAddress ≠ none

/-- Both fail with the same error, or none of them does. -/
def FailAlike {ε α : Type} (x y : Except ε α) : Prop :=
  (∃ e, x = .error e ∧ y = .error e) ∨ ∃ a b, x = .ok a ∧ y = .ok b

/-- The same environment but for the secret, which is just as good in both. -/
structure SameButSecret (d d' : StartupDeps) : Prop where
  env : ∀ name, name ≠ js "VELLAR_X402_SECRET" → d.env name = d'.env name
  set : (setting d "VELLAR_X402_SECRET").isSome = (setting d' "VELLAR_X402_SECRET").isSome
  readFile : ∀ path, FailAlike (d.readFile path) (d'.readFile path)
  isValidContract : d.isValidContract = d'.isValidContract
  valid : ∀ secret secret', configuredSecret d = .ok secret → configuredSecret d' = .ok secret' →
    d.isValidEd25519SecretSeed secret = d'.isValidEd25519SecretSeed secret'

section Settings

variable {d d' : StartupDeps} {isValidContract : JsString → Bool} {entry : JsString}
  {done out : List JsString}

theorem required_eq_ok {name v : JsString} : required d name = .ok v ↔ setting d name = some v := by
  unfold required
  cases setting d name with
  | none => exact iff_of_false throwConfig_ne_ok (Option.some_ne_none v).symm
  | some w => rw [Except.ok.injEq, Option.some.injEq]

theorem addPolicy_eq_ok_iff (hentry : (trim entry).isEmpty = false) :
    addPolicy isValidContract done entry = .ok out ↔
      isValidContract (trim entry) = true ∧ trim entry ∉ done ∧ out = done ++ [trim entry] := by
  rw [addPolicy, hentry, if_neg Bool.false_ne_true]
  by_cases hvalid : isValidContract (trim entry) = true
  · rw [hvalid, Bool.not_true, if_neg Bool.false_ne_true]
    by_cases hlisted : done.contains (trim entry) = true
    · rw [if_pos hlisted]
      exact iff_of_false throwConfig_ne_ok (fun h => h.2.1 (List.contains_iff_mem.mp hlisted))
    · rw [if_neg hlisted, Except.ok.injEq]
      rw [List.contains_iff_mem] at hlisted
      exact ⟨fun h => ⟨rfl, hlisted, h.symm⟩, fun h => h.2.2.symm⟩
  · rw [Bool.not_eq_true] at hvalid
    rw [hvalid, Bool.not_false, if_pos rfl]
    exact iff_of_false throwConfig_ne_ok (fun h => Bool.false_ne_true h.1)

theorem foldlM_addPolicy_iff (entries : List JsString) :
    entries.foldlM (addPolicy isValidContract) [] = .ok out ↔
      out = (entries.map trim).filter (fun policy => !policy.isEmpty) ∧
        (∀ p ∈ out, isValidContract p = true) ∧ out.Nodup := by
  have hloop : entries.foldlM (addPolicy isValidContract) (id []) = .ok out ↔
      ∃ listed : List JsString,
        List.Forall₂ (fun p entry => isValidContract p = true ∧ p = trim entry) listed
          (entries.filter (fun entry => !(trim entry).isEmpty)) ∧
        (([] ++ listed).map id).Nodup ∧ out = id ([] ++ listed) := by
    refine foldlM_collect_iff (fun done entry hentry => ?_) (fun done entry out hentry => ?_)
      entries ?_
    · rw [Bool.not_eq_false'] at hentry
      rw [addPolicy, hentry, if_pos rfl]
    · rw [Bool.not_eq_true'] at hentry
      rw [id, addPolicy_eq_ok_iff hentry, List.map_id]
      constructor
      · rintro ⟨hvalid, hnew, rfl⟩
        exact ⟨_, ⟨hvalid, rfl⟩, hnew, rfl⟩
      · rintro ⟨_, ⟨hvalid, rfl⟩, hnew, rfl⟩
        exact ⟨hvalid, hnew, rfl⟩
    · exact List.nodup_nil
  -- What is collected are the trimmed entries themselves.
  have hsame : ∀ listed l : List JsString,
      List.Forall₂ (fun p entry => p = trim entry) listed l ↔ listed = l.map trim := by
    intro listed l
    rw [← List.forall₂_map_right_iff, List.forall₂_eq_eq_eq]
  simp only [List.forall₂_and_left, hsame, List.nil_append, List.map_id, id_eq] at hloop
  rw [hloop, List.filter_map]
  constructor
  · rintro ⟨listed, ⟨hvalid, hlisted⟩, hnodup, rfl⟩
    exact ⟨hlisted, hvalid, hnodup⟩
  · rintro ⟨hlisted, hvalid, hnodup⟩
    exact ⟨out, ⟨hvalid, hlisted⟩, hnodup, rfl⟩

/-- Nothing is listed where nothing is set. -/
theorem policiesIn_of_isBlank {raw : JsString} (h : IsBlank raw) : policiesIn (some raw) = [] := by
  have hcomma : 44 ∉ raw := not_mem_of_isBlank h (by decide)
  rw [policiesIn, Option.getD_some, List.splitOn_eq_singleton hcomma, List.map_singleton,
    trim_eq_nil_iff.mpr h]
  rfl

/-- The policies are read as the contract ids that are listed, each of them once. -/
theorem parsePolicies_eq_ok_iff (raw : Option JsString) :
    parsePolicies isValidContract raw = .ok out ↔ out = policiesIn raw ∧
      (∀ p ∈ out, isValidContract p = true) ∧ out.Nodup := by
  have hnone : out = [] ↔ out = [] ∧ (∀ p ∈ out, isValidContract p = true) ∧ out.Nodup := by
    refine ⟨?_, fun h => h.1⟩
    rintro rfl
    exact ⟨rfl, fun p hp => absurd hp List.not_mem_nil, List.nodup_nil⟩
  cases raw with
  | none =>
      rw [parsePolicies, Except.ok.injEq, eq_comm]
      exact hnone
  | some raw =>
      rw [parsePolicies]
      by_cases hraw : (trim raw).isEmpty = true
      · rw [if_pos hraw, policiesIn_of_isBlank (trim_eq_nil_iff.mp (List.isEmpty_iff.mp hraw)),
          Except.ok.injEq, eq_comm]
        exact hnone
      · rw [if_neg hraw, foldlM_addPolicy_iff]
        rfl

theorem parseMaxResponseBytes_pos {raw : Option JsString} {n : Nat}
    (h : parseMaxResponseBytes raw = .ok n) : 0 < n := by
  unfold parseMaxResponseBytes at h
  split at h
  · rw [← Except.ok.inj h]
    decide
  · next trimmed _ =>
      split at h
      · exact absurd h throwConfig_ne_ok
      · by_cases hzero : digitsToNat 10 trimmed = 0
        · rw [if_pos hzero] at h
          exact absurd h throwConfig_ne_ok
        · rw [if_neg hzero] at h
          rw [← Except.ok.inj h]
          exact Nat.pos_of_ne_zero hzero

theorem walletSetting_eq_ok {wallet : Option JsString} (h : walletSetting d = .ok wallet) :
    wallet = setting d "VELLAR_X402_WALLET" ∧
      ∀ a, wallet = some a → d.isValidContract a = true := by
  unfold walletSetting at h
  split at h
  · next hnone =>
      rw [← Except.ok.inj h, hnone]
      exact ⟨rfl, fun a ha => absurd ha (Option.some_ne_none a).symm⟩
  · next a hsome =>
      by_cases hvalid : d.isValidContract a = true
      · rw [hvalid, Bool.not_true, if_neg Bool.false_ne_true] at h
        rw [← Except.ok.inj h, hsome]
        exact ⟨rfl, fun a' ha => Option.some.inj ha ▸ hvalid⟩
      · rw [Bool.not_eq_true] at hvalid
        rw [hvalid, Bool.not_false, if_pos rfl] at h
        exact absurd h throwConfig_ne_ok

/-- What is loaded is what the settings say. -/
theorem loadSettings_loaded (hplain : ∀ id, d.isValidContract id = true → IsPlain id)
    {settings : Settings} (h : loadSettings d = .ok settings) : ∃ c, Loaded d settings c := by
  -- A setting is read or ends the startup, so all of them were read.
  obtain ⟨network, -, h⟩ := bind_eq_ok.mp h
  obtain ⟨raw, hraw, h⟩ := bind_eq_ok.mp h
  obtain ⟨ceilings, hceilings, h⟩ := bind_eq_ok.mp h
  obtain ⟨maxResponseBytes, hbytes, h⟩ := bind_eq_ok.mp h
  obtain ⟨wallet, hwallet, h⟩ := bind_eq_ok.mp h
  obtain ⟨policies, hpolicies, h⟩ := bind_eq_ok.mp h
  obtain ⟨c, rfl, hlisted⟩ := (parseAssets_eq_ok_iff hplain raw).mp hceilings
  obtain ⟨hsetting, hvalid⟩ := walletSetting_eq_ok hwallet
  obtain ⟨hpoliciesIn, hcontracts, hdistinct⟩ := (parsePolicies_eq_ok_iff _).mp hpolicies
  by_cases hidle : (!policies.isEmpty && wallet.isNone) = true
  · rw [if_pos hidle] at h
    exact absurd h throwConfig_ne_ok
  rw [if_neg hidle] at h
  injection h with h
  subst h
  refine ⟨c, ⟨raw, required_eq_ok.mp hraw, hlisted⟩, rfl, JsMap.stringKeys_ofEntries, rfl,
    parseMaxResponseBytes_pos hbytes, hsetting, hvalid, hpoliciesIn, hcontracts, hdistinct, ?_⟩
  intro hsome hnone
  rw [Bool.and_eq_true, not_and] at hidle
  refine hidle ?_ (Option.isNone_iff_eq_none.mpr hnone)
  rw [Bool.not_eq_true', List.isEmpty_eq_false_iff]
  exact hsome

/-- The allowlist has the assets that have a ceiling. -/
theorem allowed_iff_ceiling {settings : Settings} {c : Ceilings d.isValidContract}
    (h : Loaded d settings c) (asset : JsString) :
    asset ∈ settings.allowedAssets ↔
      ∃ ceiling, settings.ceilings.get (.str asset) = some ceiling := by
  rw [h.allowed, h.ceilings, Ceilings.toMap, ← Option.isSome_iff_exists, ← not_iff_not,
    ← JsMap.get_ofEntries_eq_none_iff, Bool.not_eq_true, Option.isSome_eq_false_iff,
    Option.isNone_iff_eq_none]

/-- Whatever a setting is but the secret, it is the same. -/
theorem SameButSecret.setting_eq (h : SameButSecret d d') {name : JsString}
    (hname : name ≠ js "VELLAR_X402_SECRET") : setting d name = setting d' name := by
  rw [setting, setting, h.env name hname]

/-- The secret is found in both environments or in none of them, for the same reason. -/
theorem configuredSecret_failAlike (h : SameButSecret d d') :
    FailAlike (configuredSecret d) (configuredSecret d') := by
  -- The two environments agree on where the secret is, and on whether it is set.
  have hfile : setting d "VELLAR_X402_SECRET_FILE" = setting d' "VELLAR_X402_SECRET_FILE" :=
    h.setting_eq (by decide)
  have hset := h.set
  rw [configuredSecret, configuredSecret, hfile]
  cases hsecret : setting d "VELLAR_X402_SECRET" with
  | none =>
      rw [hsecret, Option.isSome_none, eq_comm, Option.isSome_eq_false_iff,
        Option.isNone_iff_eq_none] at hset
      rw [hset]
      cases setting d' "VELLAR_X402_SECRET_FILE" with
      | none => exact .inl ⟨_, rfl, rfl⟩
      | some file =>
          rcases h.readFile file with ⟨message, herror, herror'⟩ | ⟨contents, contents', hok, hok'⟩
          · simp only [herror, herror']
            exact .inl ⟨_, rfl, rfl⟩
          · simp only [hok, hok']
            exact .inr ⟨_, _, rfl, rfl⟩
  | some inline =>
      rw [hsecret, Option.isSome_some, eq_comm, Option.isSome_iff_exists] at hset
      obtain ⟨inline', hsecret'⟩ := hset
      rw [hsecret']
      cases setting d' "VELLAR_X402_SECRET_FILE" with
      | none => exact .inr ⟨_, _, rfl, rfl⟩
      | some file => exact .inl ⟨_, rfl, rfl⟩

theorem readSecret_failAlike (h : SameButSecret d d') :
    FailAlike (readSecret d) (readSecret d') := by
  rw [readSecret, readSecret]
  rcases configuredSecret_failAlike h with ⟨e, herror, herror'⟩ | ⟨secret, secret', hok, hok'⟩
  · rw [herror, herror']
    exact .inl ⟨e, rfl, rfl⟩
  · have hvalid := h.valid secret secret' hok hok'
    simp only [hok, hok', bind, Except.bind, hvalid]
    -- What is said of a secret that is not valid does not depend on it.
    cases d'.isValidEd25519SecretSeed secret' with
    | true => exact .inr ⟨secret, secret', rfl, rfl⟩
    | false => exact .inl ⟨_, rfl, rfl⟩

theorem loadSettings_same (h : SameButSecret d d') : loadSettings d = loadSettings d' := by
  simp only [loadSettings, required, walletSetting, h.isValidContract,
    h.env (js "VELLAR_X402_NETWORK") (by decide), h.env (js "VELLAR_X402_POLICIES") (by decide),
    h.env (js "VELLAR_X402_MAX_RESPONSE_BYTES") (by decide),
    h.setting_eq (show js "VELLAR_X402_ASSETS" ≠ js "VELLAR_X402_SECRET" by decide),
    h.setting_eq (show js "VELLAR_X402_WALLET" ≠ js "VELLAR_X402_SECRET" by decide),
    h.setting_eq (show js "VELLAR_X402_RPC_URL" ≠ js "VELLAR_X402_SECRET" by decide)]

/-- Another secret makes no difference to an error or to what is enumerable. -/
theorem loadConfig_same (h : SameButSecret d d') :
    (loadConfig d).map StartupConfig.toSettings = (loadConfig d').map StartupConfig.toSettings := by
  rw [loadConfig, loadConfig, loadSettings_same h]
  rcases readSecret_failAlike h with ⟨e, herror, herror'⟩ | ⟨secret, secret', hok, hok'⟩
  · rw [herror, herror']
  · -- Each secret is put next to the same settings.
    rw [hok, hok']
    cases loadSettings d' with
    | error e => rfl
    | ok settings => rfl

end Settings

/-- A payer that was started, at any time: what is spent of an asset is within the ceiling
    that the setting lists for it, and what is about to be signed is for a listed asset. -/
theorem started_within_settings {d : StartupDeps} {config : StartupConfig}
    (hplain : ∀ id, d.isValidContract id = true → IsPlain id) (h : loadConfig d = .ok config)
    (parse : JsonParse) (signerAddress : JsString) (es : List PayerEvent) {p : PayerState}
    (hrun : (createPayer (createSpendLedger config.ceilings)).run
      { parse := parse, config := config.toPayerConfig, signerAddress := signerAddress } es =
        some p) :
    ∃ c : Ceilings d.isValidContract, Loaded d config.toSettings c ∧
      (∀ e ∈ c.entries, 0 ≤ p.ledger.spentFor (.str e.1) ∧ p.ledger.spentFor (.str e.1) ≤ e.2) ∧
      ∀ challenge, .signPayment challenge ∈ p.pendingCalls → ∃ chosen, ∃ e ∈ c.entries,
        challenge.field "accepts" = .arr [chosen] ∧ chosen.field "asset" = .str e.1 := by
  obtain ⟨secret, -, h⟩ := bind_eq_ok.mp h
  obtain ⟨settings, hsettings, h⟩ := bind_eq_ok.mp h
  injection h with h
  subst h
  obtain ⟨c, hloaded⟩ := loadSettings_loaded hplain hsettings
  have hinv := invariant_run (invariant_create _ _) hrun
  have hceilings : settings.ceilings = JsMap.ofEntries c.entries := hloaded.ceilings
  refine ⟨c, hloaded, fun e he => ?_, fun challenge hchallenge => ?_⟩
  · -- The ledger keeps the ceilings that it was created with.
    obtain ⟨hsame, hwithin⟩ := hinv.guarded.good
    obtain ⟨hnonneg, hle⟩ := within_spentFor hwithin (.str e.1)
    refine ⟨hnonneg, hle e.2 ?_ (le_of_lt (c.positive e he))⟩
    rw [hsame, hceilings]
    exact JsMap.get_ofEntries_of_mem c.distinct he
  · obtain ⟨chosen, ceiling, haccepts, hceiling⟩ := signed_has_ceiling hinv hchallenge
    rw [hceilings] at hceiling
    obtain ⟨e, he, hasset, -⟩ := JsMap.mem_of_get_ofEntries hceiling
    exact ⟨chosen, e, he, haccepts, hasset⟩

/-- One asset, a secret in a file, and nothing else set. -/
def sampleStartup (secret : JsString) : StartupDeps where
  env name :=
    if name = js "VELLAR_X402_SECRET_FILE" then some " /run/secret"
    else if name = js "VELLAR_X402_ASSETS" then
      some "CAAAAAAAAAAAAAAAAAAAAAAAAAAAAAAAAAAAAAAAAAAAAAAAAAAABSC4 : 0100 ,"
    else none
  readFile path := if path = js "/run/secret" then .ok (secret ++ js "\n") else .error none
  isValidContract := isContractId
  isValidEd25519SecretSeed _ := true

/-- Two secrets in the same file. -/
theorem sameButSecret_sample : SameButSecret (sampleStartup "S") (sampleStartup "T") where
  env _ _ := rfl
  set := rfl
  readFile path := by
    unfold sampleStartup
    by_cases hpath : path = js "/run/secret"
    · exact .inr ⟨_, _, if_pos hpath, if_pos hpath⟩
    · exact .inl ⟨_, if_neg hpath, if_neg hpath⟩
  isValidContract := rfl
  valid _ _ _ _ := rfl

theorem loadConfig_same_sample :
    (loadConfig (sampleStartup "S")).map StartupConfig.toSettings =
      (loadConfig (sampleStartup "T")).map StartupConfig.toSettings :=
  loadConfig_same sameButSecret_sample

example : (loadConfig (sampleStartup "S")).toOption.map
      (fun config => (config.ceilings.map Prod.snd, config.caip2, config.secret)) =
    some ([100], js "stellar:testnet", js "S") := by decide +kernel

/-- A seller that asks for half of the ceiling, and its confirmation. -/
def startedParse : JsonParse := fun text =>
  if text = js "challenge" then
    .ok (.obj [(js "x402Version", .num 2), (js "accepts", .arr [.obj [(js "scheme", js "exact"),
      (js "network", js "stellar:testnet"),
      (js "asset", js "CAAAAAAAAAAAAAAAAAAAAAAAAAAAAAAAAAAAAAAAAAAAAAAAAAAABSC4"),
      (js "amount", js "50"), (js "extra", .obj [(js "areFeesSponsored", .bool true)])]])])
  else if text = js "settled" then .ok sampleSettle
  else .error "Unexpected token"

def startedFirst : Response :=
  { status := 402
    headers := [(js "payment-required", btoa (TextEncoder.encode (js "challenge")))] }

def startedPaid : Response :=
  { status := 200
    headers := [(js "x-payment-response", btoa (TextEncoder.encode (js "settled")))] }

/-- One payment is made, and a second one up to its signature. -/
def startedEvents : List PayerEvent :=
  [.pay "https://b" "100", .pay "https://b" "100", .turn (.fire 1)] ++
    List.replicate 3 (.turn (.reply 1 (sampleAnswer startedFirst))) ++
    List.replicate 2 (.turn (.reply 1 (sampleAnswer startedPaid))) ++
    [.turn (.settle 1), .turn (.fire 2), .turn (.fire 3)] ++
    List.replicate 2 (.turn (.reply 3 (sampleAnswer startedFirst)))

/-- The payer of a configuration, in that run. -/
def startedRun (config : StartupConfig) : Option PayerState :=
  (createPayer (createSpendLedger config.ceilings)).run
    { parse := startedParse, config := config.toPayerConfig, signerAddress := "CW" } startedEvents

theorem started_within_settings_sample : ∃ config p challenge,
    loadConfig (sampleStartup "S") = .ok config ∧ startedRun config = some p ∧
    p.ledger.spentFor
      (.str (js "CAAAAAAAAAAAAAAAAAAAAAAAAAAAAAAAAAAAAAAAAAAAAAAAAAAABSC4")) = 50 ∧
    .signPayment challenge ∈ p.pendingCalls ∧
    ∃ c : Ceilings (sampleStartup "S").isValidContract,
      Loaded (sampleStartup "S") config.toSettings c ∧
      (∀ e ∈ c.entries,
        0 ≤ p.ledger.spentFor (.str e.1) ∧ p.ledger.spentFor (.str e.1) ≤ e.2) ∧
      ∃ chosen, ∃ e ∈ c.entries, challenge.field "accepts" = .arr [chosen] ∧
        chosen.field "asset" = .str e.1 := by
  -- The run spends fifty of the asset, and has come to the next signature.
  have hruns : (loadConfig (sampleStartup "S")).toOption.map (fun config =>
      (startedRun config).any (fun p =>
        p.ledger.spentFor
          (.str (js "CAAAAAAAAAAAAAAAAAAAAAAAAAAAAAAAAAAAAAAAAAAAAAAAAAAABSC4")) == 50 &&
        p.pendingCalls.any PayOp.isSign)) = some true := by decide +kernel
  obtain ⟨config, hload, hruns⟩ := ok_of_toOption_map hruns
  obtain ⟨p, hrun, hruns⟩ := (Option.any_eq_true _ _).mp hruns
  rw [Bool.and_eq_true, beq_iff_eq] at hruns
  obtain ⟨op, hop, hsign⟩ := List.any_eq_true.mp hruns.2
  cases op with
  | signPayment challenge =>
      obtain ⟨c, hloaded, hwithin, hsigned⟩ := started_within_settings
        (fun _ h => isPlain_of_isContractId h) hload startedParse "CW" startedEvents hrun
      exact ⟨config, p, challenge, hload, hrun, hruns.1, hop, c, hloaded, hwithin,
        hsigned challenge hop⟩
  | _ => exact absurd hsign Bool.false_ne_true

end Payer

end VellarSdk
