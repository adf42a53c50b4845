import VellarSdk.Js.Array
import VellarSdk.Js.Decimal
import VellarSdk.Js.Map
import VellarSdk.Js.Separated
import VellarSdk.X402.Capabilities

/-!
# The Configured Assets

The assets that may be paid in, and how much of each, come from one setting: contract
ids with their ceilings, separated by commas. It is read once, at startup, and what it
is read as is the allowlist as well as the limit of what is spent. A setting that says
anything else than that is refused, and nothing is filled in: an asset without a ceiling
is not payable.

Blank entries are passed over, and white space around an id or a ceiling is trimmed.
Every other entry is an id and its ceiling on the two sides of one colon. Contract ids
hold no white space and neither of the separators, which is all that has to be known of
them.

## Main definitions

* `parseAssets`: Reading the setting.
* `Ceilings`: What can be configured.
* `IsAssetEntry`, `entriesOf`: The entries of a setting.

## Theorems

* `addAsset_eq_ok_iff`: What an entry sets.
* `foldlM_addAsset_iff`: What a list of entries sets.
* `parseAssets_eq_ok_iff`: What a setting is read as.
* `parseAssets_reads`: It is read as what it lists, and a listing is read back.
-/

namespace VellarSdk

namespace Payer

open Js X402

/-- What ends the startup: a `ConfigError` with its message, or an error of the
    language. -/
inductive StartupError where
  | config (message : JsString)
  | native (e : NativeError)

instance : MonadLift (Except NativeError) (Except StartupError) where
  monadLift x := x.mapError .native

/-- `throw new ConfigError(message)`. -/
def throwConfig {α : Type} (message : JsString) : Except StartupError α :=
  .error (.config message)

/-- Set the ceiling of an asset: the checks on the two halves of an entry. -/
def setCeiling (isValidContract : JsString → Bool) (ceilings : JsMap Int)
    (asset ceilingRaw : JsString) : Except StartupError (JsMap Int) :=
  if !isValidContract asset then
    throwConfig (js "VELLAR_X402_ASSETS names " ++ JsValue.quote asset ++
      js ", which is not a Soroban contract id (C…).")
  else if !isDigits ceilingRaw then
    throwConfig (js "VELLAR_X402_ASSETS ceiling for " ++ asset ++
      js " must be a non-negative integer in base units, got " ++ JsValue.quote ceilingRaw ++
      js ".")
  else do
    let ceiling ← JsValue.stringToBigInt ceilingRaw
    -- Zero would be a ceiling too, but one that nothing fits under.
    if ceiling = 0 then
      throwConfig (js "VELLAR_X402_ASSETS ceiling for " ++ asset ++
        js (" is 0, which would refuse every payment. " ++
          "Remove the asset instead if it should not be payable."))
    else if (ceilings.get asset).isSome then
      throwConfig (js "VELLAR_X402_ASSETS lists " ++ asset ++ js " more than once.")
    else return ceilings.set asset ceiling

/-- One entry of the setting. -/
def addAsset (isValidContract : JsString → Bool) (ceilings : JsMap Int) (entry : JsString) :
    Except StartupError (JsMap Int) :=
  let trimmed := trim entry
  if trimmed.isEmpty then .ok ceilings
  else match trimmed.splitOn 58 with
    | [asset, ceilingRaw] => setCeiling isValidContract ceilings (trim asset) (trim ceilingRaw)
    -- Both halves are mandatory.
    | _ => throwConfig (js "VELLAR_X402_ASSETS entry " ++ JsValue.quote trimmed ++
        js " is malformed. Expected \"<assetContractId>:<sessionCeilingBaseUnits>\".")

/-- Parse `VELLAR_X402_ASSETS`. -/
def parseAssets (isValidContract : JsString → Bool) (raw : JsString) :
    Except StartupError (JsMap Int) := do
  let ceilings ← (raw.splitOn 44).foldlM (addAsset isValidContract) []
  if ceilings.isEmpty then
    throwConfig (js ("VELLAR_X402_ASSETS is empty. At least one " ++
      "<assetContractId>:<sessionCeiling> pair is required — " ++
      "this server refuses to pay in any asset without a ceiling."))
  else return ceilings

/-- What can be configured: some assets, each with a ceiling that lets something be
    paid. -/
structure Ceilings (isValidContract : JsString → Bool) where
  entries : List (JsString × Int)
  ne_nil : entries ≠ []
  valid : ∀ e ∈ entries, isValidContract e.1 = true
  positive : ∀ e ∈ entries, 0 < e.2
  distinct : (entries.map Prod.fst).Nodup

namespace Ceilings

variable {isValidContract : JsString → Bool}

/-- The map of the ceilings, by asset. -/
def toMap (c : Ceilings isValidContract) : JsMap Int :=
  JsMap.ofEntries c.entries

/-- The ceilings as they are written. -/
def text (c : Ceilings isValidContract) : JsString :=
  [44].intercalate (c.entries.map (fun e => e.1 ++ 58 :: intToString e.2))

end Ceilings

/-- The entries of a setting that are not blank. -/
def entriesOf (raw : JsString) : List JsString :=
  (raw.splitOn 44).filter (fun entry => !(trim entry).isEmpty)

/-- An entry: `<contract id>:<digits>` with white space around the two parts. -/
def IsAssetEntry (asset : JsString) (ceiling : Int) (entry : JsString) : Prop :=
  ∃ a b c d digits, IsBlank a ∧ IsBlank b ∧ IsBlank c ∧ IsBlank d ∧ isDigits digits = true ∧
    (digitsToNat 10 digits : Int) = ceiling ∧
    entry = (a ++ asset ++ b) ++ 58 :: (c ++ digits ++ d)

/-- What an entry has in front of its colon. -/
def assetOf (entry : JsString) : JsString :=
  trim (before (fun u => u == 58) entry)

/-- A text that has neither white space nor one of the separators in it. -/
def IsPlain (s : JsString) : Prop :=
  ∀ u ∈ s, isWhiteSpace u = false ∧ u ≠ 44 ∧ u ≠ 58

theorem forall_exists_iff {α β : Type} {R : α → β → Prop} {l : List β} :
    (∀ b ∈ l, ∃ a, R a b) ↔ ∃ l', List.Forall₂ R l' l := by
  induction l with
  | nil => exact iff_of_true (fun b hb => absurd hb List.not_mem_nil) ⟨[], .nil⟩
  | cons b l ih =>
      rw [List.forall_mem_cons, ih]
      constructor
      · rintro ⟨⟨a, ha⟩, l', hl'⟩
        exact ⟨a :: l', .cons ha hl'⟩
      · rintro ⟨l', hl'⟩
        cases hl' with
        | cons ha hrest => exact ⟨⟨_, ha⟩, _, hrest⟩

theorem throwConfig_ne_ok {α : Type} {message : JsString} {a : α} :
    (throwConfig message : Except StartupError α) ≠ .ok a :=
  fun h => absurd h (by simp only [throwConfig, reduceCtorEq, not_false_eq_true])

section Entries

variable {isValidContract : JsString → Bool} {asset entry ceilingRaw : JsString}
  {ceilings m : JsMap Int} {ceiling : Int}

theorem StartupError.liftM_eq_ok {α : Type} {x : Except NativeError α} {a : α} :
    (liftM x : Except StartupError α) = .ok a ↔ x = .ok a := by
  cases x with
  | error e => simp only [liftM, monadLift, MonadLift.monadLift, Except.mapError, reduceCtorEq]
  | ok b => simp only [liftM, monadLift, MonadLift.monadLift, Except.mapError, Except.ok.injEq]

theorem setCeiling_eq_ok_iff : setCeiling isValidContract ceilings asset ceilingRaw = .ok m ↔
    isValidContract asset = true ∧ isDigits ceilingRaw = true ∧ 0 < digitsToNat 10 ceilingRaw ∧
      ceilings.get asset = none ∧ m = ceilings.set asset (digitsToNat 10 ceilingRaw) := by
  unfold setCeiling
  -- Each check in its order: the contract, the digits, the amount, and the name being new.
  by_cases hvalid : isValidContract asset = true
  · rw [hvalid, Bool.not_true, if_neg Bool.false_ne_true]
    by_cases hdigits : isDigits ceilingRaw = true
    · have hread : (liftM (JsValue.stringToBigInt ceilingRaw) : Except StartupError Int) =
          .ok (digitsToNat 10 ceilingRaw) :=
        StartupError.liftM_eq_ok.mpr (JsValue.stringToBigInt_of_isDigits hdigits)
      rw [hdigits, Bool.not_true, if_neg Bool.false_ne_true, hread]
      simp only [bind, Except.bind, true_and, Nat.pos_iff_ne_zero, Int.natCast_eq_zero]
      by_cases hzero : digitsToNat 10 ceilingRaw = 0
      · rw [if_pos hzero]
        exact iff_of_false throwConfig_ne_ok (fun h => h.1 hzero)
      rw [if_neg hzero]
      cases hget : ceilings.get asset with
      | some ceiling =>
          rw [Option.isSome_some, if_pos rfl]
          exact iff_of_false throwConfig_ne_ok (fun h => Option.some_ne_none _ h.2.1)
      | none =>
          rw [Option.isSome_none, if_neg Bool.false_ne_true]
          constructor
          · intro h
            injection h with h
            exact ⟨hzero, rfl, h.symm⟩
          · rintro ⟨-, -, rfl⟩
            rfl
    · rw [Bool.not_eq_true] at hdigits
      rw [hdigits, Bool.not_false, if_pos rfl]
      exact iff_of_false throwConfig_ne_ok (fun h => Bool.false_ne_true h.2.1)
  · rw [Bool.not_eq_true] at hvalid
    rw [hvalid, Bool.not_false, if_pos rfl]
    exact iff_of_false throwConfig_ne_ok (fun h => Bool.false_ne_true h.1)

theorem colon_not_mem_of_isDigit {digits : JsString} (h : isDigits digits = true) : 58 ∉ digits :=
  fun hmem => absurd (((isDigits_iff digits).mp h).2 58 hmem) (by decide)

/-- The two halves of an entry. -/
theorem isAssetEntry_iff (hasset : IsPlain asset) : IsAssetEntry asset ceiling entry ↔
    ∃ first second, entry.splitOn 58 = [first, second] ∧ trim first = asset ∧
      isDigits (trim second) = true ∧ (digitsToNat 10 (trim second) : Int) = ceiling := by
  have hspace : ∀ u ∈ asset, isWhiteSpace u = false := fun u hu => (hasset u hu).1
  have hcolon : ∀ {s : JsString}, IsBlank s → 58 ∉ s := fun h => not_mem_of_isBlank h (by decide)
  constructor
  · -- Neither half has a colon of its own, so the entry is cut at the one between them.
    rintro ⟨a, b, c, d, digits, ha, hb, hc, hd, hdigits, rfl, rfl⟩
    have hdigit := ((isDigits_iff digits).mp hdigits).2
    have hsecond : trim (c ++ digits ++ d) = digits :=
      (trim_eq_iff (fun u hu => isWhiteSpace_of_isDigit (hdigit u hu))).mpr ⟨c, d, hc, hd, rfl⟩
    refine ⟨a ++ asset ++ b, c ++ digits ++ d, splitOn_eq_pair_iff.mpr ⟨rfl, ?_, ?_⟩,
      (trim_eq_iff hspace).mpr ⟨a, b, ha, hb, rfl⟩, by rw [hsecond, hdigits], by rw [hsecond]⟩
    · rw [List.mem_append, List.mem_append, not_or, not_or]
      exact ⟨⟨hcolon ha, fun hmem => (hasset 58 hmem).2.2 rfl⟩, hcolon hb⟩
    · rw [List.mem_append, List.mem_append, not_or, not_or]
      exact ⟨⟨hcolon hc, colon_not_mem_of_isDigit hdigits⟩, hcolon hd⟩
  · -- What trimming takes off the halves is the white space around the parts.
    rintro ⟨first, second, hsplit, hfirst, hdigits, hceiling⟩
    obtain ⟨a, b, ha, hb, rfl⟩ := (trim_eq_iff hspace).mp hfirst
    obtain ⟨c, d, hc, hd, hsecond⟩ := exists_trim second
    refine ⟨a, b, c, d, trim second, ha, hb, hc, hd, hdigits, hceiling, ?_⟩
    rw [← hsecond]
    exact (splitOn_eq_pair_iff.mp hsplit).1

/-- What an entry sets: the ceiling of an asset that has none yet. -/
theorem addAsset_eq_ok_iff (hplain : ∀ id, isValidContract id = true → IsPlain id)
    (hentry : (trim entry).isEmpty = false) {done : List (JsString × Int)} :
    addAsset isValidContract (JsMap.ofEntries done) entry = .ok m ↔
      ∃ e : JsString × Int, ((isValidContract e.1 = true ∧ 0 < e.2) ∧
        IsAssetEntry e.1 e.2 entry) ∧ e.1 ∉ done.map Prod.fst ∧
          m = JsMap.ofEntries (done ++ [e]) := by
  constructor
  · intro h
    rw [addAsset, hentry, if_neg Bool.false_ne_true] at h
    split at h
    · next first second hsplit =>
        obtain ⟨hvalid, hdigits, hpositive, hnew, rfl⟩ := setCeiling_eq_ok_iff.mp h
        rw [JsMap.get_ofEntries_eq_none_iff] at hnew
        -- The loop cuts the trimmed entry, which has the same parts.
        obtain ⟨first', second', hsplit', hfirst, hsecond⟩ :=
          (splitOn_trim_iff (by decide)).mp ⟨first, second, hsplit, rfl, rfl⟩
        rw [← hsecond] at hdigits hpositive ⊢
        refine ⟨(trim first, digitsToNat 10 (trim second')),
          ⟨⟨hvalid, Int.natCast_pos.mpr hpositive⟩, ?_⟩, hnew, JsMap.set_ofEntries hnew _⟩
        exact (isAssetEntry_iff (hplain _ hvalid)).mpr
          ⟨first', second', hsplit', hfirst, hdigits, rfl⟩
    · exact absurd h throwConfig_ne_ok
  · rintro ⟨⟨asset, ceiling⟩, ⟨⟨hvalid, hpositive⟩, hparts⟩, hnew, rfl⟩
    obtain ⟨first, second, hsplit, hfirst, hdigits, rfl⟩ :=
      (isAssetEntry_iff (hplain _ hvalid)).mp hparts
    obtain ⟨first', second', hsplit', hfirst', hsecond'⟩ :=
      (splitOn_trim_iff (by decide)).mpr ⟨first, second, hsplit, hfirst, rfl⟩
    rw [addAsset, hentry, if_neg Bool.false_ne_true]
    simp only [hsplit', hfirst', hsecond']
    refine setCeiling_eq_ok_iff.mpr ⟨hvalid, hdigits, Int.natCast_pos.mp hpositive,
      JsMap.get_ofEntries_eq_none_iff.mpr hnew, (JsMap.set_ofEntries hnew _).symm⟩

theorem addAsset_blank (hentry : (trim entry).isEmpty = true) :
    addAsset isValidContract ceilings entry = .ok ceilings := by
  rw [addAsset, hentry, if_pos rfl]

/-- What a list of entries sets, behind what was set before. -/
theorem foldlM_addAsset_iff (hplain : ∀ id, isValidContract id = true → IsPlain id)
    (entries : List JsString) {done : List (JsString × Int)} (hdone : (done.map Prod.fst).Nodup) :
    entries.foldlM (addAsset isValidContract) (JsMap.ofEntries done) = .ok m ↔
      ∃ listed : List (JsString × Int),
        List.Forall₂ (fun e entry => (isValidContract e.1 = true ∧ 0 < e.2) ∧
          IsAssetEntry e.1 e.2 entry) listed
          (entries.filter (fun entry => !(trim entry).isEmpty)) ∧
        ((done ++ listed).map Prod.fst).Nodup ∧ m = JsMap.ofEntries (done ++ listed) := by
  refine foldlM_collect_iff (fun ceilings entry hentry => addAsset_blank ?_)
    (fun done entry m hentry => addAsset_eq_ok_iff hplain ?_) entries hdone
  · rwa [Bool.not_eq_false'] at hentry
  · rwa [Bool.not_eq_true'] at hentry

/-- A setting is read as the ceilings that it lists. -/
theorem parseAssets_eq_ok_iff (hplain : ∀ id, isValidContract id = true → IsPlain id)
    (raw : JsString) : parseAssets isValidContract raw = .ok m ↔
      ∃ c : Ceilings isValidContract, m = c.toMap ∧
        List.Forall₂ (fun e entry => IsAssetEntry e.1 e.2 entry) c.entries (entriesOf raw) := by
  have hfold := fun ceilings =>
    @foldlM_addAsset_iff isValidContract ceilings hplain (raw.splitOn 44) [] List.nodup_nil
  rw [parseAssets, bind_eq_ok]
  constructor
  · rintro ⟨ceilings, hceilings, h⟩
    obtain ⟨listed, hlisted, hnodup, rfl⟩ := (hfold ceilings).mp hceilings
    rw [List.forall₂_and_left] at hlisted
    by_cases hempty : (JsMap.ofEntries ([] ++ listed)).isEmpty = true
    · rw [if_pos hempty] at h
      exact absurd h throwConfig_ne_ok
    · rw [if_neg hempty] at h
      injection h with h
      -- Blank entries alone list nothing, which is refused.
      have hsome : listed ≠ [] := by
        rintro rfl
        exact hempty rfl
      refine ⟨⟨listed, hsome, ?_, ?_, hnodup⟩, h.symm, hlisted.2⟩
      · exact fun e he => (hlisted.1 e he).1
      · exact fun e he => (hlisted.1 e he).2
  · rintro ⟨c, rfl, hlisted⟩
    -- Ceilings that are listed pass the checks, since they carry them.
    have hgood : ∀ e ∈ c.entries, isValidContract e.1 = true ∧ 0 < e.2 :=
      fun e he => ⟨c.valid e he, c.positive e he⟩
    have hentries := (List.forall₂_and_left _ _).mpr ⟨hgood, hlisted⟩
    refine ⟨c.toMap, (hfold c.toMap).mpr ⟨c.entries, hentries, c.distinct, rfl⟩, ?_⟩
    rw [if_neg]
    · rfl
    · rw [Ceilings.toMap, JsMap.ofEntries, List.isEmpty_iff, List.map_eq_nil_iff]
      exact c.ne_nil

theorem assetOf_eq (hasset : IsPlain asset) (h : IsAssetEntry asset ceiling entry) :
    assetOf entry = asset := by
  obtain ⟨first, second, hsplit, hfirst, -, -⟩ := (isAssetEntry_iff hasset).mp h
  obtain ⟨rfl, hcolon, -⟩ := splitOn_eq_pair_iff.mp hsplit
  rw [assetOf, before_append_cons hcolon, hfirst]

/-- What is asked of the entries of a setting, one by one and together. -/
theorem exists_listed_iff (hplain : ∀ id, isValidContract id = true → IsPlain id)
    (entries : List JsString) :
    (∃ c : Ceilings isValidContract,
      List.Forall₂ (fun e entry => IsAssetEntry e.1 e.2 entry) c.entries entries) ↔
    entries ≠ [] ∧ (∀ entry ∈ entries, ∃ e : JsString × Int,
      (isValidContract e.1 = true ∧ 0 < e.2) ∧ IsAssetEntry e.1 e.2 entry) ∧
      (entries.map assetOf).Nodup := by
  -- The assets of a list are read off its entries.
  have hassets : ∀ {listed : List (JsString × Int)}, (∀ e ∈ listed, isValidContract e.1 = true) →
      List.Forall₂ (fun e entry => IsAssetEntry e.1 e.2 entry) listed entries →
      listed.map Prod.fst = entries.map assetOf := by
    intro listed hvalid hlisted
    induction hlisted with
    | nil => rfl
    | cons hentry hlisted ih =>
        rw [List.forall_mem_cons] at hvalid
        rw [List.map_cons, List.map_cons, ih hvalid.2, assetOf_eq (hplain _ hvalid.1) hentry]
  rw [forall_exists_iff]
  simp only [List.forall₂_and_left]
  constructor
  · rintro ⟨c, hlisted⟩
    refine ⟨?_, ⟨c.entries, fun e he => ⟨c.valid e he, c.positive e he⟩, hlisted⟩,
      hassets c.valid hlisted ▸ c.distinct⟩
    rintro rfl
    exact c.ne_nil (List.forall₂_nil_right_iff.mp hlisted)
  · rintro ⟨hne, ⟨listed, hgood, hlisted⟩, hdistinct⟩
    have hvalid : ∀ e ∈ listed, isValidContract e.1 = true := fun e he => (hgood e he).1
    refine ⟨⟨listed, ?_, hvalid, fun e he => (hgood e he).2, ?_⟩, hlisted⟩
    · rintro rfl
      exact hne (List.forall₂_nil_left_iff.mp hlisted)
    · rw [hassets hvalid hlisted]
      exact hdistinct

/-- Ceilings are written as entries that list them. -/
theorem entriesOf_text (hplain : ∀ id, isValidContract id = true → IsPlain id)
    (c : Ceilings isValidContract) :
    List.Forall₂ (fun e entry => IsAssetEntry e.1 e.2 entry) c.entries (entriesOf c.text) := by
  have hentry : ∀ e ∈ c.entries, IsAssetEntry e.1 e.2 (e.1 ++ 58 :: intToString e.2) := by
    intro e he
    have hpositive := c.positive e he
    refine ⟨[], [], [], [], intToString e.2, isBlank_nil, isBlank_nil, isBlank_nil, isBlank_nil, ?_⟩
    rw [intToString, if_neg (by omega)]
    refine ⟨isDigits_natToString _, ?_, ?_⟩
    · rw [digitsToNat_natToString]
      omega
    · simp only [List.nil_append, List.append_nil]
  -- No entry has a comma in it, so the text is cut where it was joined.
  have hcomma : ∀ entry ∈ c.entries.map (fun e => e.1 ++ 58 :: intToString e.2), 44 ∉ entry := by
    intro entry hmem
    obtain ⟨e, he, rfl⟩ := List.mem_map.mp hmem
    have hdigit : 44 ∉ intToString e.2 := by
      have hpositive := c.positive e he
      rw [intToString, if_neg (by omega)]
      exact fun h => absurd (isDigit_natToString _ 44 h) (by decide)
    rw [List.mem_append, List.mem_cons, not_or, not_or]
    exact ⟨fun h => (hplain _ (c.valid e he) 44 h).2.1 rfl, by decide, hdigit⟩
  have hsome : ∀ entry ∈ c.entries.map (fun e => e.1 ++ 58 :: intToString e.2),
      (!(trim entry).isEmpty) = true := by
    intro entry hmem
    obtain ⟨e, -, rfl⟩ := List.mem_map.mp hmem
    -- The colon is no white space.
    have hcolon : 58 ∈ trim (e.1 ++ 58 :: intToString e.2) :=
      mem_trim (List.mem_append_right _ List.mem_cons_self) (by decide)
    rw [Bool.not_eq_true', List.isEmpty_eq_false_iff]
    exact List.ne_nil_of_mem hcolon
  rw [entriesOf, Ceilings.text, List.splitOn_intercalate 44 hcomma
    (fun hnil => c.ne_nil (List.map_eq_nil_iff.mp hnil)), List.filter_eq_self.mpr hsome,
    List.forall₂_map_right_iff, List.forall₂_same]
  exact hentry

end Entries

/-- A setting is accepted exactly if it has an entry that is not blank, all of those are a
    contract id and a positive ceiling, and no id is there twice. It is read as those ids
    with those ceilings, and ceilings that are written down are read back. -/
theorem parseAssets_reads (isValidContract : JsString → Bool)
    (hplain : ∀ id, isValidContract id = true → IsPlain id) :
    (∀ raw, (∃ ceilings, parseAssets isValidContract raw = .ok ceilings) ↔
      entriesOf raw ≠ [] ∧ (∀ entry ∈ entriesOf raw, ∃ e : JsString × Int,
        (isValidContract e.1 = true ∧ 0 < e.2) ∧ IsAssetEntry e.1 e.2 entry) ∧
        ((entriesOf raw).map assetOf).Nodup) ∧
    (∀ raw ceilings, parseAssets isValidContract raw = .ok ceilings ↔
      ∃ c : Ceilings isValidContract, ceilings = c.toMap ∧
        List.Forall₂ (fun e entry => IsAssetEntry e.1 e.2 entry) c.entries (entriesOf raw)) ∧
    ∀ c : Ceilings isValidContract, parseAssets isValidContract c.text = .ok c.toMap := by
  refine ⟨fun raw => ?_, fun raw ceilings => parseAssets_eq_ok_iff hplain raw, fun c => ?_⟩
  · rw [← exists_listed_iff hplain]
    constructor
    · rintro ⟨ceilings, h⟩
      obtain ⟨c, -, hlisted⟩ := (parseAssets_eq_ok_iff hplain raw).mp h
      exact ⟨c, hlisted⟩
    · rintro ⟨c, hlisted⟩
      exact ⟨c.toMap, (parseAssets_eq_ok_iff hplain raw).mpr ⟨c, rfl, hlisted⟩⟩
  · exact (parseAssets_eq_ok_iff hplain c.text).mpr ⟨c, rfl, entriesOf_text hplain c⟩

/-- Contract ids have the form that is asked of them. -/
theorem isPlain_of_isContractId {id : JsString} (h : isContractId id = true) : IsPlain id := by
  have hplain : ∀ u : CodeUnit, X402.isBase32 u = true →
      isWhiteSpace u = false ∧ u ≠ 44 ∧ u ≠ 58 := by
    intro u hu
    simp only [X402.isBase32, Bool.or_eq_true, Bool.and_eq_true, decide_eq_true_eq,
      UInt16.le_iff_toNat_le, UInt16.reduceToNat] at hu
    simp only [isWhiteSpace, Bool.or_eq_false_iff, Bool.and_eq_false_iff, decide_eq_false_iff_not,
      beq_eq_false_iff_ne, ne_eq, UInt16.le_iff_toNat_le, ← UInt16.toNat_inj, UInt16.reduceToNat]
    omega
  unfold isContractId at h
  split at h
  · next rest =>
      rw [Bool.and_eq_true, List.all_eq_true] at h
      exact List.forall_mem_cons.mpr ⟨by decide, fun u hu => hplain u (h.2 u hu)⟩
  · exact absurd h Bool.false_ne_true

/-- Two assets, the second with a ceiling beyond the exact numbers. -/
def configuredPair : Ceilings isContractId where
  entries := [(js "CAAAAAAAAAAAAAAAAAAAAAAAAAAAAAAAAAAAAAAAAAAAAAAAAAAABSC4", 1000000),
    (js "CBIN4HTPJM2QLJ32DTRO6OCLIMM7TR7D74JDIPVQYLNYGL7SBWOXH5ND", 9007199254740993000)]
  ne_nil := List.cons_ne_nil _ _
  valid := by decide
  positive := by decide
  distinct := by decide

theorem parseAssets_reads_two :
    configuredPair.text = js ("CAAAAAAAAAAAAAAAAAAAAAAAAAAAAAAAAAAAAAAAAAAAAAAAAAAABSC4:1000000," ++
      "CBIN4HTPJM2QLJ32DTRO6OCLIMM7TR7D74JDIPVQYLNYGL7SBWOXH5ND:9007199254740993000") ∧
    parseAssets isContractId configuredPair.text = .ok configuredPair.toMap :=
  ⟨by decide +kernel,
    (parseAssets_reads isContractId (fun _ => isPlain_of_isContractId)).2.2 configuredPair⟩

end Payer

end VellarSdk
