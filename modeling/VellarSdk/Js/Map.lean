import VellarSdk.Js.Value

/-!
# JavaScript Maps

A `Map` as its entries in insertion order. Keys are compared with `===`, so an
object is never found again and every entry that matters is keyed by a string.
An object literal used as a table is looked up by name, and the names that every
object inherits are found in it too.

## Main definitions

* `JsMap`: The entries of a map.
* `JsMap.get`, `JsMap.set`: The methods of that name.
* `JsMap.ofEntries`, `JsMap.stringKeys`: The map of some entries with strings for keys,
  and the keys again.
* `tableLookup`: A lookup in an object literal.

## Theorems

* `get_set`: A lookup after an update.
* `set_ofEntries`: A new key is added at the end.
* `get_ofEntries_of_mem`, `mem_of_get_ofEntries`: What is found are the entries.
* `strictEq_self_of_get`: A key that is found is identical to itself.
-/

namespace VellarSdk

namespace Js

/-- A `Map`, as its entries in insertion order. -/
abbrev JsMap (α : Type) := List (JsValue × α)

namespace JsMap

variable {α : Type}

/-- `Map.prototype.get`. -/
def get : JsMap α → JsValue → Option α
  | [], _ => none
  | (k, a) :: rest, key => if k.strictEq key then some a else get rest key

/-- `Map.prototype.set`: an existing entry keeps its place. -/
def set : JsMap α → JsValue → α → JsMap α
  | [], key, a => [(key, a)]
  | (k, b) :: rest, key, a => if k.strictEq key then (k, a) :: rest else (k, b) :: set rest key a

theorem get_set (m : JsMap α) (key key' : JsValue) (a : α) :
    get (set m key a) key' = if key.strictEq key' then some a else get m key' := by
  induction m with
  | nil => simp only [set, get]
  | cons e rest ih =>
      rcases e with ⟨k, b⟩
      by_cases hk : k.strictEq key = true
      · -- The entry updated is this one, and identical keys are equal.
        have hkey : k = key := JsValue.eq_of_strictEq hk
        subst hkey
        simp only [set, get, hk, if_true]
        by_cases hk' : k.strictEq key' = true
        · simp only [hk', if_true]
        · simp only [hk', Bool.false_eq_true, if_false]
      · simp only [set, get, hk, Bool.false_eq_true, if_false, ih]
        by_cases hk' : k.strictEq key' = true
        -- This entry answers the lookup, and it is not the one updated.
        · have hne : key.strictEq key' = false := by
            by_contra hc
            have heq : key = key' := JsValue.eq_of_strictEq (by simpa using hc)
            rw [heq] at hk
            exact hk hk'
          simp only [hk', hne, if_true, Bool.false_eq_true, if_false]
        · simp only [hk', Bool.false_eq_true, if_false]

/-- A key that is found is found under an identical entry, so it is not an
    object. -/
theorem strictEq_self_of_get {m : JsMap α} {key : JsValue} {a : α}
    (h : get m key = some a) : key.strictEq key = true := by
  induction m with
  | nil => exact absurd h (by simp only [get, reduceCtorEq, not_false_eq_true])
  | cons e rest ih =>
      rcases e with ⟨k, b⟩
      by_cases hk : k.strictEq key = true
      · have hkey : k = key := JsValue.eq_of_strictEq hk
        rw [hkey] at hk
        exact hk
      · simp only [get, hk, Bool.false_eq_true, if_false] at h
        exact ih h

section Strings

/-- The map of some entries with strings for keys. -/
def ofEntries (entries : List (JsString × α)) : JsMap α :=
  entries.map (fun e => (.str e.1, e.2))

/-- The keys of a map that are strings. -/
def stringKeys (m : JsMap α) : List JsString :=
  m.filterMap (fun e => match e.1 with
    | .str key => some key
    | _ => none)

variable {entries : List (JsString × α)} {key : JsString}

theorem strictEq_str_iff (s t : JsString) : (JsValue.str s).strictEq (.str t) = true ↔ s = t := by
  rw [JsValue.strictEq_iff_of_str, JsValue.str.injEq]

theorem get_ofEntries_eq_none_iff :
    get (ofEntries entries) key = none ↔ key ∉ entries.map Prod.fst := by
  induction entries with
  | nil => exact iff_of_true rfl List.not_mem_nil
  | cons e entries ih =>
      rw [List.map_cons, List.mem_cons, not_or, ← ih]
      simp only [ofEntries, List.map_cons, get]
      by_cases hkey : e.1 = key
      · rw [if_pos ((strictEq_str_iff _ _).mpr hkey)]
        exact iff_of_false (Option.some_ne_none _) (fun h => h.1 hkey.symm)
      · rw [if_neg (fun heq => hkey ((strictEq_str_iff _ _).mp heq))]
        exact ⟨fun h => ⟨fun heq => hkey heq.symm, h⟩, fun h => h.2⟩

/-- A key that is not there yet is added at the end. -/
theorem set_ofEntries (h : key ∉ entries.map Prod.fst) (a : α) :
    set (ofEntries entries) key a = ofEntries (entries ++ [(key, a)]) := by
  induction entries with
  | nil => rfl
  | cons e entries ih =>
      rw [List.map_cons, List.mem_cons, not_or] at h
      have hne : ¬ (JsValue.str e.1).strictEq (.str key) = true :=
        fun heq => h.1 ((strictEq_str_iff _ _).mp heq).symm
      have hrest := ih h.2
      simp only [ofEntries] at hrest
      simp only [ofEntries, List.map_cons, List.cons_append, set, if_neg hne, hrest]

/-- An entry is found under its key. -/
theorem get_ofEntries_of_mem (hdistinct : (entries.map Prod.fst).Nodup) {e : JsString × α}
    (he : e ∈ entries) : get (ofEntries entries) (.str e.1) = some e.2 := by
  induction entries with
  | nil => exact absurd he List.not_mem_nil
  | cons e' entries ih =>
      rw [List.map_cons, List.nodup_cons] at hdistinct
      simp only [ofEntries, List.map_cons, get]
      rcases List.mem_cons.mp he with rfl | he
      · rw [if_pos ((strictEq_str_iff _ _).mpr rfl)]
      · have hne : e'.1 ≠ e.1 := fun heq => hdistinct.1 (heq ▸ List.mem_map_of_mem he)
        rw [if_neg (fun heq => hne ((strictEq_str_iff _ _).mp heq))]
        exact ih hdistinct.2 he

/-- What is found is an entry. -/
theorem mem_of_get_ofEntries {k : JsValue} {a : α} (h : get (ofEntries entries) k = some a) :
    ∃ e ∈ entries, k = .str e.1 ∧ a = e.2 := by
  induction entries with
  | nil => exact absurd h (Option.some_ne_none a).symm
  | cons e entries ih =>
      simp only [ofEntries, List.map_cons, get] at h
      split at h
      · next hkey =>
          exact ⟨e, List.mem_cons_self, (JsValue.eq_of_strictEq hkey).symm,
            (Option.some.inj h).symm⟩
      · obtain ⟨e', he', hfound⟩ := ih h
        exact ⟨e', List.mem_cons_of_mem _ he', hfound⟩

theorem stringKeys_ofEntries : stringKeys (ofEntries entries) = entries.map Prod.fst := by
  rw [stringKeys, ofEntries, List.filterMap_map]
  exact congrFun (List.filterMap_eq_map (f := Prod.fst)) entries

end Strings

end JsMap

/-- The keys that any object inherits. -/
def objectPrototypeKeys : List JsString :=
  ["__defineGetter__", "__defineSetter__", "hasOwnProperty", "__lookupGetter__",
    "__lookupSetter__", "isPrototypeOf", "propertyIsEnumerable", "toString", "valueOf",
    "__proto__", "toLocaleString", "constructor"].map js

/-- The lookup `table[key]` in an object literal. An inherited key finds a
    built-in object. -/
def tableLookup (table : List (JsString × JsValue)) (key : JsValue) :
    Except NativeError JsValue := do
  let name ← key.toStr
  return match table.lookup name with
    | some v => v
    | none => if objectPrototypeKeys.contains name then .obj [] else .undefined

end Js

end VellarSdk
