import VellarSdk.Js.Array
import VellarSdk.Js.Value

/-!
# JSON Values

The values `JSON.parse` returns, and the two conversions that code applies to them
when it reports what is wrong with them. All of them can be written back as JSON.
Not all of them have a text: an object with a field of its own named `toString`
cannot be turned into a string, and neither can an array with such an object
somewhere inside it.

## Main definitions

* `IsJson`: The values a JSON text denotes.
* `Printable`: The values that have a text.

## Theorems

* `IsJson.field`: A field of such a value is one, or is missing.
* `IsJson.stringify`: Such a value can be written back.
* `toStr_isOk_iff`: The conversion to a string succeeds on what has a text.
-/

namespace VellarSdk

namespace Js

open JsValue

/-- A value that a JSON text denotes. -/
inductive IsJson : JsValue → Prop where
  | null : IsJson .null
  | bool (b : Bool) : IsJson (.bool b)
  | num (n : JsNumber) : IsJson (.num n)
  | str (s : JsString) : IsJson (.str s)
  | arr (items : List JsValue) (h : ∀ v ∈ items, IsJson v) : IsJson (.arr items)
  | obj (fields : List (JsString × JsValue)) (h : ∀ e ∈ fields, IsJson e.2) : IsJson (.obj fields)

/-- A value with no object in it, other than inside an object, that has a field
    named `toString`. -/
inductive Printable : JsValue → Prop where
  | undefined : Printable .undefined
  | null : Printable .null
  | bool (b : Bool) : Printable (.bool b)
  | num (n : JsNumber) : Printable (.num n)
  | bigint (n : Int) : Printable (.bigint n)
  | str (s : JsString) : Printable (.str s)
  | buffer (bytes : Bytes) : Printable (.buffer bytes)
  | arr (items : List JsValue) (h : ∀ v ∈ items, Printable v) : Printable (.arr items)
  | obj (fields : List (JsString × JsValue)) (h : fields.lookup (js "toString") = none) :
      Printable (.obj fields)

theorem printable_arr {items : List JsValue} :
    Printable (.arr items) ↔ ∀ v ∈ items, Printable v := by
  constructor
  · intro h
    cases h with
    | arr _ h => exact h
  · exact Printable.arr items

/-- An object prints unless it hides the method. -/
theorem printable_obj {fields : List (JsString × JsValue)} :
    Printable (.obj fields) ↔ ∃ s, (if (fields.lookup (js "toString")).isSome then
      .error .typeError else .ok (js "[object Object]") : Except NativeError JsString) = .ok s := by
  cases hlookup : fields.lookup (js "toString") with
  | none => exact iff_of_true (.obj fields hlookup) ⟨_, rfl⟩
  | some v =>
      refine iff_of_false (fun h => ?_) ?_
      · cases h with
        | obj _ h => exact absurd (h.symm.trans hlookup) (by simp only [reduceCtorEq,
            not_false_eq_true])
      · rintro ⟨s, h⟩
        exact absurd h (by simp only [Option.isSome_some, if_true, reduceCtorEq, not_false_eq_true])

mutual

/-- The conversion to a string succeeds on what has a text. -/
theorem toStr_isOk_iff : ∀ v : JsValue, (∃ s, v.toStr = .ok s) ↔ Printable v
  | .undefined => iff_of_true ⟨_, rfl⟩ .undefined
  | .null => iff_of_true ⟨_, rfl⟩ .null
  | .bool b => iff_of_true ⟨_, rfl⟩ (.bool b)
  | .num n => iff_of_true ⟨_, rfl⟩ (.num n)
  | .bigint n => iff_of_true ⟨_, rfl⟩ (.bigint n)
  | .str s => iff_of_true ⟨_, rfl⟩ (.str s)
  | .buffer bytes => iff_of_true ⟨_, rfl⟩ (.buffer bytes)
  | .arr items => by
      rw [toStr, joinItems_isOk_iff items, printable_arr]
  | .obj fields => by
      rw [toStr, printable_obj]

/-- An array has a text when all its elements do. -/
theorem joinItems_isOk_iff : ∀ items : List JsValue,
    (∃ s, joinItems items = .ok s) ↔ ∀ v ∈ items, Printable v
  | [] => iff_of_true ⟨[], rfl⟩ (fun v hv => absurd hv List.not_mem_nil)
  | [v] => by
      rw [joinItems, itemToStr_isOk_iff v, List.forall_mem_singleton]
  | v :: w :: rest => by
      rw [List.forall_mem_cons, ← itemToStr_isOk_iff v, ← joinItems_isOk_iff (w :: rest), joinItems]
      constructor
      · rintro ⟨s, h⟩
        obtain ⟨first, hfirst, h⟩ := bind_eq_ok.mp h
        obtain ⟨others, hothers, -⟩ := bind_eq_ok.mp h
        exact ⟨⟨first, hfirst⟩, others, hothers⟩
      · rintro ⟨⟨first, hfirst⟩, others, hothers⟩
        exact ⟨_, bind_eq_ok.mpr ⟨first, hfirst, bind_eq_ok.mpr ⟨others, hothers, rfl⟩⟩⟩

/-- So has an element. -/
theorem itemToStr_isOk_iff : ∀ v : JsValue, (∃ s, itemToStr v = .ok s) ↔ Printable v
  | .undefined => iff_of_true ⟨_, rfl⟩ .undefined
  | .null => iff_of_true ⟨_, rfl⟩ .null
  | .bool b => iff_of_true ⟨_, rfl⟩ (.bool b)
  | .num n => iff_of_true ⟨_, rfl⟩ (.num n)
  | .bigint n => iff_of_true ⟨_, rfl⟩ (.bigint n)
  | .str s => iff_of_true ⟨_, rfl⟩ (.str s)
  | .buffer bytes => iff_of_true ⟨_, rfl⟩ (.buffer bytes)
  | .arr items => by
      rw [itemToStr, joinItems_isOk_iff items, printable_arr]
  | .obj fields => by
      rw [itemToStr, printable_obj]

end

mutual

/-- A value that came as JSON can be written back. -/
theorem IsJson.stringify : ∀ v : JsValue, IsJson v → ∃ text, v.stringify = .ok text
  | .undefined, _ => ⟨_, rfl⟩
  | .null, _ => ⟨_, rfl⟩
  | .bool _, _ => ⟨_, rfl⟩
  | .num (.finite _), _ => ⟨_, rfl⟩
  | .num (.infinity _), _ => ⟨_, rfl⟩
  | .bigint _, h => by cases h
  | .str _, _ => ⟨_, rfl⟩
  | .buffer _, _ => ⟨_, rfl⟩
  | .arr items, h => by
      cases h with
      | arr _ h =>
          obtain ⟨texts, htexts⟩ := stringifyItems_isOk items h
          exact ⟨_, by rw [JsValue.stringify, htexts]; rfl⟩
  | .obj fields, h => by
      cases h with
      | obj _ h =>
          obtain ⟨texts, htexts⟩ := stringifyFields_isOk fields h
          exact ⟨_, by rw [JsValue.stringify, htexts]; rfl⟩

theorem stringifyItems_isOk : ∀ items : List JsValue, (∀ v ∈ items, IsJson v) →
    ∃ texts, stringifyItems items = .ok texts
  | [], _ => ⟨[], rfl⟩
  | v :: rest, h => by
      rw [List.forall_mem_cons] at h
      obtain ⟨text, htext⟩ := IsJson.stringify v h.1
      obtain ⟨texts, htexts⟩ := stringifyItems_isOk rest h.2
      exact ⟨_, by rw [stringifyItems, htext, htexts]; rfl⟩

theorem stringifyFields_isOk : ∀ fields : List (JsString × JsValue), (∀ e ∈ fields, IsJson e.2) →
    ∃ texts, stringifyFields fields = .ok texts
  | [], _ => ⟨[], rfl⟩
  | (k, v) :: rest, h => by
      rw [List.forall_mem_cons] at h
      obtain ⟨text, htext⟩ := IsJson.stringify v h.1
      obtain ⟨texts, htexts⟩ := stringifyFields_isOk rest h.2
      exact ⟨_, by rw [stringifyFields, htext, htexts]; rfl⟩

end

/-- A field of a value that came as JSON is another one, or is missing. -/
theorem IsJson.field {v : JsValue} (h : IsJson v) (name : JsString) :
    v.field name = .undefined ∨ IsJson (v.field name) := by
  cases h with
  | obj fields h =>
      cases hlookup : fields.lookup name with
      | none =>
          rw [JsValue.field, hlookup]
          exact .inl rfl
      | some w =>
          rw [JsValue.field, hlookup]
          obtain ⟨before, after, rfl, -⟩ := List.lookup_eq_some_iff.mp hlookup
          exact .inr (h (name, w) (List.mem_append_right _ List.mem_cons_self))
  | _ => exact .inl rfl

/-- So a field can be written back, if it is there or not. -/
theorem IsJson.stringify_field {v : JsValue} (h : IsJson v) (name : JsString) :
    ∃ text, (v.field name).stringify = .ok text := by
  rcases h.field name with hmissing | hjson
  · rw [hmissing]
    exact ⟨_, rfl⟩
  · exact IsJson.stringify _ hjson

/-- The elements of an array that came as JSON did too. -/
theorem IsJson.of_mem {items : List JsValue} (h : IsJson (.arr items)) {v : JsValue}
    (hv : v ∈ items) : IsJson v := by
  cases h with
  | arr _ h => exact h v hv

end Js

end VellarSdk
