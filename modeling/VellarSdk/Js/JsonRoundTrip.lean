import VellarSdk.Js.Json
import VellarSdk.Js.JsonText

/-!
# Writing and Reading JSON

What `JSON.parse` makes of a text that `JSON.stringify` wrote. It is the value that
was written, but for what a text cannot hold: a field without a value is not
written, an element without one and an infinity are written as `null`, and a buffer
as an object. `jsonView` is what is left, and a value that has nothing of the kind in
it is left as it is.

The other way around, whatever text is read, what comes of it is a value of JSON
whose objects list their fields in order. So it can be written, and is read back
again.

## Main definitions

* `jsonView`: What is left of a value that was written.
* `Storable`: Values of named numbers, and of objects with their fields in order.
* `Lossless`: Values of which everything is left.
* `Parsed`: What a text can denote.

## Theorems

* `jsonParse_stringify`: What was written is read as what is left of it.
* `jsonView_of_lossless`: Nothing is lost of a value that a text can hold.
* `jsonParse_spec`: What is read is a value of JSON, its fields in order.
-/

namespace VellarSdk

namespace Js

open JsValue

/-! ## What a value leaves in its text -/

mutual

/-- What `JSON.parse` gives back of a value that `JSON.stringify` wrote, if that
    wrote any. -/
def jsonView : JsValue → Option JsValue
  | .undefined | .bigint _ => none
  | .null | .num (.infinity _) => some .null
  | .bool b => some (.bool b)
  | .num (.finite q) => some (.num (.finite q))
  | .str s => some (.str s)
  | .buffer bytes =>
      some (.obj [(js "type", .str (js "Buffer")),
        (js "data", .arr (bytes.map (fun b => .num (.finite b.toNat))))])
  | .arr items => some (.arr (viewItems items))
  | .obj fields => some (.obj (viewFields fields))

def viewItems : List JsValue → List JsValue
  | [] => []
  | v :: rest => (jsonView v).getD .null :: viewItems rest

def viewFields : List (JsString × JsValue) → List (JsString × JsValue)
  | [] => []
  | (key, v) :: rest => match jsonView v with
    | some w => (key, w) :: viewFields rest
    | none => viewFields rest

end

/-- A value of numbers that have a name, and of objects that list their fields as
    they enumerate them. -/
inductive Storable (r : Rounding) : JsValue → Prop where
  | undefined : Storable r .undefined
  | null : Storable r .null
  | bool (b : Bool) : Storable r (.bool b)
  | finite (q : ℚ) (h : r.Exact q) : Storable r (.num (.finite q))
  | infinity (negative : Bool) : Storable r (.num (.infinity negative))
  | str (s : JsString) : Storable r (.str s)
  | buffer (bytes : Bytes) : Storable r (.buffer bytes)
  | arr (items : List JsValue) (h : ∀ v ∈ items, Storable r v) : Storable r (.arr items)
  | obj (fields : List (JsString × JsValue)) (henum : Enumerated fields)
      (h : ∀ e ∈ fields, Storable r e.2) : Storable r (.obj fields)

/-- A value that has nothing in it that a text cannot hold. -/
inductive Lossless : JsValue → Prop where
  | null : Lossless .null
  | bool (b : Bool) : Lossless (.bool b)
  | finite (q : ℚ) : Lossless (.num (.finite q))
  | str (s : JsString) : Lossless (.str s)
  | arr (items : List JsValue) (h : ∀ v ∈ items, Lossless v) : Lossless (.arr items)
  | obj (fields : List (JsString × JsValue)) (h : ∀ e ∈ fields, Lossless e.2) :
      Lossless (.obj fields)

mutual

/-- It is what its text leaves of it. -/
theorem jsonView_of_lossless : ∀ v : JsValue, Lossless v → jsonView v = some v
  | .undefined, h | .bigint _, h | .buffer _, h | .num (.infinity _), h => by cases h
  | .null, _ | .bool _, _ | .num (.finite _), _ | .str _, _ => by rw [jsonView]
  | .arr items, h => by
      cases h with
      | arr _ h => rw [jsonView, viewItems_of_lossless items h]
  | .obj fields, h => by
      cases h with
      | obj _ h => rw [jsonView, viewFields_of_lossless fields h]

theorem viewItems_of_lossless : ∀ items : List JsValue, (∀ v ∈ items, Lossless v) →
    viewItems items = items
  | [], _ => rfl
  | v :: rest, h => by
      rw [List.forall_mem_cons] at h
      rw [viewItems, jsonView_of_lossless v h.1, viewItems_of_lossless rest h.2, Option.getD_some]

theorem viewFields_of_lossless : ∀ fields : List (JsString × JsValue),
    (∀ e ∈ fields, Lossless e.2) → viewFields fields = fields
  | [], _ => rfl
  | (key, v) :: rest, h => by
      rw [List.forall_mem_cons] at h
      rw [viewFields, jsonView_of_lossless v h.1, viewFields_of_lossless rest h.2]

end

/-- The fields that are left are in the order they were in. -/
theorem sublist_viewFields (fields : List (JsString × JsValue)) :
    ((viewFields fields).map Prod.fst).Sublist (fields.map Prod.fst) := by
  induction fields with
  | nil => exact .refl _
  | cons e rest ih =>
      rcases e with ⟨key, v⟩
      rw [viewFields, List.map_cons]
      cases jsonView v with
      | none => exact .cons _ ih
      | some w => exact ih.cons_cons key

section Stringify

variable {r : Rounding}

theorem exact_byte (b : UInt8) : r.Exact b.toNat := by
  have hlt : b.toNat < 256 := b.toNat_lt
  have h := r.nearest_int b.toNat (by
    rw [Int.natAbs_natCast]
    omega)
  rwa [Int.cast_natCast] at h

theorem reads_byte (b : UInt8) :
    ReadsAs r (natToString b.toNat) (.num (.finite b.toNat)) := by
  have htext : natToString b.toNat = (JsNumber.finite (b.toNat : ℚ)).toStr := by
    have hlt : b.toNat < 256 := b.toNat_lt
    have h := JsNumber.toStr_int (n := b.toNat) (by
      rw [Int.natAbs_natCast]
      omega)
    rw [Int.cast_natCast, intToString_natCast] at h
    exact h.symm
  rw [htext]
  exact reads_number (exact_byte b)

theorem reads_buffer (bytes : Bytes) :
    ReadsAs r (jsonObject [js "\"type\":\"Buffer\"",
        js "\"data\":" ++ jsonArray (bytes.map (fun b => natToString b.toNat))])
      (.obj [(js "type", .str (js "Buffer")),
        (js "data", .arr (bytes.map (fun b => .num (.finite b.toNat))))]) := by
  have hbytes : List.Forall₂ (ReadsAs r) (bytes.map (fun b => natToString b.toNat))
      (bytes.map (fun b => .num (.finite b.toNat))) := by
    rw [List.forall₂_map_left_iff, List.forall₂_map_right_iff, List.forall₂_same]
    exact fun b _ => reads_byte b
  have htype : js "\"type\":\"Buffer\"" = quote (js "type") ++ js ":" ++ quote (js "Buffer") := by
    decide +kernel
  have hdata : js "\"data\":" = quote (js "data") ++ js ":" := by decide +kernel
  refine reads_jsonObject (.cons ⟨_, htype, (isToken_quote _).reads⟩
    (.cons ⟨_, ?_, reads_jsonArray hbytes⟩ .nil)) ?_
  · rw [hdata]
  · have hkeys : Precedes (js "type") (js "data") := ⟨by decide +kernel, by decide +kernel⟩
    exact enumerated_cons.mpr ⟨List.forall_mem_singleton.mpr hkeys, List.pairwise_singleton _ _⟩

mutual

/-- What `JSON.stringify` writes is read as what it leaves of the value. -/
theorem reads_stringify : ∀ (v : JsValue), Storable r v → ∀ text, v.stringify = .ok text →
    Option.Rel (ReadsAs r) text (jsonView v)
  | .undefined, _, text, htext => by
      rw [JsValue.stringify, Except.ok.injEq] at htext
      subst htext
      exact .none
  | .null, _, text, htext => by
      rw [JsValue.stringify, Except.ok.injEq] at htext
      subst htext
      exact .some isToken_null.reads
  | .bool b, _, text, htext => by
      rw [JsValue.stringify, Except.ok.injEq] at htext
      subst htext
      exact .some (isToken_bool b).reads
  | .num (.finite q), h, text, htext => by
      rw [JsValue.stringify, Except.ok.injEq] at htext
      subst htext
      cases h with
      | finite _ h => exact .some (reads_number h)
  -- An infinity is written as `null`, and is read as that.
  | .num (.infinity _), _, text, htext => by
      rw [JsValue.stringify, Except.ok.injEq] at htext
      subst htext
      exact .some isToken_null.reads
  -- A `BigInt` has no text.
  | .bigint _, h, _, _ => by cases h
  | .str s, _, text, htext => by
      rw [JsValue.stringify, Except.ok.injEq] at htext
      subst htext
      exact .some (isToken_quote s).reads
  | .buffer bytes, _, text, htext => by
      rw [JsValue.stringify, Except.ok.injEq] at htext
      subst htext
      exact .some (reads_buffer bytes)
  | .arr items, h, text, htext => by
      rw [JsValue.stringify] at htext
      obtain ⟨texts, htexts, hres⟩ := bind_eq_ok.mp htext
      injection hres with hres
      subst hres
      cases h with
      | arr _ h => exact .some (reads_jsonArray (reads_stringifyItems items h texts htexts))
  | .obj fields, h, text, htext => by
      rw [JsValue.stringify] at htext
      obtain ⟨texts, htexts, hres⟩ := bind_eq_ok.mp htext
      injection hres with hres
      subst hres
      cases h with
      | obj _ henum h =>
          exact .some (reads_jsonObject (reads_stringifyFields fields h texts htexts)
            (List.Pairwise.sublist (sublist_viewFields fields) henum))

theorem reads_stringifyItems : ∀ (items : List JsValue), (∀ v ∈ items, Storable r v) →
    ∀ texts, stringifyItems items = .ok texts → List.Forall₂ (ReadsAs r) texts (viewItems items)
  | [], _, texts, htexts => by
      rw [stringifyItems, Except.ok.injEq] at htexts
      subst htexts
      exact .nil
  | v :: rest, h, texts, htexts => by
      rw [List.forall_mem_cons] at h
      rw [stringifyItems] at htexts
      obtain ⟨text, htext, htexts⟩ := bind_eq_ok.mp htexts
      obtain ⟨others, hothers, hres⟩ := bind_eq_ok.mp htexts
      injection hres with hres
      subst hres
      refine .cons ?_ (reads_stringifyItems rest h.2 others hothers)
      have hrel := reads_stringify v h.1 text htext
      generalize jsonView v = view at hrel
      -- What is not written leaves a `null` behind.
      cases hrel with
      | none => exact isToken_null.reads
      | some hreads => exact hreads

theorem reads_stringifyFields : ∀ (fields : List (JsString × JsValue)),
    (∀ e ∈ fields, Storable r e.2) → ∀ texts, stringifyFields fields = .ok texts →
    List.Forall₂ (IsMember r) texts (viewFields fields)
  | [], _, texts, htexts => by
      rw [stringifyFields, Except.ok.injEq] at htexts
      subst htexts
      exact .nil
  | (key, v) :: rest, h, texts, htexts => by
      rw [List.forall_mem_cons] at h
      rw [stringifyFields] at htexts
      obtain ⟨text, htext, htexts⟩ := bind_eq_ok.mp htexts
      obtain ⟨others, hothers, hres⟩ := bind_eq_ok.mp htexts
      injection hres with hres
      have hrel := reads_stringify v h.1 text htext
      have hrest := reads_stringifyFields rest h.2 others hothers
      rw [viewFields]
      generalize jsonView v = view at hrel
      cases hrel with
      | none =>
          subst hres
          exact hrest
      | some hreads =>
          subst hres
          exact .cons ⟨_, rfl, hreads⟩ hrest

end

/-- What was written is read as what is left of it. -/
theorem jsonParse_stringify {v : JsValue} (h : Storable r v) {text : JsString}
    (htext : v.stringify = .ok (some text)) : jsonParse r text = jsonView v := by
  have hrel := reads_stringify v h (some text) htext
  generalize jsonView v = view at hrel ⊢
  cases hrel with
  | some hreads => exact jsonParse_of_reads hreads

/-! ## What is read -/

/-- A value that a text denotes, with its fields in order. -/
def Parsed (r : Rounding) (v : JsValue) : Prop :=
  IsJson v ∧ Storable r v

theorem parsed_arr {items : List JsValue} (h : ∀ v ∈ items, Parsed r v) :
    Parsed r (.arr items) :=
  ⟨.arr items (fun v hv => (h v hv).1), .arr items (fun v hv => (h v hv).2)⟩

theorem parsed_obj {fields : List (JsString × JsValue)} (henum : Enumerated fields)
    (h : ∀ e ∈ fields, Parsed r e.2) : Parsed r (.obj fields) :=
  ⟨.obj fields (fun e he => (h e he).1), .obj fields henum (fun e he => (h e he).2)⟩

theorem parsed_num (q : ℚ) : Parsed r (.num (r.nearest q)) := by
  refine ⟨.num _, ?_⟩
  cases h : r.nearest q with
  | finite p => exact .finite p (r.nearest_nearest h)
  | infinity negative => exact .infinity negative

/-- A token that is no punctuation is a value. -/
def Token.Parsed (r : Rounding) : Token → Prop
  | .value v => Js.Parsed r v
  | _ => True

/-- The value a word stands for is one. -/
def LexState.Parsed (r : Rounding) : LexState → Prop
  | .word _ v => Js.Parsed r v
  | _ => True

theorem beginToken_parsed {u : CodeUnit} {tokens : List Token} {st : LexState}
    (h : beginToken u = some (tokens, st)) : (∀ token ∈ tokens, token.Parsed r) ∧ st.Parsed r := by
  have hnil : ∀ t ∈ ([] : List Token), t.Parsed r := fun _ ht => absurd ht List.not_mem_nil
  -- What the two tables hold was read from a text in any case.
  have hpunctuation : ∀ e ∈ punctuation, e.2.Parsed r := by
    simp only [punctuation, List.forall_mem_cons, Token.Parsed, true_and]
    exact fun _ he => absurd he List.not_mem_nil
  have hwords : ∀ e ∈ words, Parsed r e.2.2 := by
    simp only [words, List.forall_mem_cons]
    exact ⟨⟨.null, .null⟩, ⟨.bool _, .bool _⟩, ⟨.bool _, .bool _⟩,
      fun _ he => absurd he List.not_mem_nil⟩
  -- A token that was looked up is one of the table.
  have hmem : ∀ {α : Type} {table : List (CodeUnit × α)} {a : α}, table.lookup u = some a →
      (u, a) ∈ table := by
    intro α table a hlookup
    obtain ⟨front, back, rfl, -⟩ := List.lookup_eq_some_iff.mp hlookup
    exact List.mem_append_right _ List.mem_cons_self
  have hpair : ∀ {a : List Token × LexState}, some a = some (tokens, st) →
      a.1 = tokens ∧ a.2 = st := by
    rintro ⟨a, b⟩ heq
    rwa [Option.some.injEq, Prod.mk.injEq] at heq
  rw [beginToken] at h
  by_cases hspace : isJsonSpace u = true
  · rw [if_pos hspace] at h
    obtain ⟨rfl, rfl⟩ := hpair h
    exact ⟨hnil, trivial⟩
  rw [if_neg hspace] at h
  by_cases hquote : u = 34
  · rw [if_pos hquote] at h
    obtain ⟨rfl, rfl⟩ := hpair h
    exact ⟨hnil, trivial⟩
  rw [if_neg hquote] at h
  by_cases hnumber : (isDigit u || u == 45) = true
  · rw [if_pos hnumber] at h
    obtain ⟨rfl, rfl⟩ := hpair h
    exact ⟨hnil, trivial⟩
  rw [if_neg hnumber] at h
  cases hlookup : punctuation.lookup u with
  | some token =>
      rw [hlookup] at h
      obtain ⟨rfl, rfl⟩ := hpair h
      exact ⟨List.forall_mem_singleton.mpr (hpunctuation _ (hmem hlookup)), trivial⟩
  | none =>
      cases hword : words.lookup u with
      | none =>
          rw [hlookup, hword] at h
          exact absurd h (by simp only [reduceCtorEq, not_false_eq_true])
      | some entry =>
          rw [hlookup, hword] at h
          obtain ⟨rfl, rfl⟩ := hpair h
          exact ⟨hnil, hwords _ (hmem hword)⟩

theorem numberToken_parsed {text : JsString} {token : Token}
    (h : numberToken r text = some token) : token.Parsed r := by
  obtain ⟨q, -, rfl⟩ := Option.map_eq_some_iff.mp h
  exact parsed_num q

theorem lexStep_parsed {st st' : LexState} {u : CodeUnit} {tokens : List Token}
    (hst : st.Parsed r) (h : lexStep r st u = some (tokens, st')) :
    (∀ token ∈ tokens, token.Parsed r) ∧ st'.Parsed r := by
  have hnil : ∀ t ∈ ([] : List Token), t.Parsed r := fun _ ht => absurd ht List.not_mem_nil
  have hpair : ∀ {a : List Token × LexState}, some a = some (tokens, st') →
      a.1 = tokens ∧ a.2 = st' := by
    rintro ⟨a, b⟩ heq
    rwa [Option.some.injEq, Prod.mk.injEq] at heq
  have hnone : ¬ (none : Option (List Token × LexState)) = some (tokens, st') := by
    simp only [reduceCtorEq, not_false_eq_true]
  cases st with
  | start => exact beginToken_parsed h
  | word rest v =>
      cases rest with
      | nil => exact absurd h hnone
      | cons c rest =>
          rw [lexStep] at h
          split at h
          · exact absurd h hnone
          split at h
          · obtain ⟨rfl, rfl⟩ := hpair h
            exact ⟨List.forall_mem_singleton.mpr hst, trivial⟩
          · obtain ⟨rfl, rfl⟩ := hpair h
            exact ⟨hnil, hst⟩
  | number text =>
      rw [lexStep] at h
      split at h
      · obtain ⟨rfl, rfl⟩ := hpair h
        exact ⟨hnil, trivial⟩
      -- A number ends in front of a token that begins.
      · obtain ⟨token, htoken, h⟩ := Option.bind_eq_some_iff.mp h
        obtain ⟨⟨others, next⟩, hbegin, h⟩ := Option.bind_eq_some_iff.mp h
        obtain ⟨rfl, rfl⟩ := hpair h
        obtain ⟨hothers, hnext⟩ := beginToken_parsed hbegin
        exact ⟨List.forall_mem_cons.mpr ⟨numberToken_parsed htoken, hothers⟩, hnext⟩
  | string s =>
      rw [lexStep] at h
      split at h
      · obtain ⟨rfl, rfl⟩ := hpair h
        exact ⟨List.forall_mem_singleton.mpr ⟨.str s, .str s⟩, trivial⟩
      split at h
      · obtain ⟨rfl, rfl⟩ := hpair h
        exact ⟨hnil, trivial⟩
      split at h
      · exact absurd h hnone
      · obtain ⟨rfl, rfl⟩ := hpair h
        exact ⟨hnil, trivial⟩
  | escape s =>
      rw [lexStep] at h
      split at h
      · obtain ⟨rfl, rfl⟩ := hpair h
        exact ⟨hnil, trivial⟩
      · obtain ⟨v, -, h⟩ := Option.map_eq_some_iff.mp h
        obtain ⟨rfl, rfl⟩ := hpair (congrArg some h)
        exact ⟨hnil, trivial⟩
  | unicode s code missing =>
      rw [lexStep] at h
      split at h
      · exact absurd h hnone
      split at h
      · obtain ⟨rfl, rfl⟩ := hpair h
        exact ⟨hnil, trivial⟩
      · obtain ⟨rfl, rfl⟩ := hpair h
        exact ⟨hnil, trivial⟩

/-- The values among the tokens of a text are values of JSON. -/
theorem lexFrom_parsed {st : LexState} {text : JsString} {tokens : List Token}
    (hst : st.Parsed r) (h : lexFrom r st text = some tokens) :
    ∀ token ∈ tokens, token.Parsed r := by
  induction text generalizing st tokens with
  | nil =>
      cases st with
      | start =>
          rw [lexFrom, lexEnd, Option.some.injEq] at h
          subst h
          exact fun _ ht => absurd ht List.not_mem_nil
      | number text =>
          obtain ⟨token, htoken, rfl⟩ := Option.map_eq_some_iff.mp h
          exact List.forall_mem_singleton.mpr (numberToken_parsed htoken)
      | _ => exact absurd h (by simp only [lexFrom, lexEnd, reduceCtorEq, not_false_eq_true])
  | cons u rest ih =>
      obtain ⟨⟨front, st'⟩, hstep, h⟩ := Option.bind_eq_some_iff.mp h
      obtain ⟨others, hothers, h⟩ := Option.bind_eq_some_iff.mp h
      obtain ⟨hfront, hst'⟩ := lexStep_parsed hst hstep
      injection h with h
      subst h
      exact List.forall_mem_append.mpr ⟨hfront, ih hst' hothers⟩

def Frame.Parsed (r : Rounding) : Frame → Prop
  | .items done => ∀ v ∈ done, Js.Parsed r v
  | .fields done _ => Enumerated done ∧ ∀ e ∈ done, Js.Parsed r e.2

/-- What was read so far are values of JSON, and fields in order. -/
def ParseState.Parsed (r : Rounding) : ParseState → Prop
  | .value stack => ∀ frame ∈ stack, frame.Parsed r
  | .key stack done | .colon stack done _ =>
      (∀ frame ∈ stack, frame.Parsed r) ∧ Enumerated done ∧ ∀ e ∈ done, Js.Parsed r e.2
  | .after stack v => (∀ frame ∈ stack, frame.Parsed r) ∧ Js.Parsed r v

theorem parsed_insertField {done : List (JsString × JsValue)} (henum : Enumerated done)
    (h : ∀ e ∈ done, Parsed r e.2) {v : JsValue} (hv : Parsed r v) (key : JsString) :
    Enumerated (insertField done key v) ∧ ∀ e ∈ insertField done key v, Parsed r e.2 := by
  refine ⟨enumerated_insertField henum key v, fun e he => ?_⟩
  rcases mem_insertField he with he | rfl
  · exact h e he
  · exact hv

theorem parseStep_parsed {st st' : ParseState} {token : Token} (hst : st.Parsed r)
    (htoken : token.Parsed r) (h : parseStep st token = some st') : st'.Parsed r := by
  -- A list or an object that was just opened is empty.
  have hnoItems : ∀ v ∈ ([] : List JsValue), Parsed r v := fun _ hv => absurd hv List.not_mem_nil
  have hnoFields : Enumerated [] ∧ ∀ e ∈ ([] : List (JsString × JsValue)), Parsed r e.2 :=
    ⟨.nil, fun _ he => absurd he List.not_mem_nil⟩
  have hitems : ∀ {done : List JsValue} {v : JsValue}, (∀ w ∈ done, Parsed r w) → Parsed r v →
      ∀ w ∈ done ++ [v], Parsed r w := fun hdone hv =>
    List.forall_mem_append.mpr ⟨hdone, List.forall_mem_singleton.mpr hv⟩
  unfold parseStep at h
  split at h <;> first | exact absurd h (by simp only [reduceCtorEq, not_false_eq_true]) | skip
  -- One goal for each step that goes on: what is on the stack was there or was just read.
  all_goals
    rw [Option.some.injEq] at h
    subst h
  · exact ⟨hst, htoken⟩
  · exact List.forall_mem_cons.mpr ⟨hnoItems, hst⟩
  · exact ⟨hst, hnoFields⟩
  · exact ⟨(List.forall_mem_cons.mp hst).2, parsed_arr hnoItems⟩
  · exact hst
  · exact ⟨hst.1, parsed_obj hnoFields.1 hnoFields.2⟩
  · exact List.forall_mem_cons.mpr ⟨hst.2, hst.1⟩
  · obtain ⟨hframe, hstack⟩ := List.forall_mem_cons.mp hst.1
    exact List.forall_mem_cons.mpr ⟨hitems hframe hst.2, hstack⟩
  · obtain ⟨hframe, hstack⟩ := List.forall_mem_cons.mp hst.1
    exact ⟨hstack, parsed_arr (hitems hframe hst.2)⟩
  · obtain ⟨hframe, hstack⟩ := List.forall_mem_cons.mp hst.1
    exact ⟨hstack, parsed_insertField hframe.1 hframe.2 hst.2 _⟩
  · obtain ⟨hframe, hstack⟩ := List.forall_mem_cons.mp hst.1
    obtain ⟨henum, hfields⟩ := parsed_insertField hframe.1 hframe.2 hst.2 _
    exact ⟨hstack, parsed_obj henum hfields⟩

theorem parseSteps_parsed {tokens : List Token} {st st' : ParseState} (hst : st.Parsed r)
    (htokens : ∀ token ∈ tokens, token.Parsed r) (h : tokens.foldlM parseStep st = some st') :
    st'.Parsed r := by
  induction tokens generalizing st with
  | nil =>
      rw [List.foldlM_nil] at h
      injection h with h
      rwa [← h]
  | cons token tokens ih =>
      rw [List.forall_mem_cons] at htokens
      rw [List.foldlM_cons] at h
      obtain ⟨next, hnext, h⟩ := Option.bind_eq_some_iff.mp h
      exact ih (parseStep_parsed hst htokens.1 hnext) htokens.2 h

/-- What is read is a value of JSON, its fields in order. -/
theorem jsonParse_spec {text : JsString} {v : JsValue} (h : jsonParse r text = some v) :
    Parsed r v := by
  obtain ⟨st, hst, hresult⟩ := Option.bind_eq_some_iff.mp h
  obtain ⟨tokens, htokens, hsteps⟩ := Option.bind_eq_some_iff.mp hst
  have hstart : (ParseState.value []).Parsed r := fun _ hframe => absurd hframe List.not_mem_nil
  have hlexed : LexState.start.Parsed r := trivial
  have hparsed := parseSteps_parsed hstart (lexFrom_parsed hlexed htokens) hsteps
  unfold ParseState.result at hresult
  split at hresult
  · injection hresult with hresult
    rw [← hresult]
    exact hparsed.2
  · exact absurd hresult (by simp only [reduceCtorEq, not_false_eq_true])

end Stringify

end Js

end VellarSdk
