import VellarSdk.Js.Value
import VellarSdk.Js.JsonNumber

/-!
# JSON Texts

`JSON.parse`, in two machines. One goes along the text and puts out tokens. The
other reads the tokens and keeps on a stack the arrays and objects that are still
open, with the values it has for them. Neither needs to look ahead but by the one
unit that ends a number, so that both are folds.

The fields of an object come in the order in which JavaScript enumerates them: the
keys that are array indices first and ascending, the others as they were first
written. A key that is written again keeps its place and gets the later value.

`ReadsAs` says of a text that it is a value, whatever ends it, and there is one lemma
about it for each way in which a value is written.

## Main definitions

* `Token`, `LexState`, `lexFrom`: The machine that reads a text.
* `arrayIndex`, `insertField`: The order of the fields.
* `Frame`, `ParseState`, `parseStep`: The machine that reads tokens.
* `jsonParse`: `JSON.parse`.
* `IsToken`, `ReadsAs`: The texts that are a token, and a value.

## Theorems

* `enumerated_insertField`: The fields stay in order.
* `lexFrom_escapeUnits`: What stands in a literal for a string is read as that.
* `reads_number`, `reads_jsonArray`, `reads_jsonObject`: The texts of values.
* `jsonParse_of_reads`: A text that is a value is parsed as that.
-/

namespace VellarSdk

namespace Js

open JsValue

/-- The tokens of a text. -/
inductive Token where
  | openObject
  | closeObject
  | openArray
  | closeArray
  | colon
  | comma
  | value (v : JsValue)

/-- How far a token is read. -/
inductive LexState where
  | start
  | word (rest : JsString) (v : JsValue)
  | number (text : JsString)
  | string (s : JsString)
  | escape (s : JsString)
  | unicode (s : JsString) (code missing : Nat)

/-- White space between tokens. -/
def isJsonSpace (u : CodeUnit) : Bool :=
  u == 9 || u == 10 || u == 13 || u == 32

/-- The units a number is written in. -/
def isNumberUnit (u : CodeUnit) : Bool :=
  isDigit u || u == 43 || u == 45 || u == 46 || isExponent u

/-- What a backslash makes of a letter, other than `u`. -/
def unescape (u : CodeUnit) : Option CodeUnit :=
  if u = 34 ∨ u = 47 ∨ u = 92 then some u
  else if u = 98 then some 8
  else if u = 102 then some 12
  else if u = 110 then some 10
  else if u = 114 then some 13
  else if u = 116 then some 9
  else none

/-- The tokens that are one unit. -/
def punctuation : List (CodeUnit × Token) :=
  [(123, .openObject), (125, .closeObject), (91, .openArray), (93, .closeArray), (58, .colon),
    (44, .comma)]

/-- The words, by the unit they begin with. -/
def words : List (CodeUnit × JsString × JsValue) :=
  [(110, js "ull", .null), (116, js "rue", .bool true), (102, js "alse", .bool false)]

/-- A unit that no token is read before. -/
def beginToken (u : CodeUnit) : Option (List Token × LexState) :=
  if isJsonSpace u then some ([], .start)
  else if u = 34 then some ([], .string [])
  else if isDigit u || u == 45 then some ([], .number [u])
  else match punctuation.lookup u, words.lookup u with
    | some token, _ => some ([token], .start)
    | none, some (rest, v) => some ([], .word rest v)
    | none, none => none

section Lexer

variable (r : Rounding)

/-- The token of a number literal that has ended. It is no token if the units do not
    make up a literal, as in `1.` or `01`. -/
def numberToken (text : JsString) : Option Token :=
  (readNumber text).map (fun q => .value (.num (r.nearest q)))

/-- One unit of a text. -/
def lexStep : LexState → CodeUnit → Option (List Token × LexState)
  | .start, u => beginToken u
  | .word [] _, _ => none
  | .word (c :: rest) v, u =>
      if u ≠ c then none
      else if rest = [] then some ([.value v], .start)
      else some ([], .word rest v)
  | .number text, u =>
      if isNumberUnit u then some ([], .number (text ++ [u]))
      else do
        let token ← numberToken r text
        let (tokens, st) ← beginToken u
        return (token :: tokens, st)
  | .string s, u =>
      if u = 34 then some ([.value (.str s)], .start)
      else if u = 92 then some ([], .escape s)
      -- Control characters must be escaped.
      else if u < 32 then none
      else some ([], .string (s ++ [u]))
  | .escape s, u =>
      if u = 117 then some ([], .unicode s 0 4)
      else (unescape u).map (fun v => ([], .string (s ++ [v])))
  | .unicode s code missing, u =>
      if !isHexDigit u then none
      else if missing = 1 then
        some ([], .string (s ++ [UInt16.ofNat (code * 16 + digitsToNat.digitValue u)]))
      else some ([], .unicode s (code * 16 + digitsToNat.digitValue u) (missing - 1))

/-- At the end of a text only a number may still be open. -/
def lexEnd : LexState → Option (List Token)
  | .start => some []
  | .number text => (numberToken r text).map (fun token => [token])
  | _ => none

/-- The tokens of a text. -/
def lexFrom : LexState → JsString → Option (List Token)
  | st, [] => lexEnd r st
  | st, u :: rest => do
      let (tokens, st') ← lexStep r st u
      let others ← lexFrom st' rest
      return tokens ++ others

end Lexer

/-! ## Objects -/

/-- The array index a key is. -/
def arrayIndex (key : JsString) : Option Nat :=
  if isDigits key && (key.length == 1 || key.head? != some 48) &&
    digitsToNat 10 key < 2 ^ 32 - 1 then some (digitsToNat 10 key)
  else none

/-- Whether a key is enumerated in front of one that was there before it. -/
def overtakes (key other : JsString) : Bool :=
  match arrayIndex key, arrayIndex other with
  | some i, some j => i < j
  | some _, none => true
  | none, _ => false

/-- The fields of an object with one of them set, in the order they are
    enumerated in. -/
def insertField : List (JsString × JsValue) → JsString → JsValue → List (JsString × JsValue)
  | [], key, v => [(key, v)]
  | (other, w) :: rest, key, v =>
      if other = key then (key, v) :: rest
      else if overtakes key other then (key, v) :: (other, w) :: rest
      else (other, w) :: insertField rest key v

/-- A field comes before another one. -/
def Precedes (key other : JsString) : Prop :=
  key ≠ other ∧ overtakes other key = false

instance decidablePrecedes (key other : JsString) : Decidable (Precedes key other) :=
  inferInstanceAs (Decidable (_ ∧ _))

/-- Fields in the order in which an object enumerates them. -/
def Enumerated (fields : List (JsString × JsValue)) : Prop :=
  (fields.map Prod.fst).Pairwise Precedes

instance decidableEnumerated (fields : List (JsString × JsValue)) : Decidable (Enumerated fields) :=
  inferInstanceAs (Decidable (List.Pairwise _ _))

theorem enumerated_cons {e : JsString × JsValue} {fields : List (JsString × JsValue)} :
    Enumerated (e :: fields) ↔ (∀ e' ∈ fields, Precedes e.1 e'.1) ∧ Enumerated fields := by
  unfold Enumerated
  rw [List.map_cons, List.pairwise_cons, List.forall_mem_map]

/-- What overtakes a key precedes what comes after that. -/
theorem precedes_of_overtakes {key other later : JsString} (h : overtakes key other = true)
    (hlater : Precedes other later) : Precedes key later := by
  obtain ⟨-, hlater⟩ := hlater
  refine ⟨?_, ?_⟩
  · rintro rfl
    rw [h] at hlater
    exact absurd hlater (by simp only [Bool.true_eq_false, not_false_eq_true])
  · unfold overtakes at h hlater ⊢
    cases hk : arrayIndex key <;> cases ho : arrayIndex other <;> cases hl : arrayIndex later <;>
      simp_all
    omega

/-- A key that overtakes no other field comes last. -/
theorem insertField_append {fields : List (JsString × JsValue)} {key : JsString}
    (h : ∀ e ∈ fields, Precedes e.1 key) (v : JsValue) :
    insertField fields key v = fields ++ [(key, v)] := by
  induction fields with
  | nil => rfl
  | cons e rest ih =>
      rcases e with ⟨other, w⟩
      rw [List.forall_mem_cons] at h
      rw [insertField, if_neg h.1.1, h.1.2, if_neg Bool.false_ne_true, ih h.2, List.cons_append]

theorem mem_insertField {fields : List (JsString × JsValue)} {key : JsString} {v : JsValue}
    {e : JsString × JsValue} (h : e ∈ insertField fields key v) : e ∈ fields ∨ e = (key, v) := by
  induction fields with
  | nil => exact .inr (List.mem_singleton.mp h)
  | cons e' rest ih =>
      rcases e' with ⟨other, w⟩
      rw [insertField] at h
      by_cases hkey : other = key
      · rw [if_pos hkey] at h
        rcases List.mem_cons.mp h with h | h
        · exact .inr h
        · exact .inl (List.mem_cons_of_mem _ h)
      rw [if_neg hkey] at h
      by_cases hover : overtakes key other = true
      · rw [if_pos hover] at h
        rcases List.mem_cons.mp h with h | h
        · exact .inr h
        · exact .inl h
      · rw [if_neg hover] at h
        rcases List.mem_cons.mp h with h | h
        · exact .inl (h ▸ List.mem_cons_self)
        · exact (ih h).imp_left (List.mem_cons_of_mem _)

/-- The fields of an object stay in order. -/
theorem enumerated_insertField {fields : List (JsString × JsValue)} (h : Enumerated fields)
    (key : JsString) (v : JsValue) : Enumerated (insertField fields key v) := by
  induction fields with
  | nil => exact List.pairwise_singleton _ _
  | cons e rest ih =>
      rcases e with ⟨other, w⟩
      obtain ⟨hfirst, hrest⟩ := enumerated_cons.mp h
      rw [insertField]
      -- A field that is there keeps its place.
      by_cases hkey : other = key
      · subst hkey
        rw [if_pos rfl]
        exact enumerated_cons.mpr ⟨hfirst, hrest⟩
      rw [if_neg hkey]
      -- An index goes before the first field it precedes, and before all behind that.
      by_cases hover : overtakes key other = true
      · rw [if_pos hover]
        refine enumerated_cons.mpr ⟨fun e he => ?_, h⟩
        rcases List.mem_cons.mp he with rfl | he
        · refine ⟨fun heq => hkey heq.symm, ?_⟩
          have hnot : ∀ {a b : JsString}, overtakes a b = true → overtakes b a = false := by
            intro a b hab
            unfold overtakes at hab ⊢
            cases ha : arrayIndex a <;> cases hb : arrayIndex b <;> simp_all
            omega
          exact hnot hover
        · exact precedes_of_overtakes hover (hfirst e he)
      · rw [if_neg hover]
        refine enumerated_cons.mpr ⟨fun e he => ?_, ih hrest⟩
        rcases mem_insertField he with he | rfl
        · exact hfirst e he
        · exact ⟨hkey, by simpa only [Bool.not_eq_true] using hover⟩

/-! ## Values -/

/-- An array or an object that is still open, with what was read of it. In an
    object a key waits for its value. -/
inductive Frame where
  | items (done : List JsValue)
  | fields (done : List (JsString × JsValue)) (key : JsString)

/-- What may come next, in the arrays and objects that are open. Only right
    behind its bracket has one of them nothing in it. -/
inductive ParseState where
  | value (stack : List Frame)
  | key (stack : List Frame) (done : List (JsString × JsValue))
  | colon (stack : List Frame) (done : List (JsString × JsValue)) (key : JsString)
  | after (stack : List Frame) (v : JsValue)

/-- What a token does where the parser stands: a value is awaited, a key, a colon, or
    what comes behind a value. Empty arrays and objects are closed where their first
    element would stand, so that a comma before a closing bracket is an error. -/
def parseStep : ParseState → Token → Option ParseState
  | .value stack, .value v => some (.after stack v)
  | .value stack, .openArray => some (.value (.items [] :: stack))
  | .value stack, .openObject => some (.key stack [])
  | .value (.items [] :: stack), .closeArray => some (.after stack (.arr []))
  | .value _, _ => none
  | .key stack done, .value (.str key) => some (.colon stack done key)
  | .key stack [], .closeObject => some (.after stack (.obj []))
  | .key _ _, _ => none
  | .colon stack done key, .colon => some (.value (.fields done key :: stack))
  | .colon _ _ _, _ => none
  | .after (.items done :: stack) v, .comma => some (.value (.items (done ++ [v]) :: stack))
  | .after (.items done :: stack) v, .closeArray => some (.after stack (.arr (done ++ [v])))
  -- A key that was there before keeps its place and gets the new value.
  | .after (.fields done key :: stack) v, .comma => some (.key stack (insertField done key v))
  | .after (.fields done key :: stack) v, .closeObject =>
      some (.after stack (.obj (insertField done key v)))
  | .after _ _, _ => none

/-- A text ends behind a value, with nothing open. -/
def ParseState.result : ParseState → Option JsValue
  | .after [] v => some v
  | _ => none

/-- A text is read from a state on. -/
def readFrom (r : Rounding) (st : ParseState) (text : JsString) : Option ParseState :=
  (lexFrom r .start text).bind (fun tokens => tokens.foldlM parseStep st)

/-- `JSON.parse(text)`, `none` being the `SyntaxError` it throws. -/
def jsonParse (r : Rounding) (text : JsString) : Option JsValue :=
  (readFrom r (.value []) text).bind ParseState.result

/-! ## Tokens at the front of a text -/

section Reading

variable {r : Rounding}

/-- A text that is one token, whatever comes behind it. -/
def IsToken (r : Rounding) (text : JsString) (token : Token) : Prop :=
  ∀ rest, lexFrom r .start (text ++ rest) = (lexFrom r .start rest).map (token :: ·)

/-- A token is read by the machine that reads tokens. -/
theorem IsToken.readFrom {text : JsString} {token : Token} (h : IsToken r text token)
    (st : ParseState) (rest : JsString) :
    readFrom r st (text ++ rest) = (parseStep st token).bind (fun st' => readFrom r st' rest) := by
  unfold Js.readFrom
  rw [h rest]
  cases lexFrom r .start rest with
  | none => cases parseStep st token <;> rfl
  | some tokens => rw [Option.map_some, Option.bind_some, List.foldlM_cons]; rfl

theorem lexFrom_cons (st : LexState) (u : CodeUnit) (rest : JsString) {tokens : List Token}
    {st' : LexState} (h : lexStep r st u = some (tokens, st')) :
    lexFrom r st (u :: rest) = (lexFrom r st' rest).map (tokens ++ ·) := by
  simp only [lexFrom, h, Option.bind_eq_bind, Option.bind_some]
  cases lexFrom r st' rest <;> rfl

/-- A unit that puts out nothing. -/
theorem lexFrom_cons_nil {st : LexState} {u : CodeUnit} (rest : JsString) {st' : LexState}
    (h : lexStep r st u = some ([], st')) : lexFrom r st (u :: rest) = lexFrom r st' rest := by
  rw [lexFrom_cons st u rest h]
  cases lexFrom r st' rest <;> rfl

/-- The tokens of one unit. -/
theorem isToken_unit {u : CodeUnit} {token : Token}
    (h : beginToken u = some ([token], .start)) : IsToken r [u] token :=
  fun rest => lexFrom_cons .start u rest h

theorem isToken_null : IsToken r "null" (.value .null) := by
  intro rest
  show lexFrom r .start (110 :: 117 :: 108 :: 108 :: rest) = _
  rw [lexFrom_cons_nil _ rfl, lexFrom_cons_nil _ rfl, lexFrom_cons_nil _ rfl,
    lexFrom_cons _ _ _ rfl]
  rfl

theorem isToken_bool (b : Bool) :
    IsToken r (if b then "true" else "false") (.value (.bool b)) := by
  intro rest
  cases b with
  | true =>
      show lexFrom r .start (116 :: 114 :: 117 :: 101 :: rest) = _
      rw [lexFrom_cons_nil _ rfl, lexFrom_cons_nil _ rfl, lexFrom_cons_nil _ rfl,
        lexFrom_cons _ _ _ rfl]
      rfl
  | false =>
      show lexFrom r .start (102 :: 97 :: 108 :: 115 :: 101 :: rest) = _
      rw [lexFrom_cons_nil _ rfl, lexFrom_cons_nil _ rfl, lexFrom_cons_nil _ rfl,
        lexFrom_cons_nil _ rfl, lexFrom_cons _ _ _ rfl]
      rfl

/-! ### Strings -/

theorem digitValue_hexUnit : ∀ d : Nat, d < 16 →
    isHexDigit (UInt16.ofNat (if d < 10 then 48 + d else 87 + d)) = true ∧
      digitsToNat.digitValue (UInt16.ofNat (if d < 10 then 48 + d else 87 + d)) = d := by
  decide

/-- An escape with a letter. -/
theorem lexFrom_escape {c v : CodeUnit} (hc : c ≠ 117) (hv : unescape c = some v)
    (s rest : JsString) :
    lexFrom r (.string s) (92 :: c :: rest) = lexFrom r (.string (s ++ [v])) rest := by
  have hstep : lexStep r (.escape s) c = some ([], .string (s ++ [v])) := by
    rw [lexStep, if_neg hc, hv, Option.map_some]
  rw [lexFrom_cons_nil _ rfl, lexFrom_cons_nil rest hstep]

/-- An escape with the four digits of a unit. -/
theorem lexFrom_hex4 (u : CodeUnit) (s rest : JsString) :
    lexFrom r (.string s) (js "\\u" ++ hex4 u.toNat ++ rest) =
      lexFrom r (.string (s ++ [u])) rest := by
  have hlt : u.toNat < 65536 := u.toNat_lt
  have hstep : ∀ {d code missing : Nat} (tail : JsString), d < 16 → missing ≠ 1 →
      lexFrom r (.unicode s code missing)
        (UInt16.ofNat (if d < 10 then 48 + d else 87 + d) :: tail) =
        lexFrom r (.unicode s (code * 16 + d) (missing - 1)) tail := by
    intro d code missing tail hd hmissing
    obtain ⟨hhex, hvalue⟩ := digitValue_hexUnit d hd
    refine lexFrom_cons_nil tail ?_
    rw [lexStep, hhex, hvalue, Bool.not_true, if_neg Bool.false_ne_true, if_neg hmissing]
  have hlast : ∀ {d code : Nat} (tail : JsString), d < 16 →
      lexFrom r (.unicode s code 1) (UInt16.ofNat (if d < 10 then 48 + d else 87 + d) :: tail) =
        lexFrom r (.string (s ++ [UInt16.ofNat (code * 16 + d)])) tail := by
    intro d code tail hd
    obtain ⟨hhex, hvalue⟩ := digitValue_hexUnit d hd
    refine lexFrom_cons_nil tail ?_
    rw [lexStep, hhex, hvalue, Bool.not_true, if_neg Bool.false_ne_true, if_pos rfl]
  show lexFrom r (.string s) (92 :: 117 :: (hex4 u.toNat ++ rest)) = _
  rw [lexFrom_cons_nil _ rfl, lexFrom_cons_nil _ rfl, hex4]
  simp only [List.map_cons, List.map_nil, List.cons_append, List.nil_append]
  rw [hstep _ (by omega) (by omega), hstep _ (by omega) (by omega), hstep _ (by omega) (by omega),
    hlast _ (by omega)]
  -- The four digits make up the unit again.
  have hcode : (((0 * 16 + u.toNat / 4096) * 16 + u.toNat / 256 % 16) * 16 +
      u.toNat / 16 % 16) * 16 + u.toNat % 16 = u.toNat := by omega
  rw [hcode, UInt16.ofNat_toNat]

/-- A unit that stands for itself. -/
theorem lexFrom_unit {u : CodeUnit} (hquote : u ≠ 34) (hback : u ≠ 92) (hcontrol : ¬ u < 32)
    (s rest : JsString) :
    lexFrom r (.string s) (u :: rest) = lexFrom r (.string (s ++ [u])) rest := by
  refine lexFrom_cons_nil rest ?_
  rw [lexStep, if_neg hquote, if_neg hback, if_neg hcontrol]

/-- A surrogate is none of the units that are escaped with a letter. -/
theorem surrogate_units {u : CodeUnit} (h : 0xD800 ≤ u) : u ≠ 34 ∧ u ≠ 92 ∧ ¬ u < 32 := by
  have hle : 0xD800 ≤ u.toNat := UInt16.le_iff_toNat_le.mp h
  refine ⟨?_, ?_, fun hlt => ?_⟩
  · rintro rfl
    exact absurd hle (by decide)
  · rintro rfl
    exact absurd hle (by decide)
  · have hlt' : u.toNat < 32 := UInt16.lt_iff_toNat_lt.mp hlt
    omega

/-- What stands in a literal for a string is read as the string. -/
theorem lexFrom_escapeUnits (s read rest : JsString) :
    lexFrom r (.string read) (escapeUnits s ++ rest) = lexFrom r (.string (read ++ s)) rest := by
  have hletter : ∀ (c v : CodeUnit) (s read : JsString), c ≠ 117 → unescape c = some v →
      (∀ read, lexFrom r (.string read) (escapeUnits s ++ rest) =
        lexFrom r (.string (read ++ s)) rest) →
      lexFrom r (.string read) (92 :: c :: (escapeUnits s ++ rest)) =
        lexFrom r (.string (read ++ v :: s)) rest := by
    intro c v s read hc hv ih
    rw [lexFrom_escape hc hv, ih, List.append_assoc, List.singleton_append]
  have hdigits : ∀ (u : CodeUnit) (s read : JsString),
      (∀ read, lexFrom r (.string read) (escapeUnits s ++ rest) =
        lexFrom r (.string (read ++ s)) rest) →
      lexFrom r (.string read) (js "\\u" ++ hex4 u.toNat ++ escapeUnits s ++ rest) =
        lexFrom r (.string (read ++ u :: s)) rest := by
    intro u s read ih
    rw [List.append_assoc, lexFrom_hex4, ih, List.append_assoc, List.singleton_append]
  fun_induction escapeUnits s generalizing read with
  | case1 => rw [List.nil_append, List.append_nil]
  | case2 s ih => exact hletter 34 34 s read (by decide) rfl ih
  | case3 s _ ih => exact hletter 92 92 s read (by decide) rfl ih
  | case4 s _ _ ih => exact hletter 98 8 s read (by decide) rfl ih
  | case5 s _ _ _ ih => exact hletter 116 9 s read (by decide) rfl ih
  | case6 s _ _ _ _ ih => exact hletter 110 10 s read (by decide) rfl ih
  | case7 s _ _ _ _ _ ih => exact hletter 102 12 s read (by decide) rfl ih
  | case8 s _ _ _ _ _ _ ih => exact hletter 114 13 s read (by decide) rfl ih
  | case9 u s _ _ _ _ _ _ _ _ ih => exact hdigits u s read ih
  | case10 u _ _ _ _ _ _ _ _ hhigh v s' hlow ih =>
      -- A pair of surrogates stands for itself.
      obtain ⟨hu, hu', hu''⟩ := surrogate_units hhigh.1
      have hle : 0xD800 ≤ v := by
        have hv : 0xDC00 ≤ v.toNat := UInt16.le_iff_toNat_le.mp hlow.1
        exact UInt16.le_iff_toNat_le.mpr (Nat.le_trans (by decide) hv)
      obtain ⟨hv, hv', hv''⟩ := surrogate_units hle
      rw [List.cons_append, List.cons_append, lexFrom_unit hu hu' hu'', lexFrom_unit hv hv' hv'',
        ih, List.append_assoc, List.append_assoc]
      rfl
  | case11 u _ _ _ _ _ _ _ _ _ v s' _ ih => exact hdigits u (v :: s') read ih
  | case12 u =>
      refine hdigits u [] read (fun read => ?_)
      rw [escapeUnits]
      simp only [List.nil_append, List.append_nil]
  | case13 u s _ _ _ _ _ _ _ _ _ _ ih => exact hdigits u s read ih
  | case14 u s hquote hback _ _ _ _ _ hcontrol _ _ ih =>
      rw [List.cons_append, lexFrom_unit hquote hback hcontrol, ih, List.append_assoc,
        List.singleton_append]

theorem isToken_quote (s : JsString) : IsToken r (quote s) (.value (.str s)) := by
  intro rest
  show lexFrom r .start (34 :: (escapeUnits s ++ js "\"") ++ rest) = _
  rw [List.cons_append, List.append_assoc, lexFrom_cons_nil _ rfl, lexFrom_escapeUnits,
    List.nil_append]
  exact lexFrom_cons (.string s) 34 rest rfl

/-! ### Numbers -/

/-- What ends a number in front of it. -/
def EndsNumber (rest : JsString) : Prop :=
  ∀ u ∈ rest.head?, isNumberUnit u = false

theorem endsNumber_nil : EndsNumber [] :=
  fun u hu => absurd hu (by simp only [List.head?_nil, Option.mem_def, reduceCtorEq,
    not_false_eq_true])

theorem endsNumber_cons {u : CodeUnit} (h : isNumberUnit u = false) (rest : JsString) :
    EndsNumber (u :: rest) := by
  intro v hv
  rw [List.head?_cons, Option.mem_some_iff] at hv
  rw [← hv, h]

/-- A number is read up to the first unit that is no part of it. -/
theorem lexFrom_number {text rest : JsString} (hunits : ∀ u ∈ text, isNumberUnit u = true)
    (hrest : EndsNumber rest) (read : JsString) :
    lexFrom r (.number read) (text ++ rest) = (numberToken r (read ++ text)).bind
      (fun token => (lexFrom r .start rest).map (token :: ·)) := by
  induction text generalizing read with
  | nil =>
      rw [List.nil_append, List.append_nil]
      cases rest with
      | nil => cases h : numberToken r read <;> simp [lexFrom, lexEnd, h]
      | cons u rest =>
          -- The number ends here, and what ends it begins the next token.
          have hu : isNumberUnit u = false := hrest u (by rw [List.head?_cons]; rfl)
          simp only [lexFrom, lexStep, hu, Bool.false_eq_true, if_false]
          cases numberToken r read with
          | none => rfl
          | some token =>
              cases beginToken u with
              | none => rfl
              | some step =>
                  rcases step with ⟨tokens, st⟩
                  simp only [Option.bind_eq_bind, Option.bind_some, Option.pure_def]
                  cases lexFrom r st rest <;> rfl
  | cons u text ih =>
      rw [List.forall_mem_cons] at hunits
      have hstep : lexStep r (.number read) u = some ([], .number (read ++ [u])) := by
        rw [lexStep, if_pos hunits.1]
      rw [List.cons_append, lexFrom_cons_nil _ hstep, ih hunits.2, List.append_assoc,
        List.singleton_append]

theorem isNumberUnit_of_isDigit {u : CodeUnit} (h : isDigit u = true) : isNumberUnit u = true := by
  simp only [isNumberUnit, h, Bool.true_or]

theorem isNumberUnit_layout {digits : JsString} (h : ∀ u ∈ digits, isDigit u = true) (point : Int) :
    ∀ u ∈ JsNumber.layout digits point, isNumberUnit u = true := by
  -- Digits, zeros, the point, the exponent and its sign: all of them are units of a number.
  have hzeros : ∀ k : Nat, ∀ u ∈ List.replicate k (48 : CodeUnit), isNumberUnit u = true :=
    fun k u hu => isNumberUnit_of_isDigit (isDigit_of_mem_zeros hu)
  have htake : ∀ n : Nat, ∀ u ∈ digits.take n, isNumberUnit u = true :=
    fun n u hu => isNumberUnit_of_isDigit (h u (List.mem_of_mem_take hu))
  have hdrop : ∀ n : Nat, ∀ u ∈ digits.drop n, isNumberUnit u = true :=
    fun n u hu => isNumberUnit_of_isDigit (h u (List.mem_of_mem_drop hu))
  have hall : ∀ u ∈ digits, isNumberUnit u = true := fun u hu => isNumberUnit_of_isDigit (h u hu)
  have hpoint : ∀ u ∈ js ".", isNumberUnit u = true := by decide
  have hexponent : ∀ u ∈ js "e", isNumberUnit u = true := by decide
  have hsign : ∀ u ∈ (if point - 1 < 0 then js "-" else js "+"), isNumberUnit u = true := by
    by_cases hneg : point - 1 < 0
    · rw [if_pos hneg]
      decide
    · rw [if_neg hneg]
      decide
  have hfraction : ∀ u ∈ (if digits.length = 1 then [] else js "." ++ digits.drop 1),
      isNumberUnit u = true := by
    by_cases hone : digits.length = 1
    · rw [if_pos hone]
      exact fun u hu => absurd hu List.not_mem_nil
    · rw [if_neg hone]
      exact List.forall_mem_append.mpr ⟨hpoint, hdrop 1⟩
  -- The four layouts, from those without a point to those with an exponent.
  rw [JsNumber.layout]
  split
  · exact List.forall_mem_append.mpr ⟨hall, hzeros _⟩
  split
  · exact List.forall_mem_append.mpr ⟨List.forall_mem_append.mpr ⟨htake _, hpoint⟩, hdrop _⟩
  split
  · exact List.forall_mem_append.mpr ⟨List.forall_mem_append.mpr ⟨by decide, hzeros _⟩, hall⟩
  · simp only [List.forall_mem_append]
    exact ⟨⟨⟨⟨htake 1, hfraction⟩, hexponent⟩, hsign⟩,
      fun u hu => isNumberUnit_of_isDigit (isDigit_natToString _ u hu)⟩

theorem isNumberUnit_toStr (q : ℚ) : ∀ u ∈ (JsNumber.finite q).toStr, isNumberUnit u = true := by
  rw [JsNumber.toStr]
  by_cases hzero : q = 0
  · rw [if_pos hzero]
    decide
  · rw [if_neg hzero]
    refine List.forall_mem_append.mpr ⟨?_, isNumberUnit_layout (isDigit_natToString _) _⟩
    by_cases hneg : q < 0
    · rw [if_pos hneg]
      decide
    · rw [if_neg hneg]
      exact fun u hu => absurd hu List.not_mem_nil

/-- A literal begins with a digit or with its sign. -/
theorem beginToken_of_readNumber {text : JsString} {q : ℚ} (h : readNumber text = some q) :
    ∃ u rest, text = u :: rest ∧ beginToken u = some ([], .number [u]) := by
  have hunsigned : ∀ {s : JsString} {q : ℚ}, readUnsigned s = some q →
      ∃ u rest, s = u :: rest ∧ isDigit u = true := by
    intro s q hs
    have hnumber : isUnsignedNumber s = true := by
      by_contra hnot
      rw [readUnsigned, if_neg hnot] at hs
      exact absurd hs (by simp only [reduceCtorEq, not_false_eq_true])
    cases s with
    | nil => exact absurd hnumber (by decide)
    | cons u rest =>
        refine ⟨u, rest, rfl, ?_⟩
        by_contra hu
        rw [Bool.not_eq_true] at hu
        -- The part before the point is empty, or begins with what is no digit.
        by_cases hexp : isExponent u = true
        · simp [isUnsignedNumber, before, hexp, isDigits] at hnumber
        rw [Bool.not_eq_true] at hexp
        by_cases hpoint : u = 46
        · subst hpoint
          simp [isUnsignedNumber, before, hexp, isDigits] at hnumber
        · simp [isUnsignedNumber, before, hexp, beq_eq_false_iff_ne.mpr hpoint, isDigits, hu]
            at hnumber
  have hdigit : ∀ u : CodeUnit, isDigit u = true → beginToken u = some ([], .number [u]) := by
    intro u hu
    have hne : ∀ c : CodeUnit, isDigit c = false → u ≠ c := fun c hc => ne_of_isDigit hu hc
    have hspace : isJsonSpace u = false := by
      rw [isJsonSpace, beq_eq_false_iff_ne.mpr (hne 9 rfl), beq_eq_false_iff_ne.mpr (hne 10 rfl),
        beq_eq_false_iff_ne.mpr (hne 13 rfl), beq_eq_false_iff_ne.mpr (hne 32 rfl)]
      rfl
    rw [beginToken, hspace, if_neg Bool.false_ne_true, if_neg (hne 34 rfl), hu, Bool.true_or,
      if_pos rfl]
  unfold readNumber at h
  split at h
  · next s => exact ⟨45, s, rfl, rfl⟩
  · obtain ⟨u, rest, rfl, hu⟩ := hunsigned h
    exact ⟨u, rest, rfl, hdigit u hu⟩

/-! ## Values -/

/-- A text that is a value, whatever ends it. -/
def ReadsAs (r : Rounding) (text : JsString) (v : JsValue) : Prop :=
  ∀ stack rest, EndsNumber rest →
    readFrom r (.value stack) (text ++ rest) = readFrom r (.after stack v) rest

theorem IsToken.reads {text : JsString} {v : JsValue} (h : IsToken r text (.value v)) :
    ReadsAs r text v := by
  intro stack rest _
  rw [h.readFrom]
  rfl

theorem reads_number {q : ℚ} (h : r.Exact q) :
    ReadsAs r (JsNumber.finite q).toStr (.num (.finite q)) := by
  intro stack rest hrest
  have hread := readNumber_toStr h.isDecimal
  have hunits := isNumberUnit_toStr q
  obtain ⟨u, text, htext, hbegin⟩ := beginToken_of_readNumber hread
  have htoken : numberToken r (JsNumber.finite q).toStr = some (.value (.num (.finite q))) := by
    rw [numberToken, hread, Option.map_some, h]
  rw [htext, List.forall_mem_cons] at hunits
  have hlex : lexFrom r .start ((JsNumber.finite q).toStr ++ rest) =
      (lexFrom r .start rest).map (Token.value (.num (.finite q)) :: ·) := by
    have hstep : lexStep r .start u = some ([], .number [u]) := hbegin
    rw [htext, List.cons_append, lexFrom_cons_nil _ hstep, lexFrom_number hunits.2 hrest,
      List.singleton_append, ← htext, htoken, Option.bind_some]
  rw [readFrom, hlex, readFrom]
  cases lexFrom r .start rest <;> rfl

/-- A token that is one unit and ends a number in front of it. -/
theorem readFrom_unit {u : CodeUnit} {token : Token} (h : beginToken u = some ([token], .start))
    {st : ParseState} (st' : ParseState) (hstep : parseStep st token = some st') (rest : JsString) :
    readFrom r st (u :: rest) = readFrom r st' rest := by
  have htoken := (isToken_unit (r := r) h).readFrom st rest
  rw [List.singleton_append] at htoken
  rw [htoken, hstep, Option.bind_some]

theorem comma_append (s : JsString) : js "," ++ s = 44 :: s :=
  rfl

/-- The elements of an array, up to its bracket. -/
theorem readFrom_items {texts : List JsString} {vs : List JsValue}
    (h : List.Forall₂ (ReadsAs r) texts vs) (hne : texts ≠ []) (stack : List Frame)
    (done : List JsValue) (rest : JsString) :
    readFrom r (.value (.items done :: stack))
      ((List.intersperse (js ",") texts).flatten ++ 93 :: rest) =
      readFrom r (.after stack (.arr (done ++ vs))) rest := by
  induction h generalizing done with
  | nil => exact absurd rfl hne
  | @cons text v texts vs hv hvs ih =>
      cases hvs with
      | nil =>
          rw [List.intersperse_singleton, List.flatten_singleton, hv _ _ (endsNumber_cons rfl rest)]
          exact readFrom_unit rfl _ rfl rest
      | @cons text' v' texts' vs' hv' hvs' =>
          rw [List.intersperse_cons_cons, List.flatten_cons, List.flatten_cons, List.append_assoc,
            List.append_assoc, comma_append, hv _ _ (endsNumber_cons rfl _),
            readFrom_unit rfl _ rfl, ih (List.cons_ne_nil _ _), List.append_assoc,
            List.singleton_append]

theorem reads_jsonArray {texts : List JsString} {vs : List JsValue}
    (h : List.Forall₂ (ReadsAs r) texts vs) : ReadsAs r (jsonArray texts) (.arr vs) := by
  intro stack rest _
  show readFrom r _ (91 :: ((List.intersperse (js ",") texts).flatten ++ js "]") ++ rest) = _
  rw [List.cons_append, List.append_assoc, readFrom_unit rfl _ rfl]
  cases h with
  | nil => exact readFrom_unit rfl _ rfl rest
  | cons hv hvs =>
      exact readFrom_items (.cons hv hvs) (List.cons_ne_nil _ _) stack [] rest

/-- The text of a field. -/
def IsMember (r : Rounding) (text : JsString) (e : JsString × JsValue) : Prop :=
  ∃ t, text = quote e.1 ++ js ":" ++ t ∧ ReadsAs r t e.2

/-- A field, up to what ends its value. -/
theorem readFrom_member {text : JsString} {e : JsString × JsValue} (h : IsMember r text e)
    (stack : List Frame) (done : List (JsString × JsValue)) {rest : JsString}
    (hrest : EndsNumber rest) : readFrom r (.key stack done) (text ++ rest) =
      readFrom r (.after (.fields done e.1 :: stack) e.2) rest := by
  obtain ⟨t, rfl, hreads⟩ := h
  rw [List.append_assoc, List.append_assoc, (isToken_quote e.1).readFrom]
  show readFrom r (.colon stack done e.1) (58 :: (t ++ rest)) = _
  rw [readFrom_unit rfl _ rfl, hreads _ _ hrest]

/-- The fields of an object, up to its bracket. -/
theorem readFrom_fields {texts : List JsString} {fields : List (JsString × JsValue)}
    (h : List.Forall₂ (IsMember r) texts fields) (hne : texts ≠ []) (stack : List Frame)
    {done : List (JsString × JsValue)} (hdone : Enumerated (done ++ fields)) (rest : JsString) :
    readFrom r (.key stack done) ((List.intersperse (js ",") texts).flatten ++ 125 :: rest) =
      readFrom r (.after stack (.obj (done ++ fields))) rest := by
  induction h generalizing done with
  | nil => exact absurd rfl hne
  | @cons text e texts fields he hfields ih =>
      have hlast : insertField done e.1 e.2 = done ++ [e] := by
        refine insertField_append (fun e' he' => ?_) e.2
        unfold Enumerated at hdone
        rw [List.map_append, List.map_cons, List.pairwise_append] at hdone
        exact hdone.2.2 e'.1 (List.mem_map_of_mem he') e.1 List.mem_cons_self
      cases hfields with
      | nil =>
          rw [List.intersperse_singleton, List.flatten_singleton,
            readFrom_member he _ _ (endsNumber_cons rfl rest),
            readFrom_unit rfl (.after stack (.obj (insertField done e.1 e.2))) rfl, hlast]
      | @cons text' e' texts' fields' he' hfields' =>
          rw [List.intersperse_cons_cons, List.flatten_cons, List.flatten_cons, List.append_assoc,
            List.append_assoc, comma_append, readFrom_member he _ _ (endsNumber_cons rfl _),
            readFrom_unit rfl (.key stack (insertField done e.1 e.2)) rfl, hlast,
            ih (List.cons_ne_nil _ _) (by rwa [List.append_assoc, List.singleton_append]),
            List.append_assoc, List.singleton_append]

theorem reads_jsonObject {texts : List JsString} {fields : List (JsString × JsValue)}
    (h : List.Forall₂ (IsMember r) texts fields) (hfields : Enumerated fields) :
    ReadsAs r (jsonObject texts) (.obj fields) := by
  intro stack rest _
  show readFrom r _ (123 :: ((List.intersperse (js ",") texts).flatten ++ js "\x7d") ++ rest) = _
  rw [List.cons_append, List.append_assoc, readFrom_unit rfl _ rfl]
  cases h with
  | nil => exact readFrom_unit rfl _ rfl rest
  | cons he hes =>
      exact readFrom_fields (.cons he hes) (List.cons_ne_nil _ _) stack hfields rest

/-- A text that is a value is read as that. -/
theorem jsonParse_of_reads {text : JsString} {v : JsValue} (h : ReadsAs r text v) :
    jsonParse r text = some v := by
  have hend := h [] [] endsNumber_nil
  rw [List.append_nil] at hend
  rw [jsonParse, hend]
  rfl

end Reading

end Js

end VellarSdk
