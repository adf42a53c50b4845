import VellarSdk.Js.UrlEncoded
import VellarSdk.Wallet.Client

/-!
# Listing Policies

The policies of a gateway can be listed by their status and by when they were created.
The filters are the query of the request. A date that the platform cannot read is refused
before anything is sent; what is sent is read by the gateway as the filters that were
given, whatever texts they are, and nothing else.

An empty text for a date is no filter, as it is falsy.

## Main definitions

* `PolicyListFilters`, `buildListQuery`, `listPolicies`: Listing by filters.
* `PolicyListFilters.params`: The parameters that filters stand for.

## Theorems

* `buildListQuery_eq_ok`: The query for filters whose dates can be read.
* `list_asks_filters`: What the gateway reads of a request.
-/

namespace VellarSdk

namespace Wallet

open Js Async

inductive PolicyListStatus where
  | active
  | draft
  | revoked

def PolicyListStatus.text : PolicyListStatus → JsString
  | .active => js "active"
  | .draft => js "draft"
  | .revoked => js "revoked"

structure PolicyListFilters where
  status : Option PolicyListStatus
  createdAfter : Option JsString
  createdBefore : Option JsString

/-- Which dates `Date.parse` can read is for the platform to say. -/
def parseFilterDate (dateParses : JsString → Bool) (name value : JsString) :
    Except WalletError Unit :=
  if !dateParses value then
    .error (.policyListFilter (js "invalid " ++ name ++ js ": " ++ value))
  else .ok ()

/-- A date that is given and not empty. -/
def givenDate (date : Option JsString) : Option JsString :=
  date.filter (fun value => !value.isEmpty)

/-- The parameter for a date, if one is given. -/
def dateParam (dateParses : JsString → Bool) (name : JsString) (date : Option JsString) :
    Except WalletError (List (JsString × JsString)) :=
  match givenDate date with
  | none => .ok []
  | some value => do
      parseFilterDate dateParses name value
      return [(name, value)]

def buildListQuery (dateParses : JsString → Bool) (filters : Option PolicyListFilters) :
    Except WalletError JsString :=
  match filters with
  | none => .ok []
  | some filters => do
      let after ← dateParam dateParses (js "created_after") filters.createdAfter
      let before ← dateParam dateParses (js "created_before") filters.createdBefore
      let status := filters.status.toList.map (fun status => (js "status", status.text))
      let qs := formText (status ++ after ++ before)
      return if qs.isEmpty then [] else js "?" ++ qs

def listPolicies (d : VellarWalletConfig) (dateParses : JsString → Bool)
    (filters : Option PolicyListFilters) : WalletTask JsValue := do
  let query ← buildListQuery dateParses filters
  req d query getRequest

/-- The parameters that filters stand for. -/
def PolicyListFilters.params (filters : PolicyListFilters) : List (JsString × JsString) :=
  filters.status.toList.map (fun status => (js "status", status.text)) ++
    (givenDate filters.createdAfter).toList.map (fun value => (js "created_after", value)) ++
    (givenDate filters.createdBefore).toList.map (fun value => (js "created_before", value))

/-- Filters whose dates can be read. -/
def Readable (dateParses : JsString → Bool) (filters : PolicyListFilters) : Prop :=
  ∀ value, (givenDate filters.createdAfter = some value ∨
    givenDate filters.createdBefore = some value) → dateParses value = true

theorem dateParam_eq_ok {dateParses : JsString → Bool} {name : JsString} {date : Option JsString}
    {params : List (JsString × JsString)} (h : dateParam dateParses name date = .ok params) :
    params = (givenDate date).toList.map (fun value => (name, value)) ∧
      ∀ value, givenDate date = some value → dateParses value = true := by
  unfold dateParam at h
  cases hdate : givenDate date with
  | none =>
      rw [hdate, Except.ok.injEq] at h
      exact ⟨h.symm, fun value hvalue => absurd hvalue (by simp)⟩
  | some value =>
      rw [hdate] at h
      obtain ⟨u, hparse, hreturn⟩ := bind_eq_ok.mp h
      unfold parseFilterDate at hparse
      by_cases hparses : dateParses value = true
      · refine ⟨(Except.ok.inj hreturn).symm, fun v hv => ?_⟩
        rw [← Option.some.inj hv]
        exact hparses
      · rw [Bool.not_eq_true] at hparses
        rw [hparses] at hparse
        exact absurd hparse (by simp)

/-- A text is empty only of no parameters. -/
theorem formText_eq_nil {pairs : List (JsString × JsString)} (h : formText pairs = []) :
    pairs = [] := by
  have hparse := parseForm_formText pairs
  rw [h] at hparse
  exact List.map_eq_nil_iff.mp hparse.symm

/-- The query for filters, if there is one. -/
theorem buildListQuery_eq_ok {dateParses : JsString → Bool} {filters : PolicyListFilters}
    {query : JsString} (h : buildListQuery dateParses (some filters) = .ok query) :
    Readable dateParses filters ∧
      query = if filters.params.isEmpty then [] else js "?" ++ formText filters.params := by
  unfold buildListQuery at h
  obtain ⟨after, hafter, h⟩ := bind_eq_ok.mp h
  obtain ⟨before, hbefore, h⟩ := bind_eq_ok.mp h
  obtain ⟨rfl, hreadAfter⟩ := dateParam_eq_ok hafter
  obtain ⟨rfl, hreadBefore⟩ := dateParam_eq_ok hbefore
  refine ⟨fun value hvalue => ?_, ?_⟩
  · rcases hvalue with hvalue | hvalue
    · exact hreadAfter value hvalue
    · exact hreadBefore value hvalue
  · rw [← Except.ok.inj h]
    change (if (formText filters.params).isEmpty then [] else js "?" ++ formText filters.params) = _
    by_cases hnone : filters.params = []
    · rw [hnone]
      rfl
    · -- There are parameters, so there is a text of them.
      have htext : formText filters.params ≠ [] := fun hnil => hnone (formText_eq_nil hnil)
      rw [if_neg (by rwa [List.isEmpty_iff]), if_neg (by rwa [List.isEmpty_iff])]

/-- What the gateway reads of a query. -/
theorem parseForm_query {page query : JsString} (hpage : 63 ∉ page) (hfragment : 35 ∉ page)
    {params : List (JsString × JsString)}
    (hquery : query = if params.isEmpty then [] else js "?" ++ formText params) :
    parseForm (queryOf (page ++ query)) = params.map (fun p => (carried p.1, carried p.2)) := by
  cases params with
  | nil =>
      rw [hquery, if_pos List.isEmpty_nil, List.append_nil, queryOf_eq_nil hpage]
      rfl
  | cons p params =>
      rw [hquery, if_neg (by simp), ← List.append_assoc, queryOf_append hpage hfragment,
        parseForm_formText]

theorem mem_stripSlashes {apiUrl : JsString} {u : CodeUnit} (h : u ∈ stripSlashes apiUrl) :
    u ∈ apiUrl := by
  rw [stripSlashes, List.mem_reverse] at h
  exact List.mem_reverse.mp ((List.dropWhile_suffix _).subset h)

/-- A place of the gateway has no query of its own. -/
theorem not_mem_policiesUrl {d : VellarWalletConfig} {u : CodeUnit} (h : u ∉ d.apiUrl.getD [])
    (hpath : u ∉ js "/policies") : u ∉ policiesUrl d [] := by
  rw [policiesUrl, List.append_nil, List.mem_append, not_or]
  exact ⟨fun hmem => h (mem_stripSlashes hmem), hpath⟩

/-- A listing is asked for only by dates that can be read, and once: what the gateway reads
    of the request are the filters that were given, as far as UTF-8 can carry them, and
    nothing else. -/
theorem list_asks_filters (d : VellarWalletConfig) (dateParses : JsString → Bool)
    (filters : PolicyListFilters) (hquery : 63 ∉ d.apiUrl.getD [])
    (hfragment : 35 ∉ d.apiUrl.getD []) (tr : List WalletEvent) (o : WalletOp)
    (k : Except WalletError o.Ret → WalletTask JsValue)
    (hrun : Run awaitAll (listPolicies d dateParses (some filters)) () tr (.call o k) ()) :
    tr = [] ∧ Readable dateParses filters ∧ ∃ query, o = .fetch (policiesUrl d query) getRequest ∧
      parseForm (queryOf (policiesUrl d query)) =
        filters.params.map (fun p => (carried p.1, carried p.2)) := by
  have hlist : Sat awaitAll (fun tr _ o => tr = [] ∧ ∃ query,
      buildListQuery dateParses (some filters) = .ok query ∧
      o = .fetch (policiesUrl d query) getRequest) (fun _ _ _ => True)
      (listPolicies d dateParses (some filters)) [] () := by
    refine sat_lift_bind (fun query hbuilt => ?_) (fun _ _ => trivial)
    exact req_sat ⟨rfl, query, hbuilt, rfl⟩ (fun _ _ _ => trivial) (fun _ _ => trivial)
  obtain ⟨htr, query, hbuilt, ho⟩ := hlist.at_call hrun
  obtain ⟨hreadable, htext⟩ := buildListQuery_eq_ok hbuilt
  have hurl : policiesUrl d query = policiesUrl d [] ++ query := by
    simp only [policiesUrl, List.append_nil]
  refine ⟨htr, hreadable, query, ho, ?_⟩
  rw [hurl]
  exact parseForm_query (not_mem_policiesUrl hquery (by decide))
    (not_mem_policiesUrl hfragment (by decide)) htext

/-- Active policies since a date that looks like more than one parameter. -/
def sampleFilters : PolicyListFilters where
  status := some .active
  createdAfter := some (js "2026-01-01&status=draft")
  createdBefore := some []

theorem list_asks_filters_sample : ∃ query,
    (listPolicies sampleConfig (fun _ => true) (some sampleFilters)).pending =
      some (.fetch (policiesUrl sampleConfig query) getRequest) ∧
    parseForm (queryOf (policiesUrl sampleConfig query)) = sampleFilters.params.map
      (fun p => (carried p.1, carried p.2)) := by
  obtain ⟨o, k, hcall⟩ : ∃ o k, listPolicies sampleConfig (fun _ => true) (some sampleFilters) =
      .call o k := ⟨_, _, rfl⟩
  have hrun : Run awaitAll (listPolicies sampleConfig (fun _ => true) (some sampleFilters)) () []
      (.call o k) () := hcall ▸ Run.refl _ _
  obtain ⟨-, -, query, rfl, hparse⟩ := list_asks_filters sampleConfig (fun _ => true) sampleFilters
    (by decide) (by decide) [] o k hrun
  exact ⟨query, by rw [hcall]; rfl, hparse⟩

end Wallet

end VellarSdk
