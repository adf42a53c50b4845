import Mathlib.Algebra.Order.BigOperators.Group.List
import Mathlib.Tactic.Ring
import VellarSdk.X402.FetchGuarantees

/-!
# Spend Trackers

The spend of a rule over many payments. A tracker keeps it, a fetch asks for it
before it pays and adds to it after, and in between lie the simulation, the
signature and the paid request. Any number of fetches of one client go on at the
same time, and nothing keeps them apart.

A state of a client is what its tracker holds and the fetches under way, each
with its calls so far and what is left of it. `ClientState.step` answers one
call of one fetch, so a run of steps is an interleaving, and what holds of every
run holds of every interleaving. The tracker's own calls are answered by the
tracker, at any moment after they were made.

What a fetch that passed the check will record is reserved until it has recorded
it or ended. The ceiling covers what was recorded and what is reserved as long
as every check that passes leaves room for both, which is what the code does not
look at: `RunWhere` says of a run that its steps do.

## Main definitions

* `BudgetAttributeTracker`, `createInMemoryBudgetAttributeTracker`: Trackers.
* `ClientState`, `ClientState.step`, `ClientState.run`: A client's fetches.
* `FetchCall.reserved`, `ClientState.reserved`: What is yet to be recorded.
* `Covered`, `Steady`: What the steps of a run have to meet.

## Theorems

* `invariant_answer`: One answer keeps the ceilings.
* `covered_within_period`: The ceilings hold along runs that meet the conditions.
-/

namespace VellarSdk

namespace X402

open Js Async

/-- A tracker: what it holds, what it starts with, and that recording adds to
    the rule recorded and to no other. Rules are told apart by identity. -/
structure BudgetAttributeTracker (σ : Type) where
  fresh : σ
  spent : σ → Ref BudgetAttributeRule → Int
  record : σ → Ref BudgetAttributeRule → Int → σ
  spent_fresh : ∀ rule, spent fresh rule = 0
  spent_record : ∀ s rule amount rule', spent (record s rule amount) rule' =
    if rule'.2 = rule.2 then spent s rule' + amount else spent s rule'

/-- A `WeakMap` from rules, by their identity. -/
abbrev RuleMap := List (Nat × Int)

/-- The tracker in memory. -/
def createInMemoryBudgetAttributeTracker : BudgetAttributeTracker RuleMap where
  fresh := []
  spent s rule := (s.lookup rule.2).getD 0
  record s rule amount := (rule.2, (s.lookup rule.2).getD 0 + amount) :: s
  spent_fresh _ := rfl
  spent_record s rule amount rule' := by
    rw [List.lookup_cons]
    by_cases h : rule'.2 = rule.2
    · rw [if_pos h, h, beq_self_eq_true]
      rfl
    · rw [if_neg h, beq_eq_false_iff_ne.mpr h]

/-- A fetch: what it was given, its calls so far, and what is left of it. -/
structure FetchCall where
  url : JsString
  init : X402FetchInit
  events : List FetchEvent
  rest : Fetch X402Response

/-- A client: what its tracker holds, and its fetches. -/
structure ClientState (σ : Type) where
  tracker : σ
  fetches : List FetchCall

/-- What can happen to a client: a fetch is started, or the call that one is
    waiting for is answered. -/
inductive ClientAction where
  | fetch (url : JsString) (init : X402FetchInit)
  | answer (i : Nat) (answer : (o : FetchOp) → Except JsError o.Ret)

variable {σ : Type}

/-- The reply to a call. The tracker answers for itself. -/
def replyTo (T : BudgetAttributeTracker σ) (s : σ) (answer : (o : FetchOp) → Except JsError o.Ret) :
    (o : FetchOp) → Except JsError o.Ret × σ
  | .client (.trackerSpent rule) => (.ok (T.spent s rule), s)
  | .trackerRecord rule amount => (.ok (), T.record s rule amount)
  | o => (answer o, s)

namespace ClientState

/-- A client that has not been used. -/
def start (T : BudgetAttributeTracker σ) : ClientState σ :=
  { tracker := T.fresh, fetches := [] }

/-- One thing happening to a client, where it can. -/
def step (d : X402ClientDeps) (T : BudgetAttributeTracker σ) (s : ClientState σ) :
    ClientAction → Option (ClientState σ)
  | .fetch url init => some { s with fetches := s.fetches ++ [⟨url, init, [], x402Fetch d url init⟩] }
  | .answer i answer => match s.fetches[i]? with
    | some ⟨url, init, events, .call o k⟩ =>
        let reply := replyTo T s.tracker answer o
        some { tracker := reply.2
               fetches := s.fetches.set i ⟨url, init, events ++ [⟨o, reply.1⟩], k reply.1⟩ }
    | _ => none

/-- A sequence of things happening to a client. -/
def run (d : X402ClientDeps) (T : BudgetAttributeTracker σ) :
    ClientState σ → List ClientAction → Option (ClientState σ)
  | s, [] => some s
  | s, a :: as => match s.step d T a with
    | some s' => run d T s' as
    | none => none

/-- Every step of a run is taken in a state that meets the condition for it. -/
def RunWhere (d : X402ClientDeps) (T : BudgetAttributeTracker σ)
    (P : ClientState σ → ClientAction → Prop) : ClientState σ → List ClientAction → Prop
  | _, [] => True
  | s, a :: as => P s a ∧ ∀ s', s.step d T a = some s' → RunWhere d T P s' as

end ClientState

/-- A call that asks for what was spent under a rule. -/
def readsRule (id : Nat) (e : FetchEvent) : Bool :=
  match e.op with
  | .client (.trackerSpent rule) => rule.2 == id
  | _ => false

/-- A call that records what was spent. -/
def recordsSpend (e : FetchEvent) : Bool :=
  match e.op with
  | .trackerRecord _ _ => true
  | _ => false

/-- The option a fetch pays for, with its amount, once it was challenged. -/
def FetchCall.chosen (d : X402ClientDeps) (f : FetchCall) : Option (JsValue × Int) :=
  match f.events with
  | ⟨.request _ _, .ok first⟩ :: _ =>
      match challengedFor d f.init.toX402PayOptions first with
      | .ok requirements => (parseAmount (requirements.field "amount")).toOption.map
          (fun amount => (requirements, amount))
      | .error _ => none
  | _ => none

/-- The amount a fetch pays. -/
def FetchCall.amount (d : X402ClientDeps) (f : FetchCall) : Int :=
  ((f.chosen d).map Prod.snd).getD 0

/-- Has the fetch read the spend of the rule, and neither recorded nor ended? -/
def FetchCall.holds (f : FetchCall) (rule : Ref BudgetAttributeRule) : Bool :=
  f.events.any (readsRule rule.2) && !f.events.any recordsSpend && f.rest.outcome.isNone

/-- What the fetch may yet record under the rule. -/
def FetchCall.reserved (d : X402ClientDeps) (f : FetchCall) (rule : Ref BudgetAttributeRule) :
    Int :=
  if f.holds rule then f.amount d else 0

/-- What the fetches under way may yet record under the rule. -/
def ClientState.reserved (d : X402ClientDeps) (s : ClientState σ)
    (rule : Ref BudgetAttributeRule) : Int :=
  (s.fetches.map (fun f => f.reserved d rule)).sum

/-- When a fetch reads the spend of a rule and passes the check, the ceiling has
    room for what the fetches under way may yet record as well. -/
def Covered (d : X402ClientDeps) (T : BudgetAttributeTracker σ) (s : ClientState σ) :
    ClientAction → Prop
  | .fetch _ _ => True
  | .answer i _ => ∀ f rule k periodMaxAmount, s.fetches[i]? = some f →
      f.rest = .call (.client (.trackerSpent rule)) k →
      rule.1.periodMaxAmount = some periodMaxAmount →
      T.spent s.tracker rule + f.amount d ≤ periodMaxAmount →
      T.spent s.tracker rule + s.reserved d rule + f.amount d ≤ periodMaxAmount

/-- The rules decide alike about two requests, or track neither. -/
def SteadyRule (rules : List BudgetAttributeRule) (before after : BudgetAttributeRequest) : Prop :=
  matchingBudgetRule rules before = matchingBudgetRule rules after ∨
    ((∀ rule, matchingBudgetRule rules before = some rule → rule.1.periodMaxAmount = none) ∧
      ∀ rule, matchingBudgetRule rules after = some rule → rule.1.periodMaxAmount = none)

/-- The readings of the clock. -/
def clockReadings (tr : List FetchEvent) : List Int :=
  tr.filterMap (fun e => match e with
    | ⟨.client .now, .ok time⟩ => some time
    | _ => none)

/-- The rules decide alike about a fetch at both times it read the clock. -/
def FetchCall.Steady (d : X402ClientDeps) (f : FetchCall) : Prop :=
  ∀ requirements amount before after, f.chosen d = some (requirements, amount) →
    clockReadings f.events = [before, after] →
    SteadyRule d.budgetAttributes (budgetRequest requirements amount before)
      (budgetRequest requirements amount after)

/-- A fetch is started only when every other one has ended. -/
def Sequential (s : ClientState σ) : ClientAction → Prop
  | .fetch _ _ => ∀ f ∈ s.fetches, f.rest.outcome.isSome = true
  | .answer _ _ => True

section Fetches

variable {d : X402ClientDeps}

/-- The amounts that are admitted fit the period of a rule that was read. -/
theorem BudgetAdmits.of_mem {rules : List BudgetAttributeRule} {hasTracker : Bool}
    {request : BudgetAttributeRequest} {reads : List (Ref BudgetAttributeRule × Int)}
    (h : BudgetAdmits rules hasTracker request reads) {rule : Ref BudgetAttributeRule}
    {spent : Int} (hmem : (rule, spent) ∈ reads) :
    ∃ periodMaxAmount, rule.1.periodMaxAmount = some periodMaxAmount ∧
      spent + request.amount ≤ periodMaxAmount := by
  cases h with
  | unscoped hrules => exact absurd hmem List.not_mem_nil
  | untracked rule hrule hmax hperiod => exact absurd hmem List.not_mem_nil
  | tracked rule' periodMaxAmount spent' hrule hmax hperiod htracker hspent =>
      injection List.mem_singleton.mp hmem with hr hs
      rw [hr, hs]
      exact ⟨periodMaxAmount, hperiod, hspent⟩

/-- A rule with a ceiling for the period was read where it matches. -/
theorem BudgetAdmits.reads_eq {rules : List BudgetAttributeRule}
    {request : BudgetAttributeRequest} {reads : List (Ref BudgetAttributeRule × Int)}
    (h : BudgetAdmits rules true request reads) {rule : Ref BudgetAttributeRule}
    (hrule : matchingBudgetRule rules request = some rule)
    (hperiod : rule.1.periodMaxAmount.isSome = true) : ∃ spent, reads = [(rule, spent)] := by
  cases h with
  | unscoped hrules =>
      subst hrules
      exact absurd hrule (by simp only [matchingBudgetRule, List.zipIdx_nil, List.find?_nil,
        reduceCtorEq, not_false_eq_true])
  | untracked rule' hrule' hmax hnone =>
      rw [hrule] at hrule'
      rw [← Option.some.inj hrule'] at hnone
      rcases hnone with hnone | hnone
      · rw [hnone] at hperiod
        exact absurd hperiod Bool.false_ne_true
      · exact absurd hnone (by decide)
  | tracked rule' periodMaxAmount spent hrule' hmax hperiod' htracker hspent =>
      rw [hrule] at hrule'
      rw [Option.some.inj hrule']
      exact ⟨spent, rfl⟩

theorem readEvent_inj {a b : Ref BudgetAttributeRule × Int} (h : readEvent a = readEvent b) :
    a = b := by
  rcases a with ⟨rule, spent⟩
  rcases b with ⟨rule', spent'⟩
  cases h
  rfl

theorem ofBuildEvent_inj {e e' : BuildEvent} (h : ofBuildEvent e = ofBuildEvent e') : e = e' := by
  rcases e with ⟨op, reply⟩
  rcases e' with ⟨op', reply'⟩
  cases h
  rfl

/-- What was read is what the trace says was read. -/
theorem Admission.mem_read {d : ClientDeps} {requirements : JsValue} {amount time : Int}
    {reads : List (Ref BudgetAttributeRule × Int)} {tr : List BuildEvent}
    (h : Admission d requirements amount time reads tr) {rule : Ref BudgetAttributeRule}
    {spent : Int} (hmem : readEvent (rule, spent) ∈ tr) : (rule, spent) ∈ reads := by
  rcases h.trace with ⟨rest, rfl, hrest⟩
  rcases List.mem_cons.mp hmem with hclock | hmem
  · injection hclock with hop _
    exact absurd hop (by simp only [reduceCtorEq, not_false_eq_true])
  rcases List.mem_append.mp hmem with hread | hother
  · rcases List.mem_map.mp hread with ⟨read, hin, heq⟩
    rwa [← readEvent_inj heq]
  · exact absurd (hrest _ hother) (by simp only [readEvent, ClientOp.Building,
      not_false_eq_true])

/-- The builder records nothing. -/
theorem any_recordsSpend_openedTrace (url : JsString) (init : X402FetchInit) (first : Response)
    (building : List BuildEvent) :
    (openedTrace url init first building).any recordsSpend = false := by
  simp only [openedTrace, List.any_cons, List.any_map, List.any_eq_false, Bool.or_eq_false_iff]
  exact ⟨rfl, fun e _ => Bool.false_ne_true⟩

theorem clockReadings_append (tr tr' : List FetchEvent) :
    clockReadings (tr ++ tr') = clockReadings tr ++ clockReadings tr' :=
  List.filterMap_append

/-- The builder reads the clock once. -/
theorem clockReadings_openedTrace {d : ClientDeps} {url : JsString} {init : X402FetchInit}
    {first : Response} {requirements : JsValue} {amount time : Int}
    {reads : List (Ref BudgetAttributeRule × Int)} {building : List BuildEvent}
    (h : Admission d requirements amount time reads building) :
    clockReadings (openedTrace url init first building) = [time] := by
  rcases h.trace with ⟨rest, rfl, hrest⟩
  have hquiet : clockReadings ((reads.map readEvent ++ rest).map ofBuildEvent) = [] := by
    rw [clockReadings, List.filterMap_map, List.filterMap_eq_nil_iff]
    intro e he
    rcases List.mem_append.mp he with he | he
    · rcases List.mem_map.mp he with ⟨read, -, rfl⟩
      rfl
    · have hop := hrest e he
      rcases e with ⟨op, reply⟩
      cases op with
      | now => exact hop.elim
      | _ => rfl
  change time :: clockReadings ((reads.map readEvent ++ rest).map ofBuildEvent) = [time]
  rw [hquiet]

/-- What a fetch that opened its order pays for. -/
theorem FetchCall.chosen_eq {f : FetchCall} {first : Response} {building : List BuildEvent}
    {later : List FetchEvent} {requirements : JsValue} {amount : Int}
    (hevents : f.events = openedTrace f.url f.init first building ++ later)
    (hchosen : challengedFor d f.init.toX402PayOptions first = .ok requirements)
    (hparsed : parseAmount (requirements.field "amount") = .ok amount) :
    f.chosen d = some (requirements, amount) := by
  rw [FetchCall.chosen, hevents]
  simp only [openedTrace, List.cons_append, hchosen, hparsed, Except.toOption, Option.map_some]

theorem FetchCall.amount_eq {f : FetchCall} {requirements : JsValue} {amount : Int}
    (h : f.chosen d = some (requirements, amount)) : f.amount d = amount := by
  rw [FetchCall.amount, h]
  rfl

theorem FetchCall.amount_nonneg (f : FetchCall) : 0 ≤ f.amount d := by
  unfold FetchCall.amount FetchCall.chosen
  split
  · split
    · next requirements _ =>
        cases hparsed : parseAmount (requirements.field "amount") with
        | error e => exact le_refl _
        | ok amount => exact parseAmount_nonneg hparsed
    · exact le_refl _
  · exact le_refl _

theorem FetchCall.reserved_nonneg (f : FetchCall) (rule : Ref BudgetAttributeRule) :
    0 ≤ f.reserved d rule := by
  unfold FetchCall.reserved
  split
  · exact f.amount_nonneg
  · exact le_refl _

/-- A fetch that has read the spend of a rule got past the budget rules. -/
theorem FetchStage.of_read {url : JsString} {init : X402FetchInit} {tr : List FetchEvent}
    {op : FetchOp} (h : FetchStage d url init tr op) {rule : Ref BudgetAttributeRule} {spent : Int}
    (hmem : ofBuildEvent (readEvent (rule, spent)) ∈ tr) :
    ∃ first building later requirements amount time reads,
      tr = openedTrace url init first building ++ later ∧
      challengedFor d init.toX402PayOptions first = .ok requirements ∧
      Admission d.toClientDeps requirements amount time reads building ∧
      (rule, spent) ∈ reads := by
  -- A read is a call of the builder, and the builder's calls stand between the two requests.
  have hbuilding : ∀ first building, ofBuildEvent (readEvent (rule, spent)) ∈
      openedTrace url init first building → readEvent (rule, spent) ∈ building := by
    intro first building h
    rcases List.mem_cons.mp h with h | h
    · injection h with hop _
      exact absurd hop (by simp only [reduceCtorEq, not_false_eq_true])
    · rcases List.mem_map.mp h with ⟨e, he, heq⟩
      rwa [← ofBuildEvent_inj heq]
  have hplaced : ∀ (o : Order) (later : List FetchEvent), Order.Placed d init o →
      ofBuildEvent (readEvent (rule, spent)) ∈ openedTrace url init o.first o.building →
      ∃ first building later' requirements amount time reads,
        openedTrace url init o.first o.building ++ later =
          openedTrace url init first building ++ later' ∧
        challengedFor d init.toX402PayOptions first = .ok requirements ∧
        Admission d.toClientDeps requirements amount time reads building ∧
        (rule, spent) ∈ reads := by
    intro o later ho h
    exact ⟨o.first, o.building, later, o.requirements, o.amount, o.time, o.reads, rfl, ho.chosen,
      ho.admission, ho.admission.mem_read (hbuilding _ _ h)⟩
  have hrequest : ∀ (o : Order) header (paid : Response),
      ofBuildEvent (readEvent (rule, spent)) ∈ o.paidTrace url init header paid →
      ofBuildEvent (readEvent (rule, spent)) ∈ openedTrace url init o.first o.building := by
    intro o header paid h
    rcases List.mem_append.mp h with h | h
    · exact h
    · injection List.mem_singleton.mp h with hop _
      exact absurd hop (by simp only [reduceCtorEq, not_false_eq_true])
  cases op with
  | request url' sent =>
      rcases h.2 with ⟨rfl, -⟩ | ⟨o, header, ho, rfl, -⟩
      · exact absurd hmem List.not_mem_nil
      · have hread := hplaced o [] ho hmem
        rwa [List.append_nil] at hread
  | client op =>
      rcases h with ⟨first, requirements, building, -, hchosen, rfl, hstage⟩ |
        ⟨-, o, header, paid, ho, rfl⟩
      · have hin := hbuilding _ _ hmem
        have hadmitted : ∃ amount time reads,
            Admission d.toClientDeps requirements amount time reads building := by
          cases op with
          | now =>
              rw [show building = [] from hstage] at hin
              exact absurd hin List.not_mem_nil
          | trackerSpent rule' =>
              rcases hstage with ⟨amount, time, rfl, -⟩
              injection List.mem_singleton.mp hin with hop _
              exact absurd hop (by simp only [reduceCtorEq, not_false_eq_true])
          | build args => exact hstage
          | getLatestLedger => exact hstage
          | signAuthEntry entryXdr passphrase expirationLedger =>
              rcases hstage with ⟨amount, time, reads, hadmission, -⟩
              exact ⟨amount, time, reads, hadmission⟩
          | simulate auth => exact hstage.elim
        rcases hadmitted with ⟨amount, time, reads, hadmission⟩
        exact ⟨first, building, [], requirements, amount, time, reads, (List.append_nil _).symm,
          hchosen, hadmission, hadmission.mem_read hin⟩
      · exact hplaced o _ ho (hrequest o header paid hmem)
  | trackerRecord rule' amount =>
      rcases h with ⟨o, header, paid, time, ho, rfl, -⟩
      rcases List.mem_append.mp hmem with hmem | hmem
      · have hread := hplaced o ([⟨.request url (paidInit init header), .ok paid⟩] ++
          [⟨.client .now, .ok time⟩]) ho (hrequest o header paid hmem)
        rwa [← List.append_assoc] at hread
      · injection List.mem_singleton.mp hmem with hop _
        injection hop with hop
        exact absurd hop (by simp only [readEvent, reduceCtorEq, not_false_eq_true])

/-- A fetch as it got where it is. -/
def FetchCall.Reached (d : X402ClientDeps) (f : FetchCall) : Prop :=
  Run fetchHandler (x402Fetch d f.url f.init) () f.events f.rest ()

/-- Where a fetch that is waiting stands. -/
theorem FetchCall.Reached.stage {f : FetchCall} (h : f.Reached d) {op : FetchOp}
    {k : Except JsError op.Ret → Fetch X402Response} (hrest : f.rest = .call op k) :
    FetchStage d f.url f.init f.events op := by
  rw [FetchCall.Reached, hrest] at h
  exact (x402Fetch_sat d f.url f.init).at_call h

/-- A fetch with one more reply. -/
def FetchCall.resume (f : FetchCall) (op : FetchOp)
    (k : Except JsError op.Ret → Fetch X402Response) (reply : Except JsError op.Ret) : FetchCall :=
  { f with events := f.events ++ [⟨op, reply⟩], rest := k reply }

theorem FetchCall.Reached.resume {f : FetchCall} (h : f.Reached d) {op : FetchOp}
    {k : Except JsError op.Ret → Fetch X402Response} (hrest : f.rest = .call op k)
    (reply : Except JsError op.Ret) : (f.resume op k reply).Reached d := by
  rw [FetchCall.Reached, hrest] at h
  exact run_trans h (Run.reply op k () reply [] _ () rfl (Run.refl _ _))

/-- A fetch about to read the spend of a rule holds nothing. -/
theorem FetchCall.Reached.spent {f : FetchCall} (h : f.Reached d)
    {rule : Ref BudgetAttributeRule} {k : Except JsError Int → Fetch X402Response}
    (hrest : f.rest = .call (.client (.trackerSpent rule)) k) (id : Nat) :
    f.events.any (readsRule id) = false := by
  rcases h.stage hrest with ⟨first, requirements, building, -, -, hevents, amount, time, rfl, -⟩ |
    ⟨hop, -⟩
  · rw [hevents]
    rfl
  · exact absurd hop (by simp only [reduceCtorEq, not_false_eq_true])

/-- What is left of a fetch that has read the spend of a rule, and goes on, is
    within the ceiling of the rule. -/
theorem FetchCall.Reached.checked {f : FetchCall} (h : f.Reached d)
    (hrest : f.rest.outcome.isNone = true) {rule : Ref BudgetAttributeRule} {spent : Int}
    (hread : ofBuildEvent (readEvent (rule, spent)) ∈ f.events) :
    ∃ periodMaxAmount, rule.1.periodMaxAmount = some periodMaxAmount ∧
      spent + f.amount d ≤ periodMaxAmount := by
  cases hcall : f.rest with
  | done r =>
      rw [hcall] at hrest
      exact absurd hrest Bool.false_ne_true
  | call op k =>
      rcases (h.stage hcall).of_read hread with ⟨first, building, later, requirements, amount, time,
        reads, hevents, hchosen, hadmission, hmem⟩
      rw [FetchCall.amount_eq (FetchCall.chosen_eq hevents hchosen hadmission.parsed)]
      exact hadmission.admits.of_mem hmem

/-- A fetch about to record: what it records, and when it read the clock. -/
theorem FetchCall.Reached.record {f : FetchCall} (h : f.Reached d)
    {rule : Ref BudgetAttributeRule} {amount : Int} {k : Except JsError Unit → Fetch X402Response}
    (hrest : f.rest = .call (.trackerRecord rule amount) k) (hsteady : f.Steady d) :
    f.holds rule = true ∧ amount = f.amount d := by
  rcases h.stage hrest with ⟨o, header, paid, time, ho, hevents, rfl, htracked, hrule, hperiod⟩
  have hopened : f.events = openedTrace f.url f.init o.first o.building ++
      [⟨.request f.url (paidInit f.init header), .ok paid⟩, ⟨.client .now, .ok time⟩] := by
    rw [hevents, Order.paidTrace, List.append_assoc]
    rfl
  have hchosen := FetchCall.chosen_eq hopened ho.chosen ho.admission.parsed
  refine ⟨?_, (FetchCall.amount_eq hchosen).symm⟩
  rcases ho.admission.trace with ⟨rest, hbuilding, hquiet⟩
  -- The clock was read once before the payment and once after.
  have hclock : clockReadings f.events = [o.time, time] := by
    rw [hopened, clockReadings_append, clockReadings_openedTrace ho.admission]
    rfl
  -- So the rule that matches now is the one that matched then, and it was read.
  have hmatched : matchingBudgetRule d.budgetAttributes
      (budgetRequest o.requirements o.amount o.time) = some rule := by
    rcases hsteady _ _ _ _ hchosen hclock with hsame | ⟨-, hnone⟩
    · rw [hsame, hrule]
    · rw [hnone rule hrule] at hperiod
      exact absurd hperiod Bool.false_ne_true
  have hadmits := ho.admission.admits
  rw [htracked.1] at hadmits
  rcases hadmits.reads_eq hmatched hperiod with ⟨spent, hreads⟩
  have hread : f.events.any (readsRule rule.2) = true := by
    rw [List.any_eq_true]
    refine ⟨ofBuildEvent (readEvent (rule, spent)), ?_, beq_self_eq_true _⟩
    rw [hopened, openedTrace, hbuilding, hreads]
    simp only [List.map_cons, List.mem_append, List.mem_cons, List.cons_append, true_or, or_true]
  have hrecords : f.events.any recordsSpend = false := by
    rw [hopened, List.any_append, any_recordsSpend_openedTrace]
    rfl
  rw [FetchCall.holds, hread, hrecords, hrest]
  rfl

end Fetches

section Invariant

variable {d : X402ClientDeps} {T : BudgetAttributeTracker σ} {s s' : ClientState σ}

/-- What holds of a client throughout: its fetches got where they are, and
    neither what was recorded nor what may yet be goes over a ceiling. -/
structure ClientInvariant (d : X402ClientDeps) (T : BudgetAttributeTracker σ)
    (s : ClientState σ) : Prop where
  reached : ∀ f ∈ s.fetches, f.Reached d
  within : ∀ rule ∈ d.budgetAttributes.zipIdx, ∀ periodMaxAmount,
    rule.1.periodMaxAmount = some periodMaxAmount →
    T.spent s.tracker rule + s.reserved d rule ≤ periodMaxAmount

/-- What answering a call does. -/
theorem step_answer {i : Nat} {answer : (o : FetchOp) → Except JsError o.Ret}
    (h : s.step d T (.answer i answer) = some s') : ∃ f op k, s.fetches[i]? = some f ∧
      f.rest = .call op k ∧ s' = { tracker := (replyTo T s.tracker answer op).2
                                   fetches := s.fetches.set i (f.resume op k
                                     (replyTo T s.tracker answer op).1) } := by
  simp only [ClientState.step] at h
  split at h
  · next url init events op k hf => exact ⟨_, op, k, hf, rfl, (Option.some.inj h).symm⟩
  · exact absurd h (by simp only [reduceCtorEq, not_false_eq_true])

/-- What is reserved changes by the fetch that moved. -/
theorem reserved_set {i : Nat} {f : FetchCall} (hf : s.fetches[i]? = some f) (tracker : σ)
    (f' : FetchCall) (rule : Ref BudgetAttributeRule) :
    ClientState.reserved d ⟨tracker, s.fetches.set i f'⟩ rule =
      s.reserved d rule - f.reserved d rule + f'.reserved d rule := by
  rcases List.getElem?_eq_some_iff.mp hf with ⟨hi, hget⟩
  unfold ClientState.reserved
  rw [List.map_set, List.sum_set', dif_pos (by rwa [List.length_map]), List.getElem_map, hget]
  ring

theorem reserved_nonneg (s : ClientState σ) (rule : Ref BudgetAttributeRule) :
    0 ≤ s.reserved d rule := by
  refine List.sum_nonneg (fun n hn => ?_)
  rcases List.mem_map.mp hn with ⟨f, -, rfl⟩
  exact f.reserved_nonneg rule

/-- A fetch that has read nothing has nothing reserved. -/
theorem FetchCall.reserved_of_unread {f : FetchCall} {rule : Ref BudgetAttributeRule}
    (h : f.events.any (readsRule rule.2) = false) : f.reserved d rule = 0 := by
  rw [FetchCall.reserved, FetchCall.holds, h]
  rfl

/-- A fetch that has recorded has nothing reserved any more. -/
theorem FetchCall.reserved_of_recorded {f : FetchCall} (rule : Ref BudgetAttributeRule)
    (h : f.events.any recordsSpend = true) : f.reserved d rule = 0 := by
  rw [FetchCall.reserved, FetchCall.holds, h, Bool.not_true, Bool.and_false, Bool.false_and]
  rfl

/-- The first reply of a fetch decides about its amount. -/
theorem FetchCall.amount_resume {f : FetchCall} (hne : f.events ≠ []) (op : FetchOp)
    (k : Except JsError op.Ret → Fetch X402Response) (reply : Except JsError op.Ret) :
    (f.resume op k reply).amount d = f.amount d := by
  rcases f with ⟨url, init, events, rest⟩
  cases events with
  | nil => exact absurd rfl hne
  | cons e events =>
      rcases e with ⟨op', reply'⟩
      cases op' <;> cases reply' <;> rfl

/-- A call that neither reads nor records reserves nothing more. -/
theorem FetchCall.reserved_resume_le {f : FetchCall} {op : FetchOp}
    {k : Except JsError op.Ret → Fetch X402Response} (hrest : f.rest = .call op k)
    (reply : Except JsError op.Ret) {rule : Ref BudgetAttributeRule}
    (hread : readsRule rule.2 ⟨op, reply⟩ = false) :
    (f.resume op k reply).reserved d rule ≤ f.reserved d rule := by
  by_cases hholds : (f.resume op k reply).holds rule = true
  · have hparts := hholds
    simp only [FetchCall.holds, FetchCall.resume, List.any_append, List.any_cons, List.any_nil,
      hread, Bool.or_false, Bool.and_eq_true, Bool.not_eq_true', Bool.or_eq_false_iff] at hparts
    have hbefore : f.holds rule = true := by
      rw [FetchCall.holds, hparts.1.1, hparts.1.2.1, hrest]
      rfl
    have hne : f.events ≠ [] := by
      intro hnil
      rw [hnil] at hparts
      exact absurd hparts.1.1 Bool.false_ne_true
    rw [FetchCall.reserved, FetchCall.reserved, if_pos hholds, if_pos hbefore,
      FetchCall.amount_resume hne]
  · rw [FetchCall.reserved, if_neg hholds]
    exact f.reserved_nonneg rule

/-- Answering a read keeps the ceilings where the check leaves room. -/
theorem within_read {i : Nat} {f : FetchCall} {rule : Ref BudgetAttributeRule}
    {k : Except JsError Int → Fetch X402Response} (hinv : ClientInvariant d T s)
    (hf : s.fetches[i]? = some f) (hrest : f.rest = .call (.client (.trackerSpent rule)) k)
    (hroom : ∀ periodMaxAmount, rule.1.periodMaxAmount = some periodMaxAmount →
      T.spent s.tracker rule + f.amount d ≤ periodMaxAmount →
      T.spent s.tracker rule + s.reserved d rule + f.amount d ≤ periodMaxAmount)
    {rule' : Ref BudgetAttributeRule} (hrule' : rule' ∈ d.budgetAttributes.zipIdx)
    {periodMaxAmount : Int} (hperiod : rule'.1.periodMaxAmount = some periodMaxAmount) :
    T.spent s.tracker rule' + (s.reserved d rule' - f.reserved d rule' +
      (f.resume (.client (.trackerSpent rule)) k (.ok (T.spent s.tracker rule))).reserved d rule')
      ≤ periodMaxAmount := by
  have hreached := hinv.reached f (List.mem_of_getElem? hf)
  have hbefore := hinv.within rule' hrule' periodMaxAmount hperiod
  rw [FetchCall.reserved_of_unread (hreached.spent hrest rule'.2), sub_zero]
  have hafter := hreached.resume hrest (.ok (T.spent s.tracker rule))
  generalize hf' : f.resume (.client (.trackerSpent rule)) k (.ok (T.spent s.tracker rule)) = f'
    at hafter
  have hevents : f'.events = f.events ++
      [ofBuildEvent (readEvent (rule, T.spent s.tracker rule))] := by
    rw [← hf']
    rfl
  by_cases hholds : f'.holds rule' = true
  swap
  · rw [FetchCall.reserved, if_neg hholds, add_zero]
    exact hbefore
  -- It goes on, so the check passed, and what it read is the spend of this rule.
  have hparts := hholds
  simp only [FetchCall.holds, Bool.and_eq_true] at hparts
  rcases hreached.stage hrest with
    ⟨first, requirements, building, -, hchosen, hopened, amount, time, -, hparsed, hmatch, -, -⟩ |
    ⟨hop, -⟩
  swap
  · exact absurd hop (by simp only [reduceCtorEq, not_false_eq_true])
  have hsame : rule' = rule := by
    have hid : rule'.2 = rule.2 := by
      have hany := hparts.1.1
      rw [hevents, List.any_append, hreached.spent hrest, Bool.false_or, List.any_cons,
        List.any_nil, Bool.or_false] at hany
      exact (beq_iff_eq.mp hany).symm
    have hget := (mem_zipIdx_iff _ rule').mp hrule'
    rw [hid, (mem_zipIdx_iff _ rule).mp (mem_of_matchingBudgetRule hmatch)] at hget
    exact Prod.ext (Option.some.inj hget).symm hid
  subst hsame
  have hne : f.events ≠ [] := by
    rw [hopened]
    exact List.cons_ne_nil _ _
  have hamount : f'.amount d = f.amount d := by
    rw [← hf']
    exact FetchCall.amount_resume hne (.client (.trackerSpent rule')) k _
  have hread : ofBuildEvent (readEvent (rule', T.spent s.tracker rule')) ∈ f'.events := by
    rw [hevents]
    exact List.mem_append_right _ (List.mem_singleton_self _)
  rcases hafter.checked hparts.2 hread with ⟨periodMaxAmount', hperiod', hspent⟩
  rw [hperiod] at hperiod'
  rw [hamount, ← Option.some.inj hperiod'] at hspent
  have hle := hroom periodMaxAmount hperiod hspent
  rw [FetchCall.reserved, if_pos hholds, hamount]
  omega

/-- Recording moves what was reserved to what is spent. -/
theorem within_record {i : Nat} {f : FetchCall} {rule : Ref BudgetAttributeRule} {amount : Int}
    {k : Except JsError Unit → Fetch X402Response} (hinv : ClientInvariant d T s)
    (hf : s.fetches[i]? = some f) (hrest : f.rest = .call (.trackerRecord rule amount) k)
    (hsteady : f.Steady d) {rule' : Ref BudgetAttributeRule}
    (hrule' : rule' ∈ d.budgetAttributes.zipIdx) {periodMaxAmount : Int}
    (hperiod : rule'.1.periodMaxAmount = some periodMaxAmount) :
    T.spent (T.record s.tracker rule amount) rule' + (s.reserved d rule' - f.reserved d rule' +
      (f.resume (.trackerRecord rule amount) k (.ok ())).reserved d rule') ≤ periodMaxAmount := by
  have hreached := hinv.reached f (List.mem_of_getElem? hf)
  have hbefore := hinv.within rule' hrule' periodMaxAmount hperiod
  -- Once it is recorded, a payment is no longer reserved for.
  have hrecorded : (f.resume (.trackerRecord rule amount) k (.ok ())).events.any recordsSpend =
      true := by
    rw [List.any_eq_true]
    exact ⟨⟨.trackerRecord rule amount, .ok ()⟩,
      List.mem_append_right _ (List.mem_singleton_self _), rfl⟩
  rw [FetchCall.reserved_of_recorded rule' hrecorded, add_zero, T.spent_record]
  -- What is recorded is what was held for, so the sum of the two stays the same.
  by_cases hid : rule'.2 = rule.2
  · rcases hreached.record hrest hsteady with ⟨hholds, hamount⟩
    have hreserved : f.reserved d rule' = amount := by
      rw [FetchCall.holds, ← hid] at hholds
      rw [FetchCall.reserved, FetchCall.holds, if_pos hholds, hamount]
    rw [if_pos hid, hreserved]
    omega
  · have hnonneg := f.reserved_nonneg (d := d) rule'
    rw [if_neg hid]
    omega

/-- Answering a call keeps the invariant: a read leaves room, and what is
    recorded was admitted under the rule it is recorded under. -/
theorem invariant_answer {i : Nat} {answer : (o : FetchOp) → Except JsError o.Ret}
    (hinv : ClientInvariant d T s) (hcovered : Covered d T s (.answer i answer))
    (hsteady : ∀ f ∈ s.fetches, f.Steady d) (hstep : s.step d T (.answer i answer) = some s') :
    ClientInvariant d T s' := by
  rcases step_answer hstep with ⟨f, op, k, hf, hrest, rfl⟩
  have hmem := List.mem_of_getElem? hf
  refine ⟨fun g hg => ?_, fun rule' hrule' periodMaxAmount hperiod => ?_⟩
  · rcases List.mem_or_eq_of_mem_set hg with hg | rfl
    · exact hinv.reached g hg
    · exact (hinv.reached f hmem).resume hrest _
  rw [reserved_set hf]
  -- Only the tracker's own two calls need an argument.
  have hplain : ∀ reply, readsRule rule'.2 ⟨op, reply⟩ = false →
      (replyTo T s.tracker answer op).2 = s.tracker →
      T.spent (replyTo T s.tracker answer op).2 rule' + (s.reserved d rule' -
        f.reserved d rule' + (f.resume op k reply).reserved d rule') ≤ periodMaxAmount := by
    intro reply hread htracker
    have hle := FetchCall.reserved_resume_le (d := d) hrest reply hread
    have hbefore := hinv.within rule' hrule' periodMaxAmount hperiod
    rw [htracker]
    omega
  cases op with
  | client op =>
      cases op with
      | trackerSpent rule =>
          exact within_read hinv hf hrest (fun p hp => hcovered f rule k p hf hrest hp) hrule'
            hperiod
      | _ => exact hplain _ rfl rfl
  | request url init => exact hplain _ rfl rfl
  | trackerRecord rule amount => exact within_record hinv hf hrest (hsteady f hmem) hrule' hperiod

/-- Whatever happens next, the invariant is kept. -/
theorem invariant_step {a : ClientAction} (hinv : ClientInvariant d T s)
    (hcovered : Covered d T s a) (hsteady : ∀ f ∈ s.fetches, f.Steady d)
    (hstep : s.step d T a = some s') : ClientInvariant d T s' := by
  cases a with
  | answer i answer => exact invariant_answer hinv hcovered hsteady hstep
  | fetch url init =>
      rw [← Option.some.inj hstep]
      refine ⟨fun f hf => ?_, fun rule hrule periodMaxAmount hperiod => ?_⟩
      · rcases List.mem_append.mp hf with hf | hf
        · exact hinv.reached f hf
        · rw [List.mem_singleton.mp hf]
          exact Run.refl _ _
      · -- A fetch that was just started has read nothing.
        have hnew : FetchCall.reserved d ⟨url, init, [], x402Fetch d url init⟩ rule = 0 :=
          FetchCall.reserved_of_unread rfl
        have hbefore := hinv.within rule hrule periodMaxAmount hperiod
        unfold ClientState.reserved at hbefore ⊢
        rw [List.map_append, List.sum_append, List.map_cons, List.map_nil, List.sum_singleton, hnew,
          add_zero]
        exact hbefore

/-- The invariant holds at the start. -/
theorem invariant_start (hvalid : assertValidBudgetAttributeRules d.budgetAttributes = .ok ()) :
    ClientInvariant d T (.start T) := by
  refine ⟨fun f hf => absurd hf List.not_mem_nil, fun rule hrule periodMaxAmount hperiod => ?_⟩
  have hmem := List.mem_of_getElem? ((mem_zipIdx_iff _ rule).mp hrule)
  have hpositive := assertValidBudgetAttributeRules_period hvalid hmem hperiod
  rw [ClientState.start, T.spent_fresh]
  exact le_of_lt (lt_of_le_of_lt (le_of_eq (add_zero 0)) hpositive)

/-- Along a run that meets the conditions the invariant holds. -/
theorem invariant_run {actions : List ClientAction} (hinv : ClientInvariant d T s)
    (hrun : s.run d T actions = some s')
    (hwhere : ClientState.RunWhere d T
      (fun s a => Covered d T s a ∧ ∀ f ∈ s.fetches, f.Steady d) s actions) :
    ClientInvariant d T s' := by
  induction actions generalizing s with
  | nil =>
      rw [← Option.some.inj hrun]
      exact hinv
  | cons a actions ih =>
      cases hstep : s.step d T a with
      | none =>
          rw [ClientState.run, hstep] at hrun
          exact absurd hrun (by simp only [reduceCtorEq, not_false_eq_true])
      | some s₁ =>
          rw [ClientState.run, hstep] at hrun
          rcases hwhere with ⟨⟨hcovered, hsteady⟩, hrest⟩
          exact ih (invariant_step hinv hcovered hsteady hstep) hrun (hrest s₁ hstep)

/-- And so no ceiling is exceeded. -/
theorem ClientInvariant.spent_le (h : ClientInvariant d T s) {rule : Ref BudgetAttributeRule}
    (hrule : rule ∈ d.budgetAttributes.zipIdx) {periodMaxAmount : Int}
    (hperiod : rule.1.periodMaxAmount = some periodMaxAmount) :
    T.spent s.tracker rule ≤ periodMaxAmount := by
  have hwithin := h.within rule hrule periodMaxAmount hperiod
  have hnonneg := reserved_nonneg (d := d) s rule
  omega

/-- Conditions may use what holds along the run. -/
theorem runWhere_imp {I : ClientState σ → Prop} {P Q : ClientState σ → ClientAction → Prop}
    (hstep : ∀ s s' a, I s → P s a → s.step d T a = some s' → I s')
    (himp : ∀ s a, I s → P s a → Q s a) {actions : List ClientAction} (hI : I s)
    (h : ClientState.RunWhere d T P s actions) : ClientState.RunWhere d T Q s actions := by
  induction actions generalizing s with
  | nil => trivial
  | cons a actions ih =>
      refine ⟨himp s a hI h.1, fun s' hs' => ?_⟩
      exact ih (hstep s s' a hI h.1 hs') (h.2 s' hs')

/-- A run goes on where its first part ended. -/
theorem runWhere_append {P : ClientState σ → ClientAction → Prop} {first rest : List ClientAction}
    (hfirst : ClientState.RunWhere d T P s first)
    (hrest : ∀ s', s.run d T first = some s' → ClientState.RunWhere d T P s' rest) :
    ClientState.RunWhere d T P s (first ++ rest) := by
  induction first generalizing s with
  | nil => exact hrest s rfl
  | cons a first ih =>
      refine ⟨hfirst.1, fun s' hs' => ih (hfirst.2 s' hs') (fun s'' hs'' => hrest s'' ?_)⟩
      rw [ClientState.run, hs']
      exact hs''

/-- Without windows the rules decide alike at any two times. -/
theorem steady_of_windowless (h : ∀ rule ∈ d.budgetAttributes, rule.window = none)
    (f : FetchCall) : f.Steady d := by
  intro requirements amount before after _ _
  exact .inl (matchingBudgetRule_of_windowless h (budgetRequest requirements amount after) before)

/-- At most one fetch is under way. -/
def OneUnderWay (s : ClientState σ) : Prop :=
  ∀ (i j : Nat) (f g : FetchCall), s.fetches[i]? = some f → s.fetches[j]? = some g →
    f.rest.outcome.isNone = true → g.rest.outcome.isNone = true → i = j

/-- Then it has the ceilings to itself. -/
theorem covered_of_oneUnderWay (hinv : ClientInvariant d T s) (hone : OneUnderWay s)
    (a : ClientAction) : Covered d T s a := by
  cases a with
  | fetch url init => trivial
  | answer i answer =>
      intro f rule k periodMaxAmount hf hrest hperiod hle
      have hnone : s.reserved d rule = 0 := by
        refine List.sum_eq_zero (fun n hn => ?_)
        rcases List.mem_map.mp hn with ⟨g, hg, rfl⟩
        rcases List.mem_iff_getElem?.mp hg with ⟨j, hj⟩
        by_cases hdone : g.rest.outcome.isNone = true
        · -- It is the one about to read, so it has read nothing yet.
          have hij := hone i j f g hf hj (by rw [hrest]; rfl) hdone
          rw [← hij, hf] at hj
          rw [← Option.some.inj hj]
          exact FetchCall.reserved_of_unread
            ((hinv.reached f (List.mem_of_getElem? hf)).spent hrest rule.2)
        · rw [FetchCall.reserved, FetchCall.holds, (Bool.not_eq_true _).mp hdone, Bool.and_false]
          rfl
      rw [hnone, add_zero]
      exact hle

/-- Fetches that are started one after the other do not overlap. -/
theorem oneUnderWay_step {a : ClientAction} (hone : OneUnderWay s) (hseq : Sequential s a)
    (hstep : s.step d T a = some s') : OneUnderWay s' := by
  cases a with
  | fetch url init =>
      rw [← Option.some.inj hstep]
      -- All the others have ended, so only the new one counts.
      have hnew : ∀ i f, (s.fetches ++ [⟨url, init, [], x402Fetch d url init⟩])[i]? = some f →
          f.rest.outcome.isNone = true → i = s.fetches.length := by
        intro i f hf hrest
        by_cases hi : i < s.fetches.length
        · rw [List.getElem?_append_left hi] at hf
          have hended := hseq f (List.mem_of_getElem? hf)
          rw [Option.isSome_iff_ne_none] at hended
          exact absurd (Option.isNone_iff_eq_none.mp hrest) hended
        · have hlt := (List.getElem?_eq_some_iff.mp hf).1
          rw [List.length_append, List.length_singleton] at hlt
          omega
      intro i j f g hi hj hf hg
      rw [hnew i f hi hf, hnew j g hj hg]
  | answer i answer =>
      rcases step_answer hstep with ⟨f, op, k, hf, hrest, rfl⟩
      -- A fetch that is under way after the step was so before it.
      have hbefore : ∀ (j : Nat) (g : FetchCall), (s.fetches.set i (f.resume op k
          (replyTo T s.tracker answer op).1))[j]? = some g → g.rest.outcome.isNone = true →
          ∃ g' : FetchCall, s.fetches[j]? = some g' ∧ g'.rest.outcome.isNone = true := by
        intro j g hg hdone
        by_cases hij : i = j
        · exact ⟨f, by rw [← hij, hf], by rw [hrest]; rfl⟩
        · rw [List.getElem?_set_ne hij] at hg
          exact ⟨g, hg, hdone⟩
      intro j j' g g' hj hj' hg hg'
      rcases hbefore j g hj hg with ⟨h, hh, hhdone⟩
      rcases hbefore j' g' hj' hg' with ⟨h', hh', hhdone'⟩
      exact hone j j' h h' hh hh' hhdone hhdone'

/-- A run of fetches one after the other, each of them steady, meets the
    conditions. -/
theorem sequential_covered {actions : List ClientAction} (hinv : ClientInvariant d T s)
    (hone : OneUnderWay s)
    (h : ClientState.RunWhere d T (fun s a => Sequential s a ∧ ∀ f ∈ s.fetches, f.Steady d) s
      actions) :
    ClientState.RunWhere d T (fun s a => Covered d T s a ∧ ∀ f ∈ s.fetches, f.Steady d) s
      actions := by
  refine runWhere_imp (I := fun s => ClientInvariant d T s ∧ OneUnderWay s) ?_ ?_ ⟨hinv, hone⟩ h
  · rintro s s' a ⟨hinv, hone⟩ ⟨hseq, hsteady⟩ hstep
    exact ⟨invariant_step hinv (covered_of_oneUnderWay hinv hone a) hsteady hstep,
      oneUnderWay_step hone hseq hstep⟩
  · rintro s a ⟨hinv, hone⟩ ⟨hseq, hsteady⟩
    exact ⟨covered_of_oneUnderWay hinv hone a, hsteady⟩

theorem oneUnderWay_start : OneUnderWay (ClientState.start T) := by
  intro i j f g hi
  exact absurd hi (by simp only [ClientState.start, List.getElem?_nil, reduceCtorEq,
    not_false_eq_true])

end Invariant

/-- In every interleaving of fetches of a client whose rules have no windows,
    and in which every check that passes leaves room for what the other fetches
    may yet record, no rule is recorded more than its ceiling for the period. -/
theorem covered_within_period (d : X402ClientDeps) (T : BudgetAttributeTracker σ)
    (hvalid : assertValidBudgetAttributeRules d.budgetAttributes = .ok ())
    (hwindows : ∀ rule ∈ d.budgetAttributes, rule.window = none) (actions : List ClientAction)
    (s : ClientState σ) (hrun : (ClientState.start T).run d T actions = some s)
    (hcovered : ClientState.RunWhere d T (Covered d T) (.start T) actions)
    (rule : Ref BudgetAttributeRule) (hrule : rule ∈ d.budgetAttributes.zipIdx)
    (periodMaxAmount : Int) (hperiod : rule.1.periodMaxAmount = some periodMaxAmount) :
    T.spent s.tracker rule ≤ periodMaxAmount := by
  have hwhere : ClientState.RunWhere d T
      (fun s a => Covered d T s a ∧ ∀ f ∈ s.fetches, f.Steady d) (.start T) actions :=
    runWhere_imp (I := fun _ => True) (fun _ _ _ _ _ _ => trivial)
      (fun s a _ h => ⟨h, fun f _ => steady_of_windowless hwindows f⟩) trivial hcovered
  exact (invariant_run (invariant_start hvalid) hrun hwhere).spent_le hrule hperiod

/-- What a fetch recorded. -/
def recordsOf (tr : List FetchEvent) : List (Ref BudgetAttributeRule × Int) :=
  tr.filterMap (fun e => match e.op with
    | .trackerRecord rule amount => some (rule, amount)
    | _ => none)

/-- What was recorded was recorded under the rule that admitted the payment, and
    where that has a ceiling for the period and there is a tracker, exactly the
    amount was. -/
def RecordsAdmitted (d : ClientDeps) (requirements : JsValue) (amount before : Int)
    (tr : List FetchEvent) : Prop :=
  (∀ record ∈ recordsOf tr, matchingBudgetRule d.budgetAttributes
    (budgetRequest requirements amount before) = some record.1) ∧
  ∀ rule, matchingBudgetRule d.budgetAttributes (budgetRequest requirements amount before) =
      some rule → rule.1.periodMaxAmount.isSome = true → d.hasTracker = true →
    recordsOf tr = [(rule, amount)]

/-- The rules decide alike at both readings of the clock, where there is
    anything to decide. -/
def SteadyClock (d : ClientDeps) (requirements : JsValue) (amount before : Int)
    (tr : List FetchEvent) : Prop :=
  d.hasTracker = false ∨ d.budgetAttributes = [] ∨ ∃ after, clockReadings tr = [before, after] ∧
    SteadyRule d.budgetAttributes (budgetRequest requirements amount before)
      (budgetRequest requirements amount after)

theorem recordsOf_append (tr tr' : List FetchEvent) :
    recordsOf (tr ++ tr') = recordsOf tr ++ recordsOf tr' :=
  List.filterMap_append

/-- Up to the paid response nothing was recorded. -/
theorem recordsOf_paidTrace (o : Order) (url : JsString) (init : X402FetchInit)
    (header : JsString) (paid : Response) : recordsOf (o.paidTrace url init header paid) = [] := by
  have hbuilding : recordsOf (o.building.map ofBuildEvent) = [] := by
    rw [recordsOf, List.filterMap_map, List.filterMap_eq_nil_iff]
    intro e _
    rfl
  rw [Order.paidTrace, recordsOf_append]
  change recordsOf (o.building.map ofBuildEvent) ++ [] = []
  rw [hbuilding, List.append_nil]

/-- What is recorded after a payment is right exactly when the clock was
    steady. -/
theorem recording_iff {d : ClientDeps} {o : Order} {before tr recording : List FetchEvent}
    (h : Recording d o recording) (htr : tr = before ++ recording)
    (hrecords : recordsOf before = []) (hclock : clockReadings before = [o.time]) :
    RecordsAdmitted d o.requirements o.amount o.time tr ↔
      SteadyClock d o.requirements o.amount o.time tr := by
  subst htr
  unfold RecordsAdmitted SteadyClock
  rw [recordsOf_append, clockReadings_append, hrecords, hclock, List.nil_append]
  cases h with
  | untracked htracked =>
      refine iff_of_true ⟨fun _ hr => absurd hr List.not_mem_nil, fun rule hrule _ htrue => ?_⟩ ?_
      · rcases htracked with hfalse | hnil
        · exact absurd (htrue.symm.trans hfalse) (by decide)
        · rw [hnil] at hrule
          exact absurd hrule (by simp only [matchingBudgetRule, List.zipIdx_nil, List.find?_nil,
            reduceCtorEq, not_false_eq_true])
      · rcases htracked with hfalse | hnil
        · exact .inl hfalse
        · exact .inr (.inl hnil)
  | unmatched time htracked hnone =>
      constructor
      · -- Nothing was recorded, so the rule that admitted has no ceiling either.
        rintro ⟨-, hexact⟩
        refine .inr (.inr ⟨time, rfl, .inr ⟨fun rule hrule => ?_, hnone⟩⟩)
        by_contra hperiod
        exact absurd (hexact rule hrule (Option.isSome_iff_ne_none.mpr hperiod) htracked.1)
          (List.cons_ne_nil _ _).symm
      · intro hsteady
        refine ⟨fun _ hr => absurd hr List.not_mem_nil, fun rule hrule hperiod _ => ?_⟩
        rcases hsteady with hfalse | hnil | ⟨after, hafter, hsteady⟩
        · exact absurd (htracked.1.symm.trans hfalse) (by decide)
        · exact absurd hnil htracked.2
        · injection hafter with _ hafter
          injection hafter with hafter
          rw [← hafter] at hsteady
          have hperiod' : rule.1.periodMaxAmount = none := by
            rcases hsteady with hsame | ⟨hbefore, -⟩
            · exact hnone rule (hsame ▸ hrule)
            · exact hbefore rule hrule
          rw [hperiod'] at hperiod
          exact absurd hperiod Bool.false_ne_true
  | recorded time rule htracked hrule hperiod =>
      constructor
      · rintro ⟨hadmitted, -⟩
        have hbefore := hadmitted (rule, o.amount) (List.mem_singleton_self _)
        exact .inr (.inr ⟨time, rfl, .inl (hbefore.trans hrule.symm)⟩)
      · intro hsteady
        have hbefore : matchingBudgetRule d.budgetAttributes
            (budgetRequest o.requirements o.amount o.time) = some rule := by
          rcases hsteady with hfalse | hnil | ⟨after, hafter, hsteady⟩
          · exact absurd (htracked.1.symm.trans hfalse) (by decide)
          · exact absurd hnil htracked.2
          · injection hafter with _ hafter
            injection hafter with hafter
            rw [← hafter] at hsteady
            rcases hsteady with hsame | ⟨-, hnone⟩
            · exact hsame.trans hrule
            · rw [hnone rule hrule] at hperiod
              exact absurd hperiod Bool.false_ne_true
        refine ⟨fun record hrecord => ?_, fun rule' hrule' _ _ => ?_⟩
        · rw [List.mem_singleton.mp hrecord]
          exact hbefore
        · rw [hbefore] at hrule'
          rw [← Option.some.inj hrule']
          rfl

/-- What a fetch that paid has recorded. -/
theorem paid_records_iff {d : X402ClientDeps} {f : FetchCall} {out : X402Response}
    (hreached : f.Reached d) (hrest : f.rest = .done (.ok out)) (hpaid : out.paid = true) :
    ∃ requirements amount before, f.chosen d = some (requirements, amount) ∧
      (clockReadings f.events).head? = some before ∧
      (RecordsAdmitted d.toClientDeps requirements amount before f.events ↔
        SteadyClock d.toClientDeps requirements amount before f.events) := by
  rw [FetchCall.Reached, hrest] at hreached
  rcases (x402Fetch_sat d f.url f.init).at_done hreached out rfl with ⟨hfree, -⟩ |
    ⟨-, o, header, paid, recording, ho, hrecording, hevents⟩
  · exact absurd (hpaid.symm.trans hfree) (by decide)
  have hopened : f.events = openedTrace f.url f.init o.first o.building ++
      ([⟨.request f.url (paidInit f.init header), .ok paid⟩] ++ recording) := by
    rw [hevents, Order.paidTrace, List.append_assoc]
  have hclock : clockReadings (o.paidTrace f.url f.init header paid) = [o.time] := by
    rw [Order.paidTrace, clockReadings_append, clockReadings_openedTrace ho.admission]
    rfl
  refine ⟨o.requirements, o.amount, o.time,
    FetchCall.chosen_eq hopened ho.chosen ho.admission.parsed, ?_,
    recording_iff hrecording hevents (recordsOf_paidTrace o f.url f.init header paid) hclock⟩
  rw [hevents, clockReadings_append, hclock]
  rfl

/-- A fetch that paid recorded under the rule that admitted it, and exactly what
    it paid, if and only if the rules decided alike at both times it read the
    clock. Where they always do, fetches that do not overlap never record more
    under a rule than its ceiling for the period. -/
theorem records_admitted_iff (d : X402ClientDeps) (T : BudgetAttributeTracker σ) :
    (∀ f out, FetchCall.Reached d f → f.rest = .done (.ok out) → out.paid = true →
      ∃ requirements amount before, f.chosen d = some (requirements, amount) ∧
        (clockReadings f.events).head? = some before ∧
        (RecordsAdmitted d.toClientDeps requirements amount before f.events ↔
          SteadyClock d.toClientDeps requirements amount before f.events)) ∧
    ∀ actions s, assertValidBudgetAttributeRules d.budgetAttributes = .ok () →
      (ClientState.start T).run d T actions = some s →
      ClientState.RunWhere d T (fun s a => Sequential s a ∧ ∀ f ∈ s.fetches, f.Steady d)
        (.start T) actions →
      ∀ rule ∈ d.budgetAttributes.zipIdx, ∀ periodMaxAmount,
        rule.1.periodMaxAmount = some periodMaxAmount →
        T.spent s.tracker rule ≤ periodMaxAmount := by
  constructor
  · intro f out hreached hrest hpaid
    exact paid_records_iff hreached hrest hpaid
  · intro actions s hvalid hrun hwhere rule hrule periodMaxAmount hperiod
    have hinv : ClientInvariant d T (.start T) := invariant_start hvalid
    exact (invariant_run hinv hrun (sequential_covered hinv oneUnderWay_start hwhere)).spent_le
      hrule hperiod

section Sample

/-- A rule for any merchant, of 100 base units a payment and 150 in all. -/
def spendRule (window : Option BudgetTimeWindow) : BudgetAttributeRule :=
  { merchant := "*", category := none, maxAmount := 100, window := window
    periodMaxAmount := some 150 }

/-- The sample client with rules and a tracker. -/
def trackedDeps (rules : List BudgetAttributeRule) : X402ClientDeps :=
  { fetchDeps none with budgetAttributes := rules, hasTracker := true }

/-- A response that delivers the resource. -/
def deliveredResponse : Response :=
  { status := 200, headers := [] }

/-- The answers to a fetch that pays, with the clock before and after. -/
def payingAnswers (before after : Int) : List ((o : FetchOp) → Except JsError o.Ret) :=
  List.replicate 6 (fetchAnswer before fetchFirst) ++
    List.replicate 3 (fetchAnswer after deliveredResponse)

/-- One fetch that pays. -/
def payingActions (i : Nat) : List ClientAction :=
  .fetch "https://a" (fetchInit none) :: (payingAnswers 0 0).map (fun answer => .answer i answer)

/-- Two of them, one after the other. -/
def payingTwice : List ClientAction :=
  payingActions 0 ++ payingActions 1

/-- Two fetches that both read the spend before either records. -/
def racingActions : List ClientAction :=
  [.fetch "https://a" (fetchInit none), .fetch "https://a" (fetchInit none)] ++
    ((payingAnswers 0 0).take 3).map (fun answer => .answer 0 answer) ++
    ((payingAnswers 0 0).take 3).map (fun answer => .answer 1 answer) ++
    ((payingAnswers 0 0).drop 3).map (fun answer => .answer 0 answer) ++
    ((payingAnswers 0 0).drop 3).map (fun answer => .answer 1 answer)

/-- The rule of the sample with room for two payments. -/
def roomyRule : BudgetAttributeRule :=
  { spendRule none with periodMaxAmount := some 250 }

/-- A fetch that is started when the others have ended does not overlap them. -/
theorem payingActions_sequential {d : X402ClientDeps} {T : BudgetAttributeTracker σ}
    (h : ∀ rule ∈ d.budgetAttributes, rule.window = none) {s : ClientState σ}
    (hended : ∀ f ∈ s.fetches, f.rest.outcome.isSome = true) (i : Nat) :
    ClientState.RunWhere d T (fun s a => Sequential s a ∧ ∀ f ∈ s.fetches, f.Steady d) s
      (payingActions i) := by
  have hanswers : ∀ (answers : List ((o : FetchOp) → Except JsError o.Ret)) (s : ClientState σ),
      ClientState.RunWhere d T (fun s a => Sequential s a ∧ ∀ f ∈ s.fetches, f.Steady d) s
        (answers.map (fun answer => .answer i answer)) := by
    intro answers
    induction answers with
    | nil => exact fun _ => trivial
    | cons answer answers ih =>
        exact fun s => ⟨⟨trivial, fun f _ => steady_of_windowless h f⟩, fun s' _ => ih s'⟩
  exact ⟨⟨hended, fun f _ => steady_of_windowless h f⟩, fun s' _ => hanswers _ s'⟩

/-- The rules of the sample have no window. -/
theorem spendRule_windowless :
    ∀ rule ∈ (trackedDeps [spendRule none]).budgetAttributes, rule.window = none := by
  intro rule hrule
  rw [List.mem_singleton.mp hrule]
  rfl

theorem roomyRule_windowless :
    ∀ rule ∈ (trackedDeps [roomyRule]).budgetAttributes, rule.window = none := by
  intro rule hrule
  rw [List.mem_singleton.mp hrule]
  rfl

/-- The second fetch is started when the first has ended. -/
theorem payingTwice_sequential :
    ClientState.RunWhere (trackedDeps [roomyRule]) createInMemoryBudgetAttributeTracker
      (fun s a => Sequential s a ∧ ∀ f ∈ s.fetches, f.Steady (trackedDeps [roomyRule]))
      (.start createInMemoryBudgetAttributeTracker) payingTwice := by
  have hended : ((ClientState.start createInMemoryBudgetAttributeTracker).run
      (trackedDeps [roomyRule]) createInMemoryBudgetAttributeTracker (payingActions 0)).all
      (fun s => s.fetches.all (fun f => f.rest.outcome.isSome)) = true := by decide +kernel
  refine runWhere_append (payingActions_sequential roomyRule_windowless
    (fun f hf => absurd hf List.not_mem_nil) 0) (fun s hs => ?_)
  rw [hs, Option.all_some, List.all_eq_true] at hended
  exact payingActions_sequential roomyRule_windowless hended 1

/-- Both fetches run to their ends and record what they paid. -/
theorem payingTwice_spent : ∃ s,
    (ClientState.start createInMemoryBudgetAttributeTracker).run (trackedDeps [roomyRule])
      createInMemoryBudgetAttributeTracker payingTwice = some s ∧
    createInMemoryBudgetAttributeTracker.spent s.tracker (roomyRule, 0) = 200 := by
  have hspent : ((ClientState.start createInMemoryBudgetAttributeTracker).run
    (trackedDeps [roomyRule]) createInMemoryBudgetAttributeTracker payingTwice).map
    (fun s => createInMemoryBudgetAttributeTracker.spent s.tracker (roomyRule, 0)) =
      some 200 := by decide +kernel
  exact Option.map_eq_some_iff.mp hspent

/-- Two fetches are within the ceiling together, and what they record is what they
    paid. -/
theorem covered_within_period_sample : ∃ s,
    (ClientState.start createInMemoryBudgetAttributeTracker).run (trackedDeps [roomyRule])
      createInMemoryBudgetAttributeTracker payingTwice = some s ∧
    createInMemoryBudgetAttributeTracker.spent s.tracker (roomyRule, 0) = 200 ∧
    createInMemoryBudgetAttributeTracker.spent s.tracker (roomyRule, 0) ≤ 250 := by
  rcases payingTwice_spent with ⟨s, hrun, hs⟩
  have hinv : ClientInvariant (trackedDeps [roomyRule]) createInMemoryBudgetAttributeTracker
    (.start createInMemoryBudgetAttributeTracker) := invariant_start rfl
  have hcovered := runWhere_imp (I := fun _ => True) (fun _ _ _ _ _ _ => trivial)
    (fun _ _ _ h => h.1) trivial (sequential_covered hinv oneUnderWay_start
      payingTwice_sequential)
  exact ⟨s, hrun, hs, covered_within_period _ _ rfl roomyRule_windowless _ s hrun hcovered
    (roomyRule, 0) (List.mem_singleton_self _) 250 rfl⟩

/-- Two fetches that both read the spend before either records go over the
    ceiling together. -/
theorem racing_fetches_exceed : ¬ ∀ (d : X402ClientDeps),
    assertValidBudgetAttributeRules d.budgetAttributes = .ok () →
    (∀ rule ∈ d.budgetAttributes, rule.window = none) →
    ∀ (actions : List ClientAction) (s : ClientState RuleMap),
    (ClientState.start createInMemoryBudgetAttributeTracker).run d
      createInMemoryBudgetAttributeTracker actions = some s →
    ∀ rule ∈ d.budgetAttributes.zipIdx, ∀ periodMaxAmount,
      rule.1.periodMaxAmount = some periodMaxAmount →
      createInMemoryBudgetAttributeTracker.spent s.tracker rule ≤ periodMaxAmount := by
  intro hall
  have hspent : ((ClientState.start createInMemoryBudgetAttributeTracker).run
    (trackedDeps [spendRule none]) createInMemoryBudgetAttributeTracker racingActions).map
    (fun s => createInMemoryBudgetAttributeTracker.spent s.tracker (spendRule none, 0)) =
      some 200 := by decide +kernel
  rcases Option.map_eq_some_iff.mp hspent with ⟨s, hrun, hs⟩
  have hle := hall (trackedDeps [spendRule none]) rfl spendRule_windowless racingActions s hrun
    (spendRule none, 0) (List.mem_singleton_self _) 150 rfl
  rw [hs] at hle
  exact absurd hle (by decide)

/-- A fetch that pays, with the clock before and after. -/
def payingRun (rules : List BudgetAttributeRule) (before after : Int) :=
  (x402Fetch (trackedDeps rules) "https://a" (fetchInit none)).replay fetchHandler
    (payingAnswers before after) ()

/-- Did the fetch return, having paid? -/
def returnedPaid (t : Fetch X402Response) : Bool :=
  match t.outcome with
  | some (.ok out) => out.paid
  | _ => false

/-- The fetch at its end. -/
def payingCall (rules : List BudgetAttributeRule) (before after : Int) : FetchCall :=
  ⟨"https://a", fetchInit none, (payingRun rules before after).1, (payingRun rules before after).2.1⟩

theorem payingCall_reached (rules : List BudgetAttributeRule) (before after : Int) :
    (payingCall rules before after).Reached (trackedDeps rules) := by
  simp only [FetchCall.Reached, payingCall, payingRun]
  exact run_replay_unit fetchHandler _ (payingAnswers before after)

theorem payingCall_returned {rules : List BudgetAttributeRule} {before after : Int}
    (h : returnedPaid (payingRun rules before after).2.1 = true) :
    ∃ out, (payingCall rules before after).rest = .done (.ok out) ∧ out.paid = true := by
  simp only [payingCall]
  unfold returnedPaid at h
  split at h
  · next out hout => exact ⟨out, Task.eq_done_of_outcome hout, h⟩
  · exact absurd h Bool.false_ne_true

/-- A fetch under a rule without a window recorded what it paid, and two that follow
    each other stay within the ceiling. -/
theorem records_admitted_iff_sample :
    (∃ requirements amount before,
      (payingCall [spendRule none] 0 0).chosen (trackedDeps [spendRule none]) =
        some (requirements, amount) ∧
      RecordsAdmitted (trackedDeps [spendRule none]).toClientDeps requirements amount before
        (payingCall [spendRule none] 0 0).events) ∧
    ∃ s, (ClientState.start createInMemoryBudgetAttributeTracker).run
      (trackedDeps [roomyRule]) createInMemoryBudgetAttributeTracker payingTwice = some s ∧
      createInMemoryBudgetAttributeTracker.spent s.tracker (roomyRule, 0) = 200 ∧
      createInMemoryBudgetAttributeTracker.spent s.tracker (roomyRule, 0) ≤ 250 := by
  constructor
  · -- One payment, whose clock reads the same twice.
    have hcheck : (returnedPaid (payingRun [spendRule none] 0 0).2.1,
        clockReadings (payingRun [spendRule none] 0 0).1) = (true, [0, 0]) := by decide +kernel
    rcases Prod.mk.inj hcheck with ⟨hpaid, hclock⟩
    change clockReadings (payingCall [spendRule none] 0 0).events = [0, 0] at hclock
    rcases payingCall_returned hpaid with ⟨out, hrest, hout⟩
    rcases (records_admitted_iff (trackedDeps [spendRule none])
      createInMemoryBudgetAttributeTracker).1 _ out (payingCall_reached _ _ _) hrest hout with
      ⟨requirements, amount, before, hchosen, hhead, hiff⟩
    rw [hclock] at hhead
    have hbefore : 0 = before := Option.some.inj hhead
    subst hbefore
    exact ⟨requirements, amount, 0, hchosen,
      hiff.mpr (.inr (.inr ⟨0, hclock, .inl rfl⟩))⟩
  · -- Two payments, one after the other, under a rule with room for both.
    rcases payingTwice_spent with ⟨s, hrun, hs⟩
    exact ⟨s, hrun, hs, (records_admitted_iff (trackedDeps [roomyRule])
      createInMemoryBudgetAttributeTracker).2 payingTwice s rfl hrun payingTwice_sequential
      (roomyRule, 0) (List.mem_singleton_self _) 250 rfl⟩

/-- Rules for the morning and for the afternoon. -/
def halfDayRules : List BudgetAttributeRule :=
  [spendRule (some ⟨some 0, some 11, none⟩), spendRule (some ⟨some 12, some 23, none⟩)]

/-- A payment that is admitted in the morning and accepted in the afternoon is
    recorded under the rule for the afternoon. -/
theorem records_other_rule : ¬ ∀ (d : X402ClientDeps),
    assertValidBudgetAttributeRules d.budgetAttributes = .ok () →
    ∀ (f : FetchCall) (out : X402Response), f.Reached d → f.rest = .done (.ok out) →
    out.paid = true → (clockReadings f.events).Pairwise (· ≤ ·) →
    ∀ requirements amount before, f.chosen d = some (requirements, amount) →
      (clockReadings f.events).head? = some before →
      RecordsAdmitted d.toClientDeps requirements amount before f.events := by
  intro hall
  have hcheck : (returnedPaid (payingRun halfDayRules 39600000 43200000).2.1,
      clockReadings (payingRun halfDayRules 39600000 43200000).1,
      (recordsOf (payingRun halfDayRules 39600000 43200000).1).map (fun record => record.1.2)) =
      (true, [39600000, 43200000], [1]) := by decide +kernel
  rcases Prod.mk.inj hcheck with ⟨hpaid, hcheck⟩
  rcases Prod.mk.inj hcheck with ⟨hclock, hrecords⟩
  change clockReadings (payingCall halfDayRules 39600000 43200000).events = _ at hclock
  change (recordsOf (payingCall halfDayRules 39600000 43200000).events).map _ = _ at hrecords
  rcases payingCall_returned hpaid with ⟨out, hrest, hout⟩
  rcases paid_records_iff (payingCall_reached _ _ _) hrest hout with
    ⟨requirements, amount, before, hchosen, hhead, -⟩
  have hadmitted := hall (trackedDeps halfDayRules) rfl _ out (payingCall_reached _ _ _) hrest hout
    (by rw [hclock]; decide) requirements amount before hchosen hhead
  rw [hclock] at hhead
  have hbefore : 39600000 = before := Option.some.inj hhead
  subst hbefore
  -- In the morning the first rule matches, and the record is under the second.
  have hmorning : matchingBudgetRule halfDayRules (budgetRequest requirements amount 39600000) =
    some (spendRule (some ⟨some 0, some 11, none⟩), 0) := rfl
  cases hlist : recordsOf (payingCall halfDayRules 39600000 43200000).events with
  | nil =>
      rw [hlist] at hrecords
      exact absurd hrecords (by simp only [List.map_nil, reduceCtorEq, not_false_eq_true])
  | cons record rest =>
      have hrule := hadmitted.1 record (by rw [hlist]; exact List.mem_cons_self)
      rw [hlist, List.map_cons] at hrecords
      injection hrecords with hone _
      have hsame := Option.some.inj (hmorning.symm.trans hrule)
      rw [← hsame] at hone
      exact absurd hone (by decide)

end Sample

end X402

end VellarSdk
