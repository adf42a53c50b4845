import VellarSdk.Breaker.CircuitBreaker

/-!
# Backends Behind a Breaker

The wallet's backend with a breaker before it. The wrapper is a copy of the object
in which every function is replaced by one that goes through the breaker.

What a call of a method does depends on two things that a copy need not keep.
Where the method was found: an instance of a class has its methods on the prototype
of the class, and the copy has the object's own enumerable properties alone. And on
what the method is called with as `this`: the wrapper calls the function it has read,
with no receiver. So a backend is copied faithfully exactly when its methods are its
own and do without `this`, as those of an object literal of arrow functions are.

A function is here what calling it sets going, by the receiver and the arguments.
`π` stands for that, a promise with everything that happens until it settles, and
`settles` says how it does.

## Main definitions

* `JsObject`, `JsObject.get`: Objects with their prototypes.
* `WalletBackend`: Objects that have the methods of the interface.
* `createCircuitBreakingBackend`: The wrapper.
* `callMethod`, `callThrough`: A call of a method, and one through the breaker.
* `Transparent`, `Guarded`: What is expected of the wrapper.
* `Detached`: A method that survives being copied.

## Theorems

* `passOn_of_total`: The breaker passes on how a call ended.
* `get_createCircuitBreakingBackend`: What the wrapper has of a method.
* `wrapper_transparent_iff`: When the wrapper is transparent.
* `class_backend_lost`: A backend that is an instance of a class.
-/

namespace VellarSdk

namespace Breaker

open Js

/-- The value of a property: a function of some kind, or something else. -/
inductive PropertyValue (φ : Type) where
  | function (f : φ)
  | other (v : JsValue)

/-- A property of an object. Those of a literal or an assignment are enumerable. -/
structure Property (φ : Type) where
  key : JsString
  value : PropertyValue φ
  enumerable : Bool := true

/-- An object: what it is known by, its own properties, and those of its prototypes,
    short of `Object.prototype`, which has none of a backend's methods. -/
structure JsObject (ι φ : Type) where
  ref : ι
  own : List (Property φ)
  distinct : (own.map Property.key).Nodup
  prototypes : List (List (Property φ)) := []

namespace JsObject

variable {ι φ : Type}

/-- Find a property by its name. -/
def find (properties : List (Property φ)) (name : JsString) : Option (Property φ) :=
  properties.find? (fun p => p.key == name)

/-- `object[name]`: the object's own property, or the first its prototypes have. -/
def get (object : JsObject ι φ) (name : JsString) : Option (PropertyValue φ) :=
  ((object.own :: object.prototypes).findSome? (fun properties => find properties name)).map
    Property.value

end JsObject

/-- A function that is called on an object, or on none. -/
abbrev Method (ι π : Type) := Option ι → List JsValue → π

/-- The methods of the interface `WalletBackend`. -/
def walletBackendMethods : List JsString :=
  [js "submitWalletCreation", js "lookupContractId"]

/-- A backend: an object that has the methods of the interface, wherever they are. -/
structure WalletBackend (ι π : Type) where
  object : JsObject ι (Method ι π)
  methods : ∀ name ∈ walletBackendMethods, ∃ f, object.get name = some (.function f)

/-- A property of the wrapper. `(...args) => breaker.execute(() => value(...args))` is
    given by what it has the breaker execute: the function without a receiver. -/
def wrapProperty {ι π : Type} (p : Property (Method ι π)) : Property (List JsValue → π) where
  key := p.key
  value := match p.value with
    | .function f => .function (f none)
    | .other v => .other v
  enumerable := p.enumerable

/-- `createCircuitBreakingBackend`, as an object of its own. -/
def createCircuitBreakingBackend {ι π : Type} (backend : JsObject ι (Method ι π)) (ref : ι) :
    JsObject ι (List JsValue → π) where
  ref := ref
  -- The spread and `Object.keys` both go over the own enumerable properties.
  own := (backend.own.filter Property.enumerable).map wrapProperty
  distinct := by
    have hkeys : ((backend.own.filter Property.enumerable).map wrapProperty).map Property.key =
        (backend.own.filter Property.enumerable).map Property.key := by
      rw [List.map_map]
      rfl
    rw [hkeys]
    exact backend.distinct.sublist (List.filter_sublist.map _)

/-- What the promise of a call may be rejected with. -/
inductive Rejection where
  | thrown (value : JsValue)
  | circuitOpen (error : CircuitOpenError)
  | notAFunction

/-- A call, as its caller sees it: what it has set going in the backend, and how its
    promise settles, if it does. -/
structure MethodCall (π : Type) where
  started : Option π
  completion : Option (Except Rejection JsValue)

/-- A result or error of the backend, as a caller sees it. -/
def toCaller : Except JsValue JsValue → Except Rejection JsValue
  | .ok v => .ok v
  | .error e => .error (.thrown e)

/-- `object[name](...args)`. -/
def callMethod {ι π : Type} (settles : π → Option (Except JsValue JsValue))
    (object : JsObject ι (Method ι π)) (name : JsString) (args : List JsValue) : MethodCall π :=
  match object.get name with
  | some (.function f) =>
      { started := some (f (some object.ref) args)
        completion := (settles (f (some object.ref) args)).map toCaller }
  | _ => { started := none, completion := some (.error .notAFunction) }

/-- How `execute` completes, by how the function did: both ways of classifying it may
    throw what the predicate throws. -/
def passOn (o : CircuitBreakerOptions) (result : Except JsValue JsValue) :
    Except JsValue JsValue :=
  tryCatch
    (do
      let value ← result
      let _ ← o.counts ⟨true, .undefined⟩
      return value)
    (fun error => do
      let _ ← o.counts ⟨false, error⟩
      throw error)

/-- `wrapped[name](...args)`, at a reading of the clock. -/
def callThrough {ι π : Type} (o : CircuitBreakerOptions) (b : CircuitBreaker) (now : ℚ)
    (settles : π → Option (Except JsValue JsValue)) (wrapped : JsObject ι (List JsValue → π))
    (name : JsString) (args : List JsValue) : MethodCall π :=
  match wrapped.get name with
  | some (.function fn) => match (b.execute o now).2 with
    | .ok () =>
        { started := some (fn args)
          completion := (settles (fn args)).map (fun result => toCaller (passOn o result)) }
    | .error error => { started := none, completion := some (.error (.circuitOpen error)) }
  | _ => { started := none, completion := some (.error .notAFunction) }

section Wrapper

variable {ι π : Type} (o : CircuitBreakerOptions) (settles : π → Option (Except JsValue JsValue))
  (backend : WalletBackend ι π) (ref : ι)

/-- While the breaker is closed, a call of a method is the same call on the backend. -/
def Transparent : Prop :=
  ∀ name ∈ walletBackendMethods, ∀ args b now, b.state = .closed →
    callThrough o b now settles (createCircuitBreakingBackend backend.object ref) name args =
      callMethod settles backend.object name args

/-- While the breaker is open, no call sets anything going in the backend. -/
def Guarded : Prop :=
  ∀ name args b now, (CircuitBreaker.readState o b now).state = .opened →
    (callThrough o b now settles (createCircuitBreakingBackend backend.object ref) name
      args).started = none

/-- The method is an own enumerable property, and does without its receiver. -/
def Detached (name : JsString) : Prop :=
  ∃ p f, JsObject.find backend.object.own name = some p ∧ p.enumerable = true ∧
    p.value = .function f ∧ ∀ args, f none args = f (some backend.object.ref) args

end Wrapper

variable {ι φ π : Type} {o : CircuitBreakerOptions} {b : CircuitBreaker} {now : ℚ}

/-- A predicate that does not throw has no say in how a call ends. -/
theorem passOn_of_total (htotal : o.Total) (result : Except JsValue JsValue) :
    passOn o result = result := by
  have hcounts : ∀ shown, ∃ failed, o.counts shown = .ok failed := by
    intro shown
    unfold CircuitBreakerOptions.counts
    cases hpredicate : o.isFailure with
    | none => cases shown.error <;> exact ⟨_, rfl⟩
    | some isFailure => exact htotal isFailure hpredicate shown
  unfold passOn
  cases result with
  | ok value =>
      obtain ⟨failed, hfailed⟩ := hcounts ⟨true, .undefined⟩
      rw [hfailed]
      rfl
  | error e =>
      obtain ⟨failed, hfailed⟩ := hcounts ⟨false, e⟩
      have hcaught : (tryCatch (.error e) (fun error => do
          let _ ← o.counts ⟨false, error⟩
          throw error) : Except JsValue JsValue) = .error e := by
        show (o.counts ⟨false, e⟩ >>= fun _ => throw e) = _
        rw [hfailed]
        rfl
      exact hcaught

/-- An object's own property is found before those of its prototypes. -/
theorem get_of_find {object : JsObject ι φ} {name : JsString} {p : Property φ}
    (h : JsObject.find object.own name = some p) : object.get name = some p.value := by
  rw [JsObject.get, List.findSome?_cons, h]
  rfl

theorem find_cons (p : Property φ) (properties : List (Property φ)) (name : JsString) :
    JsObject.find (p :: properties) name =
      if p.key == name then some p else JsObject.find properties name := by
  rw [JsObject.find, List.find?_cons]
  cases p.key == name <;> rfl

/-- The name of a property tells it from the others. -/
theorem find_filter {properties : List (Property φ)} (hdistinct : (properties.map Property.key).Nodup)
    (test : Property φ → Bool) (name : JsString) :
    JsObject.find (properties.filter test) name = (JsObject.find properties name).filter test := by
  induction properties with
  | nil => rfl
  | cons p properties ih =>
      rw [List.map_cons, List.nodup_cons] at hdistinct
      have hrest := ih hdistinct.2
      rw [find_cons]
      by_cases hname : (p.key == name) = true
      · -- None of the rest has the name.
        have hnone : JsObject.find properties name = none := by
          refine List.find?_eq_none.mpr (fun q hq hqname => hdistinct.1 ?_)
          exact List.mem_map.mpr ⟨q, hq, by rw [beq_iff_eq.mp hname, beq_iff_eq.mp hqname]⟩
        rw [if_pos hname, Option.filter_some]
        by_cases htest : test p = true
        · rw [List.filter_cons_of_pos htest, find_cons, if_pos hname, if_pos htest]
        · rw [List.filter_cons_of_neg htest, hrest, hnone, if_neg htest]
          rfl
      · rw [if_neg hname, ← hrest]
        by_cases htest : test p = true
        · rw [List.filter_cons_of_pos htest, find_cons, if_neg hname]
        · rw [List.filter_cons_of_neg htest]

/-- The wrapper has the enumerable properties of the backend, wrapped. -/
theorem get_createCircuitBreakingBackend (backend : JsObject ι (Method ι π)) (ref : ι)
    (name : JsString) : (createCircuitBreakingBackend backend ref).get name =
      ((JsObject.find backend.own name).filter Property.enumerable).map
        (fun p => (wrapProperty p).value) := by
  have hfind : JsObject.find (createCircuitBreakingBackend backend ref).own name =
      (JsObject.find (backend.own.filter Property.enumerable) name).map wrapProperty := by
    rw [JsObject.find, createCircuitBreakingBackend, List.find?_map]
    rfl
  rw [JsObject.get, List.findSome?_cons, hfind, find_filter backend.distinct]
  cases (JsObject.find backend.own name).filter Property.enumerable <;> rfl

theorem execute_of_closed (h : b.state = .closed) : (b.execute o now).2 = .ok () := by
  have hread := CircuitBreaker.readState_of_closed o now h
  rcases b.execute_cases o now with ⟨hstate, -⟩ | ⟨hstate, -⟩ | ⟨hstate, -⟩ | ⟨-, heq⟩
  · rw [hread, h] at hstate
    exact absurd hstate (by simp only [reduceCtorEq, not_false_eq_true])
  · rw [hread, h] at hstate
    exact absurd hstate (by simp only [reduceCtorEq, not_false_eq_true])
  · rw [hread, h] at hstate
    exact absurd hstate (by simp only [reduceCtorEq, not_false_eq_true])
  · rw [heq]

theorem execute_of_opened (h : (b.readState o now).state = .opened) :
    (b.execute o now).2 = .error {} := by
  rcases b.execute_cases o now with ⟨-, heq⟩ | ⟨hstate, -⟩ | ⟨hstate, -⟩ | ⟨hstate, -⟩
  · rw [heq]
  all_goals
    rw [h] at hstate
    exact absurd hstate (by simp only [reduceCtorEq, not_false_eq_true])

/-- An open breaker guards whatever the wrapper has. -/
theorem wrapper_guarded (o : CircuitBreakerOptions)
    (settles : π → Option (Except JsValue JsValue)) (backend : WalletBackend ι π) (ref : ι) :
    Guarded o settles backend ref := by
  intro name args b now hopen
  unfold callThrough
  rw [execute_of_opened hopen]
  split <;> rfl

/-- A method that survives the copy is called as it was. -/
theorem callThrough_of_detached (htotal : o.Total) {settles : π → Option (Except JsValue JsValue)}
    {backend : WalletBackend ι π} {name : JsString} (h : Detached backend name) (ref : ι)
    (args : List JsValue) (hclosed : b.state = .closed) :
    callThrough o b now settles (createCircuitBreakingBackend backend.object ref) name args =
      callMethod settles backend.object name args := by
  rcases h with ⟨p, f, hfind, henumerable, hvalue, hthis⟩
  have hwrapped : (createCircuitBreakingBackend backend.object ref).get name =
      some (.function (f none)) := by
    rw [get_createCircuitBreakingBackend, hfind, Option.filter_some, if_pos henumerable,
      Option.map_some, wrapProperty, hvalue]
  have hmethod : backend.object.get name = some (.function f) := by
    rw [get_of_find hfind, hvalue]
  unfold callThrough callMethod
  simp only [hwrapped, hmethod, execute_of_closed hclosed, passOn_of_total htotal, hthis]

/-- A method that is called as it was has survived the copy. -/
theorem detached_of_transparent {settles : π → Option (Except JsValue JsValue)}
    {backend : WalletBackend ι π} {ref : ι} {name : JsString} (hname : name ∈ walletBackendMethods)
    (h : Transparent o settles backend ref) : Detached backend name := by
  rcases backend.methods name hname with ⟨f, hf⟩
  have hcalls : ∀ args, (callThrough o {} 0 settles
      (createCircuitBreakingBackend backend.object ref) name args).started =
        some (f (some backend.object.ref) args) := by
    intro args
    rw [h name hname args {} 0 rfl, callMethod, hf]
  have hexecute : (CircuitBreaker.execute o {} 0).2 = .ok () := execute_of_closed rfl
  unfold callThrough at hcalls
  rw [get_createCircuitBreakingBackend, hexecute] at hcalls
  cases hfind : JsObject.find backend.object.own name with
  | none =>
      -- An inherited method is not copied.
      rw [hfind] at hcalls
      exact absurd (hcalls []) (by simp only [Option.filter_none, Option.map_none, reduceCtorEq,
        not_false_eq_true])
  | some p =>
      rw [get_of_find hfind, Option.some.injEq] at hf
      cases henumerable : p.enumerable with
      | false =>
          rw [hfind, Option.filter_some, henumerable] at hcalls
          exact absurd (hcalls []) (by simp only [Bool.false_eq_true, if_false, Option.map_none,
            reduceCtorEq, not_false_eq_true])
      | true =>
          refine ⟨p, f, hfind, henumerable, hf, fun args => ?_⟩
          have hcall := hcalls args
          rw [hfind, Option.filter_some, if_pos henumerable, Option.map_some, wrapProperty, hf]
            at hcall
          exact Option.some.inj hcall

/-- The wrapper is transparent while the breaker is closed and lets nothing through
    while it is open, exactly if every method of the backend is an own enumerable
    property that does the same when it is called without its object. -/
theorem wrapper_transparent_iff (o : CircuitBreakerOptions) (htotal : o.Total)
    (settles : π → Option (Except JsValue JsValue)) (backend : WalletBackend ι π) (ref : ι) :
    (Transparent o settles backend ref ∧ Guarded o settles backend ref) ↔
      ∀ name ∈ walletBackendMethods, Detached backend name := by
  constructor
  · rintro ⟨htransparent, -⟩ name hname
    exact detached_of_transparent hname htransparent
  · intro h
    refine ⟨?_, wrapper_guarded o settles backend ref⟩
    intro name hname args b now hclosed
    exact callThrough_of_detached htotal (h name hname) ref args hclosed

/-- The two methods, wherever they are put, that tell what they are called on. -/
def receivers (enumerable : Bool) : List (Property (Method Unit (Option Unit))) :=
  walletBackendMethods.map (fun name => ⟨name, .function (fun this _ => this), enumerable⟩)

/-- An object literal of arrow functions, which do not look at what they are called
    on. -/
def literalBackend : WalletBackend Unit (Option Unit) where
  object :=
    { ref := ()
      own := walletBackendMethods.map (fun name => ⟨name, .function (fun _ _ => none), true⟩)
      distinct := by decide }
  methods := by
    intro name hname
    simp only [walletBackendMethods, List.mem_cons, List.not_mem_nil, or_false] at hname
    rcases hname with rfl | rfl <;> exact ⟨fun _ _ => none, rfl⟩

/-- Every call returns. -/
def returns (_ : Option Unit) : Option (Except JsValue JsValue) :=
  some (.ok .undefined)

theorem wrapper_transparent_iff_literal :
    Transparent {} returns literalBackend () ∧ Guarded {} returns literalBackend () := by
  refine (wrapper_transparent_iff {} nofun returns literalBackend ()).mpr ?_
  intro name hname
  simp only [walletBackendMethods, List.mem_cons, List.not_mem_nil, or_false] at hname
  rcases hname with rfl | rfl <;>
    exact ⟨_, fun _ _ => none, rfl, rfl, rfl, fun _ => rfl⟩

/-- An instance of a class, whose methods are on its prototype. -/
def classBackend : WalletBackend Unit (Option Unit) where
  object := { ref := (), own := [], distinct := List.nodup_nil, prototypes := [receivers false] }
  methods := by
    intro name hname
    simp only [walletBackendMethods, List.mem_cons, List.not_mem_nil, or_false] at hname
    rcases hname with rfl | rfl <;> exact ⟨fun this _ => this, rfl⟩

/-- The wrapper of an instance of a class has none of its methods. -/
theorem class_backend_lost : ¬ ∀ (settles : Option Unit → Option (Except JsValue JsValue))
    (backend : WalletBackend Unit (Option Unit)),
      Transparent {} settles backend () ∧ Guarded {} settles backend () := by
  intro h
  have hcall := (h (fun _ => none) classBackend).1 (js "lookupContractId") (by decide) [] {} 0 rfl
  have hstarted : (none : Option (Option Unit)) = some (some ()) := congrArg MethodCall.started hcall
  exact absurd hstarted (by decide)

end Breaker

end VellarSdk
