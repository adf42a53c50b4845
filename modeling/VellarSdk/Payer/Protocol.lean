import VellarSdk.X402.Guards

/-!
# The x402 v2 Adapter

The payer's view of a challenge and the adapter to the guard layer's. The guards
run on a widened copy of the challenge, so the option they pick is an element
of the copy, and the payer has to find its way back to the original: the copy
has the same length and order, and each of its elements carries the same fields.

## Main definitions

* `assertV2Challenge`: Refuse anything but an x402 v2 challenge with options.
* `toGuardView`: The copy the guards run on.
* `narrowTo`: The challenge with a single option.

## Theorems

* `assertV2Challenge_eq_ok`: An accepted challenge is returned as it came, with
  a non-empty array of options.
* `guardViewOf_field`: A copied option has the fields of the original.
* `toGuardView_accepts`: The copy lists the copied options, in order.
-/

namespace VellarSdk

namespace Payer

open Js X402

/-- Assert a decoded challenge is x402 v2 with a usable list of options. -/
def assertV2Challenge (decoded : JsValue) : Except JsError JsValue :=
  match decoded with
  | .undefined | .null | .bool _ | .num _ | .bigint _ | .str _ =>
      throwNoUsablePaymentOption "The 402 challenge did not decode to an object."
  | challenge =>
      -- Arrays and other objects pass `typeof`, and fail here at the latest.
      if !(challenge.field "x402Version").strictEq (.num 2) then do
        let version ← (challenge.field "x402Version").toStr
        throwNoUsablePaymentOption (js "Unsupported x402 version " ++ version ++
          js ("; this server speaks x402 v2 " ++
            "(the only version the Stellar exact scheme uses)."))
      else match challenge.field "accepts" with
        | .arr (_ :: _) => .ok challenge
        | _ => throwNoUsablePaymentOption "The 402 challenge offered no payment options."

/-- The copy of one option. Only a missing `extra` is normalised away. -/
def guardViewOf (a : JsValue) : JsValue :=
  .obj ([(js "scheme", a.field "scheme"), (js "network", a.field "network"),
    (js "asset", a.field "asset"), (js "amount", a.field "amount"),
    (js "payTo", a.field "payTo"), (js "maxTimeoutSeconds", a.field "maxTimeoutSeconds")] ++
    if (a.field "extra").nullish then [] else [(js "extra", a.field "extra")])

/-- The copies of all options. Reading a missing element throws. -/
def guardViews : List JsValue → Except JsError (List JsValue)
  | [] => .ok []
  | a :: rest =>
      if a.nullish then throwTypeError
      else do return guardViewOf a :: (← guardViews rest)

/-- View a v2 challenge as the guard layer's `PaymentRequired`. -/
def toGuardView (challenge : JsValue) : Except JsError JsValue := do
  let accepts ← acceptsOf challenge
  let views ← guardViews accepts
  return .obj ((js "x402Version", challenge.field "x402Version") ::
    (if (challenge.field "error").strictEq .undefined then []
      else [(js "error", challenge.field "error")]) ++ [(js "accepts", .arr views)])

/-- Narrow a challenge to the single option the guards cleared, keeping
    everything else. -/
def narrowTo (challenge chosen : JsValue) : JsValue :=
  challenge.withField "accepts" (.arr [chosen])

theorem assertV2Challenge_eq_ok {decoded challenge : JsValue}
    (h : assertV2Challenge decoded = .ok challenge) :
    challenge = decoded ∧ ∃ a rest, challenge.field "accepts" = .arr (a :: rest) := by
  -- Of the values only objects get past the first test, and for them the rest is one text.
  have hmain : ∀ d : JsValue, (if !(d.field "x402Version").strictEq (.num 2) then (do
        let version ← (d.field "x402Version").toStr
        throwNoUsablePaymentOption (js "Unsupported x402 version " ++ version ++
          js ("; this server speaks x402 v2 " ++
            "(the only version the Stellar exact scheme uses).")) : Except JsError JsValue)
      else match d.field "accepts" with
        | .arr (_ :: _) => .ok d
        | _ => throwNoUsablePaymentOption "The 402 challenge offered no payment options.") =
        .ok challenge → challenge = d ∧ ∃ a rest, challenge.field "accepts" = .arr (a :: rest) := by
    intro d hd
    split at hd
    · rcases bind_eq_ok.mp hd with ⟨_, -, hd⟩
      exact absurd hd (by simp only [throwNoUsablePaymentOption, reduceCtorEq, not_false_eq_true])
    · split at hd
      · next a rest harr =>
          have heq : d = challenge := Except.ok.inj hd
          subst heq
          exact ⟨rfl, a, rest, harr⟩
      · exact absurd hd (by simp only [throwNoUsablePaymentOption, reduceCtorEq,
          not_false_eq_true])
  cases decoded with
  | buffer b => exact hmain _ h
  | arr l => exact hmain _ h
  | obj f => exact hmain _ h
  | _ => exact absurd h (by simp only [assertV2Challenge, throwNoUsablePaymentOption,
      reduceCtorEq, not_false_eq_true])

/-- The fields the guards read. -/
def guardFields : List JsString :=
  [js "scheme", js "network", js "asset", js "amount", js "payTo", js "maxTimeoutSeconds"]

/-- A copied option has the fields of the original. -/
theorem guardViewOf_field (a : JsValue) {name : JsString} (h : name ∈ guardFields) :
    (guardViewOf a).field name = a.field name := by
  simp only [guardFields, List.mem_cons, List.not_mem_nil, or_false] at h
  rcases h with rfl | rfl | rfl | rfl | rfl | rfl <;> rfl

/-- A copied option declares sponsorship exactly when the original does. -/
theorem guardViewOf_sponsored (a : JsValue) :
    ((guardViewOf a).field "extra").optProp "areFeesSponsored" =
      (a.field "extra").optProp "areFeesSponsored" := by
  by_cases hn : (a.field "extra").nullish = true
  -- A missing or null `extra` is left out of the copy, and reads as `undefined` either way.
  · have hview : (guardViewOf a).field "extra" = .undefined := by
      rw [guardViewOf, if_pos hn]
      rfl
    rw [hview, JsValue.optProp, JsValue.optProp, hn]
    rfl
  · have hview : (guardViewOf a).field "extra" = a.field "extra" := by
      rw [guardViewOf, if_neg hn]
      rfl
    rw [hview]

theorem guardViews_eq_ok {l views : List JsValue} (h : guardViews l = .ok views) :
    views = l.map guardViewOf := by
  induction l generalizing views with
  | nil => exact (Except.ok.inj h).symm
  | cons a rest ih =>
      rw [guardViews] at h
      split at h
      · exact absurd h (by simp only [throwTypeError, reduceCtorEq, not_false_eq_true])
      · rcases bind_eq_ok.mp h with ⟨views', hviews, h⟩
        rw [← Except.ok.inj h, ih hviews, List.map_cons]

/-- The copy lists the copied options, in order. -/
theorem toGuardView_accepts {challenge view : JsValue} (h : toGuardView challenge = .ok view) :
    ∃ accepts, acceptsOf challenge = .ok accepts ∧
      acceptsOf view = .ok (accepts.map guardViewOf) := by
  rcases bind_eq_ok.mp h with ⟨accepts, haccepts, h⟩
  rcases bind_eq_ok.mp h with ⟨views, hviews, h⟩
  refine ⟨accepts, haccepts, ?_⟩
  rw [← guardViews_eq_ok hviews, ← Except.ok.inj h]
  -- The optional `error` stands before `accepts` and does not shadow it.
  by_cases herr : (challenge.field "error").strictEq .undefined = true
  · rw [if_pos herr]
    rfl
  · rw [if_neg herr]
    rfl

end Payer

end VellarSdk
