import VellarSdk.Stellar.Xdr

/-!
# The Order of Contract Values

The order that Soroban requires of the keys of a map. Values of different types
compare by their type, bytes, strings and symbols lexicographically, and vectors
element by element.

## Main definitions

* `ScAddress.toBuffer`: The raw bytes of an address.
* `ScVal.cmp`: The order.
* `Ascending`: The keys of a map, in strictly ascending order.

## Theorems

* `cmp_variant`: Two values of enumerations compare by their names first.
-/

namespace VellarSdk

namespace Stellar

open Js

/-- `address.toBuffer()`. -/
def ScAddress.toBuffer : ScAddress → Bytes
  | .account publicKey => publicKey
  | .contract contractId => contractId
  | .muxedAccount id publicKey =>
      publicKey ++ (List.range 8).map (fun i => UInt8.ofNat (id.toNat >>> (8 * (7 - i))))
  | .claimableBalance balanceId => 0 :: balanceId
  | .liquidityPool poolId => poolId

/-- The place of an address's kind. -/
def ScAddress.rank : ScAddress → Nat
  | .account _ => 0
  | .contract _ => 1
  | .muxedAccount _ _ => 2
  | .claimableBalance _ => 3
  | .liquidityPool _ => 4

/-- The order of addresses. A muxed account compares by its id first. -/
def ScAddress.cmp : ScAddress → ScAddress → Ordering
  | .muxedAccount id publicKey, .muxedAccount id' publicKey' =>
      (compare id.toNat id'.toNat).then (compare publicKey publicKey')
  | a, b => (compare a.rank b.rank).then (compare a.toBuffer b.toBuffer)

/-- The place of a value's type. -/
def ScVal.rank : ScVal → Nat
  | .bool _ => 0
  | .void => 1
  | .error _ => 2
  | .u32 _ => 3
  | .i32 _ => 4
  | .u64 _ => 5
  | .i64 _ => 6
  | .timepoint _ => 7
  | .duration _ => 8
  | .u128 _ => 9
  | .i128 _ => 10
  | .u256 _ => 11
  | .i256 _ => 12
  | .bytes _ => 13
  | .string _ => 14
  | .symbol _ => 15
  | .vec _ => 16
  | .map _ => 17
  | .address _ => 18
  | .contractInstance _ => 19
  | .ledgerKeyContractInstance => 20
  | .ledgerKeyNonce _ => 21

mutual

/-- The order of contract values. -/
def ScVal.cmp : ScVal → ScVal → Ordering
  | .bool a, .bool b => compare a b
  | .error a, .error b => compare a b
  | .u32 a, .u32 b => compare a.toNat b.toNat
  | .i32 a, .i32 b => compare a.toInt b.toInt
  | .u64 a, .u64 b => compare a.toNat b.toNat
  | .i64 a, .i64 b => compare a.toInt b.toInt
  | .timepoint a, .timepoint b => compare a.toNat b.toNat
  | .duration a, .duration b => compare a.toNat b.toNat
  | .u128 a, .u128 b => compare a.toNat b.toNat
  | .i128 a, .i128 b => compare a.toInt b.toInt
  | .u256 a, .u256 b => compare a.toNat b.toNat
  | .i256 a, .i256 b => compare a.toInt b.toInt
  | .bytes a, .bytes b => compare a b
  | .string a, .string b => compare a b
  | .symbol a, .symbol b => compare a b
  | .vec none, .vec (some _) => .lt
  | .vec (some _), .vec none => .gt
  | .vec (some a), .vec (some b) => cmpItems a b
  | .map none, .map (some _) => .lt
  | .map (some _), .map none => .gt
  | .map (some a), .map (some b) => cmpEntries a b
  | .address a, .address b => a.cmp b
  | .contractInstance a, .contractInstance b => compare a b
  | .ledgerKeyNonce a, .ledgerKeyNonce b => compare a.toInt b.toInt
  -- What is left are values of different types, and the ones without contents.
  | a, b => compare a.rank b.rank

/-- Vectors compare element by element. -/
def cmpItems : List ScVal → List ScVal → Ordering
  | [], [] => .eq
  | [], _ :: _ => .lt
  | _ :: _, [] => .gt
  | a :: as, b :: bs => (a.cmp b).then (cmpItems as bs)

/-- Maps compare entry by entry, each by its key first. -/
def cmpEntries : List (ScVal × ScVal) → List (ScVal × ScVal) → Ordering
  | [], [] => .eq
  | [], _ :: _ => .lt
  | _ :: _, [] => .gt
  | (k, v) :: as, (k', v') :: bs => (k.cmp k').then ((v.cmp v').then (cmpEntries as bs))

end

/-- The keys of a map are in strictly ascending order. -/
def Ascending (entries : List (ScVal × ScVal)) : Prop :=
  (entries.map Prod.fst).Pairwise (fun a b => a.cmp b = .lt)

/-- The value of an enumeration: the name of a variant, and what it carries. -/
def variant (name : JsString) (values : List ScVal) : ScVal :=
  .vec (some (.symbol (TextEncoder.encode name) :: values))

/-- Two values of enumerations compare by their names first. -/
theorem cmp_variant (name name' : JsString) (a b : ScVal) :
    (variant name [a]).cmp (variant name' [b]) =
      (compare (TextEncoder.encode name) (TextEncoder.encode name')).then (a.cmp b) := by
  simp only [variant, ScVal.cmp, cmpItems, Ordering.then_eq]

end Stellar

end VellarSdk
