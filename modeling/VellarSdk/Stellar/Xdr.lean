import VellarSdk.X402.Types

/-!
# Soroban Authorization Entries

The XDR types that cross between the payer, the RPC and the wallet: addresses,
contract values and authorization entries. An entry says whose credentials it
carries and which invocation they authorise.

The Stellar SDK itself is not part of the repository. `StellarSdk` gathers the
functions of it that the source calls, and what the development needs to know
about one of them is a hypothesis where it is needed.

## Main definitions

* `ScAddress`, `ScVal`: Addresses and contract values.
* `SorobanCredentials`, `AuthorizedInvocation`: Who authorises what.
* `SorobanAuthorizationEntry`: The two together.
* `StellarSdk`: The functions the source calls.
-/

namespace VellarSdk

namespace Stellar

open Js X402

/-- An address, by kind. -/
inductive ScAddress where
  | account (publicKey : Bytes)
  | contract (contractId : Bytes)
  | muxedAccount (id : BitVec 64) (publicKey : Bytes)
  | claimableBalance (balanceId : Bytes)
  | liquidityPool (poolId : Bytes)
  deriving DecidableEq

/-- A contract value. Strings and symbols are bytes on the wire. Values that no
    payment carries keep their encoding. -/
inductive ScVal where
  | bool (b : Bool)
  | void
  | error (encoded : Bytes)
  | u32 (n : BitVec 32)
  | i32 (n : BitVec 32)
  | u64 (n : BitVec 64)
  | i64 (n : BitVec 64)
  | timepoint (n : BitVec 64)
  | duration (n : BitVec 64)
  | u128 (n : BitVec 128)
  | i128 (n : BitVec 128)
  | u256 (n : BitVec 256)
  | i256 (n : BitVec 256)
  | bytes (b : Bytes)
  | string (b : Bytes)
  | symbol (b : Bytes)
  | vec (items : Option (List ScVal))
  | map (entries : Option (List (ScVal × ScVal)))
  | address (a : ScAddress)
  | contractInstance (encoded : Bytes)
  | ledgerKeyContractInstance
  | ledgerKeyNonce (nonce : BitVec 64)

/-- The credentials of an address: what they sign over, and the signature. -/
structure AddressCredentials where
  address : ScAddress
  nonce : BitVec 64
  signatureExpirationLedger : JsNum
  signature : ScVal

/-- Whose credentials an entry carries. The wallets sign the first version of
    address credentials only. -/
inductive SorobanCredentials where
  | sourceAccount
  | address (credentials : AddressCredentials)
  | addressV2 (credentials : AddressCredentials)

/-- `credentials.switch().name`. -/
def SorobanCredentials.switchName : SorobanCredentials → JsString
  | .sourceAccount => "sorobanCredentialsSourceAccount"
  | .address _ => "sorobanCredentialsAddress"
  | .addressV2 _ => "sorobanCredentialsAddressV2"

/-- A call of a contract. -/
structure ContractCall where
  contractAddress : ScAddress
  functionName : Bytes
  args : List ScVal

/-- What can be authorised: a call, or the creation of a contract. -/
inductive AuthorizedFunction where
  | contractFn (call : ContractCall)
  | createContractHostFn (encoded : Bytes)
  | createContractV2HostFn (encoded : Bytes)

/-- `function.switch().name`. -/
def AuthorizedFunction.switchName : AuthorizedFunction → JsString
  | .contractFn _ => "sorobanAuthorizedFunctionTypeContractFn"
  | .createContractHostFn _ => "sorobanAuthorizedFunctionTypeCreateContractHostFn"
  | .createContractV2HostFn _ => "sorobanAuthorizedFunctionTypeCreateContractV2HostFn"

/-- A tree of authorised functions. -/
inductive AuthorizedInvocation where
  | mk (function : AuthorizedFunction) (subInvocations : List AuthorizedInvocation)

/-- The function at the root of an invocation. -/
def AuthorizedInvocation.function : AuthorizedInvocation → AuthorizedFunction
  | .mk function _ => function

/-- The invocations under the root. -/
def AuthorizedInvocation.subInvocations : AuthorizedInvocation → List AuthorizedInvocation
  | .mk _ subs => subs

/-- An authorization entry. -/
structure SorobanAuthorizationEntry where
  credentials : SorobanCredentials
  rootInvocation : AuthorizedInvocation

/-- The functions of the Stellar SDK that the source calls. -/
structure StellarSdk where
  /-- `Address.fromScAddress(a).toString()`. -/
  addressToString : ScAddress → Except JsError JsString
  /-- `new Address(s).toScAddress()`. -/
  addressFromString : JsString → Except JsError ScAddress
  /-- `scValToNative(v)`. -/
  scValToNative : ScVal → Except JsError JsValue
  /-- `nativeToScVal(v, { type: "address" })`. -/
  nativeToAddress : JsValue → Except JsError ScVal
  /-- `nativeToScVal(n, { type: "i128" })`. -/
  nativeToI128 : Int → Except JsError ScVal
  /-- `entry.toXDR("base64")`. -/
  entryToXdr : SorobanAuthorizationEntry → Except JsError JsString
  /-- `SorobanAuthorizationEntry.fromXDR(s, "base64")`. -/
  entryFromXdr : JsString → Except JsError SorobanAuthorizationEntry
  /-- `Keypair.fromSecret(s).rawPublicKey()`. -/
  rawPublicKey : JsString → Except JsError Bytes
  /-- `hash(buildAuthorizationEntryPreimage(entry, ledger, passphrase).toXDR())`. -/
  preimageHash : SorobanAuthorizationEntry → JsNum → JsValue → Except JsError Bytes

end Stellar

end VellarSdk
