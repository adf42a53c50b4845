import VellarSdk.Js.Base64
import VellarSdk.Js.Case
import VellarSdk.Js.Rounded
import VellarSdk.X402.Untrusted

/-!
# Signed Requests

The signature over the request that carries a payment. Both sides build one text
of the request, the canonical string, and compare its HMAC: the client when it
sends the request, the facilitator when it has received it. The facilitator reads
the fields from what arrived, so the two texts are the same only when every field
arrives as it was signed.

`Platform` is what the runtime supplies: the HMAC of the Web Crypto API, random
bytes, and the parser of URLs. None of them has to be there. What is sent of a
body is left to the runtime too, and `BodyInit.wire` says what it is: a text goes
out in UTF-8, and everything else as the bytes it stands for. The receiver reads
those bytes as a text, as a `Buffer` does.

The signer's clock gives a time value, which ECMAScript bounds, so that its seconds
print without an exponent and are read back. The verifier is handed its clock and its
tolerance as options, and these may be any numbers. What the two times differ by is
worked out as doubles do it, and it is refused only when it exceeds the tolerance,
which nothing does where one of the two is `NaN`.

## Main definitions

* `Platform`, `Hmac`, `Pathname`, `TimeValue`: What the runtime supplies.
* `canonicalRequestString`: The text that is signed.
* `signFacilitatorRequest`, `verifyFacilitatorRequest`: Signing and verifying.
* `WithinTolerance`: A time near enough to the verifier's.
* `createSignedFetch`: What is sent.

## Theorems

* `canonicalRequestString_inj`: The text tells requests apart.
* `timingSafeEqual_iff`: The comparison is equality.
* `seconds_eq`: The seconds of a clock, as they are worked out.
* `withinTolerance_iff`: Between two clocks nothing is rounded.
* `timely_seconds`: The seconds of a clock are read back from the header.
* `signFacilitatorRequest_ok`: What signing returns.
* `verifyFacilitatorRequest_iff`: Verifying compares two digests, within the
  tolerance.
-/

namespace VellarSdk

namespace X402

namespace RequestAuth

open Js

/-- HMAC-SHA-256, as a function of the key and the message. -/
structure Hmac where
  digest : Bytes → Bytes → Bytes
  length_digest : ∀ key message, (digest key message).length = 32

/-- The path of a parsed URL: printable ASCII, as everything else is
    percent-encoded. -/
structure Pathname where
  text : JsString
  printable : ∀ u ∈ text, 32 ≤ u.toNat ∧ u.toNat < 127

/-- A number of milliseconds that `Date.now` may give. -/
structure TimeValue where
  ms : Int
  bounded : ms.natAbs ≤ 8640000000000000

/-- `Math.floor(now / 1000)`, as the quotient of integers it is. -/
def TimeValue.seconds (now : TimeValue) : Int :=
  now.ms / 1000

/-- The quotient is a double, with digits enough behind the point. -/
theorem TimeValue.seconds_eq (now : TimeValue) :
    (JsNum.quotient (some (.finite now.ms)) 1000).floor = some (.finite now.seconds) := by
  have hsmall : |(now.ms / (1000 : ℕ) : ℚ)| < 2 ^ (53 - (10 : ℕ) : ℤ) := by
    have hms : |(now.ms : ℚ)| ≤ 8640000000000000 := by
      rw [← Int.cast_abs, Int.abs_eq_natAbs]
      exact_mod_cast now.bounded
    rw [abs_div, div_lt_iff₀ (by norm_num)]
    exact hms.trans_lt (by norm_num)
  exact JsNum.floor_quotient_intCast (by decide) (by decide) (by decide) hsmall

theorem TimeValue.natAbs_seconds (now : TimeValue) : now.seconds.natAbs ≤ 2 ^ 52 := by
  have := now.bounded
  unfold TimeValue.seconds
  omega

/-- What the runtime has: `crypto.subtle`, what `getRandomValues` fills in, and
    `new URL(url, base).pathname`. -/
structure Platform where
  subtle : Option Hmac
  getRandomValues : Option (Vector UInt8 16)
  pathname : JsString → Option JsString → Option Pathname

/-- The errors of signing, and those of the runtime's own functions. -/
inductive SigningError where
  | requestSigningUnavailable (operation : String)
  | invalidSigningConfig (message : String)
  | typeError
  | dataError
  deriving DecidableEq

/-- A credential, what its clock gives now, and its source of nonces. -/
structure FacilitatorRequestSigningConfig where
  keyId : JsString
  secret : JsString
  now : TimeValue
  nonce : Option JsString := none

/-- The four headers of a signed request. -/
structure SignedRequestHeaders where
  keyId : JsString
  timestamp : JsString
  nonce : JsString
  signature : JsString
  deriving DecidableEq

def algorithm : JsString := js "HMAC-SHA256"
def headerKeyId : JsString := js "X-Vellar-Key-Id"
def headerTimestamp : JsString := js "X-Vellar-Timestamp"
def headerNonce : JsString := js "X-Vellar-Nonce"
def headerSignature : JsString := js "X-Vellar-Signature"

def requireSubtleCrypto (p : Platform) (operation : String) : Except SigningError Hmac :=
  match p.subtle with
  | none => .error (.requestSigningUnavailable operation)
  | some subtle => .ok subtle

def randomNonce (p : Platform) : Except SigningError JsString :=
  match p.getRandomValues with
  | none => .error (.requestSigningUnavailable "vellar-sdk/x402-request-auth nonce generation")
  | some bytes => .ok (bytes.toList.flatMap hexByte)

/-- What a request is signed over. -/
structure CanonicalInput where
  method : JsString
  path : JsString
  body : JsString
  timestamp : JsString
  nonce : JsString

/-- The text that is signed. -/
def canonicalRequestString (input : CanonicalInput) : JsString :=
  joinLines [toUpperCase input.method, input.path, input.timestamp, input.nonce, input.body]

/-- Nothing but the body has a line break, as in methods, paths and headers. -/
def CanonicalInput.OneLineFields (input : CanonicalInput) : Prop :=
  10 ∉ input.method ∧ 10 ∉ input.path ∧ 10 ∉ input.timestamp ∧ 10 ∉ input.nonce

theorem canonicalRequestString_eq (input : CanonicalInput) : canonicalRequestString input =
    toUpperCase input.method ++ 10 :: (input.path ++ 10 :: (input.timestamp ++
      10 :: (input.nonce ++ 10 :: input.body))) := by
  unfold canonicalRequestString joinLines
  simp only [List.intercalate_cons_cons, List.intercalate_singleton, List.append_assoc,
    List.singleton_append]

/-- The text tells requests apart, whatever their bodies: its first four line
    breaks are those between the fields. -/
theorem canonicalRequestString_inj (i j : CanonicalInput) (hi : i.OneLineFields)
    (hj : j.OneLineFields) (h : canonicalRequestString i = canonicalRequestString j) :
    toUpperCase i.method = toUpperCase j.method ∧ i.path = j.path ∧ i.timestamp = j.timestamp ∧
      i.nonce = j.nonce ∧ i.body = j.body := by
  rcases hi with ⟨himethod, hipath, hitimestamp, hinonce⟩
  rcases hj with ⟨hjmethod, hjpath, hjtimestamp, hjnonce⟩
  rw [canonicalRequestString_eq, canonicalRequestString_eq] at h
  -- A method has no line break in upper case either.
  obtain ⟨hmethod, h⟩ := append_cons_inj (newline_not_mem_toUpperCase himethod)
    (newline_not_mem_toUpperCase hjmethod) h
  obtain ⟨hpath, h⟩ := append_cons_inj hipath hjpath h
  obtain ⟨htimestamp, h⟩ := append_cons_inj hitimestamp hjtimestamp h
  obtain ⟨hnonce, hbody⟩ := append_cons_inj hinonce hjnonce h
  exact ⟨hmethod, hpath, htimestamp, hnonce, hbody⟩

/-- A request with its method in capitals, and with it in small letters. The body
    has line breaks of its own. -/
def capitalInput : CanonicalInput :=
  ⟨"POST", "/settle", "a\n\nb", "1785542400", "0102"⟩

def smallInput : CanonicalInput :=
  { capitalInput with method := "post" }

theorem canonicalRequestString_inj_methodCase :
    toUpperCase capitalInput.method = toUpperCase smallInput.method ∧
      capitalInput.path = smallInput.path ∧ capitalInput.timestamp = smallInput.timestamp ∧
      capitalInput.nonce = smallInput.nonce ∧ capitalInput.body = smallInput.body :=
  canonicalRequestString_inj capitalInput smallInput
    ⟨by decide, by decide, by decide, by decide⟩ ⟨by decide, by decide, by decide, by decide⟩
    (by decide +kernel)

def assertConfig (config : FacilitatorRequestSigningConfig) : Except SigningError Unit :=
  if config.keyId.isEmpty || (trim config.keyId).length = 0 then
    .error (.invalidSigningConfig "facilitator request signing requires a non-empty keyId")
  else if config.secret.isEmpty || config.secret.length = 0 then
    .error (.invalidSigningConfig "facilitator request signing requires a non-empty secret")
  else .ok ()

/-- `subtle.importKey` refuses a key of no bytes. -/
def importKey (secret : JsString) : Except SigningError Bytes :=
  if (TextEncoder.encode secret).isEmpty then .error .dataError
  else .ok (TextEncoder.encode secret)

/-- A request, as it is signed and as it is verified. -/
structure SignableRequest where
  method : JsString
  path : JsString
  body : Option JsString := none

/-- `(config.nonce ?? randomNonce)()`. -/
def drawNonce (p : Platform) (config : FacilitatorRequestSigningConfig) :
    Except SigningError JsString :=
  match config.nonce with
  | some nonce => .ok nonce
  | none => randomNonce p

def signFacilitatorRequest (p : Platform) (config : FacilitatorRequestSigningConfig)
    (request : SignableRequest) : Except SigningError SignedRequestHeaders := do
  assertConfig config
  let subtle ← requireSubtleCrypto p "signFacilitatorRequest"
  let timestamp := JsNum.toStr (some (.finite config.now.seconds))
  let nonce ← drawNonce p config
  let body := request.body.getD []
  let canonical := canonicalRequestString ⟨request.method, request.path, body, timestamp, nonce⟩
  let key ← importKey config.secret
  let digest := subtle.digest key (TextEncoder.encode canonical)
  return ⟨config.keyId, timestamp, nonce, algorithm ++ js " " ++ btoa digest⟩

/-- What signing returns, and what it has found to be there. -/
theorem signFacilitatorRequest_ok {p : Platform} {config : FacilitatorRequestSigningConfig}
    {request : SignableRequest} {headers : SignedRequestHeaders}
    (h : signFacilitatorRequest p config request = .ok headers) :
    ∃ subtle key nonce, p.subtle = some subtle ∧ importKey config.secret = .ok key ∧
      headers = ⟨config.keyId, JsNum.toStr (some (.finite config.now.seconds)), nonce,
        algorithm ++ js " " ++ btoa (subtle.digest key (TextEncoder.encode (canonicalRequestString
          ⟨request.method, request.path, request.body.getD [],
            JsNum.toStr (some (.finite config.now.seconds)), nonce⟩)))⟩ := by
  unfold signFacilitatorRequest at h
  obtain ⟨-, -, h⟩ := bind_eq_ok.mp h
  obtain ⟨subtle, hsubtle, h⟩ := bind_eq_ok.mp h
  obtain ⟨nonce, -, h⟩ := bind_eq_ok.mp h
  obtain ⟨key, hkey, h⟩ := bind_eq_ok.mp h
  refine ⟨subtle, key, nonce, ?_, hkey, (Except.ok.inj h).symm⟩
  unfold requireSubtleCrypto at hsubtle
  cases hp : p.subtle with
  | none =>
      rw [hp] at hsubtle
      exact absurd hsubtle (by simp only [reduceCtorEq, not_false_eq_true])
  | some found =>
      rw [hp] at hsubtle
      exact congrArg some (Except.ok.inj hsubtle)

/-- `text.split(" ", 2)`: the text up to the first space, and what is between it
    and the next, if there is one. -/
def splitTwo (text : JsString) : JsString × Option JsString :=
  (before (fun u => u == 32) text, (afterFirst [32] text).map (before (fun u => u == 32)))

theorem splitTwo_append_cons {a b : JsString} (ha : 32 ∉ a) (hb : 32 ∉ b) :
    splitTwo (a ++ 32 :: b) = (a, some b) := by
  have hbefore : before (fun u => u == 32) b = b :=
    before_of_not (fun u hu => beq_eq_false_iff_ne.mpr (fun h => hb (h ▸ hu)))
  rw [splitTwo, before_append_cons ha, afterFirst_append_cons ha, Option.map_some, hbefore]

/-- The header as it is signed has the two parts it was put together from. -/
theorem splitTwo_signature (digest : Bytes) :
    splitTwo (algorithm ++ js " " ++ btoa digest) = (algorithm, some (btoa digest)) := by
  rw [List.append_assoc]
  exact splitTwo_append_cons (by decide) (space_not_mem_btoa digest)

/-- Constant-time string comparison. -/
def timingSafeEqual (a b : JsString) : Bool :=
  if a.length ≠ b.length then false
  else (a.zip b).foldl (fun diff e => diff ||| (e.1 ^^^ e.2)) 0 == 0

/-- The difference is zero when it was, and no pair adds to it. -/
theorem foldl_diff_eq_zero (pairs : List (CodeUnit × CodeUnit)) (diff : CodeUnit) :
    pairs.foldl (fun diff e => diff ||| (e.1 ^^^ e.2)) diff = 0 ↔
      diff = 0 ∧ ∀ e ∈ pairs, e.1 = e.2 := by
  induction pairs generalizing diff with
  | nil => simp only [List.foldl_nil, List.not_mem_nil, false_implies, implies_true, and_true]
  | cons e pairs ih =>
      rw [List.foldl_cons, ih, UInt16.or_eq_zero_iff, UInt16.xor_eq_zero_iff, List.forall_mem_cons,
        and_assoc]

/-- The comparison is equality. -/
theorem timingSafeEqual_iff (a b : JsString) : timingSafeEqual a b = true ↔ a = b := by
  unfold timingSafeEqual
  by_cases hlength : a.length = b.length
  · rw [if_neg (not_not.mpr hlength), beq_iff_eq, foldl_diff_eq_zero]
    constructor
    · rintro ⟨-, hpairs⟩
      refine List.ext_getElem hlength (fun n hna hnb => ?_)
      have hmem : (a[n], b[n]) ∈ a.zip b := by
        rw [← List.getElem_zip (h := by rw [List.length_zip]; omega)]
        exact List.getElem_mem _
      exact hpairs _ hmem
    · rintro rfl
      refine ⟨rfl, fun e he => ?_⟩
      rw [List.zip_eq_zipWith, List.zipWith_self, List.mem_map] at he
      obtain ⟨u, -, rfl⟩ := he
      rfl
  · rw [if_pos hlength]
    exact iff_of_false Bool.false_ne_true (fun h => hlength (congrArg List.length h))

/-- How far the clocks may be apart, and what the verifier's clock gives now. -/
structure VerifyOptions where
  toleranceSeconds : JsNum := JsNum.ofNat 300
  now : JsNum

/-- `Math.floor(now() / 1000)`. -/
def VerifyOptions.nowSeconds (opts : VerifyOptions) : JsNum :=
  (opts.now.quotient 1000).floor

/-- Is the request's time a number, and near enough to the verifier's? -/
def timely (opts : VerifyOptions) (timestamp : JsString) : Bool :=
  match numberOfText timestamp with
  | some (.finite requestSeconds) =>
      -- A comparison with `NaN` is false, so that it refuses nothing.
      !opts.toleranceSeconds.lt (opts.nowSeconds.minus (some (.finite requestSeconds))).abs
  | _ => false

/-- What a time differs by from the verifier's is at most the tolerance, unless one of
    the two is `NaN`. -/
def WithinTolerance (opts : VerifyOptions) (seconds : ℚ) : Prop :=
  ∀ apart tolerance, (opts.nowSeconds.minus (some (.finite seconds))).abs = some apart →
    opts.toleranceSeconds = some tolerance → apart ≤ tolerance

theorem withinTolerance_iff_lt (opts : VerifyOptions) (seconds : ℚ) :
    WithinTolerance opts seconds ↔
      opts.toleranceSeconds.lt (opts.nowSeconds.minus (some (.finite seconds))).abs = false := by
  unfold WithinTolerance
  cases (opts.nowSeconds.minus (some (.finite seconds))).abs with
  | none =>
      refine iff_of_true nofun ?_
      rcases opts.toleranceSeconds with _ | ⟨q⟩ | ⟨negative⟩ <;> rfl
  | some apart =>
      cases opts.toleranceSeconds with
      | none => exact iff_of_true nofun rfl
      | some tolerance =>
          rw [← Bool.not_eq_true, JsNum.lt_some, not_lt]
          constructor
          · intro h
            exact h apart tolerance rfl rfl
          · intro h apart' tolerance' hapart htolerance
            rwa [← Option.some.inj hapart, ← Option.some.inj htolerance]

/-- Between two clocks nothing is rounded. -/
theorem withinTolerance_iff {opts : VerifyOptions} {tolerance : ℚ} (now : TimeValue)
    (hnow : opts.now = some (.finite now.ms))
    (htolerance : opts.toleranceSeconds = some (.finite tolerance)) (signed : TimeValue) :
    WithinTolerance opts signed.seconds ↔
      |(now.seconds : ℚ) - signed.seconds| ≤ tolerance := by
  have hdiff : (now.seconds - signed.seconds).natAbs ≤ 2 ^ 53 := by
    have hnow := now.natAbs_seconds
    have hsigned := signed.natAbs_seconds
    omega
  have hapart : (opts.nowSeconds.minus (some (.finite signed.seconds))).abs =
      some (.finite |(now.seconds : ℚ) - signed.seconds|) := by
    rw [VerifyOptions.nowSeconds, hnow, TimeValue.seconds_eq, JsNum.minus_intCast hdiff,
      JsNum.abs, Int.cast_sub]
  rw [withinTolerance_iff_lt, hapart, htolerance, ← Bool.not_eq_true, JsNum.lt_some, not_lt,
    JsNumber.finite_le]

/-- The seconds of a clock are printed without an exponent, and read back. -/
theorem numberOfText_seconds (now : TimeValue) :
    numberOfText (JsNum.toStr (some (.finite now.seconds))) = some (.finite now.seconds) := by
  have hbound := now.natAbs_seconds
  rw [JsNum.toStr, JsNumber.toStr_int (by omega), numberOfText_intToString (by omega)]

theorem timely_seconds (opts : VerifyOptions) (now : TimeValue) :
    timely opts (JsNum.toStr (some (.finite now.seconds))) = true ↔
      WithinTolerance opts now.seconds := by
  rw [timely, numberOfText_seconds, withinTolerance_iff_lt, Bool.not_eq_true_eq_eq_false]

def verifyFacilitatorRequest (p : Platform) (secret : JsString) (headers : SignedRequestHeaders)
    (request : SignableRequest) (opts : VerifyOptions) : Except SigningError Bool := do
  let subtle ← requireSubtleCrypto p "verifyFacilitatorRequest"
  match splitTwo headers.signature with
  | (_, none) => return false
  | (name, some provided) =>
      if name ≠ algorithm ∨ provided = [] then return false
      else if timely opts headers.timestamp = false then return false
      else
        let canonical := canonicalRequestString
          ⟨request.method, request.path, request.body.getD [], headers.timestamp, headers.nonce⟩
        let key ← importKey secret
        let digest := subtle.digest key (TextEncoder.encode canonical)
        return timingSafeEqual (btoa digest) provided

/-- A request in time verifies when its text has the digest that was signed. -/
theorem verifyFacilitatorRequest_iff {p : Platform} {secret : JsString} {subtle : Hmac}
    {key digest : Bytes} {headers : SignedRequestHeaders} {opts : VerifyOptions}
    (hsubtle : p.subtle = some subtle) (hkey : importKey secret = .ok key)
    (hdigest : digest.length = 32) (hsignature : headers.signature = algorithm ++ js " " ++ btoa digest)
    (htimely : timely opts headers.timestamp = true) (request : SignableRequest) :
    verifyFacilitatorRequest p secret headers request opts = .ok true ↔
      subtle.digest key (TextEncoder.encode (canonicalRequestString ⟨request.method, request.path,
        request.body.getD [], headers.timestamp, headers.nonce⟩)) = digest := by
  have hsplit : splitTwo headers.signature = (algorithm, some (btoa digest)) := by
    rw [hsignature, splitTwo_signature]
  have hprovided : ¬ (algorithm ≠ algorithm ∨ btoa digest = []) := by
    rintro (h | h)
    · exact h rfl
    · refine btoa_ne_nil (fun hnil => ?_) h
      rw [hnil] at hdigest
      exact absurd hdigest (by decide)
  have hverify : verifyFacilitatorRequest p secret headers request opts = .ok (timingSafeEqual
      (btoa (subtle.digest key (TextEncoder.encode (canonicalRequestString ⟨request.method,
        request.path, request.body.getD [], headers.timestamp, headers.nonce⟩)))) (btoa digest)) := by
    unfold verifyFacilitatorRequest requireSubtleCrypto
    simp only [hsubtle, hsplit, if_neg hprovided, htimely, Bool.true_eq_false, if_false, hkey,
      bind, Except.bind, pure, Except.pure]
  rw [hverify, Except.ok.injEq, timingSafeEqual_iff]
  exact ⟨fun h => btoa_inj h, fun h => by rw [h]⟩

/-- The bodies a request may carry, each but a text with the bytes it stands
    for. -/
inductive BodyInit where
  | text (s : JsString)
  | uint8Array (bytes : Bytes)
  | blob (bytes : Bytes)
  | urlSearchParams (serialized : JsString)
  | formData (multipart : Bytes)
  | readableStream (bytes : Bytes)

/-- The bytes that are sent of a body. -/
def BodyInit.wire : BodyInit → Bytes
  | .text s => TextEncoder.encode s
  | .uint8Array bytes => bytes
  | .blob bytes => bytes
  | .urlSearchParams serialized => TextEncoder.encode serialized
  | .formData multipart => multipart
  | .readableStream bytes => bytes

/-- The second argument of `fetch`. The headers are an object, or nothing. -/
structure RequestInit where
  method : Option JsString := none
  headers : JsValue := .undefined
  body : Option BodyInit := none

/-- `{ ...(headers ?? {}), ...signedHeaders }`. -/
def withSignedHeaders (headers : JsValue) (signed : SignedRequestHeaders) : JsValue :=
  ((((headers.orElse (.obj [])).withField headerKeyId signed.keyId).withField headerTimestamp
    signed.timestamp).withField headerNonce signed.nonce).withField headerSignature signed.signature

/-- The base a URL is parsed against for its path. -/
def placeholder : JsString := js "http://placeholder.invalid"

/-- `new URL(url, "http://placeholder.invalid").pathname`. -/
def requestPath (p : Platform) (url : JsString) : Except SigningError Pathname :=
  match p.pathname url (some placeholder) with
  | some path => .ok path
  | none => .error .typeError

/-- The body as it is signed: only a text is. -/
def signedBody : Option BodyInit → JsString
  | some (.text s) => s
  | _ => []

/-- What a signed `fetch` passes on to the one it wraps. -/
def createSignedFetch (p : Platform) (config : FacilitatorRequestSigningConfig) (url : JsString)
    (init : RequestInit) : Except SigningError RequestInit := do
  let method := init.method.getD (js "GET")
  let path ← requestPath p url
  let signedHeaders ← signFacilitatorRequest p config
    ⟨method, path.text, some (signedBody init.body)⟩
  return { init with headers := withSignedHeaders init.headers signedHeaders }

end RequestAuth

end X402

end VellarSdk
