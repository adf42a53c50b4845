import VellarSdk.X402.RequestAuth

/-!
# What a Signed Request Guarantees

A request that was signed as it is sent is accepted by the receiver. Signing does
not see all of a request as it is sent, in two places. A body that is not a text
is signed as if it were empty. And the path that is signed is that of the URL
against a placeholder, while the request goes to the URL against the base of the
page that sends it, if there is one.

The receiver is `verifyFacilitatorRequest` on what arrived. `fetch` sends some
methods in capitals whatever their case, which the signed text does not see. The
headers are those of the object that is handed to `fetch`, which is not followed any
further, and the bytes of the body are read as a text.

A digest is shorter than what is signed, so a request that was signed as another
is refused only when the two texts have different digests. That is asked of the
two texts at hand (`CollisionFree`), and of no others.

## Main definitions

* `normalizeMethod`: The method as `fetch` sends it.
* `receivedHeaders`: The signed headers of what is handed to `fetch`.
* `receivedRequest`: The rest of the request, as it arrives.
* `BodySigned`: A body that is signed as it is sent.
* `CollisionFree`: Two texts that the digest tells apart.

## Theorems

* `toUpperCase_normalizeMethod`: The signed text does not see how a method is
  sent.
* `receivedHeaders_withSignedHeaders`: The headers are passed on as they were signed.
* `encode_receivedBody_iff`: When a body arrives as it was signed.
* `verifies_iff`: When a signed request is accepted.
-/

namespace VellarSdk

namespace X402

namespace RequestAuth

open Js

/-- The methods that are the same in any case. -/
def normalizedMethods : List JsString :=
  [js "DELETE", js "GET", js "HEAD", js "OPTIONS", js "POST", js "PUT"]

/-- The method as `fetch` sends it. -/
def normalizeMethod (method : JsString) : JsString :=
  if method.map asciiUpperUnit ∈ normalizedMethods then method.map asciiUpperUnit else method

/-- The signed text does not see how a method is sent. -/
theorem toUpperCase_normalizeMethod (method : JsString) :
    toUpperCase (normalizeMethod method) = toUpperCase method := by
  unfold normalizeMethod
  by_cases hmem : method.map asciiUpperUnit ∈ normalizedMethods
  · rw [if_pos hmem]
    have hnormalized : ∀ m ∈ normalizedMethods, (∀ u ∈ m, u.toNat < 0x80) ∧
        m.map asciiUpperUnit = m := by decide
    obtain ⟨hupper, hself⟩ := hnormalized _ hmem
    -- What is ASCII in capitals was ASCII before.
    have hascii : ∀ u ∈ method, u.toNat < 0x80 := by
      intro u hu
      have hunit := hupper _ (List.mem_map_of_mem hu)
      rw [toNat_asciiUpperUnit] at hunit
      split at hunit <;> omega
    rw [toUpperCase_ascii hupper, hself, toUpperCase_ascii hascii]
  · rw [if_neg hmem]

/-- A header's value. -/
def readHeader (headers : JsValue) (name : JsString) : JsString :=
  match headers.field name with
  | .str value => value
  | _ => []

/-- The signed headers, read from the object that is handed to `fetch`. -/
def receivedHeaders (headers : JsValue) : SignedRequestHeaders :=
  ⟨readHeader headers headerKeyId, readHeader headers headerTimestamp,
    readHeader headers headerNonce, readHeader headers headerSignature⟩

/-- The headers are passed on as they were signed, whatever others were there. -/
theorem receivedHeaders_withSignedHeaders (headers : JsValue) (signed : SignedRequestHeaders) :
    receivedHeaders (withSignedHeaders headers signed) = signed := by
  -- The last of the four is read at once, and each other past those set after it.
  have hsignature : readHeader (withSignedHeaders headers signed) headerSignature =
      signed.signature := by
    rw [readHeader, withSignedHeaders, JsValue.field_withField]
  have hnonce : readHeader (withSignedHeaders headers signed) headerNonce = signed.nonce := by
    rw [readHeader, withSignedHeaders, JsValue.field_withField_of_ne _ (by decide),
      JsValue.field_withField]
  have htimestamp : readHeader (withSignedHeaders headers signed) headerTimestamp =
      signed.timestamp := by
    rw [readHeader, withSignedHeaders, JsValue.field_withField_of_ne _ (by decide),
      JsValue.field_withField_of_ne _ (by decide), JsValue.field_withField]
  have hkeyId : readHeader (withSignedHeaders headers signed) headerKeyId = signed.keyId := by
    rw [readHeader, withSignedHeaders, JsValue.field_withField_of_ne _ (by decide),
      JsValue.field_withField_of_ne _ (by decide), JsValue.field_withField_of_ne _ (by decide),
      JsValue.field_withField]
  rw [receivedHeaders, hsignature, hnonce, htimestamp, hkeyId]

/-- The bytes of a body as the receiver reads them. -/
def receivedBody : Option BodyInit → JsString
  | none => []
  | some body => bufferToString body.wire

/-- The request as it arrives at a path. -/
def receivedRequest (path : Pathname) (sent : RequestInit) : SignableRequest :=
  ⟨normalizeMethod (sent.method.getD (js "GET")), path.text, some (receivedBody sent.body)⟩

/-- The request as it is signed. -/
def signedRequest (path : Pathname) (init : RequestInit) : SignableRequest :=
  ⟨init.method.getD (js "GET"), path.text, some (signedBody init.body)⟩

/-- The bytes that are hashed for a request. -/
def canonicalBytes (headers : SignedRequestHeaders) (request : SignableRequest) : Bytes :=
  TextEncoder.encode (canonicalRequestString
    ⟨request.method, request.path, request.body.getD [], headers.timestamp, headers.nonce⟩)

/-- Is the body signed as it is sent? No body is, and a text; anything else only
    when there is nothing in it. -/
def BodySigned : Option BodyInit → Prop
  | none => True
  | some (.text _) => True
  | some body => body.wire = []

/-- The digest tells the two texts apart, if they are different. -/
def CollisionFree (p : Platform) (secret : JsString) (signed received : Bytes) : Prop :=
  ∀ subtle key, p.subtle = some subtle → importKey secret = .ok key →
    subtle.digest key signed = subtle.digest key received → signed = received

/-- A text arrives as it was signed; what was signed as empty, when it is. -/
theorem encode_receivedBody_iff (body : Option BodyInit) :
    TextEncoder.encode (signedBody body) = TextEncoder.encode (receivedBody body) ↔
      BodySigned body := by
  have hempty : ∀ bytes : Bytes,
      TextEncoder.encode [] = TextEncoder.encode (bufferToString bytes) ↔ bytes = [] := by
    intro bytes
    constructor
    · intro h
      by_contra hne
      exact bufferToString_ne_nil hne (TextEncoder.encode_eq_nil h.symm)
    · rintro rfl
      rfl
  cases body with
  | none => exact iff_of_true rfl trivial
  | some body =>
      cases body with
      | text s => exact iff_of_true (encode_bufferToString_encode s).symm trivial
      | uint8Array bytes => exact hempty bytes
      | blob bytes => exact hempty bytes
      | urlSearchParams serialized => exact hempty (TextEncoder.encode serialized)
      | formData multipart => exact hempty multipart
      | readableStream bytes => exact hempty bytes

/-- A path is encoded on a line of its own. -/
theorem newline_not_mem_path (path : Pathname) : 10 ∉ TextEncoder.encode path.text := by
  refine TextEncoder.newline_not_mem_encode (fun h => ?_)
  exact absurd (path.printable 10 h).1 (by decide)

theorem encode_path_inj {a b : Pathname}
    (h : TextEncoder.encode a.text = TextEncoder.encode b.text) : a = b := by
  have hascii : ∀ path : Pathname, ∀ u ∈ path.text, u.toNat < 0x80 := by
    intro path u hu
    exact lt_trans (path.printable u hu).2 (by decide)
  have htext := TextEncoder.encode_inj_of_ascii (hascii a) (hascii b) h
  cases a
  cases b
  cases htext
  rfl

theorem canonicalBytes_eq (headers : SignedRequestHeaders) (request : SignableRequest) :
    canonicalBytes headers request = TextEncoder.encode (toUpperCase request.method) ++
      10 :: (TextEncoder.encode request.path ++ 10 :: (TextEncoder.encode headers.timestamp ++
        10 :: (TextEncoder.encode headers.nonce ++
          10 :: TextEncoder.encode (request.body.getD [])))) := by
  simp only [canonicalBytes, canonicalRequestString_eq, TextEncoder.encode_append_newline]

/-- The receiver hashes what was signed when the path and the body arrived as they
    were signed. -/
theorem canonicalBytes_receivedRequest_iff (headers : SignedRequestHeaders)
    (signedPath path : Pathname) {init sent : RequestInit} (hmethod : sent.method = init.method)
    (hbody : sent.body = init.body) :
    canonicalBytes headers (signedRequest signedPath init) =
        canonicalBytes headers (receivedRequest path sent) ↔
      signedPath = path ∧ BodySigned init.body := by
  have hsame : toUpperCase (receivedRequest path sent).method =
      toUpperCase (signedRequest signedPath init).method := by
    rw [receivedRequest, toUpperCase_normalizeMethod, hmethod, signedRequest]
  rw [canonicalBytes_eq, canonicalBytes_eq, hsame, ← encode_receivedBody_iff, ← hbody]
  simp only [signedRequest, receivedRequest, Option.getD_some, hbody]
  constructor
  · intro h
    have hlines := List.tail_eq_of_cons_eq (List.append_cancel_left h)
    obtain ⟨hpath, hrest⟩ :=
      append_cons_inj (newline_not_mem_path signedPath) (newline_not_mem_path path) hlines
    have hlast := List.tail_eq_of_cons_eq (List.append_cancel_left hrest)
    exact ⟨encode_path_inj hpath, List.tail_eq_of_cons_eq (List.append_cancel_left hlast)⟩
  · rintro ⟨rfl, h⟩
    rw [h]

/-- What is passed on, and what was signed for it. -/
theorem createSignedFetch_ok {p : Platform} {config : FacilitatorRequestSigningConfig}
    {url : JsString} {init sent : RequestInit}
    (h : createSignedFetch p config url init = .ok sent) :
    ∃ path headers, p.pathname url (some placeholder) = some path ∧
      signFacilitatorRequest p config (signedRequest path init) = .ok headers ∧
      sent = { init with headers := withSignedHeaders init.headers headers } := by
  unfold createSignedFetch at h
  obtain ⟨path, hpath, h⟩ := bind_eq_ok.mp h
  obtain ⟨headers, hheaders, h⟩ := bind_eq_ok.mp h
  refine ⟨path, headers, ?_, hheaders, (Except.ok.inj h).symm⟩
  unfold requestPath at hpath
  cases hp : p.pathname url (some placeholder) with
  | none =>
      rw [hp] at hpath
      exact absurd hpath (by simp only [reduceCtorEq, not_false_eq_true])
  | some found =>
      rw [hp] at hpath
      exact congrArg some (Except.ok.inj hpath)

/-- The receiver accepts, within the tolerance, when the texts of the two sides
    have one digest. -/
theorem verifies_iff_digest {p : Platform} {config : FacilitatorRequestSigningConfig}
    {url : JsString} {init sent : RequestInit} {signedPath : Pathname} {opts : VerifyOptions}
    (hsent : createSignedFetch p config url init = .ok sent)
    (hsigned : p.pathname url (some placeholder) = some signedPath)
    (hclock : WithinTolerance opts config.now.seconds)
    (request : SignableRequest) :
    ∃ subtle key, p.subtle = some subtle ∧ importKey config.secret = .ok key ∧
      (verifyFacilitatorRequest p config.secret (receivedHeaders sent.headers) request opts =
          .ok true ↔
        subtle.digest key (canonicalBytes (receivedHeaders sent.headers) request) =
          subtle.digest key (canonicalBytes (receivedHeaders sent.headers)
            (signedRequest signedPath init))) := by
  obtain ⟨path, headers, hpath, hheaders, rfl⟩ := createSignedFetch_ok hsent
  rw [hsigned] at hpath
  cases hpath
  obtain ⟨subtle, key, nonce, hsubtle, hkey, rfl⟩ := signFacilitatorRequest_ok hheaders
  rw [receivedHeaders_withSignedHeaders]
  refine ⟨subtle, key, hsubtle, hkey, ?_⟩
  refine verifyFacilitatorRequest_iff hsubtle hkey (subtle.length_digest _ _) rfl ?_ request
  exact (timely_seconds opts config.now).mpr hclock

/-- A signed request is accepted, by any clock within the tolerance, when its path
    and its body are signed as they are sent. -/
theorem verifies_iff (p : Platform) (config : FacilitatorRequestSigningConfig) (url : JsString)
    (base : Option JsString) (init sent : RequestInit) (signedPath path : Pathname)
    (opts : VerifyOptions) (hsent : createSignedFetch p config url init = .ok sent)
    (hsigned : p.pathname url (some placeholder) = some signedPath)
    (hpath : p.pathname url base = some path)
    (hclock : WithinTolerance opts config.now.seconds)
    (hcollision : CollisionFree p config.secret
      (canonicalBytes (receivedHeaders sent.headers) (signedRequest signedPath init))
      (canonicalBytes (receivedHeaders sent.headers) (receivedRequest path sent))) :
    verifyFacilitatorRequest p config.secret (receivedHeaders sent.headers)
        (receivedRequest path sent) opts = .ok true ↔
      p.pathname url base = p.pathname url (some placeholder) ∧ BodySigned init.body := by
  obtain ⟨subtle, key, hsubtle, hkey, hverify⟩ :=
    verifies_iff_digest hsent hsigned hclock (receivedRequest path sent)
  have hinit : sent.method = init.method ∧ sent.body = init.body := by
    obtain ⟨-, headers, -, -, rfl⟩ := createSignedFetch_ok hsent
    exact ⟨rfl, rfl⟩
  have htexts := canonicalBytes_receivedRequest_iff (receivedHeaders sent.headers) signedPath path
    hinit.1 hinit.2
  rw [hverify, hpath, hsigned, Option.some.injEq, eq_comm (a := path), ← htexts]
  exact ⟨fun h => hcollision subtle key hsubtle hkey h.symm, fun h => by rw [h]⟩

/-- A credential, as the client holds it. -/
def settleConfig : FacilitatorRequestSigningConfig :=
  ⟨"key-abc", "test-shared-secret", ⟨1785542400000, by decide⟩,
    some "0102030405060708090a0b0c0d0e0f10"⟩

/-- The text of a request to settle. -/
def settleText (body : JsString) : Bytes :=
  TextEncoder.encode (js "POST\n/settle\n1785542400\n0102030405060708090a0b0c0d0e0f10\n" ++ body)

/-- The body of a request to settle. -/
def settleBody : JsString :=
  "\x7b\"x\":1\x7d"

/-- HMAC-SHA-256 on the two texts at hand. -/
def settleDigest (key message : Bytes) : Bytes :=
  if key = TextEncoder.encode "test-shared-secret" ∧ message = settleText [] then
    [174, 254, 34, 184, 174, 42, 146, 227, 96, 215, 12, 172, 212, 68, 222, 225,
      165, 226, 224, 116, 253, 157, 58, 79, 138, 221, 32, 164, 229, 252, 238, 13]
  else if key = TextEncoder.encode "test-shared-secret" ∧ message = settleText settleBody then
    [142, 194, 101, 52, 72, 32, 217, 126, 143, 41, 100, 20, 119, 70, 242, 29,
      164, 241, 58, 208, 148, 188, 115, 126, 223, 226, 130, 194, 227, 85, 127, 88]
  else List.replicate 32 0

theorem length_settleDigest (key message : Bytes) : (settleDigest key message).length = 32 := by
  unfold settleDigest
  split
  · rfl
  · split <;> rfl

def settleUrl : JsString :=
  "https://facilitator.test/settle"

def settlePath : Pathname :=
  ⟨"/settle", by decide⟩

/-- A runtime that knows one URL, which is absolute. -/
def settlePlatform : Platform where
  subtle := some ⟨settleDigest, length_settleDigest⟩
  getRandomValues := none
  pathname url _ := if url = settleUrl then some settlePath else none

def settleInit (body : BodyInit) : RequestInit :=
  ⟨some "POST", .undefined, some body⟩

/-- The request as it is passed on. -/
def settleSent (body : BodyInit) (signature : JsString) : RequestInit :=
  ⟨some "POST", withSignedHeaders .undefined
    ⟨"key-abc", "1785542400", "0102030405060708090a0b0c0d0e0f10", signature⟩, some body⟩

/-- A text, signed as it is. -/
def sentText : RequestInit :=
  settleSent (.text settleBody) "HMAC-SHA256 jsJlNEgg2X6PKWQUd0byHaTxOtCUvHN+3+KCwuNVf1g="

/-- The same body as bytes, signed as if it were empty. -/
def sentBytes : RequestInit :=
  settleSent (.uint8Array (TextEncoder.encode settleBody))
    "HMAC-SHA256 rv4iuK4qkuNg1wys1ETe4aXi4HT9nTpPit0gpOX87g0="

/-- A verifier five minutes later. -/
def settleOptions : VerifyOptions where
  now := JsNum.ofNat 1785542700000

theorem settleOptions_clock : WithinTolerance settleOptions settleConfig.now.seconds :=
  (withinTolerance_iff ⟨1785542700000, by decide⟩ rfl rfl settleConfig.now).mpr
    (by decide +kernel)

theorem verifies_iff_sentText :
    verifyFacilitatorRequest settlePlatform settleConfig.secret (receivedHeaders sentText.headers)
      (receivedRequest settlePath sentText) settleOptions = .ok true :=
  (verifies_iff settlePlatform settleConfig settleUrl none (settleInit (.text settleBody)) sentText
    settlePath settlePath settleOptions rfl rfl rfl settleOptions_clock
    (fun _ _ _ _ _ => (canonicalBytes_receivedRequest_iff _ _ _ rfl rfl).mpr ⟨rfl, trivial⟩)).mpr
    ⟨rfl, trivial⟩

/-- Bytes are refused that the same text would be accepted for. -/
theorem sentBytes_refused :
    createSignedFetch settlePlatform settleConfig settleUrl
        (settleInit (.uint8Array (TextEncoder.encode settleBody))) = .ok sentBytes ∧
      settlePlatform.pathname settleUrl none = some settlePath ∧
      WithinTolerance settleOptions settleConfig.now.seconds ∧
      verifyFacilitatorRequest settlePlatform settleConfig.secret (receivedHeaders sentBytes.headers)
        (receivedRequest settlePath sentBytes) settleOptions = .ok false :=
  ⟨rfl, rfl, settleOptions_clock, by decide +kernel⟩

end RequestAuth

end X402

end VellarSdk
