import VellarSdk.Js.Separated
import VellarSdk.X402.RequestAuthGuarantees

/-!
# What Verification Accepts

The verifier of signed requests, by what it is meant to check. A request is accepted
when the signature header names the algorithm and carries the digest of the request's
canonical string, and when its time is near enough to the verifier's clock, as doubles
measure it. The header is taken apart at its spaces, and what comes after the second is
not looked at.

The digest is that of a secret, and the runtime has one for every secret but the empty
one, which it refuses as a key. Signing refuses it as well, so whatever was signed has
a digest, and is accepted as long as the clocks agree.

## Main definitions

* `requestDigest`: The digest of a request.
* `Accepts`: What a verifier is meant to check.

## Theorems

* `splitTwo_eq_splitOn`: The two tokens of the header.
* `timely_iff`: What it is to be in time.
* `verify_accepts_iff`: Verifying is checking that.
* `verify_empty_secret`: There is no digest for the empty secret.
* `signed_accepts`: What was signed passes.
* `verifies_iff_accepted`: What verification accepts.
-/

namespace VellarSdk

namespace X402

namespace RequestAuth

open Js

/-- The digest of a request under a secret, by the time and nonce of its headers. -/
def requestDigest (subtle : Hmac) (secret : JsString) (headers : SignedRequestHeaders)
    (request : SignableRequest) : Bytes :=
  subtle.digest (TextEncoder.encode secret) (TextEncoder.encode (canonicalRequestString
    ⟨request.method, request.path, request.body.getD [], headers.timestamp, headers.nonce⟩))

/-- The header names the algorithm and carries the digest, and its time is a number
    within the tolerance of the verifier's clock. -/
structure Accepts (subtle : Hmac) (secret : JsString) (headers : SignedRequestHeaders)
    (request : SignableRequest) (opts : VerifyOptions) : Prop where
  named : (headers.signature.splitOn 32)[0]? = some algorithm
  digest : (headers.signature.splitOn 32)[1]? =
    some (btoa (requestDigest subtle secret headers request))
  timely : ∃ seconds, numberOfText headers.timestamp = some (.finite seconds) ∧
    WithinTolerance opts seconds

theorem afterFirst_of_not_mem {c : CodeUnit} {s : JsString} (h : c ∉ s) :
    afterFirst [c] s = none := by
  induction s with
  | nil => rfl
  | cons u s ih =>
      rw [List.mem_cons, not_or] at h
      have hu : (c == u) = false := beq_eq_false_iff_ne.mpr h.1
      rw [afterFirst, List.isPrefixOf, hu, Bool.false_and, if_neg Bool.false_ne_true, ih h.2]

theorem before_eq_splitOn (c : CodeUnit) (s : JsString) :
    (s.splitOn c)[0]? = some (before (fun u => u == c) s) := by
  rcases splitOn_cases c s with ⟨hnot, heq⟩ | ⟨a, b, rfl, ha, heq⟩
  · have hbefore : before (fun u => u == c) s = s :=
      before_of_not (fun u hu => beq_eq_false_iff_ne.mpr (fun h => hnot (h ▸ hu)))
    rw [heq, hbefore]
    rfl
  · rw [heq, before_append_cons ha]
    rfl

/-- The header is cut at its spaces, and the first two parts are taken. -/
theorem splitTwo_eq_splitOn (s : JsString) :
    (s.splitOn 32)[0]? = some (splitTwo s).1 ∧ (s.splitOn 32)[1]? = (splitTwo s).2 := by
  refine ⟨before_eq_splitOn 32 s, ?_⟩
  rcases splitOn_cases 32 s with ⟨hnot, heq⟩ | ⟨a, b, rfl, ha, heq⟩
  · rw [heq, splitTwo, afterFirst_of_not_mem hnot]
    rfl
  · rw [heq, splitTwo, afterFirst_append_cons ha, Option.map_some, ← before_eq_splitOn 32 b]
    rfl

/-- To be in time is to have a number for a time, within the tolerance. -/
theorem timely_iff (opts : VerifyOptions) (timestamp : JsString) :
    timely opts timestamp = true ↔ ∃ seconds, numberOfText timestamp = some (.finite seconds) ∧
      WithinTolerance opts seconds := by
  unfold timely
  -- A text that is no number, or an infinity, is no time.
  cases hnumber : numberOfText timestamp with
  | none =>
      refine iff_of_false Bool.false_ne_true ?_
      rintro ⟨seconds, hseconds, -⟩
      exact absurd hseconds (by simp only [reduceCtorEq, not_false_eq_true])
  | some n =>
      cases n with
      | finite seconds =>
          dsimp only
          rw [Bool.not_eq_true_eq_eq_false, ← withinTolerance_iff_lt]
          constructor
          · intro hnear
            exact ⟨seconds, rfl, hnear⟩
          · rintro ⟨seconds', hsame, hnear⟩
            rw [Option.some.injEq, JsNumber.finite.injEq] at hsame
            exact hsame ▸ hnear
      | infinity negative =>
          refine iff_of_false Bool.false_ne_true ?_
          rintro ⟨seconds, hseconds, -⟩
          exact absurd hseconds (by
            simp only [Option.some.injEq, reduceCtorEq, not_false_eq_true])

/-- The time is read as a double, which is 300 seconds from the clock here. -/
example : timely { now := JsNum.ofNat 1785542400000 } "1785542099.9999999" = true := by
  decide +kernel

/-- The runtime takes every secret for a key but the empty one. -/
theorem importKey_of_ne_nil {secret : JsString} (h : secret ≠ []) :
    importKey secret = .ok (TextEncoder.encode secret) := by
  unfold importKey
  rw [if_neg]
  rw [List.isEmpty_iff]
  exact fun hnil => h (TextEncoder.encode_eq_nil hnil)

theorem requestDigest_ne_nil (subtle : Hmac) (secret : JsString) (headers : SignedRequestHeaders)
    (request : SignableRequest) : btoa (requestDigest subtle secret headers request) ≠ [] := by
  refine btoa_ne_nil (fun hnil => ?_)
  have hlength := congrArg List.length hnil
  rw [requestDigest, subtle.length_digest] at hlength
  exact absurd hlength (by decide)

/-- Verifying a request is checking what it is meant to check. -/
theorem verify_accepts_iff {p : Platform} {subtle : Hmac} (hsubtle : p.subtle = some subtle)
    {secret : JsString} (hsecret : secret ≠ []) (headers : SignedRequestHeaders)
    (request : SignableRequest) (opts : VerifyOptions) :
    verifyFacilitatorRequest p secret headers request opts = .ok true ↔
      Accepts subtle secret headers request opts := by
  obtain ⟨hfirst, hsecond⟩ := splitTwo_eq_splitOn headers.signature
  have hdigest := requestDigest_ne_nil subtle secret headers request
  -- The three conditions, as the code takes the header apart.
  have haccepts : Accepts subtle secret headers request opts ↔
      (splitTwo headers.signature).1 = algorithm ∧ (splitTwo headers.signature).2 =
        some (btoa (requestDigest subtle secret headers request)) ∧
      timely opts headers.timestamp = true := by
    rw [timely_iff]
    constructor
    · intro h
      exact ⟨Option.some.inj (hfirst.symm.trans h.named), hsecond.symm.trans h.digest, h.timely⟩
    · rintro ⟨hname, hprovided, htimely⟩
      exact ⟨by rw [hfirst, hname], hsecond.trans hprovided, htimely⟩
  rw [haccepts]
  unfold verifyFacilitatorRequest requireSubtleCrypto
  rw [hsubtle]
  rcases splitTwo headers.signature with ⟨name, provided⟩
  cases provided with
  | none => exact iff_of_false nofun (fun h => absurd h.2.1 (Option.some_ne_none _).symm)
  | some provided =>
      -- A header without a digest, or with the name of another algorithm, is refused at once.
      by_cases hheader : name ≠ algorithm ∨ provided = []
      · refine iff_of_false ?_ ?_
        · simp only [bind, Except.bind, if_pos hheader]
          exact nofun
        · rintro ⟨hname, hprovided, -⟩
          rw [Option.some.injEq] at hprovided
          rcases hheader with hother | hempty
          · exact hother hname
          · exact hdigest (hprovided ▸ hempty)
      · rw [not_or, not_not] at hheader
        -- The clock is looked at before the digest is worked out.
        cases htimely : timely opts headers.timestamp with
        | false =>
            refine iff_of_false ?_ (fun h => absurd h.2.2 Bool.false_ne_true)
            simp only [bind, Except.bind, hheader, ne_eq, not_true_eq_false, or_self, if_false,
              if_true]
            exact nofun
        | true =>
            simp only [bind, Except.bind, pure, Except.pure, hheader, ne_eq, not_true_eq_false,
              or_self, if_false, Bool.true_eq_false, importKey_of_ne_nil hsecret,
              Except.ok.injEq, timingSafeEqual_iff, Option.some.injEq, true_and, and_true]
            exact eq_comm

/-- What was accepted was compared with a digest, so the secret was taken for a
    key. -/
theorem importKey_of_verified {p : Platform} {secret : JsString} {headers : SignedRequestHeaders}
    {request : SignableRequest} {opts : VerifyOptions}
    (h : verifyFacilitatorRequest p secret headers request opts = .ok true) :
    ∃ key, importKey secret = .ok key := by
  obtain ⟨subtle, -, h⟩ := bind_eq_ok.mp h
  cases hsplit : splitTwo headers.signature with
  | mk name provided =>
      rw [hsplit] at h
      cases provided with
      | none => exact absurd (Except.ok.inj h) Bool.false_ne_true
      | some provided =>
          dsimp only at h
          by_cases hheader : name ≠ algorithm ∨ provided = []
          · rw [if_pos hheader] at h
            exact absurd (Except.ok.inj h) Bool.false_ne_true
          · rw [if_neg hheader] at h
            by_cases htimely : timely opts headers.timestamp = false
            · rw [if_pos htimely] at h
              exact absurd (Except.ok.inj h) Bool.false_ne_true
            · rw [if_neg htimely] at h
              obtain ⟨key, hkey, -⟩ := bind_eq_ok.mp h
              exact ⟨key, hkey⟩

theorem importKey_nil (key : Bytes) : importKey [] ≠ .ok key := by
  have hrefused : importKey [] = .error .dataError := rfl
  rw [hrefused]
  exact nofun

/-- There is no digest for the empty secret, so nothing is accepted. -/
theorem verify_empty_secret (p : Platform) (headers : SignedRequestHeaders)
    (request : SignableRequest) (opts : VerifyOptions) :
    verifyFacilitatorRequest p [] headers request opts ≠ .ok true := by
  intro h
  obtain ⟨key, hkey⟩ := importKey_of_verified h
  exact importKey_nil key hkey

/-- Signing has found a secret. -/
theorem secret_ne_nil_of_signed {p : Platform} {config : FacilitatorRequestSigningConfig}
    {request : SignableRequest} {headers : SignedRequestHeaders}
    (h : signFacilitatorRequest p config request = .ok headers) : config.secret ≠ [] := by
  obtain ⟨-, key, -, -, hkey, -⟩ := signFacilitatorRequest_ok h
  intro hnil
  exact importKey_nil key (hnil ▸ hkey)

/-- What was signed passes, in any case of its method and as long as the clocks
    agree. -/
theorem signed_accepts {p : Platform} {subtle : Hmac} (hsubtle : p.subtle = some subtle)
    {config : FacilitatorRequestSigningConfig} {request received : SignableRequest}
    {headers : SignedRequestHeaders} {opts : VerifyOptions}
    (hsigned : signFacilitatorRequest p config request = .ok headers)
    (hmethod : toUpperCase received.method = toUpperCase request.method)
    (hpath : received.path = request.path) (hbody : received.body = request.body)
    (hclock : WithinTolerance opts config.now.seconds) :
    Accepts subtle config.secret headers received opts := by
  have hsecret := secret_ne_nil_of_signed hsigned
  obtain ⟨found, key, nonce, hfound, hkey, rfl⟩ := signFacilitatorRequest_ok hsigned
  obtain rfl : found = subtle := Option.some.inj (hfound.symm.trans hsubtle)
  obtain rfl : TextEncoder.encode config.secret = key :=
    Except.ok.inj ((importKey_of_ne_nil hsecret).symm.trans hkey)
  obtain ⟨hfirst, hsecond⟩ := splitTwo_eq_splitOn (algorithm ++ js " " ++ btoa (found.digest
    (TextEncoder.encode config.secret) (TextEncoder.encode (canonicalRequestString
      ⟨request.method, request.path, request.body.getD [],
        JsNum.toStr (some (.finite config.now.seconds)), nonce⟩))))
  rw [splitTwo_signature] at hfirst hsecond
  -- The two sides write the same text, as far as the method's case may differ.
  have hcanonical : canonicalRequestString ⟨received.method, received.path,
      received.body.getD [], JsNum.toStr (some (.finite config.now.seconds)), nonce⟩ =
      canonicalRequestString ⟨request.method, request.path, request.body.getD [],
        JsNum.toStr (some (.finite config.now.seconds)), nonce⟩ := by
    rw [canonicalRequestString_eq, canonicalRequestString_eq, hmethod, hpath, hbody]
  refine ⟨?_, ?_, (timely_iff opts _).mp ?_⟩
  · exact hfirst
  · rw [hsecond, requestDigest, hcanonical]
  · exact (timely_seconds opts config.now).mpr hclock

/-- A request is accepted when it carries the digest that its secret gives it, which
    the empty secret gives to none. What was signed is accepted, in any case of its
    method and by any clock within the tolerance. -/
theorem verifies_iff_accepted (p : Platform) (subtle : Hmac) (hsubtle : p.subtle = some subtle) :
    (∀ secret headers request opts, secret ≠ [] →
      (verifyFacilitatorRequest p secret headers request opts = .ok true ↔
        Accepts subtle secret headers request opts)) ∧
    (∀ headers request opts, verifyFacilitatorRequest p [] headers request opts ≠ .ok true) ∧
    ∀ config request headers method (opts : VerifyOptions),
      signFacilitatorRequest p config request = .ok headers →
      toUpperCase method = toUpperCase request.method →
      WithinTolerance opts config.now.seconds →
      verifyFacilitatorRequest p config.secret headers { request with method := method } opts =
        .ok true := by
  refine ⟨?_, verify_empty_secret p, ?_⟩
  · intro secret headers request opts hsecret
    exact verify_accepts_iff hsubtle hsecret headers request opts
  · intro config request headers method opts hsigned hmethod hclock
    refine (verify_accepts_iff hsubtle (secret_ne_nil_of_signed hsigned) _ _ _).mpr ?_
    exact signed_accepts hsubtle hsigned hmethod rfl rfl hclock

/-- A request to settle, with its method in small letters when it is verified. -/
theorem verifies_iff_accepted_settle :
    verifyFacilitatorRequest settlePlatform settleConfig.secret
      (receivedHeaders sentText.headers) ⟨"post", "/settle", some settleBody⟩ settleOptions =
      .ok true :=
  (verifies_iff_accepted settlePlatform ⟨settleDigest, length_settleDigest⟩ rfl).2.2 settleConfig
    ⟨"POST", "/settle", some settleBody⟩ _ "post" settleOptions rfl (by decide +kernel)
    settleOptions_clock

/-- The digest that the empty secret would give a request to settle. -/
def emptySecretDigest : Bytes :=
  [115, 189, 15, 244, 108, 98, 137, 121, 237, 99, 255, 23, 109, 122, 141, 70,
    40, 217, 121, 196, 227, 73, 28, 175, 34, 239, 68, 21, 226, 109, 118, 80]

def emptySecretHmac : Hmac :=
  ⟨fun _ _ => emptySecretDigest, fun _ _ => rfl⟩

def emptySecretHeaders : SignedRequestHeaders :=
  ⟨"key-abc", "1785542400", "0102030405060708090a0b0c0d0e0f10",
    "HMAC-SHA256 c70P9GxiiXntY/8XbXqNRijZecTjSRyvIu9EFeJtdlA="⟩

/-- The empty secret is no key, so that what carries its digest is refused. And nothing
    exceeds a tolerance of `NaN`, so that a request is accepted whatever the clock. -/
theorem empty_secret_refused :
    Accepts emptySecretHmac [] emptySecretHeaders ⟨"POST", "/settle", none⟩ settleOptions ∧
      verifyFacilitatorRequest { settlePlatform with subtle := some emptySecretHmac } []
        emptySecretHeaders ⟨"POST", "/settle", none⟩ settleOptions ≠ .ok true ∧
      verifyFacilitatorRequest settlePlatform settleConfig.secret
        (receivedHeaders sentText.headers) ⟨"POST", "/settle", some settleBody⟩
        { toleranceSeconds := none, now := JsNum.ofNat 0 } = .ok true :=
  ⟨⟨by decide +kernel, by decide +kernel, (timely_iff settleOptions _).mp (by decide +kernel)⟩,
    verify_empty_secret _ _ _ _, by decide +kernel⟩

end RequestAuth

end X402

end VellarSdk
