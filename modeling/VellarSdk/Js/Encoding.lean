import VellarSdk.Js.Text

/-!
# Text Encodings

The encodings the payment headers and bodies go through: UTF-8 as
`TextEncoder` and `TextDecoder` implement it, and base64 as `btoa` and `atob`
do.

`TextDecoder` is the non-fatal decoder. It never fails: a byte sequence that is
not UTF-8 turns into replacement characters, one for each maximal broken
prefix, and a leading byte order mark is dropped. The decoder is a state
machine over bytes. A byte that cannot continue the pending sequence ends it
with a replacement character and is then read again as the start of a new one,
which is why `continueWith` falls back to `startWith` on the same byte.

`atob` is the forgiving decoder: ASCII white space is dropped, padding may be
missing, and only a foreign character or a stray final character makes it
throw.

## Main definitions

* `TextDecoder.decode`: Bytes to string, never failing.
* `bufferToString`: The same for a `Buffer`.
* `TextEncoder.encode`: String to bytes.
* `btoa`, `atob`: Standard base64 of a byte string.
-/

namespace VellarSdk

namespace Js

namespace TextDecoder

/-- A multi-byte sequence in progress: the bits read so far, the number of
    continuation bytes still missing, and the range the next one must lie in. -/
structure Pending where
  bits : Nat
  missing : Nat
  lower : Nat
  upper : Nat
  deriving DecidableEq, Repr

/-- The replacement character U+FFFD. -/
def replacement : Nat := 0xFFFD

/-- Read a byte with no sequence in progress. -/
def startWith (b : Nat) : List Nat × Option Pending :=
  if b ≤ 0x7F then ([b], none)
  else if 0xC2 ≤ b ∧ b ≤ 0xDF then ([], some ⟨b % 0x20, 1, 0x80, 0xBF⟩)
  -- The narrowed ranges shut out overlong forms, surrogates and what is past U+10FFFF.
  else if 0xE0 ≤ b ∧ b ≤ 0xEF then
    ([], some ⟨b % 0x10, 2, if b = 0xE0 then 0xA0 else 0x80, if b = 0xED then 0x9F else 0xBF⟩)
  else if 0xF0 ≤ b ∧ b ≤ 0xF4 then
    ([], some ⟨b % 0x8, 3, if b = 0xF0 then 0x90 else 0x80, if b = 0xF4 then 0x8F else 0xBF⟩)
  else ([replacement], none)

/-- Read a byte while a sequence is in progress. -/
def continueWith (p : Pending) (b : Nat) : List Nat × Option Pending :=
  if p.lower ≤ b ∧ b ≤ p.upper then
    if p.missing = 1 then ([p.bits * 0x40 + b % 0x40], none)
    else ([], some ⟨p.bits * 0x40 + b % 0x40, p.missing - 1, 0x80, 0xBF⟩)
  -- The byte is not consumed by the broken sequence.
  else (replacement :: (startWith b).1, (startWith b).2)

/-- The code points of a byte sequence. A sequence cut off by the end of the
    input is one replacement character. -/
def codePoints : Option Pending → Bytes → List Nat
  | none, [] => []
  | some _, [] => [replacement]
  | none, b :: bs => (startWith b.toNat).1 ++ codePoints (startWith b.toNat).2 bs
  | some p, b :: bs => (continueWith p b.toNat).1 ++ codePoints (continueWith p b.toNat).2 bs

/-- `new TextDecoder().decode(bytes)`. -/
def decode (bytes : Bytes) : JsString :=
  match codePoints none bytes with
  -- Only the first byte order mark is dropped.
  | 0xFEFF :: rest => rest.flatMap encodeUtf16
  | cps => cps.flatMap encodeUtf16

end TextDecoder

/-- `Buffer.prototype.toString()`: the same decoding, with a byte order mark
    kept. -/
def bufferToString (bytes : Bytes) : JsString :=
  (TextDecoder.codePoints none bytes).flatMap encodeUtf16

namespace TextEncoder

/-- The code points of a string, a lone surrogate read as U+FFFD. -/
def codePoints : JsString → List Nat
  | [] => []
  | [u] => if 0xD800 ≤ u ∧ u ≤ 0xDFFF then [TextDecoder.replacement] else [u.toNat]
  | u :: v :: rest =>
      if 0xD800 ≤ u ∧ u ≤ 0xDBFF ∧ 0xDC00 ≤ v ∧ v ≤ 0xDFFF then
        (0x10000 + (u.toNat - 0xD800) * 0x400 + (v.toNat - 0xDC00)) :: codePoints rest
      else if 0xD800 ≤ u ∧ u ≤ 0xDFFF then TextDecoder.replacement :: codePoints (v :: rest)
      else u.toNat :: codePoints (v :: rest)

/-- The UTF-8 encoding of one code point. -/
def encodeUtf8 (cp : Nat) : Bytes :=
  if cp < 0x80 then [UInt8.ofNat cp]
  else if cp < 0x800 then [UInt8.ofNat (0xC0 + cp / 0x40), UInt8.ofNat (0x80 + cp % 0x40)]
  else if cp < 0x10000 then
    [UInt8.ofNat (0xE0 + cp / 0x1000), UInt8.ofNat (0x80 + cp / 0x40 % 0x40),
      UInt8.ofNat (0x80 + cp % 0x40)]
  else
    [UInt8.ofNat (0xF0 + cp / 0x40000), UInt8.ofNat (0x80 + cp / 0x1000 % 0x40),
      UInt8.ofNat (0x80 + cp / 0x40 % 0x40), UInt8.ofNat (0x80 + cp % 0x40)]

/-- `new TextEncoder().encode(s)`. -/
def encode (s : JsString) : Bytes :=
  (codePoints s).flatMap encodeUtf8

end TextEncoder

/-- The base64 character of a six-bit value. -/
def base64Char (n : Nat) : CodeUnit :=
  if n < 26 then UInt16.ofNat (65 + n)
  else if n < 52 then UInt16.ofNat (71 + n)
  else if n < 62 then UInt16.ofNat (n - 4)
  else if n = 62 then 43 else 47

/-- The six-bit value of a base64 character. -/
def base64Value (u : CodeUnit) : Option Nat :=
  if 65 ≤ u ∧ u ≤ 90 then some (u.toNat - 65)
  else if 97 ≤ u ∧ u ≤ 122 then some (u.toNat - 71)
  else if 48 ≤ u ∧ u ≤ 57 then some (u.toNat + 4)
  else if u = 43 then some 62
  else if u = 47 then some 63
  else none

/-- `btoa` of a string whose code units are the given bytes. -/
def btoa : Bytes → JsString
  | [] => []
  | [a] => [base64Char (a.toNat / 4), base64Char (a.toNat % 4 * 16), 61, 61]
  | [a, b] =>
      [base64Char (a.toNat / 4), base64Char (a.toNat % 4 * 16 + b.toNat / 16),
        base64Char (b.toNat % 16 * 4), 61]
  | a :: b :: c :: rest =>
      base64Char (a.toNat / 4) :: base64Char (a.toNat % 4 * 16 + b.toNat / 16) ::
        base64Char (b.toNat % 16 * 4 + c.toNat / 64) :: base64Char (c.toNat % 64) :: btoa rest

/-- The bytes of a list of six-bit values. Left-over bits are discarded, and
    a single left-over value is an error. -/
def sextetsToBytes : List Nat → Option Bytes
  | [] => some []
  -- Six bits make no byte.
  | [_] => none
  | [a, b] => some [UInt8.ofNat (a * 4 + b / 16)]
  | [a, b, c] => some [UInt8.ofNat (a * 4 + b / 16), UInt8.ofNat (b % 16 * 16 + c / 4)]
  | a :: b :: c :: d :: rest =>
      (sextetsToBytes rest).map (fun bs =>
        UInt8.ofNat (a * 4 + b / 16) :: UInt8.ofNat (b % 16 * 16 + c / 4) ::
          UInt8.ofNat (c % 4 * 64 + d) :: bs)

/-- Drop up to two padding characters, which only a multiple of four may
    carry. -/
def stripPadding (s : JsString) : JsString :=
  if s.length % 4 = 0 then
    match s.reverse with
    -- A third padding character stays, and is then a foreign one.
    | 61 :: 61 :: rest => rest.reverse
    | 61 :: rest => rest.reverse
    | _ => s
  else s

/-- `atob`, as the bytes the resulting string's code units are. `none` is the
    thrown `InvalidCharacterError`. -/
def atob (s : JsString) : Option Bytes :=
  ((stripPadding (s.filter (fun u => !(u == 9 || u == 10 || u == 12 || u == 13 || u == 32)))).mapM
    base64Value).bind sextetsToBytes

/-- Encoding then decoding one short word, through every layer. -/
example : (atob (btoa (TextEncoder.encode "héllo €"))).map TextDecoder.decode
    = some (js "héllo €") := by decide +kernel

end Js

end VellarSdk
