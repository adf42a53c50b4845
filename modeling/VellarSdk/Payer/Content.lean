import VellarSdk.Js.Cut
import VellarSdk.X402.Types

/-!
# Resource Content

What the payer hands back of a response body: text cut at the configured number
of bytes, or only the size of a body that is not text.

A cut is by bytes and the text is by code points, so a cut text ends where the last
whole code point did. It is always a front of the text of the whole body, also when the
body is not UTF-8.

## Main definitions

* `isTextLike`: The content types whose body is inlined.
* `truncateUtf8`: Cut a body without leaving a broken character.
* `ResourceContent`, `contentOf`: The content of a body that was read.

## Theorems

* `truncateUtf8_cuts`: What is shown of a body.
-/

namespace VellarSdk

namespace Payer

open Js X402

/-- The text starts with the word and the word ends there: `word\b`. -/
def startsWithWord (word s : JsString) : Bool :=
  word.isPrefixOf s && match (s.drop word.length).head? with
    | some u => !isWordChar u
    | none => true

/-- The alternative `.*\+(json|xml)\b`, on lower case text. -/
def hasStructuredSuffix : JsString → Bool
  | [] => false
  | u :: rest =>
      (u == 43 && (startsWithWord "json" rest || startsWithWord "xml" rest)) ||
        -- `.*` tries every position, but does not cross a line.
        (!isLineTerminator u && hasStructuredSuffix rest)

/-- Is this a content type whose body is text? The expression `TEXT_LIKE` on
    the part before the parameters, without regard to case. -/
def isTextLike (contentType : JsString) : Bool :=
  -- The parameters are cut off first, then the case is dropped.
  let type := toAsciiLower (trim (before (fun u => u == 59) contentType))
  [js "text/", js "application/json", js "application/xml", js "application/javascript",
    js "application/x-ndjson"].any (fun p => p.isPrefixOf type) || hasStructuredSuffix type

/-- A body cut to size. -/
structure Truncated where
  text : JsString
  truncated : Bool
  originalBytes : Nat

/-- Truncate UTF-8 bytes to `maxBytes` without emitting a broken code point. A
    cut within a sequence decodes to replacement characters, which are dropped
    again. -/
def truncateUtf8 (bytes : Bytes) (maxBytes : Nat) : Truncated :=
  if bytes.length ≤ maxBytes then
    { text := TextDecoder.decode bytes, truncated := false, originalBytes := bytes.length }
  else
    -- Replacement characters of the body itself go too when they stand at the cut.
    let text := (TextDecoder.decode (bytes.take maxBytes)).rdropWhile (fun u => u == 0xFFFD)
    { text := text ++ js "\n\n[TRUNCATED: showing " ++ natToString maxBytes ++ js " of " ++
        natToString bytes.length ++ js " bytes]"
      truncated := true
      originalBytes := bytes.length }

/-- What stands behind a text that was cut. -/
def truncationMarker (maxBytes originalBytes : Nat) : JsString :=
  js "\n\n[TRUNCATED: showing " ++ natToString maxBytes ++ js " of " ++
    natToString originalBytes ++ js " bytes]"

/-- A text that was cut, with its marker. -/
theorem truncateUtf8_text {bytes : Bytes} {maxBytes : Nat} (h : maxBytes < bytes.length) :
    (truncateUtf8 bytes maxBytes).text =
      stripReplacements (TextDecoder.decode (bytes.take maxBytes)) ++
        truncationMarker maxBytes bytes.length := by
  rw [truncateUtf8, if_neg (not_le.mpr h), truncationMarker]
  simp only [List.append_assoc]
  rfl

/-- A body that fits is shown as it is. Of any other a front of its text is shown that
    does not end with a replacement character, and of UTF-8 it is the longest. -/
theorem truncateUtf8_cuts (bytes : Bytes) (maxBytes : Nat) :
    (bytes.length ≤ maxBytes →
      (truncateUtf8 bytes maxBytes).text = TextDecoder.decode bytes ∧
        (truncateUtf8 bytes maxBytes).truncated = false) ∧
    (maxBytes < bytes.length → ∃ shown,
      (truncateUtf8 bytes maxBytes).text = shown ++ truncationMarker maxBytes bytes.length ∧
        shown <+: TextDecoder.decode bytes ∧ shown.getLast? ≠ some 0xFFFD ∧
        (IsUtf8 bytes → ∃ whole, LongestWhole maxBytes bytes whole ∧
          shown = stripReplacements (TextDecoder.decode whole))) := by
  constructor
  · intro h
    rw [truncateUtf8, if_pos h]
    exact ⟨rfl, rfl⟩
  · intro h
    refine ⟨_, truncateUtf8_text h, ?_, getLast?_stripReplacements _, fun hutf8 => ?_⟩
    · have hprefix := TextDecoder.stripReplacements_prefix (bytes.take maxBytes)
        (bytes.drop maxBytes)
      rwa [List.take_append_drop] at hprefix
    · exact TextDecoder.exists_longestWhole hutf8 maxBytes

/-- The content of a response, as the agent sees it. -/
structure ResourceContent where
  contentType : JsString
  text : Option JsString
  truncated : Option Bool
  bytes : Nat
  binaryOmitted : Option Bool

/-- `readContent` once the body has been read. -/
def contentOf (res : Response) (bytes : Bytes) (maxBytes : Nat) : ResourceContent :=
  let contentType := (res.header "content-type").getD "application/octet-stream"
  if !isTextLike contentType then
    { contentType := contentType, text := none, truncated := none, bytes := bytes.length
      binaryOmitted := some true }
  else
    let t := truncateUtf8 bytes maxBytes
    { contentType := contentType, text := some t.text, truncated := some t.truncated
      bytes := t.originalBytes, binaryOmitted := none }

/-- Content types are recognised before their parameters and in any case. -/
example : isTextLike "Application/LD+JSON; charset=utf-8" = true ∧
    isTextLike "application/ld+jsonx" = false := by decide

end Payer

end VellarSdk
