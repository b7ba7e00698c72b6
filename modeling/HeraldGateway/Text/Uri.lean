import HeraldGateway.Text.Encodings
import HeraldGateway.Text.Json
import Mathlib.Data.List.DropRight

/-!
# Parts of URLs

Components of URLs are encoded, and the scheme of a URL is read from its beginning. What this means for what
separates the parts, and for parsers, is in `Text.Proofs.UriProofs`.
-/

namespace Text

/-!
## Components of URLs

Percent-encoding of a component of a URL, and decoding of the parts of a query. That what is encoded holds
none of the signs that separate the parts of a URL is in `Text.Proofs.UriProofs`.
-/

namespace Uri

open Json

/-- A byte that stands for itself. -/
def unreserved (b : UInt8) : Bool :=
  (65 ≤ b && b ≤ 90) || (97 ≤ b && b ≤ 122) || (48 ≤ b && b ≤ 57) ||
    [45, 95, 46, 33, 126, 42, 39, 40, 41].contains b

/-- A digit of base 16 in upper case. -/
def upperHexDigit (n : Nat) : UInt16 := if n < 10 then UInt16.ofNat (48 + n) else UInt16.ofNat (55 + n)

/-- A byte in a component. -/
def escapeByte (b : UInt8) : List UInt16 :=
  if unreserved b then [b.toUInt16] else [37, upperHexDigit (b.toNat / 16), upperHexDigit (b.toNat % 16)]

/-- `encodeURIComponent` of a text whose surrogates are paired. -/
def encodeComponent (s : List UInt16) : List UInt16 := (Utf8.encode s).flatMap escapeByte

/-- The bytes of a text of ASCII with escapes. -/
def percentBytes? : List UInt16 → Option (List UInt8)
  | 37 :: v :: w :: s =>
    match hexValue? v, hexValue? w, percentBytes? s with
    | some x, some y, some rest => some (UInt8.ofNat (x * 16 + y) :: rest)
    | _, _, _ => none
  | u :: s => if u = 37 then none else (percentBytes? s).map (u.toUInt8 :: ·)
  | [] => some []

/-- Decode a segment of a path, if it is one. -/
def decodeSegment? (s : List UInt16) : Option (List UInt16) :=
  if s.contains 37 then (percentBytes? s).bind Utf8.decode? else some s

/-- Decode a name or a value of a query; what cannot be decoded stays as it is. -/
def decodeComponent (s : List UInt16) : List UInt16 :=
  let spaced := s.map fun u => if u = 43 then 32 else u
  if spaced.contains 37 then ((percentBytes? spaced).bind Utf8.decode?).getD spaced else spaced

/-- The name and the value of a part of a query. -/
def parameter (part : List UInt16) : List UInt16 × List UInt16 :=
  (decodeComponent (part.takeWhile (· ≠ 61)), decodeComponent ((part.dropWhile (· ≠ 61)).drop 1))

end Uri

/-!
## Schemes of URLs

A URL says its scheme at its beginning; a text that begins with none is relative to another URL. A parser of
URLs first drops what surrounds and breaks the text. That this keeps a scheme is in `Text.Proofs.UriProofs`.
-/

namespace Url

/-- A letter of ASCII. -/
def isLetter (u : UInt16) : Bool := (65 ≤ u && u ≤ 90) || (97 ≤ u && u ≤ 122)

/-- A sign of a scheme after its first. -/
def isSchemeUnit (u : UInt16) : Bool := isLetter u || (48 ≤ u && u ≤ 57) || u == 43 || u == 45 || u == 46

/-- A sign of ASCII in lower case. -/
def lower (u : UInt16) : UInt16 := if 65 ≤ u && u ≤ 90 then u + 32 else u

/-- The scheme that a text begins with, in lower case. -/
def scheme? (s : List UInt16) : Option (List UInt16) :=
  let name := s.takeWhile isSchemeUnit
  if name.head?.any isLetter &&
    (s.dropWhile isSchemeUnit).head? == some 58 then some (name.map lower) else none

/-- A control or a blank. -/
def isControl (u : UInt16) : Bool := u ≤ 32

/-- A tab or the end of a line. -/
def isBreak (u : UInt16) : Bool := u == 9 || u == 10 || u == 13

/-- What a parser of URLs looks at: no controls around, and no breaks. -/
def strip (s : List UInt16) : List UInt16 :=
  ((s.dropWhile isControl).rdropWhile isControl).filter (!isBreak ·)

end Url

end Text
