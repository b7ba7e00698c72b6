import HeraldGateway.Text.Json
import Mathlib.Data.List.Basic
import Mathlib.Data.Nat.Digits.Defs

/-!
# Bytes and text

Text is a list of 16-bit code units. Text becomes bytes in UTF-8, and bytes become text in hexadecimal, base 58
and base64. What decoding makes of it, and the length and the letters of the texts, are in
`Text.Proofs.EncodingsProofs`.
-/

namespace Text

/-!
## Text as bytes

Text is a list of 16-bit code units. Its characters are those code units that stand alone and the surrogate
pairs; a surrogate without its partner stands for the replacement character. Characters are written as bytes
in UTF-8.
-/

namespace Utf8

/-- The first half of a surrogate pair. -/
def isHigh (u : UInt16) : Bool := 0xD800 ≤ u && u ≤ 0xDBFF

/-- The second half. -/
def isLow (u : UInt16) : Bool := 0xDC00 ≤ u && u ≤ 0xDFFF

/-- The character of a code unit that stands alone. -/
def single (u : UInt16) : Char := if isHigh u || isLow u then Char.ofNat 0xFFFD else Char.ofNat u.toNat

/-- The character of a pair. -/
def pair (high low : UInt16) : Char :=
  Char.ofNat (0x10000 + (high.toNat - 0xD800) * 0x400 + (low.toNat - 0xDC00))

/-- The characters of a text. -/
def chars : List UInt16 → List Char
  | a :: b :: s => if isHigh a && isLow b then pair a b :: chars s else single a :: chars (b :: s)
  | [a] => [single a]
  | [] => []

/-- The code units of a character. -/
def units (c : Char) : List UInt16 :=
  if c.toNat < 0x10000 then [UInt16.ofNat c.toNat]
  else [UInt16.ofNat (0xD800 + (c.toNat - 0x10000) / 0x400), UInt16.ofNat (0xDC00 + (c.toNat - 0x10000) % 0x400)]

/-- A text in which surrogates without a partner are replaced. -/
def wellFormed (s : List UInt16) : List UInt16 := (chars s).flatMap units

/-- The bytes of a text. -/
def encode (s : List UInt16) : List UInt8 := (String.ofList (chars s)).toByteArray.data.toList

/-- The text of bytes, if they are text. -/
def decode? (b : List UInt8) : Option (List UInt16) :=
  (String.fromUTF8? ⟨b.toArray⟩).map fun s => s.toList.flatMap units

theorem decode?_encode (s : List UInt16) : decode? (encode s) = some (wellFormed s) := by
  unfold decode? encode String.fromUTF8?
  rw [Array.toArray_toList, dif_pos (String.ofList (chars s)).isValidUTF8]
  exact congrArg (fun cs => some (List.flatMap units cs)) String.toList_ofList

theorem units_single {u : UInt16} (h : u < 0xD800) : units (single u) = [u] := by
  have hlt : u.toNat < 0xD800 := UInt16.lt_iff_toNat_lt.1 h
  have hhigh : isHigh u = false := by
    rw [isHigh, decide_eq_false fun hle => ?_, Bool.false_and]
    exact Nat.not_lt.2 (UInt16.le_iff_toNat_le.1 hle) hlt
  have hlow : isLow u = false := by
    rw [isLow, decide_eq_false fun hle => ?_, Bool.false_and]
    have : (0xDC00 : Nat) ≤ u.toNat := UInt16.le_iff_toNat_le.1 hle
    omega
  have hchar : (single u).toNat = u.toNat := by
    rw [single, hhigh, hlow, Bool.false_or, if_neg Bool.false_ne_true, Char.ofNat,
      dif_pos (show u.toNat.isValidChar from .inl hlt)]
    rfl
  rw [units, hchar, if_pos (by omega), UInt16.ofNat_toNat]

/-- Text without surrogates stays as it is. -/
theorem wellFormed_of_lt {s : List UInt16} (h : ∀ u ∈ s, u < 0xD800) : wellFormed s = s := by
  unfold wellFormed
  induction s using chars.induct with
  | case1 a b s hpair ih =>
    have hle :=
      UInt16.le_iff_toNat_le.1 (of_decide_eq_true (Bool.and_eq_true_iff.1 (Bool.and_eq_true_iff.1 hpair).1).1)
    have hlt := UInt16.lt_iff_toNat_lt.1 (h a List.mem_cons_self)
    exact absurd hlt (Nat.not_lt.2 hle)
  | case2 a b s hpair ih =>
    rw [chars, if_neg hpair, List.flatMap_cons, units_single (h a List.mem_cons_self),
      ih fun u hu => h u (List.mem_cons_of_mem a hu)]
    rfl
  | case3 a =>
    rw [chars, List.flatMap_cons, units_single (h a List.mem_cons_self)]
    rfl
  | case4 => rfl

theorem wellFormed_ne_nil {s : List UInt16} (h : s ≠ []) : wellFormed s ≠ [] := by
  have hunits : ∀ c, units c ≠ [] := by
    intro c
    unfold units
    split_ifs <;> exact List.cons_ne_nil _ _
  have hchars : ∃ c cs, chars s = c :: cs := by
    unfold chars
    split
    · split_ifs <;> exact ⟨_, _, rfl⟩
    · exact ⟨_, _, rfl⟩
    · exact absurd rfl h
  obtain ⟨c, cs, hcs⟩ := hchars
  intro hnil
  rw [wellFormed, hcs, List.flatMap_cons] at hnil
  exact hunits c (List.append_eq_nil_iff.1 hnil).1

theorem encode_ne_nil {s : List UInt16} (h : s ≠ []) : encode s ≠ [] := by
  intro hnil
  have hempty : decode? (encode s) = decode? (encode []) := congrArg decode? hnil
  rw [decode?_encode, decode?_encode] at hempty
  exact wellFormed_ne_nil h (Option.some.inj hempty)

end Utf8

/-!
## Bytes in hexadecimal

Two digits for a byte, and a decoder that stops at what is no pair of digits. That decoding undoes encoding
is in `Text.Proofs.EncodingsProofs`.
-/

namespace Hex

open Json

/-- Bytes as text. -/
def encode (b : List UInt8) : List UInt16 :=
  b.flatMap fun x => [hexDigit (x.toNat / 16), hexDigit (x.toNat % 16)]

/-- The bytes of a text. -/
def decode : List UInt16 → List UInt8
  | u :: v :: s =>
    match hexValue? u, hexValue? v with
    | some x, some y => UInt8.ofNat (x * 16 + y) :: decode s
    | _, _ => []
  | _ => []

end Hex

/-!
## Bytes in base 58

Leading zeros become ones, and the rest is the number of the bytes in base 58. How long and of which letters
the result is, is in `Text.Proofs.EncodingsProofs`.
-/

namespace Base58

/-- The alphabet: digits and letters, without those that look alike. -/
def alphabet : List UInt16 :=
  "123456789ABCDEFGHJKLMNPQRSTUVWXYZabcdefghijkmnopqrstuvwxyz".toList.map fun c => UInt16.ofNat c.toNat

/-- The letter of a digit. -/
def letter (n : Nat) : UInt16 := alphabet[n]?.getD 49

/-- The number whose digits in base 256 are the bytes. -/
def value (b : List UInt8) : Nat := b.foldl (fun n x => n * 256 + x.toNat) 0

/-- Bytes as text. -/
def encode (b : List UInt8) : List UInt16 :=
  List.replicate (b.takeWhile (· == 0)).length 49 ++
    (Nat.digits 58 (value (b.dropWhile (· == 0)))).reverse.map letter

end Base58

/-!
## Bytes as text

The base64url encoding of bytes, without padding, the base64 encoding with padding, and a decoder that reads
both alphabets and skips everything else. Text is a list of 16-bit code units. That decoding undoes encoding
is in `Text.Proofs.EncodingsProofs`.
-/

namespace Base64url

/-- The letter of a number below 64. -/
def letter (n : Nat) : UInt16 :=
  if n < 26 then UInt16.ofNat (65 + n)
  else if n < 52 then UInt16.ofNat (71 + n)
  else if n < 62 then UInt16.ofNat (n - 4)
  else if n = 62 then 45
  else 95

/-- The number of a letter. -/
def sextet? (u : UInt16) : Option Nat :=
  if 65 ≤ u ∧ u ≤ 90 then some (u.toNat - 65)
  else if 97 ≤ u ∧ u ≤ 122 then some (u.toNat - 71)
  else if 48 ≤ u ∧ u ≤ 57 then some (u.toNat + 4)
  else if u = 45 ∨ u = 43 then some 62
  else if u = 95 ∨ u = 47 then some 63
  else none

/-- The six-bit groups of bytes, the last one filled up with zeros. -/
def groups : List UInt8 → List Nat
  | a :: b :: c :: bytes =>
    a.toNat / 4 :: (a.toNat % 4 * 16 + b.toNat / 16) :: (b.toNat % 16 * 4 + c.toNat / 64) ::
      c.toNat % 64 :: groups bytes
  | [a, b] => [a.toNat / 4, a.toNat % 4 * 16 + b.toNat / 16, b.toNat % 16 * 4]
  | [a] => [a.toNat / 4, a.toNat % 4 * 16]
  | [] => []

/-- The bytes of six-bit groups; bits that do not fill a byte are dropped. -/
def bytes : List Nat → List UInt8
  | w :: x :: y :: z :: rest =>
    UInt8.ofNat (w * 4 + x / 16) :: UInt8.ofNat (x % 16 * 16 + y / 4) :: UInt8.ofNat (y % 4 * 64 + z) ::
      bytes rest
  | [w, x, y] => [UInt8.ofNat (w * 4 + x / 16), UInt8.ofNat (x % 16 * 16 + y / 4)]
  | [w, x] => [UInt8.ofNat (w * 4 + x / 16)]
  | _ => []

/-- Bytes as text. -/
def encode (b : List UInt8) : List UInt16 := (groups b).map letter

/-- The bytes of a text. -/
def decode (s : List UInt16) : List UInt8 := bytes (s.filterMap sextet?)

/-- The letter of a number below 64 in base64. -/
def standardLetter (n : Nat) : UInt16 := if n = 62 then 43 else if n = 63 then 47 else letter n

/-- What fills the last group of letters up. -/
def padding (b : List UInt8) : List UInt16 := List.replicate ((3 - b.length % 3) % 3) 61

/-- Bytes as text in base64. -/
def encodeStandard (b : List UInt8) : List UInt16 := (groups b).map standardLetter ++ padding b

end Base64url

end Text
