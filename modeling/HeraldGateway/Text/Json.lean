import Mathlib.Data.List.Basic

/-!
# JSON

String literals with everything but printable ASCII escaped, numerals, values without arrays, and readers that
give what they read together with the text that follows. Text is a list of 16-bit code units. That reading
undoes writing is in `Text.Proofs.JsonProofs`.
-/

namespace Text

/-!
## Strings and numerals

String literals with everything but printable ASCII escaped, numerals, and readers that give what they read
together with the text that follows. Text is a list of 16-bit code units. That reading undoes writing is in
`Text.Proofs.JsonProofs`.
-/

namespace Json

/-- A digit of base 16. -/
def hexDigit (n : Nat) : UInt16 := if n < 10 then UInt16.ofNat (48 + n) else UInt16.ofNat (87 + n)

/-- The value of a digit of base 16. -/
def hexValue? (u : UInt16) : Option Nat :=
  if 48 ≤ u ∧ u ≤ 57 then some (u.toNat - 48)
  else if 97 ≤ u ∧ u ≤ 102 then some (u.toNat - 87)
  else if 65 ≤ u ∧ u ≤ 70 then some (u.toNat - 55)
  else none

/-- A code unit that stands for itself. -/
def isPlain (u : UInt16) : Bool := 32 ≤ u && u < 127 && u != 34 && u != 92

/-- A code unit in a string literal. -/
def escape (u : UInt16) : List UInt16 :=
  if isPlain u then [u]
  else [92, 117, hexDigit (u.toNat / 4096), hexDigit (u.toNat / 256 % 16), hexDigit (u.toNat / 16 % 16),
    hexDigit (u.toNat % 16)]

/-- A string literal. -/
def quote (s : List UInt16) : List UInt16 := 34 :: (s.flatMap escape ++ [34])

/-- The code unit of four digits. -/
def codeUnit? (a b c d : UInt16) : Option UInt16 := do
  let a ← hexValue? a
  let b ← hexValue? b
  let c ← hexValue? c
  let d ← hexValue? d
  return UInt16.ofNat (a * 4096 + b * 256 + c * 16 + d)

/-- Read a string literal behind its opening quotation mark. -/
def readQuoted : List UInt16 → Option (List UInt16 × List UInt16)
  | 34 :: rest => some ([], rest)
  | 92 :: 117 :: a :: b :: c :: d :: rest => do
    let u ← codeUnit? a b c d
    let (s, rest) ← readQuoted rest
    return (u :: s, rest)
  | u :: rest => if isPlain u then (readQuoted rest).map fun r => (u :: r.1, r.2) else none
  | [] => none

/-- Read a string literal. -/
def readString : List UInt16 → Option (List UInt16 × List UInt16)
  | 34 :: rest => readQuoted rest
  | _ => none

/-- Read a text that is given. -/
def readText (text s : List UInt16) : Option (List UInt16) :=
  if text.isPrefixOf s then some (s.drop text.length) else none

/-- A numeral. -/
def numeral (n : Nat) : List UInt16 := (Nat.toDigits 10 n).map fun c => UInt16.ofNat c.toNat

/-- A digit. -/
def isDigit (u : UInt16) : Bool := 48 ≤ u && u ≤ 57

/-- Read a numeral. -/
def readNumeral (s : List UInt16) : Option (Nat × List UInt16) :=
  let digits := s.takeWhile isDigit
  if digits.isEmpty then none
  else some (digits.foldl (fun n u => n * 10 + (u.toNat - 48)) 0, s.dropWhile isDigit)

end Json

/-!
## Values

Values of JSON without arrays, their text, and a reader. That reading undoes writing is in
`Text.Proofs.JsonProofs`.
-/

namespace Json

mutual

/-- A value. -/
inductive Value where
  | null
  | bool (b : Bool)
  | number (n : Int)
  | string (s : List UInt16)
  | object (entries : Entries)
  deriving DecidableEq, Repr

/-- The properties of an object. -/
inductive Entries where
  | nil
  | cons (key : List UInt16) (value : Value) (rest : Entries)
  deriving DecidableEq, Repr

end

/-- The value of a property. -/
def Entries.get? (key : List UInt16) : Entries → Option Value
  | nil => none
  | cons k v rest => if k = key then some v else rest.get? key

/-- Properties in the order in which they are given. -/
def Entries.ofList : List (List UInt16 × Value) → Entries
  | [] => nil
  | (k, v) :: es => cons k v (ofList es)

/-- Text of ASCII. -/
def ascii (s : String) : List UInt16 := s.toList.map fun c => UInt16.ofNat c.toNat

/-- A numeral with its sign. -/
def signed : Int → List UInt16
  | .ofNat n => numeral n
  | .negSucc n => 45 :: numeral (n + 1)

mutual

/-- The text of a value. -/
def Value.text : Value → List UInt16
  | .null => ascii "null"
  | .bool b => if b then ascii "true" else ascii "false"
  | .number n => signed n
  | .string s => quote s
  | .object entries => 123 :: entries.text

/-- The text of properties, with the closing brace. -/
def Entries.text : Entries → List UInt16
  | .nil => [125]
  | .cons key value .nil => quote key ++ 58 :: (value.text ++ [125])
  | .cons key value (.cons k v rest) => quote key ++ 58 :: (value.text ++ 44 :: Entries.text (.cons k v rest))

end

/-- Read a numeral with its sign. -/
def readSigned : List UInt16 → Option (Int × List UInt16)
  | 45 :: s => (readNumeral s).map fun r => (-(r.1 : Int), r.2)
  | s => (readNumeral s).map fun r => ((r.1 : Int), r.2)

mutual

/-- Read a value; the fuel bounds how deep and how wide it is. -/
def readValue : Nat → List UInt16 → Option (Value × List UInt16)
  | 0, _ => none
  | _ + 1, 110 :: s => (readText (ascii "ull") s).map (.null, ·)
  | _ + 1, 116 :: s => (readText (ascii "rue") s).map (.bool true, ·)
  | _ + 1, 102 :: s => (readText (ascii "alse") s).map (.bool false, ·)
  | _ + 1, 34 :: s => (readQuoted s).map fun r => (.string r.1, r.2)
  | _ + 1, 123 :: 125 :: s => some (.object .nil, s)
  | n + 1, 123 :: s => (readEntries n s).map fun r => (.object r.1, r.2)
  | _ + 1, s => (readSigned s).map fun r => (.number r.1, r.2)

/-- Read properties behind the opening brace. -/
def readEntries : Nat → List UInt16 → Option (Entries × List UInt16)
  | 0, _ => none
  | n + 1, s => do
    let (key, s) ← readString s
    let s ← readText [58] s
    let (value, s) ← readValue n s
    match s with
    | 44 :: s => (readEntries n s).map fun r => (.cons key value r.1, r.2)
    | 125 :: s => some (.cons key value .nil, s)
    | _ => none

end

/-- `JSON.parse` of a text that `Value.text` wrote. -/
def parse (s : List UInt16) : Option Value :=
  match readValue s.length s with
  | some (v, []) => some v
  | _ => none

end Json

end Text
