import Mathlib.Algebra.Order.Field.Rat
import Mathlib.Data.List.Basic
import Mathlib.Data.List.TakeWhile
import Mathlib.Data.Rat.Floor

/-!
# JavaScript values

Strings of the program are sequences of UTF-16 code units, as in its language, so that lengths, slices
and regular expressions mean what they mean there.
-/

namespace HeraldGateway

/-- A JavaScript string, as its UTF-16 code units. -/
abbrev JsString := List UInt16

scoped instance : LawfulBEq JsString := inferInstance

/-- The code units of one character. -/
def utf16 (c : Char) : JsString :=
  let n := c.toNat
  if n < 0x10000 then [UInt16.ofNat n]
  else [UInt16.ofNat (0xD800 + (n - 0x10000) / 0x400), UInt16.ofNat (0xDC00 + (n - 0x10000) % 0x400)]

/-- A string literal. -/
def js (s : String) : JsString := s.toList.flatMap utf16

/-- Whether an optional string is truthy: present and not empty. -/
def truthy : Option JsString → Bool
  | some (_ :: _) => true
  | _ => false

/-- A number in a template literal. -/
def decimal (n : Nat) : JsString := js (toString n)

/-- `parts.join(sep)`. -/
def join (sep : JsString) : List JsString → JsString
  | [] => []
  | [s] => s
  | s :: ss => s ++ sep ++ join sep ss

/-- `s.split(c)` for a single code unit `c`. -/
def splitOn (c : UInt16) : JsString → List JsString
  | [] => [[]]
  | a :: s =>
    if a = c then [] :: splitOn c s
    else match splitOn c s with
      | [] => [[a]]
      | part :: parts => (a :: part) :: parts

example : splitOn 46 [97, 46, 98] = [[97], [98]] := by simp [splitOn]

theorem splitOn_of_not_mem {c : UInt16} {s : JsString} (h : c ∉ s) : splitOn c s = [s] := by
  induction s with
  | nil => rfl
  | cons a s ih =>
    obtain ⟨hne, hs⟩ := List.ne_and_not_mem_of_not_mem_cons h
    unfold splitOn
    rw [if_neg fun he => hne he.symm, ih hs]

/-- The first part ends where the code unit first occurs. -/
theorem splitOn_append {c : UInt16} {s s' : JsString} (h : c ∉ s) :
    splitOn c (s ++ c :: s') = s :: splitOn c s' := by
  induction s with
  | nil =>
    rw [List.nil_append, splitOn, if_pos rfl]
  | cons a s ih =>
    obtain ⟨hne, hs⟩ := List.ne_and_not_mem_of_not_mem_cons h
    rw [List.cons_append, splitOn, if_neg fun he => hne he.symm, ih hs]

theorem splitOn_ne_nil (c : UInt16) (s : JsString) : splitOn c s ≠ [] := by
  cases s with
  | nil => exact nofun
  | cons a s =>
    unfold splitOn
    split
    · exact nofun
    · split <;> exact nofun

/-- The parts on both sides of a separator. -/
theorem splitOn_separator (c : UInt16) (s t : JsString) :
    splitOn c (s ++ c :: t) = splitOn c s ++ splitOn c t := by
  induction s with
  | nil =>
    exact splitOn_append List.not_mem_nil
  | cons a s ih =>
    rw [List.cons_append, splitOn, splitOn, ih]
    by_cases hsep : a = c
    · rw [if_pos hsep, if_pos hsep]
      rfl
    · rw [if_neg hsep, if_neg hsep]
      obtain ⟨part, parts, hparts⟩ := List.exists_cons_of_ne_nil (splitOn_ne_nil c s)
      rw [hparts]
      rfl

/-- `s.slice(-n)` for a positive `n`. -/
def sliceLast (n : Nat) (s : JsString) : JsString := s.drop (s.length - n)

/-- White space of the language: what `\s` matches and `trim` removes. -/
def isSpace (u : UInt16) : Bool :=
  (9 ≤ u && u ≤ 13) || u == 32 || u == 0xA0 || u == 0x1680 || (0x2000 ≤ u && u ≤ 0x200A) ||
    u == 0x2028 || u == 0x2029 || u == 0x202F || u == 0x205F || u == 0x3000 || u == 0xFEFF

/-- The parts of a string between its white space, which are those of `s.trim().split(/\s+/)` but for
the single empty part of a blank string. -/
def words : JsString → List JsString
  | [] => []
  | a :: s =>
    if isSpace a then words s
    else match s, words s with
      | b :: _, w :: ws => if isSpace b then [a] :: w :: ws else (a :: w) :: ws
      | _, ws => [a] :: ws

/-- A digit. -/
def isDigit (u : UInt16) : Bool := 48 ≤ u && u ≤ 57

/-- `parseInt(s, 10)`, where `none` is `NaN`. -/
def parseInt (s : JsString) : Option Int :=
  let s := s.dropWhile isSpace
  let (negative, s) := match s with
    | 45 :: s => (true, s)
    | 43 :: s => (false, s)
    | s => (false, s)
  let digits := s.takeWhile isDigit
  if digits.isEmpty then none
  else
    let n : Nat := digits.foldl (fun n d => n * 10 + (d.toNat - 48)) 0
    some (if negative then -(n : Int) else n)

/-- `s.toLowerCase()` on the letters of ASCII. -/
def toLowerCase (s : JsString) : JsString := s.map fun u => if 65 ≤ u && u ≤ 90 then u + 32 else u

/-- `s.charAt(0).toUpperCase() + s.slice(1)` on the letters of ASCII. -/
def capitalize : JsString → JsString
  | [] => []
  | a :: s => (if 97 ≤ a && a ≤ 122 then a - 32 else a) :: s

/-- Append a value to the group of a key, or start one. -/
def insertGroup {κ α : Type} [DecidableEq κ] (k : κ) (a : α) : List (κ × List α) → List (κ × List α)
  | [] => [(k, [a])]
  | g :: gs => if g.1 = k then (k, g.2 ++ [a]) :: gs else g :: insertGroup k a gs

/-- The values of each key, as a `Map` that is filled from a list has them: keys in the order in which
they first occur. -/
def groupBy {κ α : Type} [DecidableEq κ] (key : α → κ) (as : List α) : List (κ × List α) :=
  as.foldl (fun gs a => insertGroup (key a) a gs) []

/-- `s.includes(needle)` -/
def includes (needle : JsString) : JsString → Bool
  | [] => needle.isEmpty
  | a :: s => needle.isPrefixOf (a :: s) || includes needle s

theorem includes_iff {needle s : JsString} : includes needle s = true ↔ needle <:+: s := by
  induction s with
  | nil => rw [includes, List.isEmpty_iff, List.infix_nil]
  | cons a s ih => rw [includes, Bool.or_eq_true, List.isPrefixOf_iff_prefix, ih, List.infix_cons_iff]

theorem lt_of_all {s : JsString} (h : s.all (· < 128) = true) : ∀ u ∈ s, u < 128 :=
  fun u hu => of_decide_eq_true (List.all_eq_true.1 h u hu)

/-- ASCII text is the same in bytes. -/
theorem ascii_bytes {s : JsString} (h : ∀ u ∈ s, u < 128) :
    (s.map (·.toUInt8)).map (·.toUInt16) = s := by
  rw [List.map_map]
  refine (List.map_congr_left fun u hu => ?_).trans (List.map_id s)
  have hlt : u.toNat < 128 := UInt16.lt_iff_toNat_lt.1 (h u hu)
  rw [Function.comp_apply, UInt16.toUInt16_toUInt8]
  refine UInt16.toNat_inj.1 ((UInt16.toNat_mod u 256).trans (Nat.mod_eq_of_lt ?_))
  exact Nat.lt_trans hlt (by decide)

theorem truthy_eq_true {s : Option JsString} : truthy s = true ↔ ∃ k, s = some k ∧ k ≠ [] := by
  match s with
  | none => simp [truthy]
  | some [] => simp [truthy]
  | some (a :: k) => simp [truthy]

/-!
## Numbers of the language

JSON values and what `Number` makes of them. Finite numbers are kept exactly; the language rounds them to
53 binary digits.
-/

/-- A number of the language. -/
inductive JsNumber where
  | nan
  | infinity (negative : Bool)
  | finite (q : ℚ)
  deriving DecidableEq, Repr

/-- A JSON value, or `undefined`. -/
inductive JsValue where
  | undefined
  | null
  | bool (b : Bool)
  | number (q : ℚ)
  | string (s : JsString)
  /-- An array or an object, by what `Number` makes of it. -/
  | structured (n : JsNumber)
  deriving DecidableEq, Repr

/-- Whether a value is truthy. -/
def JsValue.truthy : JsValue → Bool
  | undefined | null => false
  | bool b => b
  | number q => q ≠ 0
  | string s => !s.isEmpty
  | structured _ => true

/-- `a || b` -/
def JsValue.or (a b : JsValue) : JsValue := if a.truthy then a else b

/-! ### Numerals -/

/-- The value of a digit, in any base up to 36. -/
def digitValue (u : UInt16) : Option Nat :=
  if isDigit u then some (u.toNat - 48)
  else if 97 ≤ u && u ≤ 122 then some (u.toNat - 87)
  else if 65 ≤ u && u ≤ 90 then some (u.toNat - 55)
  else none

/-- A numeral of a base that consists of digits only. -/
def digits (base : Nat) (s : JsString) : Option Nat :=
  if s.isEmpty then none
  else s.foldl (fun n u => do
    let n ← n
    let d ← digitValue u
    if d < base then some (n * base + d) else none) (some 0)

/-- A sign and what follows it; `true` is minus. -/
def signed : JsString → Bool × JsString
  | 45 :: s => (true, s)
  | 43 :: s => (false, s)
  | s => (false, s)

/-- The exponent of a numeral. -/
def exponent : JsString → Option Int
  | [] => some 0
  | u :: s =>
    if u = 101 ∨ u = 69 then
      let (negative, s) := signed s
      (digits 10 s).map fun n => if negative then -(n : Int) else n
    else none

/-- A decimal numeral without a sign. -/
def unsignedDecimal (s : JsString) : Option ℚ :=
  let whole := s.takeWhile isDigit
  let (fraction, rest) := match s.dropWhile isDigit with
    | 46 :: s => (s.takeWhile isDigit, s.dropWhile isDigit)
    | s => ([], s)
  do
    let n ← digits 10 (whole ++ fraction)
    let e ← exponent rest
    return n * (10 : ℚ) ^ (e - fraction.length)

/-- `s.trim()` -/
def trim (s : JsString) : JsString :=
  ((s.dropWhile isSpace).reverse.dropWhile isSpace).reverse

/-- A string is what `trim` leaves of it between white space. -/
theorem exists_trim (s : JsString) :
    ∃ a b, s = a ++ trim s ++ b ∧ (∀ u ∈ a, isSpace u = true) ∧ ∀ u ∈ b, isSpace u = true := by
  refine ⟨s.takeWhile isSpace, ((s.dropWhile isSpace).reverse.takeWhile isSpace).reverse, ?_,
    fun u hu => List.mem_takeWhile_imp hu, fun u hu => List.mem_takeWhile_imp (List.mem_reverse.1 hu)⟩
  rw [trim, List.append_assoc, ← List.reverse_append, List.takeWhile_append_dropWhile, List.reverse_reverse,
    List.takeWhile_append_dropWhile]

theorem dropWhile_spaces {a s : JsString} (h : ∀ u ∈ a, isSpace u = true) :
    (a ++ s).dropWhile isSpace = s.dropWhile isSpace := by
  rw [List.dropWhile_append, List.dropWhile_eq_nil_iff.2 h]
  rfl

/-- White space around a string does not matter to `trim`. -/
theorem trim_spaces {a s b : JsString} (ha : ∀ u ∈ a, isSpace u = true) (hb : ∀ u ∈ b, isSpace u = true) :
    trim (a ++ s ++ b) = trim s := by
  have hb' : ∀ u ∈ b.reverse, isSpace u = true := fun u hu => hb u (List.mem_reverse.1 hu)
  rw [trim, List.append_assoc, dropWhile_spaces ha, List.dropWhile_append]
  by_cases hs : s.dropWhile isSpace = []
  · rw [hs, List.isEmpty_nil, if_pos rfl, List.dropWhile_eq_nil_iff.2 hb, trim, hs]
  · rw [if_neg (by rwa [List.isEmpty_iff]), List.reverse_append, dropWhile_spaces hb', trim]

theorem trim_trim {s : JsString} : trim (trim s) = trim s := by
  obtain ⟨a, b, hs, ha, hb⟩ := exists_trim s
  calc trim (trim s) = trim (a ++ trim s ++ b) := (trim_spaces ha hb).symm
    _ = trim s := by rw [← hs]

/-- `Number(s)` for a string -/
def stringToNumber (s : JsString) : JsNumber :=
  let radix (base : Nat) (s : JsString) := match digits base s with
    | some n => JsNumber.finite n
    | none => .nan
  match trim s with
  | [] => .finite 0
  | 48 :: 120 :: s | 48 :: 88 :: s => radix 16 s
  | 48 :: 111 :: s | 48 :: 79 :: s => radix 8 s
  | 48 :: 98 :: s | 48 :: 66 :: s => radix 2 s
  | s =>
    let (negative, s) := signed s
    if s = js "Infinity" then .infinity negative
    else match unsignedDecimal s with
      | some q => .finite (if negative then -q else q)
      | none => .nan

/-- `Number(v)` -/
def JsValue.toNumber : JsValue → JsNumber
  | undefined => .nan
  | null => .finite 0
  | bool b => .finite (if b then 1 else 0)
  | number q => .finite q
  | string s => stringToNumber s
  | structured n => n

/-- `BigInt(Math.floor(n))`, which throws where there is no such integer. -/
def JsNumber.floorInt : JsNumber → Option Int
  | finite q => some ⌊q⌋
  | _ => none

/-- `n < m` for an integer `m` -/
def JsNumber.lessThan (n : JsNumber) (m : Nat) : Bool :=
  match n with
  | nan => false
  | infinity negative => negative
  | finite q => q < m

/-- A number that fits a `SMALLINT` column. -/
def JsNumber.smallInt : JsNumber → Option Int
  | finite q => if q.den = 1 ∧ -32768 ≤ q.num ∧ q.num < 32768 then some q.num else none
  | _ => none

example : (JsValue.string (js " 3 ")).toNumber = .finite 3 ∧
    (JsValue.string (js "1.5e1")).toNumber = .finite 15 ∧
    (JsValue.string (js "0x1F")).toNumber = .finite 31 ∧
    (JsValue.string (js "3 months")).toNumber = .nan := by
  decide +kernel

end HeraldGateway
