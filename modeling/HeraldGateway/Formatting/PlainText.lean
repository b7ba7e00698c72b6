import HeraldGateway.Formatting.Markdown

/-!
# What plain text keeps

Each code unit of a body is marked with its place, and what `stripMarkdown` makes of it is followed by these marks: what
it writes itself has none.
-/

namespace HeraldGateway.LinkParser

open Text
open Coded (code)

/-- A code unit, and its place in a body if it is from there. -/
structure Traced where
  unit : UInt16
  index : Option Nat
  deriving DecidableEq, Repr

instance : Coded Traced where
  code := Traced.unit
  lit u := ⟨u, none⟩
  code_lit _ := rfl

/-- The units of a body with their places. -/
def traced (body : JsString) : List Traced := body.mapIdx fun i u => ⟨u, some i⟩

/-- The signs of Markdown. -/
def isDelimiter (u : UInt16) : Bool := (js "`*_~#>-|[]():").contains u

/-- What counts as a letter or a digit: any units that are neither signs of Markdown nor white space. -/
structure Letters where
  mem : UInt16 → Bool
  not_delimiter : ∀ u, mem u = true → isDelimiter u = false
  not_space : ∀ u, mem u = true → isSpace u = false

/-- The units of a body within fenced code. -/
def fenced (body : JsString) : List Traced := fencedCode.takenFrom Match.text (traced body)

/-- A body whose fenced code is one sign each, which is none of the signs of a link. -/
def sealed (body : JsString) : List Traced := fencedCode.replaceAll (fun _ => [⟨0, none⟩]) (traced body)

/-- The units of a body within link targets. -/
def targets (body : JsString) : List Traced := MARKDOWN_LINK_REGEX.takenFrom (·.group 2) (sealed body)

/-- A unit outside of fenced code and link targets. -/
def Outside (body : JsString) (a : Traced) : Prop := a ∈ traced body ∧ a ∉ fenced body ∧ a ∉ targets body

variable (letters : Letters) (body : JsString)

/-- An identifier of a body outside of fenced code and link targets, between `before` and `behind`: a run of letters,
digits and underscores within words that is as long as can be. -/
structure Identifier (before w behind : List Traced) : Prop where
  text : traced body = before ++ (w ++ behind)
  units : ∀ a ∈ w, letters.mem a.unit = true ∨ a.unit = 95
  first : ∃ a ∈ w.head?, letters.mem a.unit = true
  last : ∃ a ∈ w.getLast?, letters.mem a.unit = true
  outside : ∀ a ∈ w, Outside body a
  /-- Neither a letter goes on nor underscores with a letter behind them. -/
  maximal : ∀ a ∈ (behind.dropWhile (·.unit == 95)).head?, letters.mem a.unit = false
  maximal' : ∀ a ∈ (before.reverse.dropWhile (·.unit == 95)).head?, letters.mem a.unit = false

/-- A unit of an identifier. -/
def InIdentifier (a : Traced) : Prop := ∃ before w behind, Identifier letters body before w behind ∧ a ∈ w

/-- What plain text is said to keep. -/
structure KeepsIdentifiers : Prop where
  /-- Identifiers stay as they are, -/
  unchanged : ∀ before w behind, Identifier letters body before w behind → w <:+: strip (traced body)
  /-- in their order, -/
  inOrder : ((strip (traced body)).filter (·.index.isSome)).Sublist (traced body)
  /-- and outside of fenced code and link targets nothing but signs of Markdown and white space is dropped. -/
  only : ∀ a, Outside body a → isDelimiter a.unit = false → isSpace a.unit = false → a ∈ strip (traced body)

/-- No step of `stripMarkdown` takes an identifier for something else. -/
structure Undisturbed : Prop where
  /-- What the link step takes for targets in the text without code is one in the body, or signs and white space. -/
  links : ∀ a ∈ MARKDOWN_LINK_REGEX.takenFrom (·.group 2) (beforeLinks (traced body)), Outside body a →
    (isDelimiter a.unit = true ∨ isSpace a.unit = true) ∧ ¬InIdentifier letters body a
  /-- No underscore of an identifier is one of the marks of a match of `__text__`, -/
  bold : ∀ a ∈ boldUnderscores.takenFrom (RegExp.around 2) (beforeBold (traced body)), ¬InIdentifier letters body a
  /-- nor of a match of `_text_`. -/
  italic : ∀ a ∈ italicUnderscores.takenFrom (RegExp.around 1) (beforeItalic (traced body)),
    ¬InIdentifier letters body a

end HeraldGateway.LinkParser
