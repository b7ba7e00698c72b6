import HeraldGateway.Templates.Messages
import HeraldGateway.Text.Substitution

/-!
# What variables put into a template

`injectVariables` makes a regular expression of each key, and replaces its matches by the value as a
replacement of the language, one variable after the other. Below is what it is for: placeholders replaced by
values, as they are and all at once.
-/

namespace HeraldGateway

open Text

/-! ## Patterns that are text -/

/-- A character that means something in a pattern wherever it stands. -/
def isSyntax (u : UInt16) : Bool := (js "^$\\.*+?()[|").contains u

/-- Whether a text begins with `\x7bn\x7d`, `\x7bn,\x7d` or `\x7bn,m\x7d`, which repeat what is before
them. -/
def quantifierAt (s : JsString) : Bool :=
  match s with
  | 123 :: s =>
    match s.takeWhile isDigit, s.dropWhile isDigit with
    | _ :: _, 125 :: _ => true
    | _ :: _, 44 :: s => (s.dropWhile isDigit).head? == some 125
    | _, _ => false
  | _ => false

/-- Whether there is such a repetition in a text. -/
def hasQuantifier : JsString → Bool
  | [] => false
  | a :: s => quantifierAt (a :: s) || hasQuantifier s

/-- A key whose placeholder is a pattern that is text. -/
def isLiteral (key : JsString) : Bool := key.all (!isSyntax ·) && !hasQuantifier (placeholder key)

/-- What is documented of patterns that are text: they are accepted, and match where the text stands. -/
structure RegExps.MatchesText (R : RegExps) : Prop where
  valid_literal : ∀ key, isLiteral key = true → R.valid (placeholder key) = true
  replaceAll_literal : ∀ key value text, isLiteral key = true →
    R.replaceAll (placeholder key) value text = replaceEvery (placeholder key) value text

/-! ## What should come of a template -/

/-- The placeholders of variables, and what they stand for. -/
def placeholders (vars : Object JsString) : List (JsString × JsString) :=
  vars.props.map fun e => (placeholder e.1, e.2)

/-- The template with every placeholder replaced by its value, as it is and all at once. -/
def simultaneous (vars : Object JsString) (template : JsString) : JsString :=
  Filling.fill (placeholders vars) template

/-- Variables are put into every template so, without an error and in whatever order they are given. -/
def Injects (R : RegExps) (vars : Object JsString) : Prop :=
  ∀ vars' : Object JsString, vars'.props.Perm vars.props → ∀ template,
    injectVariables R template vars' = some (simultaneous vars template)

/-- Keys are text as patterns, and no placeholder begins within another. -/
structure PlainKeys (vars : Object JsString) : Prop where
  literal : ∀ key ∈ vars.names, isLiteral key = true
  separate : Filling.Separate (vars.names.map placeholder)

/-- Values have no `$` patterns, and let no placeholder of another variable arise, unless it stands for
itself. -/
structure SafeValues (vars : Object JsString) : Prop where
  no_pattern : ∀ e ∈ vars.props, hasPattern e.2 = false
  no_arising : ∀ e ∈ vars.props, ∀ e' ∈ vars.props, e.1 ≠ e'.1 →
    placeholder e'.1 = e'.2 ∨ ¬Filling.Arises e.2 (placeholder e'.1)

end HeraldGateway
