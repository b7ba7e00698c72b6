import Mathlib.Computability.Language
import Mathlib.Data.List.Infix

/-!
# Looking for patterns

Regular expressions, and the replacement of a text. That the search is right, and what a replacement leaves in
place, is in `Text.Proofs.PatternsProofs`.
-/

namespace Text

/-!
## Regular expressions over an arbitrary alphabet

Regular expressions whose atoms are character classes, given as predicates, with the usual meaning as
languages. `test` decides whether some factor of a word matches, as an unanchored search does; it
consumes the word by derivatives, built by constructors that drop dead branches. That it decides what
it should is in `Text.Proofs.PatternsProofs`.
-/

/-- A regular expression over `α`. -/
inductive Regex (α : Type) where
  /-- Matches nothing. -/
  | none
  /-- Matches the empty word. -/
  | eps
  /-- Matches one letter of a class. -/
  | one (p : α → Bool)
  /-- Matches what either of two expressions matches. -/
  | alt (r s : Regex α)
  /-- Matches a match of the first followed by a match of the second. -/
  | seq (r s : Regex α)
  /-- Matches any number of matches. -/
  | star (r : Regex α)

namespace Regex

variable {α : Type}

/-- What an expression matches. -/
def lang : Regex α → Language α
  | none => 0
  | eps => 1
  | one p => fun w => ∃ a, p a = true ∧ w = [a]
  | alt r s => r.lang + s.lang
  | seq r s => r.lang * s.lang
  | star r => KStar.kstar r.lang

/-- `r+` -/
def plus (r : Regex α) : Regex α := seq r (star r)

/-- `r?` -/
def opt (r : Regex α) : Regex α := alt r eps

/-- `r{0,n}` -/
def upTo : Nat → Regex α → Regex α
  | 0, _ => eps
  | n + 1, r => opt (seq r (upTo n r))

/-- One after another. -/
def all : List (Regex α) → Regex α
  | [] => eps
  | [r] => r
  | r :: rs => seq r (all rs)

/-- One of several. -/
def any : List (Regex α) → Regex α
  | [] => none
  | [r] => r
  | r :: rs => alt r (any rs)

/-- `alt` without dead branches. -/
def alt' : Regex α → Regex α → Regex α
  | none, s => s
  | r, none => r
  | r, s => alt r s

/-- `seq` without dead branches. -/
def seq' : Regex α → Regex α → Regex α
  | none, _ => none
  | eps, s => s
  | r, s => seq r s

/-- Whether an expression matches the empty word. -/
def nullable : Regex α → Bool
  | none => false
  | eps => true
  | one _ => false
  | alt r s => r.nullable || s.nullable
  | seq r s => r.nullable && s.nullable
  | star _ => true

/-- What is left to match after the letter `a`. -/
def deriv (a : α) : Regex α → Regex α
  | none => none
  | eps => none
  | one p => if p a then eps else none
  | alt r s => alt' (r.deriv a) (s.deriv a)
  | seq r s => if r.nullable then alt' (seq' (r.deriv a) s) (s.deriv a) else seq' (r.deriv a) s
  | star r => seq' (r.deriv a) (star r)

/-- Whether an expression matches nothing by its form. -/
def dead : Regex α → Bool
  | none => true
  | _ => false

/-- Whether some prefix of a word matches. -/
def matchesPrefix : List α → Regex α → Bool
  | [], r => r.nullable
  | a :: w, r => r.nullable || (!r.dead && matchesPrefix w (r.deriv a))

/-- Whether some factor of a word matches: `r.test(w)`. -/
def test (r : Regex α) : List α → Bool
  | [] => r.nullable
  | a :: w => matchesPrefix (a :: w) r || r.test w

end Regex

/-!
## Replacing the first occurrence

What `replace` of the language does when it is given a text to look for and a replacement: the first
occurrence is replaced, and `$` patterns of the replacement stand for the text around it.
-/

/-- What is before and after the first occurrence of a needle. -/
def split? (needle : List UInt16) : List UInt16 → Option (List UInt16 × List UInt16)
  | [] => if needle = [] then some ([], []) else none
  | a :: s =>
    if needle.isPrefixOf (a :: s) then some ([], (a :: s).drop needle.length)
    else (split? needle s).map fun r => (a :: r.1, r.2)

/-- What `$` and a code unit stand for: `$$` is a dollar, `$&` the occurrence, and what is before and after it
are written with a backtick and an apostrophe. -/
def substitution? (before occurrence after : List UInt16) (u : UInt16) : Option (List UInt16) :=
  if u = 36 then some [36]
  else if u = 38 then some occurrence
  else if u = 96 then some before
  else if u = 39 then some after
  else none

/-- The text of a replacement. -/
def expand (before occurrence after : List UInt16) : List UInt16 → List UInt16
  | a :: b :: s =>
    match if a = 36 then substitution? before occurrence after b else none with
    | some t => t ++ expand before occurrence after s
    | none => a :: expand before occurrence after (b :: s)
  | s => s

/-- `s.replace(needle, replacement)` -/
def replaceFirst (needle replacement s : List UInt16) : List UInt16 :=
  match split? needle s with
  | none => s
  | some (before, after) => before ++ expand before needle after replacement ++ after

/-- Whether a text may go on with what completes a pattern. -/
def completes : List UInt16 → Bool
  | [] => true
  | a :: _ => (substitution? [] [] [] a).isSome

/-- Whether a text contains a `$` pattern. -/
def hasPattern : List UInt16 → Bool
  | a :: b :: s => (a == 36 && completes (b :: s)) || hasPattern (b :: s)
  | _ => false

/-!
## What follows a mark
-/

/-- What `/mark([^stop]+)/` captures: what stands behind the first mark that `stop` does not follow, up to the
next `stop`. -/
def captured? (mark : List UInt16) (stop : UInt16) : List UInt16 → Option (List UInt16)
  | [] => none
  | a :: s =>
    let run := ((a :: s).drop mark.length).takeWhile (· != stop)
    if mark.isPrefixOf (a :: s) && !run.isEmpty then some run else captured? mark stop s

/-- In a text there is a mark between `before` and `after` that something else than `stop` follows. -/
structure Marked (mark : List UInt16) (stop : UInt16) (s before after : List UInt16) : Prop where
  split : s = before ++ (mark ++ after)
  goesOn : after.takeWhile (· != stop) ≠ []

/-- The mark is the first one. -/
structure FirstMarked (mark : List UInt16) (stop : UInt16) (s before after : List UInt16) : Prop
    extends Marked mark stop s before after where
  first : ∀ before' after', Marked mark stop s before' after' → before.length ≤ before'.length

end Text
