import HeraldGateway.Formatting.Links
import HeraldGateway.Text.Edits

/-!
# Markdown as plain text

`stripMarkdown` of `link-parser.ts`: regular expressions take the Markdown out of a text, each from what the one before
left. They are written for letters that carry code units, so that a text can be followed through them; the program's
own are code units.
-/

namespace HeraldGateway.LinkParser

open Text
open Coded (code)

/-! ## Expressions -/

/-- `.` -/
def dot (u : UInt16) : Bool := !RegExp.isTerminator u

/-- `[ \t]*$` -/
def blanksToEnd : RegExp := .seq (.atLeast 0 fun u => u == 32 || u == 9) .lineEnd

/-- `[^c\n]` -/
def within (c u : UInt16) : Bool := u != c && u != 10

/-- `/```[\s\S]*?```/g` -/
def fencedCode : RegExp := .all [.word (js "```"), .many (fun _ => true) 0 none true, .word (js "```")]

/-- `` /`([^`]+)`/g `` -/
def inlineCode : RegExp := .enclosed (js "`") (· != 96)

/-- `/^\|[-:| ]+\|[ \t]*$/gm` -/
def tableSeparator : RegExp :=
  .all [.lineStart, .word (js "|"), .atLeast 1 fun u => (js "-:| ").contains u, .word (js "|"), blanksToEnd]

/-- `/^\|(.+)\|[ \t]*$/gm` -/
def tableRow : RegExp := .all [.lineStart, .word (js "|"), .group 1 (.atLeast 1 dot), .word (js "|"), blanksToEnd]

/-- `/\*\*([^*\n]+)\*\*/g` -/
def boldStars : RegExp := .enclosed (js "**") (within 42)

/-- `/__([^_\n]+)__/g` -/
def boldUnderscores : RegExp := .enclosed (js "__") (within 95)

/-- `/\*([^*\n]+)\*/g` -/
def italicStars : RegExp := .enclosed (js "*") (within 42)

/-- `/_([^_\n]+)_/g` -/
def italicUnderscores : RegExp := .enclosed (js "_") (within 95)

/-- `/~~([^~\n]+)~~/g` -/
def strikethrough : RegExp := .enclosed (js "~~") (within 126)

/-- `/^#{1,6}\s+/gm` -/
def header : RegExp := .all [.lineStart, .many (· == 35) 1 (some 6) false, .atLeast 1 isSpace]

/-- `/^(\*{3,}|-{3,}|_{3,})[ \t]*$/gm` -/
def horizontalRule : RegExp :=
  .all [.lineStart, .group 1 (.alt (.atLeast 3 (· == 42)) (.alt (.atLeast 3 (· == 45)) (.atLeast 3 (· == 95)))),
    blanksToEnd]

/-- `/^>\s*/gm` -/
def blockquote : RegExp := .all [.lineStart, .word (js ">"), .atLeast 0 isSpace]

/-- `/\n{3,}/g` -/
def blankLines : RegExp := .atLeast 3 (· == 10)

/-! ## Replacements -/

section

variable {α : Type} [Coded α]

/-- `s.trim()` -/
def trimLetters (s : List α) : List α :=
  ((s.dropWhile fun a => isSpace (code a)).reverse.dropWhile fun a => isSpace (code a)).reverse

/-- `s.split(c)` for a single code unit `c` -/
def splitLetters (c : UInt16) : List α → List (List α)
  | [] => [[]]
  | a :: s =>
    if code a = c then [] :: splitLetters c s
    else match splitLetters c s with
      | [] => [[a]]
      | part :: parts => (a :: part) :: parts

/-- The cells of a row that are not empty, with something between them. -/
def joinCells (between : JsString) (inner : List α) : List α :=
  (lits between).intercalate (((splitLetters 124 inner).map trimLetters).filter (!·.isEmpty))

/-- What is left of the code of a text. -/
def beforeLinks (text : List α) : List α :=
  let result := fencedCode.replaceAll (fun _ => lits (js "[code]")) text
  inlineCode.replaceAll (·.group 1) result

/-- The text up to `__text__`. -/
def beforeBold (text : List α) : List α :=
  let result := MARKDOWN_LINK_REGEX.replaceAll (·.group 1) (beforeLinks text)
  let result := tableSeparator.replaceAll (fun _ => []) result
  let result := tableRow.replaceAll (fun m => joinCells (js " | ") (m.group 1)) result
  boldStars.replaceAll (·.group 1) result

/-- The text up to `_text_`. -/
def beforeItalic (text : List α) : List α :=
  let result := boldUnderscores.replaceAll (·.group 1) (beforeBold text)
  italicStars.replaceAll (·.group 1) result

/-- `stripMarkdown` on letters. -/
def strip (text : List α) : List α :=
  let result := italicUnderscores.replaceAll (·.group 1) (beforeItalic text)
  let result := strikethrough.replaceAll (·.group 1) result
  let result := header.replaceAll (fun _ => []) result
  let result := horizontalRule.replaceAll (fun _ => []) result
  let result := blockquote.replaceAll (fun _ => []) result
  let result := blankLines.replaceAll (fun _ => lits (js "\n\n")) result
  trimLetters result

end

/-- `stripMarkdown` -/
def stripMarkdown (text : JsString) : JsString := strip text

example : stripMarkdown (js "# Hi **you**\n> see [the docs](https://x.y)") = js "Hi you\nsee the docs" := by
  decide +kernel

end HeraldGateway.LinkParser
