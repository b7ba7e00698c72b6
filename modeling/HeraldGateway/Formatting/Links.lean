import HeraldGateway.Templates.Messages
import HeraldGateway.Text.Spans
import HeraldGateway.Text.Substitution

/-!
# Links and escapes

`link-parser.ts`: the Markdown links of a text are found with their positions and replaced in place, and the signs of
markup are replaced by references and back, one sign after the other.
-/

namespace HeraldGateway.LinkParser

open Text

/-! ## Links -/

/-- `MARKDOWN_LINK_REGEX` -/
def MARKDOWN_LINK_REGEX : RegExp :=
  .all [.word (js "["), .group 1 (.atLeast 1 (· != 93)), .word (js "]("), .group 2 (.atLeast 1 (· != 41)),
    .word (js ")")]

/-- `ParsedLink` -/
structure ParsedLink where
  label : JsString
  url : JsString
  startIndex : Nat
  endIndex : Nat
  linkType : LinkType
  deriving DecidableEq, Repr

/-- The link of a match and its index. -/
def linkOf (index : Nat) (m : Match UInt16) : ParsedLink where
  label := m.group 1
  url := m.group 2
  startIndex := index
  endIndex := index + m.text.length
  linkType := detectLinkType (m.group 2)

/-- The loop of `parseMarkdownLinks`, which goes on from `lastIndex`. Without an end it is `none`. -/
def collectLinks (text : JsString) : (fuel lastIndex : Nat) → List ParsedLink → Option (List ParsedLink)
  | 0, _, _ => none
  | fuel + 1, lastIndex, links =>
    match MARKDOWN_LINK_REGEX.exec lastIndex text with
    | none => some links
    | some (index, m) => collectLinks text fuel (index + m.text.length) (links ++ [linkOf index m])

/-- `ParseMarkdownLinksResult` -/
structure ParseMarkdownLinksResult where
  cleanText : JsString
  links : List ParsedLink
  deriving DecidableEq, Repr

/-- `parseMarkdownLinks`, whose loop goes round once more than there are links. -/
def parseMarkdownLinks (text : JsString) : Option ParseMarkdownLinksResult := do
  let links ← collectLinks text (text.length + 1) 0 []
  let cleanText := MARKDOWN_LINK_REGEX.replaceAll (·.group 1) text
  return { cleanText, links }

/-! ## Escapes -/

/-- `escapeHtml` -/
def escapeHtml (text : JsString) : JsString :=
  let text := replaceEvery (js "&") (js "&amp;") text
  let text := replaceEvery (js "<") (js "&lt;") text
  let text := replaceEvery (js ">") (js "&gt;") text
  let text := replaceEvery (js "\"") (js "&quot;") text
  replaceEvery (js "'") (js "&#039;") text

/-- `unescapeHtml` -/
def unescapeHtml (text : JsString) : JsString :=
  let text := replaceEvery (js "&amp;") (js "&") text
  let text := replaceEvery (js "&lt;") (js "<") text
  let text := replaceEvery (js "&gt;") (js ">") text
  let text := replaceEvery (js "&quot;") (js "\"") text
  replaceEvery (js "&#039;") (js "'") text

/-- The references that `unescapeHtml` makes signs of once it has made ampersands. -/
def lateReferences : List JsString := [js "&lt;", js "&gt;", js "&quot;", js "&#039;"]

/-! ## Markup of links -/

/-- `renderHtmlElement` -/
def renderHtmlElement (link : ParsedLink) : JsString :=
  let safeUrl := escapeHtml link.url
  let safeLabel := escapeHtml link.label
  match link.linkType with
  | .image =>
    js "<a href=\"" ++ safeUrl ++ js "\"><img src=\"" ++ safeUrl ++ js "\" alt=\"" ++ safeLabel ++
      js "\" style=\"max-width:100%;height:auto;\" /></a>"
  | .video | .url => js "<a href=\"" ++ safeUrl ++ js "\">" ++ safeLabel ++ js "</a>"

/-- `convertLinksToHtml` -/
def convertLinksToHtml (text : JsString) (links : List ParsedLink) : JsString :=
  if links.isEmpty then text
  else
    let sortedLinks := links.insertionSort fun a b => b.startIndex ≤ a.startIndex
    sortedLinks.foldl (fun result link =>
      result.take link.startIndex ++ renderHtmlElement link ++ result.drop link.endIndex) text

/-! ## What conversion is for -/

/-- The text of a link. -/
def ParsedLink.source (link : ParsedLink) : JsString :=
  js "[" ++ link.label ++ js "](" ++ link.url ++ js ")"

/-- A text with each of some links replaced, and all else as it is. -/
def replaceLinks (f : ParsedLink → JsString) (text : JsString) (links : List ParsedLink) : JsString :=
  Spans.splice ParsedLink.startIndex ParsedLink.endIndex f text links

/-- The links of a text follow each other, and each is the text at its place. -/
structure LinksOf (text : JsString) (links : List ParsedLink) : Prop where
  inOrder : Spans.InOrder ParsedLink.startIndex ParsedLink.endIndex text links
  source : ∀ link ∈ links, (text.take link.endIndex).drop link.startIndex = link.source

/-- Conversion touches the links of a text, and nothing else. -/
structure TouchesLinks (text : JsString) (r : ParseMarkdownLinksResult) : Prop where
  links : LinksOf text r.links
  html : convertLinksToHtml text r.links = replaceLinks renderHtmlElement text r.links
  clean : r.cleanText = replaceLinks ParsedLink.label text r.links

end HeraldGateway.LinkParser
