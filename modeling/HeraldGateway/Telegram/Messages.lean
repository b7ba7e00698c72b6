import HeraldGateway.Formatting.Markdown
import HeraldGateway.Telegram.Webhook
import HeraldGateway.Text.Uri

/-!
# Texts of Telegram messages

`telegram.provider.ts`: the Markdown of a body becomes HTML, the lines of a message are put together and cut, and what
is left is split into parts that are sent one after the other.
-/

namespace HeraldGateway.TelegramService

open Text LinkParser

def TELEGRAM_MAX_MESSAGE_LENGTH : Nat := 4096

def TELEGRAM_MAX_CAPTION_LENGTH : Nat := 1024

/-! ## HTML -/

/-- `escapeHtmlForTelegram`, and `escapeHtml` of the service -/
def escapeHtmlForTelegram (text : JsString) : JsString :=
  let text := replaceEvery (js "&") (js "&amp;") text
  let text := replaceEvery (js "<") (js "&lt;") text
  let text := replaceEvery (js ">") (js "&gt;") text
  replaceEvery (js "\"") (js "&quot;") text

/-- `\w` -/
def isWordUnit (u : UInt16) : Bool := isLetter u || isDigit u || u == 95

/-- `/```(\w+)?\n([\s\S]*?)```/g` -/
def fencedLines : RegExp :=
  .all [.word (js "```"), .opt (.group 1 (.atLeast 1 isWordUnit)), .word (js "\n"),
    .group 2 (.many (fun _ => true) 0 none true), .word (js "```")]

/-- `/^(-{3,}|\*{3,}|_{3,})[ \t]*$/gm` -/
def divider : RegExp :=
  .all [.lineStart, .group 1 (.alt (.atLeast 3 (· == 45)) (.alt (.atLeast 3 (· == 42)) (.atLeast 3 (· == 95)))),
    blanksToEnd]

/-- `/\*\*\*([^*]+)\*\*\*/g` -/
def boldItalicStars : RegExp := .enclosed (js "***") (· != 42)

/-- `/^#{1,6}\s+(.+)$/gm` -/
def headerLine : RegExp :=
  .all [.lineStart, .many (· == 35) 1 (some 6) false, .atLeast 1 isSpace, .group 1 (.atLeast 1 dot), .lineEnd]

/-- The elements of a text that was found. -/
def element (opening closing : String) (text : JsString) : JsString :=
  js opening ++ escapeHtmlForTelegram text ++ js closing

/-- `parseMarkdownToTelegramHtml` -/
def parseMarkdownToTelegramHtml (text : JsString) : JsString :=
  let result := fencedLines.replaceAll (fun m => element "<pre>" "</pre>" (trim (m.group 2))) text
  let result := inlineCode.replaceAll (fun m => element "<code>" "</code>" (m.group 1)) result
  let result := tableSeparator.replaceAll (fun _ => []) result
  let result := tableRow.replaceAll (fun m => joinCells (js " │ ") (m.group 1)) result
  let result := divider.replaceAll (fun _ => js "──────────") result
  let result := boldItalicStars.replaceAll (fun m => element "<b><i>" "</i></b>" (m.group 1)) result
  let result := boldStars.replaceAll (fun m => element "<b>" "</b>" (m.group 1)) result
  let result := italicStars.replaceAll (fun m => element "<i>" "</i>" (m.group 1)) result
  let result := boldUnderscores.replaceAll (fun m => element "<u>" "</u>" (m.group 1)) result
  let result := strikethrough.replaceAll (fun m => element "<s>" "</s>" (m.group 1)) result
  headerLine.replaceAll (fun m => element "<b>" "</b>" (m.group 1)) result

/-! ## The text of a message -/

/-- `getCategoryEmoji` -/
def getCategoryEmoji (category : JsString) : JsString :=
  let map := [(js "defi", js "💰"), (js "governance", js "🗳️"), (js "system", js "⚙️"), (js "marketing", js "📢")]
  (map.lookup category).getD (js "🔔")

/-- `text.slice(0, n - 1) + '…'` for a text that is longer than `n` -/
def cut (n : Nat) (text : JsString) : JsString :=
  if text.length > n then text.take (n - 1) ++ js "…" else text

/-- The lines of a message above its body. -/
def headLines (params : TextParams) (emoji : JsString) : List JsString :=
  [emoji ++ js " <b>" ++ escapeHtmlForTelegram params.protocolName ++ js "</b>", [],
    js "<b>" ++ escapeHtmlForTelegram params.subject ++ js "</b>", []]

/-- The lines below it. -/
def footLines (params : TextParams) : List JsString :=
  if params.tier.getD 0 < 3 then [[], js "<i>via Herald • " ++ capitalize params.category ++ js "</i>"] else []

/-- `lines.filter((line) => line !== '').join('\n')` -/
def joinLines (lines : List JsString) : JsString := join (js "\n") (lines.filter (!·.isEmpty))

/-- `formatText` -/
def formatText (params : TextParams) (emoji : JsString) : JsString :=
  let maxBody := TELEGRAM_MAX_CAPTION_LENGTH
  let bodyText := cut maxBody (parseMarkdownToTelegramHtml params.body)
  let lines := headLines params emoji ++ [bodyText] ++ footLines params
  cut TELEGRAM_MAX_MESSAGE_LENGTH (joinLines lines)

/-! ## Parts -/

/-- The chunks of a text so far, and the one that grows. -/
structure Chunking where
  chunks : List JsString := []
  current : JsString := []
  deriving DecidableEq, Repr

/-- `addChunk` -/
def addChunk (chunks : List JsString) (s : JsString) : List JsString := if s.isEmpty then chunks else chunks ++ [s]

/-- The loop that cuts a long line. Without an end it is `none`. -/
def cutLine (effectiveMax : Nat) (line : JsString) : (fuel pos : Nat) → Chunking → Option Chunking
  | 0, _, _ => none
  | fuel + 1, pos, c =>
    if pos < line.length then
      let slice := (line.drop pos).take effectiveMax
      cutLine effectiveMax line fuel (pos + effectiveMax)
        (if pos + effectiveMax < line.length then { c with chunks := addChunk c.chunks slice }
        else { c with current := slice })
    else some c

/-- What separates a piece from what is there before it. -/
def separator (sep current : JsString) : JsString := if current.isEmpty then [] else sep

/-- A line of a long paragraph. -/
def addLine (effectiveMax fuel : Nat) (c : Chunking) (line : JsString) : Option Chunking :=
  let lineSep := separator (js "\n") c.current
  if (c.current ++ lineSep ++ line).length ≤ effectiveMax then
    some { c with current := c.current ++ lineSep ++ line }
  else
    let c := { c with chunks := addChunk c.chunks c.current }
    if line.length ≤ effectiveMax then some { c with current := line }
    else cutLine effectiveMax line fuel 0 c

/-- A paragraph. -/
def addParagraph (effectiveMax fuel : Nat) (c : Chunking) (para : JsString) : Option Chunking :=
  let sep := separator (js "\n\n") c.current
  if (c.current ++ sep ++ para).length ≤ effectiveMax then
    some { c with current := c.current ++ sep ++ para }
  else
    let c := { c with chunks := addChunk c.chunks c.current }
    if para.length ≤ effectiveMax then some { c with current := para }
    else (splitOn 10 para).foldlM (addLine effectiveMax fuel) { c with current := [] }

/-- `text.split('\n\n')` -/
def splitParagraphs : JsString → List JsString
  | 10 :: 10 :: s => [] :: splitParagraphs s
  | a :: s =>
    match splitParagraphs s with
    | [] => [[a]]
    | para :: paras => (a :: para) :: paras
  | [] => [[]]

/-- `splitIntoChunks` for a `maxLength` of 15 at least, whose loops go round `fuel` times at most. -/
def splitIntoChunks (fuel : Nat) (text : JsString) (maxLength : Nat) : Option (List JsString) :=
  let effectiveMax := maxLength - 15
  if text.length ≤ effectiveMax then some [text]
  else do
    let c ← (splitParagraphs text).foldlM (addParagraph effectiveMax fuel) {}
    return addChunk c.chunks c.current

/-- The code units of a text that are no line breaks. -/
def withoutBreaks (text : JsString) : JsString := text.filter (· != 10)

/-- `\n\n<i>(i/n)</i>` -/
def indicator (i n : Nat) : JsString :=
  js "\n\n<i>(" ++ decimal i ++ js "/" ++ decimal n ++ js ")</i>"

/-- The texts of the parts. -/
def partTexts (chunks : List JsString) : List JsString :=
  chunks.mapIdx fun i chunk => if chunks.length > 1 then chunk ++ indicator (i + 1) chunks.length else chunk

/-! ## Calls -/

/-- `InlineKeyboardButton` -/
structure InlineKeyboardButton where
  text : JsString
  url : Option JsString := none
  callbackData : Option JsString := none
  deriving DecidableEq, Repr

/-- The options of a call, besides the mode of its text, which is HTML. -/
structure SendOptions where
  replyMarkup : List (List InlineKeyboardButton)
  disableNotification : Bool
  messageThreadId : Option Int
  deriving DecidableEq, Repr

/-- A call of the Telegram API that sends something. -/
inductive SendCall where
  | sendVideo (chatId url caption : JsString) (options : SendOptions)
  | sendPhoto (chatId url caption : JsString) (options : SendOptions)
  | sendMessage (chatId text : JsString) (options : SendOptions)
  deriving DecidableEq, Repr

/-- `buildInlineKeyboard` -/
def buildInlineKeyboard (maxButtons : Nat) (bodyLinks customButtons : List (JsString × JsString))
    (notificationId : JsString) : List (List InlineKeyboardButton) :=
  let row := fun (text, url) => [{ text := text, url := some url : InlineKeyboardButton }]
  let rows := (bodyLinks.take maxButtons).map row
  let rows := rows ++ (customButtons.take (maxButtons - rows.length)).map row
  if !notificationId.isEmpty && rows.length < maxButtons then
    rows ++ [[{ text := js "🔇 Mute this protocol", callbackData := some (js "mute_" ++ notificationId) }]]
  else rows

/-- What a service is set up with. -/
structure Settings where
  maxButtons : Nat := 10
  trackingBaseUrl : Option JsString := none

variable (R : RegExps) (settings : Settings)

/-- `messageText`, given the template that was found. A key that makes no pattern throws. -/
def messageText (p : TelegramParams) (found : Option TemplateRecord) : Option JsString :=
  (telegramMessage R p found).map fun m =>
    match m.text with
    | .custom text => text
    | .builtIn params => formatText params (getCategoryEmoji p.category)

/-- `inlineLinks` -/
def inlineLinks (p : TelegramParams) (links : List ParsedLink) : List (JsString × JsString) :=
  links.map fun link =>
    if p.trackEngagement && truthy settings.trackingBaseUrl && !p.notificationId.text.isEmpty then
      (link.label, settings.trackingBaseUrl.getD [] ++ js "/v1/tg/c/" ++
        Uri.encodeComponent p.notificationId.text ++ js "?url=" ++ Base64url.encode (Utf8.encode link.url))
    else (link.label, link.url)

/-- `options` -/
def sendOptions (p : TelegramParams) (links : List ParsedLink) (customButtons : List (JsString × JsString)) :
    SendOptions where
  replyMarkup := buildInlineKeyboard settings.maxButtons (inlineLinks settings p links) customButtons
    p.notificationId.text
  disableNotification := p.category == js "marketing" || p.priority == some .normal
  messageThreadId := if truthy p.messageThreadId then p.messageThreadId.bind parseInt else none

/-- The parts of a text, with the buttons on the last. -/
def partCalls (p : TelegramParams) (options : SendOptions) (parts : List JsString) : List SendCall :=
  parts.mapIdx fun i text => .sendMessage p.chatId text
    { options with replyMarkup := if i + 1 = parts.length then options.replyMarkup else [] }

/-- The calls that `sendNotification` makes of the API, where each succeeds. `none` is an error before them. -/
def sendCalls (p : TelegramParams) (found : Option TemplateRecord) : Option (List SendCall) := do
  let { links, .. } ← parseMarkdownLinks p.body
  let message ← telegramMessage R p found
  let text ← messageText R p found
  let options := sendOptions settings p links (message.buttons.map fun b => (b.label, b.urlTemplate))
  let caption := cut TELEGRAM_MAX_CAPTION_LENGTH text
  if truthy p.videoUrl then
    return [.sendVideo p.chatId (p.videoUrl.getD []) caption options]
  else if truthy p.bannerUrl then
    return [.sendPhoto p.chatId (p.bannerUrl.getD []) caption options]
  else
    let chunks ← splitIntoChunks (text.length + 1) text TELEGRAM_MAX_MESSAGE_LENGTH
    return partCalls p options (partTexts chunks)

/-- The caption that a call passes. -/
def SendCall.caption? : SendCall → Option JsString
  | sendVideo _ _ caption _ | sendPhoto _ _ caption _ => some caption
  | sendMessage _ _ _ => none

/-- The text that a call passes. -/
def SendCall.text? : SendCall → Option JsString
  | sendMessage _ text _ => some text
  | _ => none

/-! ## What is sent of a body -/

/-- The parts without their indicators. -/
def withoutIndicators (parts : List JsString) : List JsString :=
  parts.mapIdx fun i part =>
    if parts.length > 1 then part.take (part.length - (indicator (i + 1) parts.length).length) else part

/-- The heading and the rendered body, if nothing were cut. -/
def beginning (params : TextParams) (emoji : JsString) : JsString :=
  joinLines (headLines params emoji ++ [parseMarkdownToTelegramHtml params.body])

/-- The parts contain the whole body in order: what they say begins with the heading and then the body. Line breaks do
not count, as the parts are split there. -/
def ContainsBody (params : TextParams) (emoji : JsString) (parts : List JsString) : Prop :=
  withoutBreaks (parseMarkdownToTelegramHtml params.body) = [] ∨
    withoutBreaks (beginning params emoji) <+: withoutBreaks (withoutIndicators parts).flatten

/-- How much of the beginning is left by the limit of a body. -/
def bodyEnd (params : TextParams) (emoji : JsString) : Nat :=
  let body := parseMarkdownToTelegramHtml params.body
  (beginning params emoji).length - (body.length - if body.length > TELEGRAM_MAX_CAPTION_LENGTH then
    TELEGRAM_MAX_CAPTION_LENGTH - 1 else body.length)

/-- What a further line of a message adds to it. -/
def lineOf (line : JsString) : JsString := if line.isEmpty then [] else js "\n" ++ line

/-- What follows there: an ellipsis where something was cut off, and the footer. -/
def bodyRest (params : TextParams) : JsString :=
  (if (parseMarkdownToTelegramHtml params.body).length > TELEGRAM_MAX_CAPTION_LENGTH then js "…" else []) ++
    (footLines params).flatMap lineOf

/-- Nothing of the body is cut off by one of the two limits, or what is cut off reads, line breaks aside, like what
stands there instead. -/
def BodyFits (params : TextParams) (emoji : JsString) : Prop :=
  let stop := bodyEnd params emoji
  let rest := bodyRest params
  withoutBreaks (parseMarkdownToTelegramHtml params.body) = [] ∨
    if stop + rest.length ≤ TELEGRAM_MAX_MESSAGE_LENGTH then
      withoutBreaks ((beginning params emoji).drop stop) <+: withoutBreaks rest
    else
      let limit := TELEGRAM_MAX_MESSAGE_LENGTH - 1
      withoutBreaks ((beginning params emoji).drop (min stop limit)) <+:
        withoutBreaks (rest.take (limit - stop)) ++ js "…"

end HeraldGateway.TelegramService
