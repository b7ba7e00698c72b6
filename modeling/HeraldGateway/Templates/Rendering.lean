import HeraldGateway.Js
import HeraldGateway.Templates.Compiled
import HeraldGateway.Templates.Footer
import HeraldGateway.World

/-!
# Links and rendering

The links of a body are parsed, and a template is rendered with its variables.
-/

namespace HeraldGateway

/-!
## Markdown links

`link-parser.ts`: the Markdown links of a body become anchors of HTML, with images shown.
-/

/-- `escapeHtml` -/
def escapeHtml (text : JsString) : JsString :=
  text.flatMap fun u =>
    if u = 38 then js "&amp;"
    else if u = 60 then js "&lt;"
    else if u = 62 then js "&gt;"
    else if u = 34 then js "&quot;"
    else if u = 39 then js "&#039;"
    else [u]

inductive LinkType where
  | image
  | video
  | url
  deriving DecidableEq, Repr

/-- Whether one of the extensions stands at the end of a path somewhere in the text. -/
def hasExtension (extensions : List JsString) : JsString → Bool
  | [] => false
  | a :: s =>
    (a == 46 && extensions.any fun ext =>
      ext.isPrefixOf s && match s.drop ext.length with
        | [] => true
        | b :: _ => b == 63 || b == 35) || hasExtension extensions s

/-- Leave a prefix out, if it is there. -/
def skipPrefix (pre s : JsString) : JsString := if pre.isPrefixOf s then s.drop pre.length else s

/-- `(https?:\/\/)?` -/
def skipScheme (s : JsString) : JsString :=
  if (js "https://").isPrefixOf s then s.drop 8 else skipPrefix (js "http://") s

/-- `detectLinkType` -/
def detectLinkType (url : JsString) : LinkType :=
  let lowerUrl := toLowerCase url
  if hasExtension [js "jpg", js "jpeg", js "png", js "gif", js "webp", js "svg", js "ico", js "bmp"] lowerUrl ||
      (js "imgur.com").isPrefixOf (skipPrefix (js "i.") (skipScheme lowerUrl)) ||
      [js "cdn.dialect.so", js "images.unsplash.com", js "media.giphy.com"].any (includes · lowerUrl) then .image
  else if hasExtension [js "mp4", js "webm", js "mov", js "avi", js "mkv", js "flv"] lowerUrl ||
      (js "youtube.com").isPrefixOf (skipPrefix (js "player.") (skipScheme lowerUrl)) ||
      [js "cdn.dialect.so", js "v.imeo.com", js "media.giphy.com"].any (includes · lowerUrl) then .video
  else .url

/-- The label and the URL of a link that begins here: `\[([^\]]+)\]\(([^)]+)\)`. -/
def linkAt? : JsString → Option (JsString × JsString)
  | 91 :: s =>
    let label := s.takeWhile (· != 93)
    match s.dropWhile (· != 93) with
    | 93 :: 40 :: s =>
      let url := s.takeWhile (· != 41)
      if label.isEmpty || url.isEmpty || !s.contains 41 then none else some (label, url)
    | _ => none
  | _ => none

/-- `renderHtmlElement` -/
def renderHtmlElement (label url : JsString) : JsString :=
  let safeUrl := escapeHtml url
  let safeLabel := escapeHtml label
  match detectLinkType url with
  | .image =>
    js "<a href=\"" ++ safeUrl ++ js "\"><img src=\"" ++ safeUrl ++ js "\" alt=\"" ++ safeLabel ++
      js "\" style=\"max-width:100%;height:auto;\" /></a>"
  | .video | .url => js "<a href=\"" ++ safeUrl ++ js "\">" ++ safeLabel ++ js "</a>"

/-- `convertLinksToHtml` with the links that `parseMarkdownLinks` finds, where `skip` code units of a link are
left. -/
def convertLinks : Nat → JsString → JsString
  | _, [] => []
  | skip + 1, _ :: s => convertLinks skip s
  | 0, a :: s =>
    match linkAt? (a :: s) with
    | some (label, url) => renderHtmlElement label url ++ convertLinks (label.length + url.length + 3) s
    | none => a :: convertLinks 0 s

/-!
## Rendering

`TemplateService.render`: the template is chosen, compiled, applied to the variables and finished. What is not
the repository's own (Handlebars, Juice, the files of the system templates) is the rendering environment.
-/

/-- What rendering uses that is not part of the program. `none` is an exception. -/
structure RenderEnv where
  /-- `Handlebars.compile` -/
  compile : JsString → Variables → Option JsString
  /-- `juice` -/
  juice : JsString → Option JsString
  /-- `templates/<name>/index.hbs` -/
  systemFile : JsString → Option JsString

/-- A row of `notification_templates`, with what rendering and review read. -/
structure TemplateRow where
  id : JsString
  protocolId : JsString
  category : JsString
  htmlSource : Option JsString
  textSource : Option JsString := none
  previewText : Option JsString := none
  status : TemplateStatus := .draft
  isActive : Bool := true
  isDefault : Bool := false
  deriving DecidableEq, Repr

/-! ### Loading -/

/-- `loadCustomTemplate` of the template service, where `none` is a database that fails. -/
def loadCustomEmailTemplate (rows : Option (List TemplateRow)) (templateId protocolId : JsString) :
    Option TemplateRow :=
  ((rows.getD []).find? fun t => t.id == templateId && t.protocolId == protocolId && t.isActive).filter
    fun t => truthy t.htmlSource

/-- `loadProtocolDefaultTemplate` -/
def loadProtocolDefaultTemplate (rows : Option (List TemplateRow)) (protocolId category : JsString) :
    Option TemplateRow :=
  ((rows.getD []).find? fun t =>
    t.protocolId == protocolId && t.category == category && t.isDefault && t.isActive).filter
    fun t => truthy t.htmlSource

/-- `getMinimalFallbackTemplate` -/
def minimalFallbackTemplate : JsString := join (js "\n") [
  [],
  js ("      <html><body style=\"font-family:Arial,sans-serif;background:#040C18;color:#F0F6FF;" ++
    "padding:32px;\">"),
  js "        <h2 style=\"color:#00C896;\">\x7b\x7bprotocolName\x7d\x7d</h2>",
  js "        <h3>\x7b\x7bsubject\x7d\x7d</h3>",
  js "        <p>\x7b\x7bbody\x7d\x7d</p>",
  js "      </body></html>"]

/-- `loadSystemTemplate` -/
def loadSystemTemplate (env : RenderEnv) (name : JsString) : JsString :=
  (env.systemFile name <|> env.systemFile (js "defi-alert")).getD minimalFallbackTemplate

/-! ### Choice -/

/-- `RenderParams` -/
structure RenderParams where
  template : JsString
  vars : Variables
  protocolId : Option JsString := none
  templateId : Option JsString := none
  tier : Nat := 0
  deriving DecidableEq, Repr

/-- The template of the protocol that is rendered, if one is: the one that is named, else the default. The
rows are those that the two queries see. -/
def customTemplate (named defaults : Option (List TemplateRow)) (params : RenderParams) :
    Option TemplateRow :=
  if truthy params.protocolId then
    let protocolId := params.protocolId.getD []
    (if truthy params.templateId then loadCustomEmailTemplate named (params.templateId.getD []) protocolId
      else none) <|>
      loadProtocolDefaultTemplate defaults protocolId params.template
  else none

/-- The length of a tag `<Unsubscribe\s*\/?>` that begins here. -/
def unsubscribeTag? (s : JsString) : Option Nat :=
  if toLowerCase (s.take 12) = js "<unsubscribe" then
    let spaces := ((s.drop 12).takeWhile isSpace).length
    match s.drop (12 + spaces) with
    | 62 :: _ => some (spaces + 13)
    | 47 :: 62 :: _ => some (spaces + 14)
    | _ => none
  else none

/-- The anchor that the tag stands for. -/
def unsubscribeAnchor : JsString :=
  js ("<a href=\"\x7b\x7bunsubscribeUrl\x7d\x7d\" style=\"color:#64748B;text-decoration:none;\">" ++
    "Unsubscribe</a>")

/-- Put anchors in the place of the tags, where `skip` code units of a tag are left. -/
def replaceUnsubscribeTags : Nat → JsString → JsString
  | _, [] => []
  | skip + 1, _ :: s => replaceUnsubscribeTags skip s
  | 0, a :: s =>
    match unsubscribeTag? (a :: s) with
    | some n => unsubscribeAnchor ++ replaceUnsubscribeTags (n - 1) s
    | none => a :: replaceUnsubscribeTags 0 s

/-- `processBodyLinks` -/
def processBodyLinks (vars : Variables) : Variables :=
  vars.map fun v => if v.1 = js "body" then (v.1, convertLinks 0 v.2) else v

/-! ### The email -/

/-- `RenderedEmail` -/
structure RenderedEmail where
  html : JsString
  text : JsString
  subject : JsString
  deriving DecidableEq, Repr

/-- The cache of the template service. -/
abbrev TemplateCache := List (JsString × (Variables → Option JsString))

/-- `(variables.name as string) || fallback` -/
def Variables.textOr (vars : Variables) (name fallback : String) : JsString :=
  let text := vars.text name
  if text.isEmpty then js fallback else text

/-- `renderPlainTextFallback` -/
def renderPlainTextFallback (vars : Variables) : JsString :=
  let rule : JsString := List.replicate 40 0x2500
  join (js "\n") [
    vars.textOr "protocolName" "Herald" ++ js " — " ++ vars.textOr "subject" "Notification",
    [],
    rule,
    [],
    vars.text "body",
    [],
    rule,
    [],
    js "Unsubscribe: " ++ (vars.lookup (js "unsubscribeUrl")).getD (js "undefined"),
    js "Delivered by Herald | https://useherald.xyz"]

/-- The preview text of an email. -/
def previewTextValue (row : Option TemplateRow) (vars : Variables) : JsString :=
  let stored := (row.bind (·.previewText)).getD []
  if stored.isEmpty then vars.text "previewText" else stored

/-- The HTML of an email before its footer. -/
def htmlWithPreheader (env : RenderEnv) (compiled : Variables → Option JsString) (row : Option TemplateRow)
    (vars : Variables) : Option JsString := do
  let htmlWithVars ← compiled (processBodyLinks vars)
  let inlinedHtml ← env.juice htmlWithVars
  return injectPreheader inlinedHtml (previewTextValue row vars)

/-- The plain text of an email. -/
def plainText (env : RenderEnv) (row : Option TemplateRow) (vars : Variables) : Option JsString :=
  match row.bind (·.textSource) with
  | some (a :: textSource) => env.compile (a :: textSource) (processBodyLinks vars)
  | _ => some (renderPlainTextFallback vars)

/-- The source that is compiled. -/
def hbsSource (env : RenderEnv) (row : Option TemplateRow) (template : JsString) : JsString :=
  replaceUnsubscribeTags 0 ((row.bind (·.htmlSource)).getD (loadSystemTemplate env template))

/-- `render`, on the cache of compiled templates. -/
def render (env : RenderEnv) (cache : TemplateCache) (named defaults : Option (List TemplateRow))
    (params : RenderParams) : TemplateCache × Option RenderedEmail :=
  let row := customTemplate named defaults params
  let (cache, compiled) := getCompiledTemplate env.compile cache (hbsSource env row params.template)
  let footerKey := row.map fun _ => tierToFooterKey params.tier
  (cache, do
    let html ← htmlWithPreheader env compiled row params.vars
    let text ← plainText env row params.vars
    return {
      html := injectHeraldFooter html params.vars footerKey
      text := text
      subject := params.vars.textOr "subject" "Notification from Herald" })

/-! ### The footer of an email -/

/-- The HTML has the footer of the tier, with a link to unsubscribe. -/
structure HasFooter (html : JsString) (params : RenderParams) : Prop where
  link : params.vars.text "unsubscribeUrl" ≠ []
  footer : includes (footerHtml params.vars (tierToFooterKey params.tier)) html = true

/-- HTML that is taken to have no footer, and into which the footer can be put as it is: no value that it
shows has a `$` pattern, where the end of a body is replaced. -/
structure KeepsFooter (html : JsString) (vars : Variables) (key : FooterKey) : Prop where
  brand : includes footerBrand html = false
  sentinel : includes hrlSentinel html = false
  plain : includes bodyEnd html = true → ∀ v ∈ footerValues vars key, Text.hasPattern v = false

end HeraldGateway
