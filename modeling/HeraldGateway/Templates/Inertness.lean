import HeraldGateway.Templates.Rendering
import HeraldGateway.Text.Html

/-!
# Markup of a body

What a system template shows of a body: its Markdown links become anchors, the rest of it is taken by the
Markdown renderer as it is, embedded HTML included, and the slot of the template does not escape the result.
-/

namespace HeraldGateway

open Text

/-- The `markdown` helper. -/
def markdownHelper (parse : JsString → JsString) (content : JsString) : JsString :=
  if content.isEmpty then [] else parse content

/-- A compiled system template, which has the slot `{{{markdown body}}}` once, outside of its own tags. -/
structure SystemTemplate where
  before : Variables → JsString
  after : Variables → JsString
  opens : ∀ vars, (Html.run .text (before vars)).1 = .text

/-- `compiled(processedVars)` -/
def SystemTemplate.compiled (t : SystemTemplate) (parse : JsString → JsString) (processedVars : Variables) :
    JsString :=
  t.before processedVars ++ markdownHelper parse (processedVars.text "body") ++ t.after processedVars

/-- The HTML of the email, as `render` has it before the styles are inlined. -/
def SystemTemplate.htmlWithVars (t : SystemTemplate) (parse : JsString → JsString)
    (vars : Variables) : JsString :=
  t.compiled parse (processBodyLinks vars)

/-! ### Active markup -/

/-- The name of an attribute that handles events. -/
def isHandler (name : JsString) : Bool := (js "on").isPrefixOf name && name.length > 2

/-- The names of attributes that say where a link leads, or where an image is. -/
def targetNames : List JsString := [js "href", js "xlink:href", js "src", js "background"]

/-- A target has one of the allowed schemes, or none. -/
def allowedTarget (target : JsString) : Bool :=
  match Url.scheme? (Url.strip target) with
  | none => true
  | some scheme => [js "http", js "https", js "mailto"].contains scheme

/-- A script, a tag that handles events, or one whose target has another scheme. -/
def isActive (decode : JsString → JsString) (tag : Html.Tag) : Bool :=
  tag.name == js "script" || tag.attrs.any fun (name, value) =>
    isHandler name || targetNames.contains name && !allowedTarget (decode value)

/-- The active tags of HTML that begin in a part of it, where `rest` follows the part. -/
def activeTags (decode : JsString → JsString) (part rest : JsString) : List Html.Tag :=
  (Html.begun part rest).filter (isActive decode)

/-- The Markdown renderer passes the active tags of a text through, and adds none. -/
def PassesThrough (decode parse : JsString → JsString) (rest text : JsString) : Prop :=
  activeTags decode (parse text) rest = activeTags decode text rest

instance (decode parse : JsString → JsString) (rest text : JsString) :
    Decidable (PassesThrough decode parse rest text) := by
  unfold PassesThrough; infer_instance

/-- No active tag of the email begins in the slot of the body. -/
def Inert (t : SystemTemplate) (decode parse : JsString → JsString) (vars : Variables) : Prop :=
  let processedVars := processBodyLinks vars
  activeTags decode (markdownHelper parse (processedVars.text "body")) (t.after processedVars) = []

instance (t : SystemTemplate) (decode parse : JsString → JsString) (vars : Variables) :
    Decidable (Inert t decode parse vars) := by
  unfold Inert; infer_instance

/-! ### Bodies -/

/-- A body in pieces: its Markdown links, and single signs of its text. -/
inductive BodyPiece where
  | unit (u : UInt16)
  | link (label url : JsString)
  deriving DecidableEq, Repr

/-- The pieces of a body, with the links that `parseMarkdownLinks` finds, where `skip` code units of a link
are left. -/
def bodyPieces : Nat → JsString → List BodyPiece
  | _, [] => []
  | skip + 1, _ :: s => bodyPieces skip s
  | 0, a :: s =>
    match linkAt? (a :: s) with
    | some (label, url) => .link label url :: bodyPieces (label.length + url.length + 3) s
    | none => .unit a :: bodyPieces 0 s

/-- What `convertLinksToHtml` makes of a piece. -/
def BodyPiece.html : BodyPiece → JsString
  | unit u => [u]
  | link label url => renderHtmlElement label url

/-- What a body embeds besides the links of its text, given where the reader stands. A link inside of a tag or
a comment is part of it, as the signs of its anchor. -/
def embeddedFrom : Html.State → List BodyPiece → JsString
  | _, [] => []
  | st, .unit u :: ps => u :: embeddedFrom (Html.step st u).1 ps
  | st, .link label url :: ps =>
    if st = .text then embeddedFrom st ps
    else renderHtmlElement label url ++ embeddedFrom (Html.run st (renderHtmlElement label url)).1 ps

/-- The targets of the links of a text, given where the reader stands. -/
def targetsFrom : Html.State → List BodyPiece → List JsString
  | _, [] => []
  | st, .unit u :: ps => targetsFrom (Html.step st u).1 ps
  | st, .link label url :: ps =>
    if st = .text then url :: targetsFrom st ps
    else targetsFrom (Html.run st (renderHtmlElement label url)).1 ps

/-- The links in the text of a body have allowed targets, and what it embeds besides is not active. -/
structure InertBody (decode : JsString → JsString) (rest body : JsString) : Prop where
  targets : ∀ url ∈ targetsFrom .text (bodyPieces 0 body), allowedTarget url = true
  embedded : activeTags decode (embeddedFrom .text (bodyPieces 0 body)) rest = []

end HeraldGateway
