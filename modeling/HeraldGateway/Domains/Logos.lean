import HeraldGateway.Templates.Inertness
import HeraldGateway.Text.Encodings
import HeraldGateway.Text.Xml

/-!
# The logo of a domain

`validateLogo` of `bimi.service.ts` searches the text of an SVG document for what BIMI forbids in it.
-/

namespace HeraldGateway

open Text

/-! ### The search -/

/-- What `/mark="([^"]+)"/` captures first, where the mark ends with the quote. -/
def quotedBehind? (mark : JsString) : JsString → Option JsString
  | [] => none
  | a :: s =>
    let rest := (a :: s).drop mark.length
    let run := rest.takeWhile (· != 34)
    if mark.isPrefixOf (a :: s) && !run.isEmpty && rest.contains 34 then some run else quotedBehind? mark s

/-- `(sizeBytes / 1024).toFixed(2)` -/
def kilobytes (sizeBytes : Nat) : JsString :=
  let hundredths := (sizeBytes * 200 + 1024) / 2048
  decimal (hundredths / 100) ++ js "." ++ decimal (hundredths % 100 / 10) ++ decimal (hundredths % 10)

/-- What `validateLogo` returns. -/
structure LogoValidation where
  valid : Bool
  errors : List JsString
  /-- The size in bytes, and the profile. -/
  details : Option (Nat × Option JsString)
  deriving DecidableEq, Repr

/-- `Buffer.byteLength` -/
def byteLength (body : JsString) : Nat := (Utf8.encode body).length

/-- The errors of a document. -/
def logoErrors (body : JsString) : List JsString :=
  (if byteLength body > 32 * 1024 then
      [js "Logo size is too large (" ++ kilobytes (byteLength body) ++ js " KB). Max 32 KB allowed."] else []) ++
    (if !includes (js "<svg") (toLowerCase body) then [js "File is not a valid SVG image."] else []) ++
    (if includes (js "<script") body || includes (js "on") body then
      [js "SVG contains scripts or event handlers, which are forbidden for BIMI."] else []) ++
    (if includes (js "<foreignObject") body then
      [js "SVG contains foreignObject tag, which is forbidden for BIMI."] else []) ++
    (if includes (js "<image") body || includes (js "xlink:href") body then
      [js "SVG contains external references or embedded bitmap images, which are forbidden for BIMI."] else [])

/-- `validateLogo`, on what the request for the logo gives: its text, or the message of an error. -/
def validateLogo (response : Except JsString JsString) : LogoValidation :=
  match response with
  | .ok body =>
    { valid := (logoErrors body).length == 0
      errors := logoErrors body
      details := some (byteLength body, quotedBehind? (js "baseProfile=\"") body) }
  | .error message =>
    { valid := false
      errors := [js "Could not reach logo URL: " ++ message]
      details := none }

/-! ### The rules -/

/-- Elements that are forbidden, in lower case. -/
def forbiddenElements : List JsString := [js "script", js "foreignobject", js "image"]

/-- A functional reference leads out of the document. -/
def refersOut : JsString → Bool
  | [] => false
  | a :: s =>
    ((js "url(").isPrefixOf (toLowerCase (a :: s)) &&
      ((a :: s).drop 4).find? (fun u => !(isSpace u || u == 34 || u == 39)) != some 35) || refersOut s

/-- An attribute refers to something outside of the document. -/
def isExternal (decode : JsString → JsString) (name value : JsString) : Bool :=
  [js "href", js "src"].contains (toLowerCase (Xml.localName name)) &&
      !(trim (decode value)).isEmpty && (trim (decode value)).head? != some 35 ||
    refersOut (decode value)

/-- A tag is a forbidden element, handles events or refers to something outside, in any letter case. `decode`
gives what the character references of a value stand for. -/
def isForbiddenTag (decode : JsString → JsString) (tag : Xml.Tag) : Bool :=
  forbiddenElements.contains (toLowerCase (Xml.localName tag.name)) ||
    tag.attrs.any fun (name, value) => isHandler (toLowerCase name) || isExternal decode name value

/-- An SVG document of at most 32 KB. -/
structure SvgDocument where
  text : JsString
  svg : (Xml.tags text).head?.any (fun root => toLowerCase (Xml.localName root.name) = js "svg") = true
  small : byteLength text ≤ 32 * 1024

/-- Nothing in a document is forbidden. -/
def SvgDocument.Harmless (doc : SvgDocument) (decode : JsString → JsString) : Prop :=
  ∀ tag ∈ Xml.tags doc.text, isForbiddenTag decode tag = false

/-- A document is valid exactly if nothing in it is forbidden. -/
def JudgedRight (doc : SvgDocument) (decode : JsString → JsString) : Prop :=
  (validateLogo (.ok doc.text)).valid = true ↔ doc.Harmless decode

/-! ### Where the search is right -/

/-- The texts that are searched for. -/
def soughtTexts : List JsString := [js "<script", js "on", js "<foreignObject", js "<image", js "xlink:href"]

/-- A tag is spelled with one of these texts: its name begins like the sought ones do, or one of its
attributes is named with the others. -/
def isSought (tag : Xml.Tag) : Bool :=
  [js "script", js "foreignObject", js "image"].any (·.isPrefixOf tag.name) ||
    tag.attrs.any fun a => includes (js "on") a.1 || includes (js "xlink:href") a.1

/-- The search meets what is forbidden, and nothing else. -/
structure SearchAgrees (doc : SvgDocument) (decode : JsString → JsString) : Prop where
  /-- A harmless document has its root without a prefix and none of the texts in it, wherever that be. -/
  quiet : doc.Harmless decode →
    includes (js "<svg") (toLowerCase doc.text) = true ∧ ∀ t ∈ soughtTexts, includes t doc.text = false
  /-- In another one a tag is spelled as it is sought, or a text stands elsewhere, or the root has a
  prefix. -/
  spelled : ¬ doc.Harmless decode →
    (∃ tag ∈ Xml.tags doc.text, isSought tag = true) ∨ (∃ t ∈ soughtTexts, includes t doc.text = true) ∨
      includes (js "<svg") (toLowerCase doc.text) = false

end HeraldGateway
