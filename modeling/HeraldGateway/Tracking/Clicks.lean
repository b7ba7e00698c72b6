import HeraldGateway.Js
import HeraldGateway.Text.Encodings
import HeraldGateway.Text.Uri

/-!
# Tracking

Links of emails are replaced by links to the gateway, whose endpoints record engagements and redirect.
-/

namespace HeraldGateway

open Text

/-!
## Click tracking

`deliverEmail` replaces the links of an email by links to the gateway that carry the link in a parameter, and
`trackClick` of `analytics.controller.ts` redirects to what it carries. The replacement works on the text of
the email, while a mail client opens what the text of an attribute stands for.
-/

section

/-! ### Emails -/

/-- A piece of an email: a code unit, or an attribute `href` with a URL that is tracked. -/
inductive Piece where
  | unit (u : UInt16)
  | href (url : JsString)
  deriving DecidableEq, Repr

/-- What comes after the scheme `http` or `https`. -/
def afterScheme? (url : JsString) : Option JsString :=
  if (js "https://").isPrefixOf url then some (url.drop 8)
  else if (js "http://").isPrefixOf url then some (url.drop 7)
  else none

/-- The URL of the attribute that begins here: `/href="(https?:\/\/(?!notify\.useherald\.xyz)[^"]+)"/`. -/
def hrefAt? (s : JsString) : Option JsString :=
  if (js "href=\"").isPrefixOf s && (s.drop 6).contains 34 then
    let url := (s.drop 6).takeWhile (· ≠ 34)
    match afterScheme? url with
    | some host => if host.isEmpty || (js "notify.useherald.xyz").isPrefixOf host then none else some url
    | none => none
  else none

/-- The pieces of an email, where `skip` code units of an attribute are left. -/
def pieces : Nat → JsString → List Piece
  | _, [] => []
  | skip + 1, _ :: s => pieces skip s
  | 0, a :: s =>
    match hrefAt? (a :: s) with
    | some url => .href url :: pieces (url.length + 6) s
    | none => .unit a :: pieces 0 s

/-- A piece as it was. -/
def Piece.original : Piece → JsString
  | unit u => [u]
  | href url => js "href=\"" ++ url ++ js "\""

/-- A code unit that is visible in ASCII and is no ampersand. -/
def isVisible (u : UInt16) : Bool := 32 < u && u < 127 && u != 38

/-- `GATEWAY_PUBLIC_URL`: a URL in ASCII without query and fragment. -/
structure PublicUrl where
  url : JsString
  plain : ∀ u ∈ url, isVisible u = true ∧ u ≠ 35 ∧ u ≠ 63

/-- The link that carries a URL. -/
def trackedUrl (base : PublicUrl) (notificationId protocolId url : JsString) : JsString :=
  base.url ++ js "/v1/track/click/" ++ Uri.encodeComponent notificationId ++ js "?p=" ++
    Uri.encodeComponent protocolId ++ js "&url=" ++ Base64url.encode (Utf8.encode url)

/-- A piece as it is sent. -/
def Piece.tracked (base : PublicUrl) (notificationId protocolId : JsString) : Piece → JsString
  | unit u => [u]
  | href url => js "href=\"" ++ trackedUrl base notificationId protocolId url ++ js "\""

/-- The replacement of the links of an email. -/
def trackLinks (base : PublicUrl) (notificationId protocolId html : JsString) : JsString :=
  (pieces 0 html).flatMap (·.tracked base notificationId protocolId)

/-! ### The endpoint -/

/-- A request to the endpoint. -/
structure ClickRequest where
  notificationId : JsString
  protocolId : Option JsString
  url : Option JsString
  deriving DecidableEq, Repr

/-- The value of a parameter that a query has at most once. -/
def queryValue (name query : JsString) : Option JsString :=
  (((splitOn 38 query).map Uri.parameter).find? (·.1 == name)).map (·.2)

/-- The request for a URL, if the route is that of the endpoint. -/
def clickRequest? (base : PublicUrl) (target : JsString) : Option ClickRequest :=
  let route := base.url ++ js "/v1/track/click/"
  if route.isPrefixOf target then
    let rest := (target.drop route.length).takeWhile (· ≠ 35)
    let id := rest.takeWhile (· ≠ 63)
    let query := (rest.dropWhile (· ≠ 63)).drop 1
    if id.isEmpty || id.contains 47 then none
    else (Uri.decodeSegment? id).map (⟨·, queryValue (js "p") query, queryValue (js "url") query⟩)
  else none

/-- An engagement that is recorded. -/
structure Engagement where
  notificationId : JsString
  protocolId : JsString
  destination : JsString
  deriving DecidableEq, Repr

/-- `trackClick`: what it records, and where it redirects to. What bytes become that are no text is up to the
runtime. -/
def trackClick (replaceInvalid : List UInt8 → JsString) (r : ClickRequest) : Option Engagement × JsString :=
  let destination := match r.url with
    | some encodedUrl =>
      let b := Base64url.decode encodedUrl
      (Utf8.decode? b).getD (replaceInvalid b)
    | none => js "https://useherald.xyz"
  (if truthy (some r.notificationId) && truthy r.protocolId then
      some ⟨r.notificationId, r.protocolId.getD [], destination⟩
    else none, destination)

/-! ### Clients -/

/-- A mail client: the value of an attribute that is written as some text. An ampersand which begins no
character reference stands for itself. -/
structure MailClient where
  reads : JsString → JsString
  reads_query : ∀ s t, (∀ u ∈ s ++ t, isVisible u = true) →
    reads (s ++ js "&url=" ++ t) = s ++ js "&url=" ++ t

variable (client : MailClient) (base : PublicUrl) (replaceInvalid : List UInt8 → JsString)

/-- The URL that a client opens for an attribute of an email, which is sent as UTF-8. -/
def MailClient.opens (written : JsString) : JsString := client.reads (Utf8.wellFormed written)

/-- Where a client is led that opens a tracked link. -/
def MailClient.follow (written : JsString) : Option JsString :=
  (clickRequest? base (client.opens written)).map fun r => (trackClick replaceInvalid r).2

/-- Every link that is replaced leads to the URL that the client would have opened. -/
def ClicksTransparent (notificationId protocolId html : JsString) : Prop :=
  ∀ url, .href url ∈ pieces 0 html →
    client.follow base replaceInvalid (trackedUrl base notificationId protocolId url) =
      some (client.opens url)

end

/-!
## The tracking endpoints

Public endpoints of `analytics.controller.ts` and `telegram-webhook.controller.ts` record engagements with
notifications and redirect to links. Anybody may call them with any parameters; a parameter arrives as a text,
or is missing.
-/

/-- A request to a tracking endpoint. -/
inductive TrackingRequest where
  | pixel (notificationId : JsString) (protocolId : Option JsString)
  | click (r : ClickRequest)
  | telegramClick (notifId : JsString) (url : Option JsString)
  deriving DecidableEq, Repr

/-- What the runtime makes of texts. -/
structure WebRuntime where
  /-- The text of bytes that are none. -/
  replaceInvalid : List UInt8 → JsString
  /-- Whether a text that has a scheme is a URL. -/
  isUrl : JsString → Bool
  /-- How a URL is written in the header of a redirect. -/
  encodeUrl : JsString → JsString
  /-- Escapes are no part of a scheme. -/
  encodeUrl_scheme : ∀ s, Url.scheme? (encodeUrl s) = Url.scheme? s

/-- `new URL(s).protocol`, without the colon, unless it throws. -/
def WebRuntime.protocol? (rt : WebRuntime) (s : JsString) : Option JsString :=
  if rt.isUrl s then Url.scheme? (Url.strip s) else none

/-- `Buffer.from(s, 'base64url').toString('utf8')` -/
def WebRuntime.textOf (rt : WebRuntime) (encoded : JsString) : JsString :=
  (Utf8.decode? (Base64url.decode encoded)).getD (rt.replaceInvalid (Base64url.decode encoded))

/-- What the database knows of notifications and protocols. -/
structure Directory where
  /-- The identifier that a text is taken for. -/
  uuid? : JsString → Option JsString
  /-- The protocol of a notification. -/
  owner? : JsString → Option JsString
  /-- Whether there is a protocol. -/
  hasProtocol : JsString → Bool

/-- A row of `notification_engagements`. -/
structure EngagementRow where
  notificationId : JsString
  protocolId : JsString
  eventType : JsString
  linkUrl : Option JsString
  deriving DecidableEq, Repr

/-- What a request is answered: where it is redirected to, and the row that was inserted for it. -/
structure TrackingAnswer where
  location : Option JsString
  recorded : Option EngagementRow
  deriving DecidableEq, Repr

/-- `notificationEngagement.create`: the row refers to a notification and to a protocol. Whether the database
is there and takes its columns is decided by `taken`. -/
def Directory.create (dir : Directory) (taken : Bool) (notificationId protocolId eventType : JsString)
    (linkUrl : Option JsString) : Option EngagementRow :=
  match dir.uuid? notificationId, dir.uuid? protocolId with
  | some n, some p =>
    if taken && (dir.owner? n).isSome && dir.hasProtocol p then some ⟨n, p, eventType, linkUrl⟩ else none
  | _, _ => none

/-- `recordClickAsync` -/
def Directory.recordClick (dir : Directory) (taken : Bool) (notifId : JsString) : Option EngagementRow :=
  match dir.uuid? notifId with
  | some n =>
    match dir.owner? n with
    | some owner => if taken then some ⟨n, owner, js "tg_click", none⟩ else none
    | none => none
  | none => none

/-- `trackClick` of the Telegram controller: where it redirects to. -/
def WebRuntime.telegramDestination (rt : WebRuntime) (url : Option JsString) : JsString :=
  if truthy url then
    let destination := rt.textOf (url.getD [])
    match rt.protocol? destination with
    | some protocol =>
      if protocol ≠ js "http" ∧ protocol ≠ js "https" then js "https://useherald.xyz" else destination
    | none => js "https://useherald.xyz"
  else js "https://useherald.xyz"

/-- What the endpoints answer. -/
def trackingAnswer (rt : WebRuntime) (dir : Directory) (taken : Bool) : TrackingRequest → TrackingAnswer
  | .pixel notificationId protocolId =>
    { location := none
      recorded := if truthy (some notificationId) && truthy protocolId then
          dir.create taken notificationId (protocolId.getD []) (js "open") none
        else none }
  | .click r =>
    let (engagement, destination) := trackClick rt.replaceInvalid r
    { location := some (rt.encodeUrl destination)
      recorded := engagement.bind fun e =>
        dir.create taken e.notificationId e.protocolId (js "click") (some e.destination) }
  | .telegramClick notifId url =>
    { location := some (rt.encodeUrl (rt.telegramDestination url))
      recorded := dir.recordClick taken notifId }

/-- The scheme is one of the web. -/
def IsWebScheme (scheme : JsString) : Prop := scheme = js "http" ∨ scheme = js "https"

instance (scheme : JsString) : Decidable (IsWebScheme scheme) := by unfold IsWebScheme; infer_instance

/-- A client is led to a URL with a scheme of the web, that of the location or, where it has none, that of the
gateway, and what was recorded is filed under the protocol of its notification. -/
structure TrackingAnswer.Safe (dir : Directory) (a : TrackingAnswer) : Prop where
  redirect : ∀ location ∈ a.location, ∀ scheme ∈ Url.scheme? location, IsWebScheme scheme
  filed : ∀ row ∈ a.recorded, dir.owner? row.notificationId = some row.protocolId

/-- A protocol that a request names is the owner of the notification that it names, if there are both. -/
def NamesOwner (dir : Directory) (notificationId : JsString) (protocolId : Option JsString) : Prop :=
  truthy (some notificationId) = true → truthy protocolId = true → ∀ n ∈ dir.uuid? notificationId,
    ∀ owner ∈ dir.owner? n, ∀ p ∈ dir.uuid? (protocolId.getD []), dir.hasProtocol p = true → p = owner

/-- A request that is answered safely. -/
def TrackingRequest.Harmless (rt : WebRuntime) (dir : Directory) (taken : Bool) : TrackingRequest → Prop
  | pixel notificationId protocolId => taken = true → NamesOwner dir notificationId protocolId
  | click r => (∀ encoded ∈ r.url, ∀ scheme ∈ Url.scheme? (rt.textOf encoded), IsWebScheme scheme) ∧
      (taken = true → NamesOwner dir r.notificationId r.protocolId)
  | telegramClick .. => True

end HeraldGateway
