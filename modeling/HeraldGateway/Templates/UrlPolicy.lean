import HeraldGateway.Js
import HeraldGateway.Text.WebUrl

/-!
# The URL policy of templates

`validate` of `url-validator.ts`: which URLs a template may have. The parser of URLs is the platform's.
-/

namespace HeraldGateway.UrlValidator

open Text

def BLOCKED_PROTOCOLS : List JsString :=
  [js "javascript:", js "vbscript:", js "data:", js "mailto:", js "tel:", js "blob:", js "filesystem:"]

def ALLOWED_HOSTS : List JsString :=
  [js "useherald.xyz", js "notify.useherald.xyz", js "cdn.useherald.xyz", js "fonts.googleapis.com",
    js "fonts.gstatic.com", js "ucshdejvxzanuxlxrano.supabase.co"]

/-- `UrlValidationResult` -/
structure UrlValidationResult where
  valid : Bool
  url : Option JsString := none
  error : Option JsString := none
  deriving DecidableEq, Repr

/-- `UrlValidationOptions` -/
structure UrlValidationOptions where
  allowMailto : Bool := false
  allowTel : Bool := false
  allowDataImages : Bool := false
  allowedHosts : Option (List JsString) := none
  deriving DecidableEq, Repr

/-- What the runtime makes of texts and hosts. -/
structure Platform where
  /-- `s.toLowerCase()` -/
  toLowerCase : JsString → JsString
  /-- The host that a parser of URLs makes of a text. -/
  parseHost : JsString → Option JsString
  /-- Only letters of ASCII become letters of these words. -/
  startsWith_toLowerCase : ∀ s, ∀ word ∈ js "http:" :: js "https://" :: js "data:image/" :: BLOCKED_PROTOCOLS,
    word <+: toLowerCase s ↔ word <+: HeraldGateway.toLowerCase s
  /-- A label in lower case is a host. -/
  parseHost_https : parseHost (js "https") = some (js "https")

variable (platform : Platform)

/-- `options?.allowedHosts ?? ALLOWED_HOSTS` -/
def UrlValidationOptions.hosts (options : UrlValidationOptions) : List JsString :=
  options.allowedHosts.getD ALLOWED_HOSTS

/-- `isAllowedHost` -/
def isAllowedHost (options : UrlValidationOptions) (hostname : JsString) : Bool :=
  options.hosts.any fun host => hostname == host || (js "." ++ host).isSuffixOf hostname

/-- `trimmedUrl` -/
def trimmedUrl (url : JsString) : JsString := platform.toLowerCase (trim url)

/-- `blockedProtocols` -/
def blockedProtocols (options : UrlValidationOptions) : List JsString :=
  BLOCKED_PROTOCOLS ++ (if options.allowMailto then [] else [js "mailto:"]) ++
    if options.allowTel then [] else [js "tel:"]

/-- `s.replace(/^\/\//, '')` -/
def withoutSlashes : JsString → JsString
  | 47 :: 47 :: s => s
  | s => s

/-- `new URL(…).hostname` of a URL that begins with a scheme of the web. `none` throws. -/
def parsedHostname (trimmed : JsString) : Option JsString :=
  Url.hostname? platform.parseHost
    (if (js "http:").isPrefixOf trimmed then trimmed else js "https://" ++ withoutSlashes trimmed)

/-- `validate`. A URL that cannot be parsed throws. -/
def validate (url : JsString) (options : UrlValidationOptions) : Option UrlValidationResult :=
  if url.isEmpty then some { valid := false, error := some (js "URL is required") }
  else
    let trimmed := trimmedUrl platform url
    match (blockedProtocols options).find? fun protocol => protocol.isPrefixOf trimmed with
    | some protocol =>
      some { valid := false, error := some (js "Protocol '" ++ protocol ++ js "' is blocked") }
    | none =>
      if (js "data:").isPrefixOf trimmed && !options.allowDataImages then
        some { valid := false, error := some (js "Data URLs are not allowed") }
      else if (js "data:").isPrefixOf trimmed && !(js "data:image/").isPrefixOf trimmed then
        some { valid := false, error := some (js "Only image data URLs are allowed") }
      else if (js "http:").isPrefixOf trimmed || (js "https://").isPrefixOf trimmed then
        (parsedHostname platform trimmed).map fun hostname =>
          if isAllowedHost options hostname then { valid := true, url := some url }
          else { valid := false, error := some (js "Host '" ++ hostname ++ js "' is not in the allowed list") }
      else some { valid := true, url := some url }

/-- Whether `validate` accepts a URL. -/
def accepts (url : JsString) (options : UrlValidationOptions) : Bool := (validate platform url options).any (·.valid)

/-! ## The policy -/

/-- The scheme that a parser finds. -/
def schemeOf (url : JsString) : Option JsString := Url.scheme? (Url.strip url)

/-- A `data:` URL of an image. -/
def isImageData (url : JsString) : Bool :=
  schemeOf url == some (js "data") && (js "data:image/").isPrefixOf (HeraldGateway.toLowerCase (Url.strip url))

/-- A URL of the web is accepted where its host is allowed, and the other kinds where the options allow them. -/
structure Enforced (url : JsString) (options : UrlValidationOptions) : Prop where
  web : ∀ host ∈ Url.webHost? platform.parseHost url, accepts platform url options = isAllowedHost options host
  mailto : schemeOf url = some (js "mailto") → accepts platform url options = options.allowMailto
  tel : schemeOf url = some (js "tel") → accepts platform url options = options.allowTel
  dataImages : isImageData url = true → accepts platform url options = options.allowDataImages

/-- When the policy is enforced on a URL, by how it is spelled behind its white space. -/
structure SpelledWell (url : JsString) (options : UrlValidationOptions) : Prop where
  /-- With `http:` the parser gets the URL in lower case. -/
  http : js "http:" <+: trimmedUrl platform url → ∀ host ∈ Url.webHost? platform.parseHost url,
    (Url.hostname? platform.parseHost (trimmedUrl platform url)).any (isAllowedHost options) = isAllowedHost options host
  /-- With `https://` the parser gets another `https://` before it, so that the host is `https`. -/
  https : js "https://" <+: trimmedUrl platform url → ∀ host ∈ Url.webHost? platform.parseHost url,
    isAllowedHost options (js "https") = isAllowedHost options host
  /-- With neither the host is not looked at. -/
  otherWeb : ¬js "http:" <+: trimmedUrl platform url → ¬js "https://" <+: trimmedUrl platform url →
    ∀ host ∈ Url.webHost? platform.parseHost url, isAllowedHost options host = true
  /-- What is blocked at its beginning is blocked whatever the options say, and what hides that is accepted. -/
  mailto : schemeOf url = some (js "mailto") → (options.allowMailto = true ↔ ¬js "mailto:" <+: trimmedUrl platform url)
  tel : schemeOf url = some (js "tel") → (options.allowTel = true ↔ ¬js "tel:" <+: trimmedUrl platform url)
  dataImages : isImageData url = true → (options.allowDataImages = true ↔ ¬js "data:" <+: trimmedUrl platform url)

end HeraldGateway.UrlValidator
