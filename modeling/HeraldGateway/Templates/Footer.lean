import HeraldGateway.Js
import HeraldGateway.Text.Patterns

/-!
# The Herald footer

How `template.service.ts` finishes the HTML of a protocol's template: a preheader for the preview text, and
the footer of the protocol's tier, which is put before the end of the body.
-/

namespace HeraldGateway

open Text

/-- The variables of a template that have a text. -/
abbrev Variables := List (JsString × JsString)

/-- `(variables.name as string) || ''` -/
def Variables.text (vars : Variables) (name : String) : JsString := (vars.lookup (js name)).getD []

/-! ### Preheader -/

/-- `html.replace(/<body[^>]*>/, (tag) => tag + span)` -/
def insertAfterBodyTag (span html : JsString) : JsString :=
  match split? (js "<body") html with
  | none => html
  | some (before, rest) =>
    if rest.contains 62 then
      before ++ js "<body" ++ rest.takeWhile (· != 62) ++ js ">" ++ span ++ (rest.dropWhile (· != 62)).tail
    else html

/-- The preview text as text of HTML. -/
def escapePreview (previewText : JsString) : JsString :=
  previewText.flatMap fun u =>
    if u = 38 then js "&amp;" else if u = 60 then js "&lt;" else if u = 62 then js "&gt;" else [u]

/-- `injectPreheader` -/
def injectPreheader (html previewText : JsString) : JsString :=
  if previewText.isEmpty || includes (js "class=\"preheader\"") html then html
  else
    let span :=
      js "<span class=\"preheader\" style=\"display:none;visibility:hidden;opacity:0;height:0;" ++
      js "max-height:0;overflow:hidden;font-size:1px;line-height:1px;color:transparent;mso-hide:all;\">" ++
        escapePreview previewText ++ js "</span>"
    if includes (js "<body") html then insertAfterBodyTag span html else span ++ html

/-! ### Footers -/

/-- The footers there are. -/
inductive FooterKey where
  | full
  | small
  | minimal
  | enterprise
  | none
  deriving DecidableEq, Repr

/-- `tierToFooterKey` -/
def tierToFooterKey : Nat → FooterKey
  | 0 => .full
  | 1 => .small
  | 2 => .minimal
  | 3 => .enterprise
  | _ => .none

/-- The rules of the footer, line by line. -/
def footerRules : List JsString := [
  js "  /* Herald Protocol footer — do not modify. Classes are scoped with hrl- prefix. */",
  js "  @import " ++
    js "url('https://fonts.googleapis.com/css2?family=Syne:wght@700&family=Plus+Jakarta+Sans:wght@400;" ++
    js "600&family=JetBrains+Mono:wght@400;500&display=swap');",
  js "  .hrl-footer        \x7b padding:28px 8px 8px !important; font-family:'Plus Jakarta Sans'," ++
    js "-apple-system,BlinkMacSystemFont,'Segoe UI',Helvetica,Arial,sans-serif !important; \x7d",
  js "  .hrl-meta          \x7b font-size:12.5px !important; line-height:1.65 !important; " ++
    js "color:#64748B !important; margin:0 !important; \x7d",
  js "  .hrl-delivered-lbl \x7b display:block !important; font-size:11px !important; " ++
    js "text-transform:uppercase !important; letter-spacing:0.12em !important; font-weight:600 " ++
    js "!important; color:#64748B !important; margin-bottom:6px !important; \x7d",
  js "  .hrl-wallet        \x7b font-family:'JetBrains Mono',ui-monospace,'SF Mono',Menlo,monospace " ++
    js "!important; font-size:12px !important; color:#475569 !important; word-break:break-all " ++
    js "!important; \x7d",
  js "  .hrl-divider       \x7b height:1px !important; background:#E2E8F0 !important; margin:20px 0 " ++
    js "18px !important; border:0 !important; \x7d",
  js "  .hrl-brand-tbl     \x7b font-size:12px !important; color:#64748B !important; " ++
    js "border-collapse:collapse !important; \x7d",
  js "  .hrl-brand-tbl td  \x7b vertical-align:middle !important; \x7d",
  js "  .hrl-logo-td       \x7b padding-right:6px !important; line-height:0 !important; \x7d",
  js "  .hrl-logo-td img   \x7b display:block !important; border-radius:5px !important; \x7d",
  js "  .hrl-name-td       \x7b font-family:'Syne',sans-serif !important; font-weight:700 !important; " ++
    js "font-size:12px !important; color:#475569 !important; letter-spacing:-0.01em !important; " ++
    js "padding-right:2px !important; \x7d",
  js "  .hrl-pipe-td       \x7b color:#CBD5E1 !important; padding:0 4px !important; \x7d",
  js "  .hrl-link-td a     \x7b color:#64748B !important; text-decoration:none !important; \x7d"]

/-- `HERALD_FOOTER_STYLES` -/
def heraldFooterStyles : JsString := join (js "\n") (js "<style>" :: (footerRules ++ [js "</style>"]))

/-- `HRL_SENTINEL` -/
def hrlSentinel : JsString := js "data-hrl-footer=\"1\""

/-- What a template of the system carries in place of a footer. -/
def footerBrand : JsString := js "class=\"footer-brand\""

def heraldLogoUrl : JsString := js "https://herald-storage-bucket.s3.eu-north-1.amazonaws.com/herald-logo.svg"

def fontStack : JsString :=
  js "'Plus Jakarta Sans',-apple-system,BlinkMacSystemFont,'Segoe UI',Helvetica,Arial,sans-serif"

def monoStack : JsString := js "'JetBrains Mono',ui-monospace,'SF Mono',Menlo,monospace"

/-- `unsub` -/
def unsub (vars : Variables) : JsString :=
  let unsubscribeUrl := vars.text "unsubscribeUrl"
  if unsubscribeUrl.isEmpty then js "#" else unsubscribeUrl

def deliveredTo (walletAddress : JsString) : JsString :=
  if walletAddress.isEmpty then []
  else
    js "<p class=\"hrl-meta\" style=\"font-size:12.5px;line-height:1.65;color:#64748B;margin:0;\">" ++
    js "<span class=\"hrl-delivered-lbl\" style=\"display:block;font-size:11px;" ++
    js "text-transform:uppercase;letter-spacing:0.12em;font-weight:600;color:#64748B;" ++
    js "margin-bottom:6px;\">Delivered to</span><span class=\"hrl-wallet\" style=\"font-family:" ++
    monoStack ++ js ";font-size:12px;color:#475569;word-break:break-all;\">" ++ walletAddress ++
    js "</span></p>"

def protocolRef (websiteUrl protocolName : JsString) : JsString :=
  if websiteUrl.isEmpty then
    js "<strong style=\"color:#475569;font-weight:600;\">" ++
    (if protocolName.isEmpty then js "The sending protocol" else protocolName) ++ js "</strong>"
  else
    js "<a href=\"" ++ websiteUrl ++ js "\" style=\"color:#475569;font-weight:600;text-decoration:none;\">" ++
    protocolName ++ js "</a>"

def privacyNote (walletAddress websiteUrl protocolName : JsString) : JsString :=
  js "<p class=\"hrl-meta\" style=\"font-size:12.5px;line-height:1.65;color:#64748B;margin:" ++
  (if walletAddress.isEmpty then js "0" else js "14px") ++
  js " 0 0;\">Delivered securely by Herald Protocol. " ++ protocolRef websiteUrl protocolName ++
  js " does not have access to your email address.</p>"

def divider : JsString :=
  js "<hr class=\"hrl-divider\" style=\"height:1px;background:#E2E8F0;margin:20px 0 18px;border:0;\">"

def logoTd : JsString :=
  js "<td class=\"hrl-logo-td\" style=\"vertical-align:middle;padding-right:6px;line-height:0;\" " ++
  js "valign=\"middle\"><img src=\"" ++ heraldLogoUrl ++
  js "\" width=\"20\" height=\"20\" alt=\"\" style=\"display:block;border-radius:5px;\"></td>"

def nameTd : JsString :=
  js "<td class=\"hrl-name-td\" style=\"vertical-align:middle;font-family:'Syne',sans-serif;" ++
  js "font-weight:700;font-size:12px;color:#475569;letter-spacing:-0.01em;padding-right:2px;\" " ++
  js "valign=\"middle\">Herald</td>"

def pipeTd : JsString :=
  js "<td class=\"hrl-pipe-td\" style=\"vertical-align:middle;color:#CBD5E1;padding:0 4px;\" " ++
  js "valign=\"middle\">|</td>"

def unsubTd (unsub : JsString) : JsString :=
  js "<td class=\"hrl-link-td\" style=\"vertical-align:middle;\" valign=\"middle\"><a href=\"" ++ unsub ++
  js "\" style=\"color:#64748B;text-decoration:none;\">Unsubscribe</a></td>"

def siteTd : JsString :=
  js "<td class=\"hrl-link-td\" style=\"vertical-align:middle;\" valign=\"middle\"><a " ++
  js "href=\"https://useherald.xyz\" style=\"color:#64748B;text-decoration:none;\">useherald.xyz</a></td>"

def mkTable (cells : JsString) : JsString :=
  js "<table class=\"hrl-brand-tbl\" cellpadding=\"0\" cellspacing=\"0\" style=\"font-size:12px;" ++
  js "color:#64748B;\"><tr>" ++ cells ++ js "</tr></table>"

def fullBrandRow (unsub : JsString) : JsString :=
  mkTable (logoTd ++ nameTd ++ pipeTd ++ unsubTd unsub ++ pipeTd ++ siteTd)

def shortBrandRow (unsub : JsString) : JsString := mkTable (logoTd ++ nameTd ++ pipeTd ++ unsubTd unsub)

/-- `wrap` -/
def wrapFooter (inner extraStyle : JsString) : JsString :=
  js "<div class=\"hrl-footer\" " ++ hrlSentinel ++ js " style=\"padding:28px 8px 8px;font-family:" ++
  fontStack ++ js ";" ++ extraStyle ++ js "\">" ++ inner ++ js "</div>"

/-- The footer of a key, with the wallet, the website, the name and the link of the variables. -/
def footerHtml (vars : Variables) : FooterKey → JsString
  | .full =>
    let walletAddress := vars.text "walletAddress"
    wrapFooter (deliveredTo walletAddress ++
      privacyNote walletAddress (vars.text "websiteUrl") (vars.text "protocolName") ++ divider ++
      fullBrandRow (unsub vars)) []
  | .small =>
    wrapFooter (deliveredTo (vars.text "walletAddress") ++ divider ++ fullBrandRow (unsub vars)) []
  | .minimal | .enterprise =>
    wrapFooter (deliveredTo (vars.text "walletAddress") ++ divider ++ shortBrandRow (unsub vars)) []
  | .none =>
    wrapFooter (js "<a href=\"" ++ unsub vars ++
      js "\" style=\"font-size:12px;color:#64748B;text-decoration:none;\">Unsubscribe</a>")
      (js "text-align:center;padding:12px 8px 8px;")

/-- `containedFooter` -/
def containedFooter (footerHtml : JsString) : JsString :=
  js "<div style=\"width:100%;background:#F8FAFC;\"><div style=\"max-width:600px;margin:0 auto;" ++
  js "padding:0 16px 32px;box-sizing:border-box;\">" ++ footerHtml ++ js "</div></div>"

/-! ### Injection -/

def headEnd : JsString := js "</head>"

def bodyEnd : JsString := js "</body>"

/-- Add the styles of the footer, unless some footer is there. -/
def injectStyles (html : JsString) : JsString :=
  if includes (js "data-hrl-footer") html then html
  else if includes headEnd html then
    replaceFirst headEnd (heraldFooterStyles ++ js "\n" ++ headEnd) html
  else heraldFooterStyles ++ html

/-- Put a footer at the end of the body. -/
def appendFooter (footer html : JsString) : JsString :=
  if includes bodyEnd html then replaceFirst bodyEnd (footer ++ js "\n" ++ bodyEnd) html
  else html ++ footer

/-- `injectHeraldFooter`, where a template of the system has no key. -/
def injectHeraldFooter (html : JsString) (vars : Variables) (footerKey : Option FooterKey) : JsString :=
  match footerKey with
  | none => html
  | some key =>
    if includes footerBrand html then html
    else if includes hrlSentinel html then html
    else appendFooter (containedFooter (footerHtml vars key)) (injectStyles html)

/-- The values that a footer shows. -/
def footerValues (vars : Variables) : FooterKey → List JsString
  | .full => [vars.text "walletAddress", vars.text "websiteUrl", vars.text "protocolName",
    vars.text "unsubscribeUrl"]
  | .small | .minimal | .enterprise => [vars.text "walletAddress", vars.text "unsubscribeUrl"]
  | .none => [vars.text "unsubscribeUrl"]

end HeraldGateway
