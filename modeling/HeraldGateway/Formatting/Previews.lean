import HeraldGateway.Formatting.Sms
import HeraldGateway.Telegram.Messages

/-!
# Previews

The texts that the preview endpoint of `notify.controller.ts` shows for a request.
-/

namespace HeraldGateway.NotifyController

open SnsService TelegramService

/-- `buildTelegramPreview` -/
def buildTelegramPreview (subject body category : JsString) : JsString :=
  let emoji := [(js "defi", js "💰"), (js "governance", js "🗳️"), (js "system", js "⚙️"), (js "marketing", js "📢"),
    (js "security", js "🔒")]
  let icon := (emoji.lookup category).getD (js "🔔")
  icon ++ js " <b>Preview</b>\n\n<b>" ++ subject ++ js "</b>\n\n" ++ body ++ js "\n\n<i>via Herald • " ++ category ++
    js "</i>"

/-- `buildSmsPreview` -/
def buildSmsPreview (protocolName subject body : JsString) : JsString :=
  let truncatedBody := if body.length > 120 then body.take 119 ++ js "…" else body
  js "[" ++ protocolName ++ js "] " ++ subject ++ js ": " ++ truncatedBody ++ js " (via Herald)"

/-- The texts of a preview, besides the mail. -/
structure PreviewTexts where
  telegramText : JsString
  smsText : JsString
  deriving DecidableEq, Repr

/-- The category of a request. -/
def categoryOf (dto : NotifyDto) : JsString := dto.category.getD (js "defi")

/-- The name of a protocol. -/
def nameOf (protocol : AuthenticatedProtocol) : JsString := protocol.name.getD (js "Protocol")

/-- `preview` -/
def preview (dto : NotifyDto) (protocol : AuthenticatedProtocol) : PreviewTexts where
  telegramText := buildTelegramPreview dto.subject dto.body (categoryOf dto)
  smsText := buildSmsPreview (nameOf protocol) dto.subject dto.body

/-- A notification of what a request says, which is like `p` else. -/
def notificationOf (dto : NotifyDto) (protocol : AuthenticatedProtocol) (p : TelegramParams) : TelegramParams :=
  { p with
    protocolName := nameOf protocol
    subject := dto.subject
    body := dto.body
    category := categoryOf dto }

/-- The preview shows the body that an SMS gets, and the text that `sendNotification` sends without a template. -/
structure ShowsWhatIsSent (R : RegExps) (dto : NotifyDto) (protocol : AuthenticatedProtocol) (p : TelegramParams) :
    Prop where
  sms : (preview dto protocol).smsText = (buildSmsBody ⟨nameOf protocol, dto.subject, dto.body⟩).body
  telegram : messageText R (notificationOf dto protocol p) none = some (preview dto protocol).telegramText

end HeraldGateway.NotifyController
