import HeraldGateway.ChannelDispatch
import HeraldGateway.Notify
import HeraldGateway.Templates.Rendering
import HeraldGateway.Text.Objects

/-!
# What messages show

How each channel puts the subject and the body of a job into its message, beside the template variables of the
request: email through the variables of Handlebars, Telegram through `injectVariables`, and Telegram's own
texts and SMS without a template. What is a match of a regular expression is left to the language.
-/

namespace HeraldGateway

open Text

/-- The regular expressions of the language. -/
structure RegExps where
  /-- Whether `new RegExp(pattern, 'g')` accepts a pattern. -/
  valid : JsString → Bool
  /-- Whether a pattern matches somewhere in a text. -/
  test : JsString → JsString → Bool
  /-- `text.replace(new RegExp(pattern, 'g'), value)` -/
  replaceAll : JsString → JsString → JsString → JsString

/-- A letter of ASCII. -/
def isLetter (u : UInt16) : Bool := (65 ≤ u && u ≤ 90) || (97 ≤ u && u ≤ 122)

/-- `{{key}}` -/
def placeholder (key : JsString) : JsString := js "\x7b\x7b" ++ key ++ js "\x7d\x7d"

/-- What is documented: a placeholder of letters is a pattern that matches itself, and a text without a match
stays as it is. -/
structure RegExps.Documented (R : RegExps) : Prop where
  valid_letters : ∀ key, key.all isLetter = true → R.valid (placeholder key) = true
  test_letters : ∀ key text, key.all isLetter = true →
    R.test (placeholder key) text = includes (placeholder key) text
  replaceAll_of_no_match : ∀ pattern value text, R.test pattern text = false →
    R.replaceAll pattern value text = text

variable (R : RegExps)

/-- Replace a placeholder. A key that makes no pattern throws. -/
def injectVariable (text : JsString) (v : JsString × JsString) : Option JsString :=
  if R.valid (placeholder v.1) then some (R.replaceAll (placeholder v.1) v.2 text) else none

/-- `injectVariables` -/
def injectVariables (template : JsString) (vars : Object JsString) : Option JsString :=
  vars.entries.foldlM (injectVariable R) template

/-! ### Telegram -/

/-- `cleanText` of `parseMarkdownLinks`, where `skip` code units of a link are left. -/
def cleanText : Nat → JsString → JsString
  | _, [] => []
  | skip + 1, _ :: s => cleanText skip s
  | 0, a :: s =>
    match linkAt? (a :: s) with
    | some (label, url) => label ++ cleanText (label.length + url.length + 3) s
    | none => a :: cleanText 0 s

/-- A button of a Telegram template. -/
structure TelegramButton where
  label : JsString
  urlTemplate : JsString
  deriving DecidableEq, Repr

/-- `templateRecord`: what is read of a row of `telegram_templates`. -/
structure TemplateRecord where
  textTemplate : JsString
  buttons : List TelegramButton := []
  deriving DecidableEq, Repr

/-- The template that a message is made from, if one was found for it. -/
def templateOf (p : TelegramParams) (found : Option TemplateRecord) : Option TemplateRecord :=
  if p.tier.getD 0 ≥ 2 && !p.protocolId.isEmpty then found else none

/-- `params.templateVariables` -/
def givenVariables (p : TelegramParams) : Object JsString := .ofList (p.templateVariables.getD [])

/-- The fields of a job that a template can show. -/
def fieldProps (p : TelegramParams) : List (JsString × JsString) :=
  [(js "protocolName", p.protocolName), (js "subject", p.subject), (js "body", cleanText 0 p.body),
    (js "category", p.category)]

/-- The variables of a text: those of the request come last. -/
def textVariables (p : TelegramParams) : Object JsString :=
  (Object.ofList (fieldProps p)).spread (givenVariables p)

/-- The variables of a button: those of the request come first. -/
def buttonVariables (p : TelegramParams) : Object JsString := (givenVariables p).assignAll (fieldProps p)

def telegramMaxMessageLength : Nat := 4096

/-- Cut a text that is too long. -/
def cutMessage (text : JsString) : JsString :=
  if text.length > telegramMaxMessageLength then text.take (telegramMaxMessageLength - 1) ++ js "…" else text

/-- `formatCustomMessage` -/
def formatCustomMessage (p : TelegramParams) (textTemplate : JsString) : Option JsString := do
  let result ← injectVariables R textTemplate (textVariables p)
  return cutMessage (if p.tier.getD 0 < 3 then
    result ++ js "\n\n<i>via Herald • " ++ capitalize p.category ++ js "</i>" else result)

/-- A button as it is shown. -/
def customButton (p : TelegramParams) (b : TelegramButton) : Option TelegramButton := do
  let label ← injectVariables R b.label (buttonVariables p)
  let url ← injectVariables R b.urlTemplate (buttonVariables p)
  return ⟨label, url⟩

/-- What `formatText` makes a message of, without a template. -/
structure TextParams where
  protocolName : JsString
  subject : JsString
  body : JsString
  category : JsString
  tier : Option Nat
  deriving DecidableEq, Repr

/-- What a message says. -/
inductive TelegramText where
  | custom (text : JsString)
  | builtIn (params : TextParams)
  deriving DecidableEq, Repr

/-- A message and the buttons of its template. -/
structure TelegramMessage where
  text : TelegramText
  buttons : List TelegramButton := []
  deriving DecidableEq, Repr

/-- The parameters of the text without a template. -/
def builtInText (p : TelegramParams) : TextParams :=
  ⟨p.protocolName, p.subject, cleanText 0 p.body, p.category, p.tier⟩

/-- The message that `sendNotification` makes, if no key throws. -/
def telegramMessage (p : TelegramParams) (found : Option TemplateRecord) : Option TelegramMessage :=
  match templateOf p found with
  | none => some { text := .builtIn (builtInText p) }
  | some t => do
    let text ← formatCustomMessage R p t.textTemplate
    let buttons ← t.buttons.mapM (customButton R p)
    return { text := if text.isEmpty then .builtIn (builtInText p) else .custom text, buttons := buttons }

/-! ### Email -/

/-- The request to render the email of a job. -/
def renderRequest (job : NotificationJobData) (assets : List ProtocolAsset)
    (settings : Option ProtocolSettings) (link : UnsubscribeLink) : RenderRequest where
  template := getTemplateName job.category
  templateId := job.templateId
  tier := job.tier.getD 0
  protocolId := job.protocolId
  variableValues := job.templateVariables.getD []
  protocolName := job.protocolName
  subject := job.subject
  body := job.body
  category := job.category
  walletAddress := job.wallet
  unsubscribeUrl := link
  logoUrl := (assets.find? (·.assetType == js "logo")).map (·.url)
  websiteUrl := settings.bind (·.websiteUrl)
  bannerUrl := (assets.find? (·.assetType == js "banner")).map (·.url)

/-- The variables of an email, of which some are `null`: those of the request come first. -/
def RenderRequest.object (r : RenderRequest) (unsubscribeUrl : JsString) : Object (Option JsString) :=
  (Object.ofList (r.variableValues.map fun v => (v.1, some v.2))).assignAll [
    (js "protocolName", some r.protocolName), (js "subject", some r.subject), (js "body", some r.body),
    (js "category", some r.category), (js "walletAddress", some r.walletAddress),
    (js "unsubscribeUrl", some unsubscribeUrl), (js "logoUrl", r.logoUrl), (js "websiteUrl", r.websiteUrl),
    (js "bannerUrl", r.bannerUrl)]

/-- The variables that have a text. -/
def RenderRequest.vars (r : RenderRequest) (unsubscribeUrl : JsString) : Variables :=
  (r.object unsubscribeUrl).present

/-- The parameters of `render`. -/
def RenderRequest.params (r : RenderRequest) (unsubscribeUrl : JsString) : RenderParams where
  template := r.template
  vars := r.vars unsubscribeUrl
  protocolId := some r.protocolId
  templateId := r.templateId
  tier := r.tier

/-- The parameters of the SMS of a job. -/
def smsParams (phone : JsString) (job : NotificationJobData) : SmsParams where
  phone := phone
  protocolName := job.protocolName
  subject := job.subject
  body := job.body
  category := job.category

/-! ### What is shown -/

/-- The pattern of a key matches the placeholder of a name. -/
def takes (name key : JsString) : Bool := R.test (placeholder key) (placeholder name)

/-- What a placeholder is replaced with: the value of the first variable whose pattern matches it. -/
def standsFor (vars : Object JsString) (name : JsString) : Option JsString :=
  (vars.keys.find? (takes R name)).bind vars.get?

/-- Variables show a subject and a body where their placeholders are. -/
structure ShowsIn (vars : Object JsString) (subject body : JsString) : Prop where
  subject : standsFor R vars (js "subject") = some subject
  body : standsFor R vars (js "body") = some body

/-- On every channel the messages of a job show a subject and a body, whatever template was found. -/
structure ShowsContent (job : NotificationJobData) (found : Option TemplateRecord) (subject body : JsString) :
    Prop where
  subjectLine : ∀ email domain rendered tracked now link,
    (emailMessage email job domain rendered tracked now link).subject =
      js "[" ++ job.protocolName ++ js "] " ++ subject
  email : ∀ assets settings link unsubscribeUrl,
    ((renderRequest job assets settings link).params unsubscribeUrl).vars.lookup (js "subject") =
      some subject ∧
      ((renderRequest job assets settings link).params unsubscribeUrl).vars.lookup (js "body") = some body
  telegram : ∀ chatId assets settings, ∀ m ∈ telegramMessage R (baseParams chatId job assets settings) found,
    match templateOf (baseParams chatId job assets settings) found with
    | none => ∃ params, m.text = .builtIn params ∧ params.subject = subject ∧ params.body = cleanText 0 body
    | some t => ShowsIn R (textVariables (baseParams chatId job assets settings)) subject (cleanText 0 body) ∧
      (t.buttons ≠ [] → ShowsIn R (buttonVariables (baseParams chatId job assets settings)) subject (cleanText 0 body))
  sms : ∀ phone, (smsParams phone job).subject = subject ∧ (smsParams phone job).body = body

/-- What dispatch asks for when it renders and sends the messages of a job. -/
def HandsOut (job : NotificationJobData) : Op → Prop
  | .render r => ∃ assets settings link, r = renderRequest job assets settings link
  | .sendEmail m => ∃ email domain rendered tracked now link,
      m = emailMessage email job domain rendered tracked now link
  | .sendTelegram p => ∃ chatId assets settings, p = { baseParams chatId job assets settings with
      target := p.target
      chatId := p.chatId
      customBotToken := p.customBotToken
      customTemplate := p.customTemplate }
  | .sendSms p => ∃ phone, p = smsParams phone job
  | _ => True

/-- Template variables leave a field of a text alone. Its placeholder is not replaced by an array index, which
comes before the fields of the job, nor is its name given another value. -/
def LeavesText (vars : Object JsString) (name own : JsString) : Prop :=
  match vars.indexKeys.find? (takes R name) with
  | some key => vars.get? key = some own
  | none => ∀ value ∈ vars.get? name, value = own

/-- Template variables leave a field of a button alone: the first of them that replaces its placeholder has
its name, whose value is the job's, or the same value. -/
def LeavesButtons (vars : Object JsString) (name own : JsString) : Prop :=
  ∀ key ∈ vars.keys.find? (takes R name), key ≠ name → vars.get? key = some own

instance (vars : Object JsString) (name own : JsString) : Decidable (LeavesText R vars name own) := by
  unfold LeavesText; split <;> infer_instance

instance (vars : Object JsString) (name own : JsString) : Decidable (LeavesButtons R vars name own) := by
  unfold LeavesButtons; infer_instance

end HeraldGateway
