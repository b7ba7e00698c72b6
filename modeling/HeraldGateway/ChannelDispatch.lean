import HeraldGateway.Operations

/-!
# Routing and dispatch

The identity of a recipient is resolved, and a notification goes to the channels of its job.
-/

namespace HeraldGateway

open Async

/-!
## Resolving wallets to identities

`routing.service.ts`: the identity of a wallet comes from the Redis cache or, on a miss or a failing
cache, from the chain, whose answer is cached.
-/

/-- `PDA_CACHE_TTL_SECONDS` -/
def PDA_CACHE_TTL_SECONDS : Nat := 600

/-- `deserializeCached`. The sender key is cached as a plain object, which has no `length`, so that it is
no longer a key of 32 bytes. -/
def deserializeCached (i : IdentityAccount) : IdentityAccount := { i with senderX25519Pubkey := none }

/-- Fetch an identity from the chain and cache the answer. -/
def fetchIdentity (walletPubkey : JsString) : Gateway (Option IdentityAccount) := do
  match ← call (.fetchIdentityAccount walletPubkey) with
  | none =>
    swallow (call (.identityCacheSetex walletPubkey 120 .notRegistered))
    return none
  | some identity =>
    swallow (call (.identityCacheSetex walletPubkey PDA_CACHE_TTL_SECONDS (.identity identity)))
    return some identity

/-- `resolveIdentity` -/
def resolveIdentity (walletPubkey : JsString) : Gateway (Option IdentityAccount) := do
  match ← orNull (call (.identityCacheGet walletPubkey)) with
  | some .notRegistered => return none
  | some (.identity i) => return some (deserializeCached i)
  | none => fetchIdentity walletPubkey

/-- `decryptAllChannelsInEnclave` -/
def decryptAllChannelsInEnclave (identity : IdentityAccount) : Gateway DecryptedChannels :=
  call (.decryptAllChannels identity)

/-!
## Channel dispatch

`channel-dispatch.service.ts` with `TelegramService.sendNotification` and `SnsService.sendSms`: which
channels a job may use, and the delivery to all of them at once. What a provider makes of a message (the
HTML of a template, the parts of a long Telegram text) is behind the calls that render and send.
-/

section

variable (env : Env)

/-! ### Telegram -/

/-- A Telegram error that says that the chat blocked the bot. -/
def isForbidden : Err → Bool
  | .external e =>
    e.code == some (js "403") ||
      e.description.any (fun d => includes (js "forbidden") (toLowerCase d)) ||
        includes (js "forbidden") (toLowerCase e.message)
  | e => includes (js "forbidden") (toLowerCase e.message)

/-- The protocol's own text, from tier 2 on. -/
def loadCustomTemplate (p : TelegramParams) : Gateway (Option JsString) :=
  if p.tier.getD 0 ≥ 2 && !p.protocolId.isEmpty then
    call (.telegramTemplateFindFirst p.protocolId p.category p.templateId)
  else
    return none

/-- Hand the message to the bot; a chat that blocks the bot is remembered for a week. -/
def sendOrBlock (p : TelegramParams) : Gateway JsString :=
  (call (.sendTelegram p)).tryCatch fun e => do
    if isForbidden e then
      swallow (call (.redisSetex (.blocked p.chatId) (7 * 24 * 60 * 60) (js "1")))
      .throw (.error (js "BOT_BLOCKED"))
    else
      .throw e

/-- `sendNotification` -/
def sendNotification (p : TelegramParams) : Gateway JsString := do
  let isBlocked ← orNull (call (.redisGet (.blocked p.chatId)))
  if truthy isBlocked then
    .throw (.error (js "BOT_BLOCKED"))
  else if !truthy p.customBotToken && !env.telegramReady then
    .throw (.error (js "Telegram service not initialized"))
  else
    let customTemplate ← loadCustomTemplate p
    sendOrBlock { p with customTemplate := customTemplate }

/-- `pinGroupMessage` where it is due, with its failure ignored. -/
def pinWhenUrgent (job : NotificationJobData) (settings : Option ProtocolSettings)
    (groupChatId messageId : JsString) (customBotToken : Option JsString) : Gateway Unit :=
  if settings.any (·.telegramAutoPinEnabled) && (job.category == js "security" ||
      job.priority == some .critical || job.priority == some .important) then
    swallow (call (.pinGroupMessage groupChatId messageId customBotToken))
  else
    return ()

/-- Post to the protocol's group, once for a notification. -/
def deliverGroup (job : NotificationJobData) (settings : Option ProtocolSettings)
    (base : TelegramParams) (groupChatId : JsString) (customBotToken : Option JsString) :
    Gateway Unit := do
  let alreadySent ← orNull (call (.redisGet (.groupSent job.notificationId groupChatId)))
  if truthy alreadySent then
    return ()
  else
    let group := { base with target := .group, chatId := groupChatId, customBotToken := customBotToken }
    match ← (sendNotification env group).settle with
    | .error _ => return ()
    | .ok messageId =>
      call (.redisSetex (.groupSent job.notificationId groupChatId) 86400 (js "1"))
      swallow (call (.redisSetex (.groupMessage groupChatId messageId) (7 * 86400)
        job.notificationId.text))
      pinWhenUrgent job settings groupChatId messageId customBotToken

/-- Deliver to the subscriber: by the protocol's own bot where it is set up and the chat has started it. -/
def deliverSubscriber (job : NotificationJobData) (settings : Option ProtocolSettings)
    (base : TelegramParams) (customBotToken : Option JsString) : Gateway JsString := do
  if truthy customBotToken && truthy (settings.bind (·.telegramBotUsername)) then
    if ← call (.isMigrated base.chatId job.protocolId) then
      sendNotification env { base with customBotToken := customBotToken }
    else
      let messageId ← sendNotification env base
      swallow (call (.sendSinglePrompt base.chatId job.protocolId))
      return messageId
  else
    sendNotification env base

/-- The parameters of a delivery to a subscriber's chat by Herald's bot. -/
def baseParams (chatId : JsString) (job : NotificationJobData) (assets : List ProtocolAsset)
    (settings : Option ProtocolSettings) : TelegramParams where
  target := .subscriber
  chatId := chatId
  protocolName := job.protocolName
  protocolId := job.protocolId
  subject := job.subject
  body := job.body
  category := job.category
  notificationId := job.notificationId
  tier := job.tier
  templateId := job.telegramTemplateId
  templateVariables := job.templateVariables
  bannerUrl := (assets.find? (·.assetType == js "banner")).map (·.url)
  videoUrl := (assets.find? (·.assetType == js "video")).map (·.url)
  customBotToken := none
  messageThreadId :=
    if job.tier.getD 0 ≥ 1 && !job.category.isEmpty then
      (settings.bind (·.telegramThreadIds)).bind fun ids => (ids.find? (·.1 == job.category)).map (·.2)
    else none
  priority := job.priority
  trackEngagement := settings.any (·.trackEngagement)

/-- The token of the protocol's own bot, from tier 1 on, where the encryption key is configured. -/
def customBotToken (job : NotificationJobData) (settings : Option ProtocolSettings) :
    Except Err (Option JsString) :=
  if job.tier.getD 0 ≥ 1 then
    match settings.bind (·.telegramBotTokenEncrypted), env.decryptBotToken with
    | some token, some decrypt => (decrypt token).map some
    | _, _ => .ok none
  else .ok none

/-- The settings of the job's protocol, where it names one. -/
def telegramSettings (job : NotificationJobData) : Gateway (Option ProtocolSettings) :=
  if job.protocolId.isEmpty then return none
  else call (.protocolSettingsFindUnique job.protocolId)

/-- A delivery that failed. -/
def failedOutcome (channel : Channel) (error : JsString) : ChannelDeliveryOutcome where
  channel := channel
  success := false
  error := some error

/-- A delivery that succeeded. -/
def deliveredOutcome (channel : Channel) (messageId provider : JsString) : ChannelDeliveryOutcome where
  channel := channel
  success := true
  messageId := some messageId
  provider := some provider

/-- Deliver to the subscriber and to the group. -/
def deliverChats (chatId : JsString) (job : NotificationJobData) (assets : List ProtocolAsset)
    (settings : Option ProtocolSettings) (token : Option JsString) : Gateway ChannelDeliveryOutcome := do
  let base := baseParams chatId job assets settings
  let groupChatId := if job.tier.getD 0 ≥ 1 then settings.bind (·.telegramGroupChatId) else none
  let messageId ← deliverSubscriber env job settings base token
  if truthy groupChatId then
    deliverGroup env job settings base (groupChatId.getD []) token
    return deliveredOutcome .telegram messageId (js "telegram_bot_api")
  else
    return deliveredOutcome .telegram messageId (js "telegram_bot_api")

/-- Deliver unless the chat muted the protocol or the category. -/
def deliverUnmuted (chatId : JsString) (job : NotificationJobData) (assets : List ProtocolAsset)
    (settings : Option ProtocolSettings) (token : Option JsString) : Gateway ChannelDeliveryOutcome := do
  let protocolMuted ← orNull (call (.redisGet (.protocolMute chatId job.protocolId)))
  if truthy protocolMuted then
    return failedOutcome .telegram (js "muted_by_user")
  else
    let categoryMuted ← orNull (call (.redisGet (.categoryMute chatId job.category)))
    if truthy categoryMuted then
      return failedOutcome .telegram (js "muted_category:" ++ job.category)
    else
      deliverChats env chatId job assets settings token

/-- `deliverTelegram` -/
def deliverTelegram (chatId : JsString) (job : NotificationJobData) (assets : List ProtocolAsset) :
    Gateway ChannelDeliveryOutcome :=
  Prog.tryCatch (do
    let settings ← telegramSettings job
    match customBotToken env job settings with
    | .error e => .throw e
    | .ok token => deliverUnmuted env chatId job assets settings token)
    fun e =>
      let error := if e.message = js "BOT_BLOCKED" then js "bot_blocked_by_user" else e.message
      return failedOutcome .telegram error

/-! ### SMS -/

/-- `sendSms` -/
def sendSmsMessage (p : SmsParams) : Gateway JsString :=
  if env.smsReady then call (.sendSms p) else .throw (.error (js "AWS SNS not initialized"))

/-- `deliverSms` -/
def deliverSms (phone : JsString) (job : NotificationJobData) : Gateway ChannelDeliveryOutcome :=
  Prog.tryCatch (do
    let messageId ← sendSmsMessage env ⟨phone, job.protocolName, job.subject, job.body, job.category⟩
    return deliveredOutcome .sms messageId (js "aws_sns"))
    fun e => return failedOutcome .sms e.message

/-! ### Email -/

/-- `getTemplateName` -/
def getTemplateName (category : JsString) : JsString :=
  if category = js "defi" then js "defi-alert"
  else if category = js "governance" then js "governance"
  else if category = js "system" then js "system"
  else if category = js "marketing" then js "marketing"
  else js "defi-alert"

/-- `generateSignedUnsubscribeUrl` -/
def generateSignedUnsubscribeUrl (walletHash : JsString) (category : Option JsString) :
    Gateway UnsubscribeLink := do
  let now ← call .now
  return {
    walletHash := walletHash
    category := if truthy category then category else none
    expiresAt := now / 1000 + 7 * 24 * 60 * 60 }

/-- The token of a link: its payload and the signature of the payload. -/
def UnsubscribeLink.token (link : UnsubscribeLink) : JsString :=
  let payload := env.encodePayload {
    walletHash := link.walletHash
    category := link.category
    expiresAt := link.expiresAt }
  payload ++ js "." ++ env.unsubscribeSign payload

/-- The message for the mail provider. -/
def emailMessage (email : JsString) (job : NotificationJobData) (domain : Option JsString)
    (rendered : Rendered) (tracked : Bool) (now : Millis) (link : UnsubscribeLink) : EmailMessage where
  recipient := email
  fromHeader := job.protocolName ++ js " via Herald <noreply@" ++
    domain.getD (js "useherald.xyz") ++ js ">"
  replyTo := js "support@useherald.xyz"
  subject := js "[" ++ job.protocolName ++ js "] " ++ job.subject
  html := rendered.html
  tracked := tracked
  text := rendered.text
  protocolHeader := job.protocolName
  notificationHeader := job.notificationId
  timestampHeader := now
  listUnsubscribe := link

/-- Build the message and send it. -/
def sendRendered (email : JsString) (job : NotificationJobData) (domain : Option JsString)
    (rendered : Rendered) (tracked : Bool) : Gateway ChannelDeliveryOutcome := do
  swallow (call (.ensureVerified email))
  let now ← call .now
  let link ← generateSignedUnsubscribeUrl (job.walletHash.getD []) (some job.category)
  let messageId ← call (.sendEmail (emailMessage email job domain rendered tracked now link))
  return deliveredOutcome .email messageId env.mailProvider

/-- Render the email and send it, with tracking where the protocol wants it. -/
def sendEmailMessage (email : JsString) (job : NotificationJobData) (assets : List ProtocolAsset) :
    Gateway ChannelDeliveryOutcome := do
  let domain ← call (.dkimKeyFindFirst job.protocolId)
  let settings ← call (.protocolSettingsFindUnique job.protocolId)
  let link ← generateSignedUnsubscribeUrl (job.walletHash.getD []) (some job.category)
  let rendered ← call (.render {
    template := getTemplateName job.category
    templateId := job.templateId
    tier := job.tier.getD 0
    protocolId := job.protocolId
    variableValues := job.templateVariables.getD []
    protocolName := job.protocolName
    subject := job.subject
    body := job.body
    category := job.category
    walletAddress := job.wallet
    unsubscribeUrl := link
    logoUrl := (assets.find? (·.assetType == js "logo")).map (·.url)
    websiteUrl := settings.bind (·.websiteUrl)
    bannerUrl := (assets.find? (·.assetType == js "banner")).map (·.url) })
  if settings.any (·.trackEngagement) && !rendered.html.isEmpty then
    swallow (call (.notificationUpdate job.notificationId { trackingEnabled := some true }))
    sendRendered env email job domain rendered true
  else
    sendRendered env email job domain rendered false

/-- The suppression of the job's wallet. A job without a wallet hash is not looked up. -/
def findSuppression (job : NotificationJobData) : Gateway (Option EmailSuppression) :=
  if truthy job.walletHash then call (.suppressionFindUnique (job.walletHash.getD []))
  else return none

/-- `deliverEmail` -/
def deliverEmail (email : JsString) (job : NotificationJobData) (assets : List ProtocolAsset) :
    Gateway ChannelDeliveryOutcome := do
  match ← findSuppression job with
  | some suppressed =>
    return failedOutcome .email (js "Email suppressed: " ++ suppressed.reason.text)
  | none =>
    (sendEmailMessage env email job assets).tryCatch fun e => return failedOutcome .email e.message

/-! ### Dispatch -/

/-- The channels that have a contact and that the tier permits. -/
def registeredChannels (channels : DecryptedChannels) (tier : Nat) : List Channel :=
  (if truthy channels.email then [.email] else []) ++
    (if truthy channels.telegramChatId && tier ≥ 1 then [.telegram] else []) ++
      (if truthy channels.phone && tier ≥ 1 then [.sms] else [])

/-- `channelOrder.indexOf` -/
def channelIndex : Channel → Int
  | .email => 0
  | .telegram => 1
  | .sms => 2
  | .other _ => -1

/-- The channels that the request names. -/
def explicitChannels (job : NotificationJobData) : Option (List Channel) :=
  match job.preferredChannel, job.channels with
  | some c, _ => some [c]
  | none, some (c :: cs) => some (c :: cs)
  | none, _ => none

/-- `resolveAllowedChannels` -/
def resolveAllowedChannels (channels : DecryptedChannels) (job : NotificationJobData) : List Channel :=
  let tier := job.tier.getD 0
  let registered := registeredChannels channels tier
  if registered.isEmpty then []
  else
    let excluded := job.excludedChannels.getD []
    let allowed := match explicitChannels job with
      | some explicit => explicit.filter fun c => registered.contains c && !excluded.contains c
      | none => registered.filter fun c => !excluded.contains c
    let escalates := tier ≥ 1 && (job.priority == some .important || job.priority == some .critical) &&
      truthy channels.phone && !excluded.contains .sms && !allowed.contains .sms
    let allowed := if escalates then allowed ++ [.sms] else allowed
    allowed.insertionSort fun a b => channelIndex a ≤ channelIndex b

/-- `fetchProtocolAssets` -/
def fetchProtocolAssets (protocolId : JsString) : Gateway (List ProtocolAsset) :=
  (call (.protocolAssetFindMany protocolId)).tryCatch fun _ => return []

/-- The deliveries that dispatch starts. -/
def deliveries (channels : DecryptedChannels) (job : NotificationJobData)
    (assets : List ProtocolAsset) : List (Gateway ChannelDeliveryOutcome) :=
  let allowed := resolveAllowedChannels channels job
  (if allowed.contains .email && truthy channels.email then
      [deliverEmail env (channels.email.getD []) job assets] else []) ++
    (if allowed.contains .telegram && truthy channels.telegramChatId then
      [deliverTelegram env (channels.telegramChatId.getD []) job assets] else []) ++
      (if allowed.contains .sms && truthy channels.phone then
        [deliverSms env (channels.phone.getD []) job] else [])

/-- The outcome of a delivery that settled. -/
def outcomeOf : Except Err ChannelDeliveryOutcome → ChannelDeliveryOutcome
  | .ok outcome => outcome
  | .error e => failedOutcome (.other (js "unknown")) e.message

/-- `persistChannelDeliveries` -/
def persistChannelDeliveries (id : NotificationId) (outcomes : List ChannelDeliveryOutcome) :
    Gateway Unit :=
  swallow (call (.channelDeliveryCreateAll id outcomes))

/-- The result of a dispatch with some outcomes. -/
def dispatchResult (outcomes : List ChannelDeliveryOutcome) : ChannelDispatchResult where
  outcomes := outcomes
  totalChannels := outcomes.length
  successCount := (outcomes.filter (·.success)).length
  allDelivered := (outcomes.filter (·.success)).length == outcomes.length

/-- `dispatch` -/
def dispatch (channels : DecryptedChannels) (job : NotificationJobData) :
    Gateway ChannelDispatchResult := do
  let assets ← fetchProtocolAssets job.protocolId
  if (deliveries env channels job assets).isEmpty then
    return { outcomes := [], totalChannels := 0, successCount := 0, allDelivered := false }
  else
    let settled ← Prog.allSettled (deliveries env channels job assets)
    let outcomes := settled.map outcomeOf
    persistChannelDeliveries job.notificationId outcomes
    return dispatchResult outcomes

end

end HeraldGateway
