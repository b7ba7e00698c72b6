import HeraldGateway.Types

/-!
# The stores and services the gateway works with

One `World` holds what the modelled functions read and write: the Redis keys, the tables, the BullMQ
queues, the chain, and what the delivery providers have accepted. Only columns that a modelled function
reads or that a statement is about are kept; a table is the list of its rows in the order of their
creation. The notification queue keeps every job ever added, which is what a statement about adds needs;
a worker attempt names a job by its place.
-/

namespace HeraldGateway

/-- A Redis value with the time it expires. -/
structure Timed (α : Type) where
  value : α
  expiresAt : Millis
  deriving DecidableEq, Repr

/-- The value, while it has not expired. -/
def Timed.live {α : Type} (now : Millis) (t : Option (Timed α)) : Option α :=
  match t with
  | some v => if now < v.expiresAt then some v.value else none
  | none => none

/-- The expiry of a value that was stored without one: the last time there is. -/
def neverExpires : Millis := 8640000000000000

/-- The Redis keys other than those of idempotency and of the identity cache. -/
inductive RedisKey where
  /-- `tg:mute:<chat>:<protocol>` -/
  | protocolMute (chatId protocolId : JsString)
  /-- `tg:mute_cat:<chat>:<category>` -/
  | categoryMute (chatId category : JsString)
  /-- `tg:blocked:<chat>` -/
  | blocked (chatId : JsString)
  /-- `tg:group_sent:<notification>:<chat>` -/
  | groupSent (id : NotificationId) (chatId : JsString)
  /-- `tg:gmsg:<chat>:<message>` -/
  | groupMessage (chatId messageId : JsString)
  /-- The daily counter of a sandbox key. -/
  | sandboxDaily (apiKeyId : JsString)
  /-- The daily counter of the playground sends of a sandbox key. -/
  | sandboxPlayground (apiKeyId : JsString)
  deriving DecidableEq, Repr

/-- What the identity cache stores for a wallet. -/
inductive CachedIdentity where
  /-- `NOT_REGISTERED` -/
  | notRegistered
  /-- A serialized identity. -/
  | identity (i : IdentityAccount)
  deriving DecidableEq, Repr

/-- A row of `notifications`. -/
structure Notification where
  id : NotificationId
  protocolId : JsString
  walletHash : JsString
  subjectHash : JsString
  status : NotificationStatus
  category : JsString
  idempotencyKey : Option JsString
  writeReceipt : Bool
  queuedAt : Millis
  processingAt : Option Millis := none
  deliveredAt : Option Millis := none
  errorCode : Option JsString := none
  riskScore : Option Nat := some 0
  scanVerdict : Option Verdict := none
  sesMessageId : Option JsString := none
  emailProvider : Option JsString := none
  bounce : Bool := false
  bounceType : Option JsString := none
  retryCount : Nat := 0
  arweaveId : Option JsString := none
  ciphertext : Option JsString := none
  nonce : Option JsString := none
  trackingEnabled : Bool := false
  deriving DecidableEq, Repr

/-- The data of `notification.create`. -/
structure NewNotification where
  id : NotificationId
  protocolId : JsString
  walletHash : JsString
  subjectHash : JsString
  status : NotificationStatus
  category : JsString
  idempotencyKey : Option JsString := none
  writeReceipt : Bool
  queuedAt : Option Millis := none
  errorCode : Option JsString := none
  riskScore : Option Nat := none
  scanVerdict : Option Verdict := none
  deriving DecidableEq, Repr

/-- The row that `notification.create` stores. -/
def NewNotification.row (now : Millis) (n : NewNotification) : Notification where
  id := n.id
  protocolId := n.protocolId
  walletHash := n.walletHash
  subjectHash := n.subjectHash
  status := n.status
  category := n.category
  idempotencyKey := n.idempotencyKey
  writeReceipt := n.writeReceipt
  queuedAt := n.queuedAt.getD now
  errorCode := n.errorCode
  riskScore := some (n.riskScore.getD 0)
  scanVerdict := n.scanVerdict

/-- The data of `notification.update`: the columns to set, and whether `retryCount` is incremented. -/
structure NotificationUpdate where
  status : Option NotificationStatus := none
  errorCode : Option JsString := none
  processingAt : Option Millis := none
  deliveredAt : Option Millis := none
  arweaveId : Option (Option JsString) := none
  sesMessageId : Option (Option JsString) := none
  emailProvider : Option (Option JsString) := none
  ciphertext : Option (Option JsString) := none
  nonce : Option (Option JsString) := none
  incrementRetryCount : Bool := false
  trackingEnabled : Option Bool := none
  bounce : Option Bool := none
  bounceType : Option JsString := none
  deriving DecidableEq, Repr

/-- The row after an update. -/
def NotificationUpdate.apply (u : NotificationUpdate) (n : Notification) : Notification :=
  { n with
    status := u.status.getD n.status
    errorCode := u.errorCode <|> n.errorCode
    processingAt := u.processingAt <|> n.processingAt
    deliveredAt := u.deliveredAt <|> n.deliveredAt
    arweaveId := u.arweaveId.getD n.arweaveId
    sesMessageId := u.sesMessageId.getD n.sesMessageId
    emailProvider := u.emailProvider.getD n.emailProvider
    ciphertext := u.ciphertext.getD n.ciphertext
    nonce := u.nonce.getD n.nonce
    retryCount := if u.incrementRetryCount then n.retryCount + 1 else n.retryCount
    trackingEnabled := u.trackingEnabled.getD n.trackingEnabled
    bounce := u.bounce.getD n.bounce
    bounceType := u.bounceType <|> n.bounceType }

/-- A row of `notification_templates`. -/
structure NotificationTemplate where
  id : JsString
  protocolId : JsString
  status : TemplateStatus
  deriving DecidableEq, Repr

/-- A row of `protocol_settings`. -/
structure ProtocolSettings where
  testEmail : Option JsString := none
  testTelegramId : Option JsString := none
  testPhone : Option JsString := none
  websiteUrl : Option JsString := none
  telegramBotTokenEncrypted : Option (List UInt8) := none
  telegramBotUsername : Option JsString := none
  telegramGroupChatId : Option JsString := none
  telegramThreadIds : Option (List (JsString × JsString)) := none
  trackEngagement : Bool := false
  telegramAutoPinEnabled : Bool := false
  deriving DecidableEq, Repr

/-- A row of `telegram_templates`. -/
structure TelegramTemplate where
  id : JsString
  protocolId : JsString
  category : JsString
  textTemplate : JsString
  isActive : Bool
  deriving DecidableEq, Repr

/-- A row of `protocols`. -/
structure ProtocolRow where
  protocolPubkey : JsString
  tier : Nat
  sendsThisPeriod : Nat := 0
  deriving DecidableEq, Repr

/-- A row of `api_keys`. -/
structure ApiKey where
  isTestKey : Bool
  testDailyLimit : Nat
  expiresAt : Option Millis := none
  isRevoked : Bool := false
  deriving DecidableEq, Repr

/-- A row of `protocol_subscriptions`. -/
structure ProtocolSubscription where
  walletPubkey : Option JsString
  walletHash : JsString
  protocolId : JsString
  channels : List JsString := [js "email"]
  active : Bool
  subscribedAt : Millis
  deriving DecidableEq, Repr

/-- `ScheduledJobStatus`. -/
inductive ScheduledStatus where
  | pending
  | running
  | completed
  | cancelled
  | failed
  deriving DecidableEq, Repr

/-- A row of `scheduled_notifications`. -/
structure ScheduledNotification where
  id : Nat
  protocolId : JsString
  wallet : Option JsString
  subject : JsString
  body : JsString
  category : JsString
  channels : List JsString
  recurring : Bool
  cronExpr : Option JsString
  timezone : JsString
  nextRunAt : Int
  lastRunAt : Option Millis := none
  status : ScheduledStatus
  templateId : Option JsString
  deriving DecidableEq, Repr

/-- `CampaignStatus`. -/
inductive CampaignStatus where
  | draft
  | scheduled
  | running
  | completed
  | failed
  | cancelled
  deriving DecidableEq, Repr

/-- The status as the column stores it. -/
def CampaignStatus.text : CampaignStatus → JsString
  | draft => js "DRAFT"
  | scheduled => js "SCHEDULED"
  | running => js "RUNNING"
  | completed => js "COMPLETED"
  | failed => js "FAILED"
  | cancelled => js "CANCELLED"

/-- A row of `campaigns` with the wallets of its audience. -/
structure Campaign where
  id : JsString
  protocolId : JsString
  wallets : List JsString
  subject : JsString
  body : JsString
  category : JsString
  templateId : Option JsString
  status : CampaignStatus
  startedAt : Option Millis := none
  totalTargets : Nat := 0
  deriving DecidableEq, Repr

/-- A row of `portal_users`. -/
structure PortalUser where
  walletHash : JsString
  emailHash : Option JsString
  optInAll : Bool
  optInDefi : Bool
  optInGovernance : Bool
  optInMarketing : Bool
  updatedAt : Millis
  deriving DecidableEq, Repr

/-- A row of `unsubscribe_tokens`, by the token it is the hash of. -/
structure UnsubscribeTokenRow where
  tokenHash : JsString
  usedAt : Option Millis
  deriving DecidableEq, Repr

/-- The reasons of a suppression. -/
inductive SuppressionReason where
  | hardBounce
  | complaint
  | softBounce
  deriving DecidableEq, Repr

/-- The reason as the column stores it. -/
def SuppressionReason.text : SuppressionReason → JsString
  | hardBounce => js "hard_bounce"
  | complaint => js "complaint"
  | softBounce => js "soft_bounce"

/-- A row of `email_suppressions`. -/
structure EmailSuppression where
  walletHash : JsString
  reason : SuppressionReason
  suppressedAt : Millis
  notificationId : Option NotificationId
  deriving DecidableEq, Repr

/-- The kinds of bounce. -/
inductive BounceType where
  | hard
  | soft
  | complaint
  deriving DecidableEq, Repr

/-- The kind as the column stores it. -/
def BounceType.text : BounceType → JsString
  | hard => js "hard"
  | soft => js "soft"
  | complaint => js "complaint"

/-- A row of `email_bounces`. -/
structure EmailBounce where
  notificationId : NotificationId
  walletHash : JsString
  bounceType : BounceType
  sesMessageId : JsString
  diagnosticCode : Option JsString
  bouncedAt : Millis
  deriving DecidableEq, Repr

/-- A row of `email_deliveries`. -/
structure EmailDelivery where
  notificationId : NotificationId
  sesMessageId : JsString
  smtpResponse : Option JsString
  processingTime : Option Nat
  deliveredAt : Millis
  deriving DecidableEq, Repr

/-- A row of `digest_queue`. -/
structure DigestRow where
  id : Nat
  walletHash : JsString
  protocolId : JsString
  subject : JsString
  category : JsString
  queuedAt : Millis
  scheduledFor : Millis
  sentAt : Option Millis
  deriving DecidableEq, Repr

/-- A row of `channel_deliveries`. -/
structure ChannelDelivery where
  notificationId : NotificationId
  outcome : ChannelDeliveryOutcome
  deliveredAt : Option Millis
  deriving DecidableEq, Repr

/-- A row of `sandbox_receipts`. -/
structure SandboxReceipt where
  apiKeyId : JsString
  notificationId : Option NotificationId
  walletHash : JsString
  subject : Option JsString
  status : JsString
  devnetTx : Option JsString
  channel : Option JsString
  deliveredAt : Millis
  deriving DecidableEq, Repr

/-- A row of `protocol_assets`. -/
structure ProtocolAsset where
  assetType : JsString
  url : JsString
  deriving DecidableEq, Repr

/-- `DigestEntry`: a buffered notification in a digest job. -/
structure DigestEntry where
  id : Nat
  protocolId : JsString
  subject : JsString
  category : JsString
  queuedAt : Millis
  deriving DecidableEq, Repr

/-- `DigestJobData`. -/
structure DigestJobData where
  walletHash : JsString
  entries : List DigestEntry
  deriving DecidableEq, Repr

/-- A job on the notification queue. -/
structure QueuedJob where
  data : NotificationJobData
  /-- A job identifier the producer chose; an add under one that is taken is ignored. -/
  jobId : Option Nat := none
  addedAt : Millis
  deriving DecidableEq, Repr

/-- A job on the digest queue, whose identifier is `digest-<wallet hash>-<addedAt>`. -/
structure QueuedDigest where
  data : DigestJobData
  addedAt : Millis
  deriving DecidableEq, Repr

/-- Where a Telegram message goes. -/
inductive TelegramTarget where
  /-- A subscriber's own chat. -/
  | subscriber
  /-- The protocol's group. -/
  | group
  deriving DecidableEq, Repr

/-- A signed unsubscribe link: what its token says. -/
structure UnsubscribeLink where
  walletHash : JsString
  category : Option JsString
  expiresAt : Nat
  deriving DecidableEq, Repr

/-- The request to render an email. -/
structure RenderRequest where
  template : JsString
  templateId : Option JsString
  tier : Nat
  protocolId : JsString
  variableValues : List (JsString × JsString)
  protocolName : JsString
  subject : JsString
  body : JsString
  category : JsString
  walletAddress : JsString
  unsubscribeUrl : UnsubscribeLink
  logoUrl : Option JsString
  websiteUrl : Option JsString
  bannerUrl : Option JsString
  deriving DecidableEq, Repr

/-- A rendered email. -/
structure Rendered where
  html : JsString
  text : JsString
  deriving DecidableEq, Repr

/-- The message handed to the mail provider. Its HTML is the rendered one, with click and open tracking
of the notification injected where `tracked` says so. -/
structure EmailMessage where
  recipient : JsString
  fromHeader : JsString
  replyTo : JsString
  subject : JsString
  html : JsString
  tracked : Bool
  text : JsString
  protocolHeader : JsString
  notificationHeader : NotificationId
  timestampHeader : Millis
  listUnsubscribe : UnsubscribeLink
  deriving DecidableEq, Repr

/-- The parameters of `TelegramService.sendNotification`. -/
structure TelegramParams where
  target : TelegramTarget
  chatId : JsString
  protocolName : JsString
  protocolId : JsString
  subject : JsString
  body : JsString
  category : JsString
  notificationId : NotificationId
  tier : Option Nat
  templateId : Option JsString
  templateVariables : Option (List (JsString × JsString))
  bannerUrl : Option JsString
  videoUrl : Option JsString
  customBotToken : Option JsString
  messageThreadId : Option JsString
  priority : Option Priority
  trackEngagement : Bool
  /-- The text of the protocol's own template, where it has one. -/
  customTemplate : Option JsString := none
  deriving DecidableEq, Repr

/-- The parameters of `SnsService.sendSms`. -/
structure SmsParams where
  phone : JsString
  protocolName : JsString
  subject : JsString
  body : JsString
  category : JsString
  deriving DecidableEq, Repr

/-- A message that a provider accepted. -/
inductive Sent where
  | email (m : EmailMessage)
  | telegram (p : TelegramParams)
  | sms (p : SmsParams)
  deriving DecidableEq, Repr

/-- A webhook event that was dispatched. -/
structure WebhookEvent where
  protocolId : JsString
  event : WebhookEventType
  notificationId : NotificationId
  wallet : JsString
  status : JsString
  channels : List (Channel × Bool × Option JsString) := []
  deliveredAt : Option Millis := none
  error : Option JsString := none
  deriving DecidableEq, Repr

/-- The stores and services. -/
structure World where
  /-- The clock. -/
  now : Millis
  /-- The number of UUIDs drawn. -/
  nextUuid : Nat
  idempotency : JsString → Option (Timed NotificationId)
  identityCache : JsString → Option (Timed CachedIdentity)
  redis : RedisKey → Option (Timed JsString)
  notifications : List Notification
  templates : List NotificationTemplate
  telegramTemplates : List TelegramTemplate
  protocolSettings : JsString → Option ProtocolSettings
  protocols : JsString → Option ProtocolRow
  apiKeys : JsString → Option ApiKey
  subscriptions : List ProtocolSubscription
  scheduled : List ScheduledNotification
  campaigns : List Campaign
  portalUsers : List PortalUser
  unsubscribeTokens : List UnsubscribeTokenRow
  suppressions : List EmailSuppression
  bounces : List EmailBounce
  deliveries : List EmailDelivery
  digestRows : List DigestRow
  channelDeliveries : List ChannelDelivery
  sandboxReceipts : List SandboxReceipt
  /-- The active assets of a protocol. -/
  assets : JsString → List ProtocolAsset
  /-- The oldest verified domain of a protocol. -/
  customDomain : JsString → Option JsString
  /-- Every job ever added to the notification queue. -/
  notificationQueue : List QueuedJob
  /-- The identifiers producers chose whose jobs BullMQ has not removed yet. -/
  takenJobIds : List Nat
  /-- Adds whose caller gave up on them and that may still complete. -/
  pendingAdds : List QueuedJob
  /-- Every job ever added to the digest queue. -/
  digestQueue : List QueuedDigest
  webhookEvents : List WebhookEvent
  /-- The registry on chain. -/
  chain : JsString → Option IdentityAccount
  /-- The registry on devnet. -/
  devnet : JsString → Option IdentityAccount
  /-- The wallets registered on chain. -/
  registered : List JsString
  /-- Whether a chat has started a protocol's own bot. -/
  migrated : JsString → JsString → Bool
  /-- What providers accepted. -/
  sent : List Sent

/-- A fresh installation: nothing stored and nobody registered. -/
def World.blank : World where
  now := 0
  nextUuid := 0
  idempotency _ := none
  identityCache _ := none
  redis _ := none
  notifications := []
  templates := []
  telegramTemplates := []
  protocolSettings _ := none
  protocols _ := none
  apiKeys _ := none
  subscriptions := []
  scheduled := []
  campaigns := []
  portalUsers := []
  unsubscribeTokens := []
  suppressions := []
  bounces := []
  deliveries := []
  digestRows := []
  channelDeliveries := []
  sandboxReceipts := []
  assets _ := []
  customDomain _ := none
  notificationQueue := []
  takenJobIds := []
  pendingAdds := []
  digestQueue := []
  webhookEvents := []
  chain _ := none
  devnet _ := none
  registered := []
  migrated _ _ := false
  sent := []

end HeraldGateway
