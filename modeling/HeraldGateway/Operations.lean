import HeraldGateway.Async.Pool
import HeraldGateway.Async.Prog
import HeraldGateway.World
import Mathlib.Data.List.Sort

/-!
# The calls the gateway makes, and how they are answered

`Op` lists the calls of the modelled functions to Redis, the database, BullMQ, the chain, the enclave
and the delivery providers. `World.serve` answers one from the stores; `handle` lets the surroundings
interfere: a call may fail without effect, take effect and be reported as failed, and a queue add under
a timeout may be given up on and complete later.
-/

namespace HeraldGateway

open Async

/-- What the deployment and its cryptography contribute. -/
structure Env where
  /-- `createHash('sha256').update(s).digest('hex')` -/
  sha256 : JsString → JsString
  /-- Opening an encrypted contact with its nonce. -/
  decrypt : List UInt8 → List UInt8 → Option JsString
  /-- `encryptForUser`: key, subject, message and action link to ciphertext and nonce. -/
  encryptForUser : List UInt8 → JsString → JsString → Option JsString → Option (JsString × JsString)
  /-- Decrypting a bot token, where the encryption key is set. -/
  decryptBotToken : Option (List UInt8 → Except Err JsString)
  /-- `ENABLE_DEVNET_SANDBOX_RESOLUTION === 'true'` -/
  devnetSandboxResolution : Bool
  /-- Whether the devnet client was initialised. -/
  devnetClient : Bool
  /-- Whether Herald's own bot was initialised. -/
  telegramReady : Bool
  /-- Whether the SMS client was initialised. -/
  smsReady : Bool
  /-- The name of the configured mail provider. -/
  mailProvider : JsString
  /-- The HMAC signature of an unsubscribe payload, in base64url. -/
  unsubscribeSign : JsString → JsString
  /-- `Buffer.from(s, 'base64url')` -/
  base64url : JsString → List UInt8
  /-- `JSON.stringify` of a payload, in base64url. -/
  encodePayload : UnsubscribePayload → JsString
  /-- `JSON.parse` of what base64url stands for, unless it throws. -/
  decodePayload : JsString → Option JsonPayload
  /-- The hash under which a token is stored. -/
  tokenHash : JsString → JsString
  /-- `toLocaleTimeString` with hours and minutes. -/
  localeTime : Millis → JsString

/-- A deployment whose cryptography is transparent: what is encrypted and hashed can be read. -/
def Env.transparent : Env where
  sha256 s := s
  decrypt ciphertext _ := some (ciphertext.map UInt8.toUInt16)
  encryptForUser _ subject message _ := some (subject ++ message, [])
  decryptBotToken := none
  devnetSandboxResolution := false
  devnetClient := false
  telegramReady := true
  smsReady := true
  mailProvider := js "ses"
  unsubscribeSign payload := payload
  base64url s := s.map UInt16.toUInt8
  encodePayload payload := payload.walletHash
  decodePayload payload := some (UnsubscribePayload.json ⟨payload, none, none, 4102444800⟩)
  tokenHash token := token
  localeTime _ := js "12:00 AM"

/-- A call. -/
inductive Op where
  /-- `Date.now()` -/
  | now
  /-- `uuidv4()` -/
  | uuid
  -- Redis
  | idempotencySetNx (key : JsString) (id : NotificationId) (ttl : Nat)
  | idempotencyGet (key : JsString)
  | idempotencyDel (key : JsString)
  | identityCacheGet (wallet : JsString)
  | identityCacheSetex (wallet : JsString) (ttl : Nat) (entry : CachedIdentity)
  | redisGet (key : RedisKey)
  | redisSetex (key : RedisKey) (ttl : Nat) (value : JsString)
  | redisIncr (key : RedisKey)
  | redisExpire (key : RedisKey) (ttl : Nat)
  | redisDel (key : RedisKey)
  -- the database
  | templateFindFirst (id protocolId : JsString)
  | templateFindUnique (id : JsString)
  | telegramTemplateFindFirst (protocolId category : JsString) (templateId : Option JsString)
  | notificationCreate (n : NewNotification)
  | notificationCreateMany (ns : List NewNotification)
  | notificationUpdate (id : NotificationId) (u : NotificationUpdate)
  | notificationFindUnique (id : JsString)
  | notificationFindByKey (key : JsString) (since : Millis)
  | notificationFindByWalletHash (walletHash : JsString)
  | notificationFindBySesMessageId (sesMessageId : JsString)
  | apiKeyFindUnique (id : JsString)
  | protocolSettingsFindUnique (protocolId : JsString)
  | protocolFindUnique (id : JsString)
  | protocolAssetFindMany (protocolId : JsString)
  | dkimKeyFindFirst (protocolId : JsString)
  | subscriptionFindMany (protocolId : JsString)
  | subscriptionCount (protocolId : JsString)
  | subscriptionFindByWalletHash (walletHash : JsString)
  | scheduledCreate (data : Nat → ScheduledNotification)
  | scheduledFindOverdue (now : Millis)
  | scheduledUpdate (id : Nat) (u : ScheduledNotification → ScheduledNotification)
  | scheduledCancel (id : Nat) (protocolId : JsString)
  | campaignFindUnique (id : JsString)
  | campaignFindFirst (id protocolId : JsString)
  | campaignUpdate (id : JsString) (u : Campaign → Campaign)
  | portalUserFindUnique (walletHash : JsString)
  | portalUserUpdate (walletHash : JsString) (u : PortalUser → PortalUser)
  | unsubscribeTokenCreate (tokenHash : JsString)
  | unsubscribeTokenFindUnique (tokenHash : JsString)
  | unsubscribeTokenUpdate (tokenHash : JsString) (usedAt : Millis)
  | suppressionFindUnique (walletHash : JsString)
  | suppressionUpsert (walletHash : JsString) (reason : SuppressionReason) (id : NotificationId)
  | suppressionDeleteMany (walletHash : JsString)
  | bounceFindFirst (sesMessageId : JsString) (bounceType : Option BounceType)
  | bounceCreate (id : NotificationId) (walletHash : JsString) (bounceType : BounceType)
      (sesMessageId : JsString) (diagnosticCode : Option JsString)
  | bounceFindLatestHard (walletHash : JsString)
  | bounceCountSoft (walletHash : JsString) (after : Millis)
  | deliveryCreate (id : NotificationId) (sesMessageId : JsString) (smtpResponse : Option JsString)
      (processingTime : Option Nat)
  | deliveryFindLatest (walletHash : JsString)
  | digestCreate (walletHash protocolId subject category : JsString) (scheduledFor : Millis)
  | digestFindDue (now : Millis)
  | digestMarkSent (ids : List Nat) (now : Millis)
  | channelDeliveryCreateAll (id : NotificationId) (outcomes : List ChannelDeliveryOutcome)
  | sandboxReceiptCreate (r : SandboxReceipt)
  | meteringIncrement (protocolId : JsString)
  -- the queues
  | notificationAdd (data : NotificationJobData) (jobId : Option Nat) (timeoutMs : Option Nat)
  | digestAdd (data : DigestJobData) (addedAt : Millis)
  | webhookDispatch (e : WebhookEvent)
  -- the chain and the enclave
  | fetchIdentityAccount (wallet : JsString)
  | fetchDevnetIdentity (wallet : JsString)
  | fetchAllIdentities
  | decryptAllChannels (identity : IdentityAccount)
  -- storage, classification, rendering and the providers
  | storeNotificationPayload (protocolId recipientHash : JsString) (channel : Channel)
      (subject body : JsString)
  | classifyAndFlag (id : NotificationId) (protocolId : JsString)
  | render (r : RenderRequest)
  | ensureVerified (email : JsString)
  | sendEmail (m : EmailMessage)
  | sendTelegram (p : TelegramParams)
  | pinGroupMessage (chatId messageId : JsString) (customBotToken : Option JsString)
  | isMigrated (chatId protocolId : JsString)
  | sendSinglePrompt (chatId protocolId : JsString)
  | answerCbQuery (queryId : JsString) (text : Option JsString)
  | sendMessage (chatId text : JsString)
  | getChatMember (chatId userId : JsString)
  | sendSms (p : SmsParams)

/-- What a call gives. -/
abbrev Op.Res : Op → Type
  | now => Millis
  | uuid => NotificationId
  | idempotencySetNx .. => Bool
  | idempotencyGet _ => Option NotificationId
  | identityCacheGet _ => Option CachedIdentity
  | redisGet _ | notificationFindUnique _ => Option JsString
  | templateFindFirst .. | templateFindUnique _ => Option TemplateStatus
  | telegramTemplateFindFirst .. => Option JsString
  | notificationFindByKey .. | notificationFindBySesMessageId _ => Option Notification
  | notificationFindByWalletHash _ => Bool
  | apiKeyFindUnique _ => Option ApiKey
  | protocolSettingsFindUnique _ => Option ProtocolSettings
  | protocolFindUnique _ => Option ProtocolRow
  | protocolAssetFindMany _ => List ProtocolAsset
  | dkimKeyFindFirst _ => Option JsString
  | subscriptionFindMany _ => List ProtocolSubscription
  | subscriptionCount _ => Nat
  | subscriptionFindByWalletHash _ => Option JsString
  | scheduledFindOverdue _ => List ScheduledNotification
  | campaignFindUnique _ | campaignFindFirst .. => Option Campaign
  | portalUserFindUnique _ => Option PortalUser
  | unsubscribeTokenFindUnique _ => Option UnsubscribeTokenRow
  | suppressionFindUnique _ => Option EmailSuppression
  | bounceFindFirst .. => Bool
  | bounceFindLatestHard _ | deliveryFindLatest _ => Option Millis
  | bounceCountSoft .. => Nat
  | digestFindDue _ => List DigestRow
  | fetchIdentityAccount _ | fetchDevnetIdentity _ => Option IdentityAccount
  | fetchAllIdentities => List JsString
  | decryptAllChannels _ => DecryptedChannels
  | storeNotificationPayload .. | getChatMember .. => JsString
  | render _ => Rendered
  | sendEmail _ | sendTelegram _ | sendSms _ => JsString
  | isMigrated .. => Bool
  | _ => Unit

/-- The calls of the gateway. -/
abbrev Calls : Signature := ⟨Op, Op.Res⟩

/-- A function of the gateway. -/
abbrev Gateway (α : Type) := Prog Calls Err α

/-- How the surroundings treat a call. -/
inductive Fault where
  /-- It is answered. -/
  | none
  /-- It fails without effect. -/
  | refused (e : ExternalError)
  /-- It takes effect and is reported as failed. -/
  | unheard (e : ExternalError)
  /-- Its caller gives up on it. -/
  | stalled
  deriving DecidableEq, Repr

/-- Whether a call takes effect. -/
def Fault.applies : Fault → Bool
  | none | unheard _ => true
  | refused _ | stalled => false

/-- What a caller sees of a call that is answered by `r`, under a fault. -/
def Fault.meet {σ α : Type} (f : Fault) (s : σ) (r : Except Err α × σ) : Except Err α × σ :=
  match f with
  | .none => r
  | .refused e => (.error (.external e), s)
  | .unheard e => (.error (.external e), r.2)
  | .stalled => (.error (.error (js "stalled")), s)

/-- A call that succeeds was answered. -/
theorem Fault.meet_ok {σ α : Type} {f : Fault} {s : σ} {r : Except Err α × σ} {a : α}
    (h : (f.meet s r).1 = .ok a) : f.meet s r = r := by
  cases f with
  | none => rfl
  | refused e | unheard e | stalled => cases h

/-- A call leaves the stores alone, or takes effect as if it was answered. -/
theorem Fault.meet_cases {σ α : Type} {f : Fault} {s : σ} {r : Except Err α × σ} :
    (f.meet s r).2 = s ∨ f.applies = true ∧ (f.meet s r).2 = r.2 := by
  cases f with
  | none | unheard e => exact .inr ⟨rfl, rfl⟩
  | refused e | stalled => exact .inl rfl

/-- What the surroundings decide about a call: its fate, and what an outside party answers. -/
structure Choice where
  fault : Fault := .none
  text : JsString := []
  rendered : Rendered := ⟨[], []⟩
  deriving DecidableEq, Repr

/-- The entry of a list with the greatest value of `f`, the first among equals. -/
def latest {α : Type} (f : α → Nat) : List α → Option α
  | [] => none
  | a :: as => match latest f as with
    | some b => if f a < f b then some b else some a
    | none => some a

/-- Change the entries of a list that satisfy `p`. -/
def updateWhere {α : Type} (p : α → Bool) (u : α → α) (as : List α) : List α :=
  as.map fun a => if p a then u a else a

/-- `emailSuppression.upsert`: a row that exists keeps the notification that caused it. -/
def upsertSuppression (new : EmailSuppression) (rows : List EmailSuppression) :
    List EmailSuppression :=
  if rows.any (·.walletHash == new.walletHash) then
    updateWhere (·.walletHash == new.walletHash)
      (fun r => { r with reason := new.reason, suppressedAt := new.suppressedAt }) rows
  else rows ++ [new]

/-- The contacts that the enclave decrypts: those of the active channels whose ciphertext opens. -/
def Env.decryptAllChannels (env : Env) (i : IdentityAccount) : DecryptedChannels where
  email := if i.channelEmail && !i.encryptedEmail.isEmpty then env.decrypt i.encryptedEmail i.nonce
    else none
  telegramChatId := if i.channelTelegram && !i.encryptedTelegramId.isEmpty then
    env.decrypt i.encryptedTelegramId i.nonceTelegram else none
  phone := if i.channelSms && !i.encryptedPhone.isEmpty then env.decrypt i.encryptedPhone i.nonceSms
    else none

/-- `parseInt(count, 10)` of a counter Redis keeps. -/
def parseCount (s : JsString) : Nat := s.foldl (fun n d => n * 10 + (d.toNat - 48)) 0

/-- A notification stored under a key since a given time. -/
def matchesKey (k : JsString) (since : Millis) (n : Notification) : Bool :=
  n.idempotencyKey == some k && decide (since ≤ n.queuedAt)

namespace World

/-- A row would break a unique column of `notifications`. -/
def clashes (s : World) (n : NewNotification) : Bool :=
  s.notifications.any fun r => r.id == n.id ||
    (r.idempotencyKey == n.idempotencyKey && n.idempotencyKey.isSome)

/-- `notification.create` -/
def createNotification (s : World) (n : NewNotification) : Except Err Unit × World :=
  if s.clashes n then (.error .uniqueViolation, s)
  else (.ok (), { s with notifications := s.notifications ++ [n.row s.now] })

/-- `notification.createMany`, one statement: all rows or none. -/
def createNotifications (s : World) (ns : List NewNotification) : Except Err Unit × World :=
  match ns with
  | [] => (.ok (), s)
  | n :: ns =>
    match s.createNotification n with
    | (.error e, _) => (.error e, s)
    | (.ok _, s') => match s'.createNotifications ns with
      | (.error e, _) => (.error e, s)
      | r => r

/-- `notification.update` -/
def updateNotification (s : World) (id : NotificationId) (u : NotificationUpdate) :
    Except Err Unit × World :=
  if s.notifications.any (·.id == id) then
    (.ok (), { s with notifications := updateWhere (·.id == id) u.apply s.notifications })
  else (.error .recordNotFound, s)

/-- `queue.add`: a job under an identifier that is taken is ignored. -/
def addJob (s : World) (j : QueuedJob) : World :=
  if j.jobId.any s.takenJobIds.contains then s
  else
    { s with
      notificationQueue := s.notificationQueue ++ [j]
      takenJobIds := s.takenJobIds ++ j.jobId.toList }

/-- A pending add completes: its job is on the queue. -/
def completeAdd (s : World) (i : Nat) : Option World :=
  s.pendingAdds[i]?.map fun j =>
    { s.addJob { j with addedAt := s.now } with pendingAdds := s.pendingAdds.eraseIdx i }

/-- `digestQueue.add` -/
def addDigest (s : World) (j : QueuedDigest) : World :=
  if s.digestQueue.any fun q => q.data.walletHash == j.data.walletHash && q.addedAt == j.addedAt then s
  else { s with digestQueue := s.digestQueue ++ [j] }

/-- Set a Redis key. -/
def setRedis (s : World) (k : RedisKey) (v : Option (Timed JsString)) : World :=
  { s with redis := fun k' => if k' = k then v else s.redis k' }

/-- What a Redis key holds, unless it has expired. -/
def liveRedis (s : World) (k : RedisKey) : Option (Timed JsString) :=
  (s.redis k).filter fun t => decide (s.now < t.expiresAt)

/-- Set an idempotency key. -/
def setIdempotency (s : World) (k : JsString) (v : Option (Timed NotificationId)) : World :=
  { s with idempotency := fun k' => if k' = k then v else s.idempotency k' }

/-- The notification that holds an idempotency key at present. -/
def holder (s : World) (k : JsString) : Option NotificationId :=
  Timed.live s.now (s.idempotency k)

/-- Add a value to a table's answers: `ok` and the state. -/
def reply {α : Type} (s : World) (a : α) : Except Err α × World := (.ok a, s)

/-- Answer a call from the stores. -/
def serve (env : Env) (c : Choice) (s : World) : (o : Op) → Except Err o.Res × World
  | .now => s.reply s.now
  | .uuid => ({ s with nextUuid := s.nextUuid + 1 } : World).reply (.uuid s.nextUuid)
  | .idempotencySetNx k id ttl =>
    match s.holder k with
    | some _ => s.reply false
    | none => (s.setIdempotency k (some ⟨id, s.now + ttl * 1000⟩)).reply true
  | .idempotencyGet k => s.reply (s.holder k)
  | .idempotencyDel k => (s.setIdempotency k none).reply ()
  | .identityCacheGet w => s.reply (Timed.live s.now (s.identityCache w))
  | .identityCacheSetex w ttl e =>
    ({ s with identityCache := fun w' =>
        if w' = w then some ⟨e, s.now + ttl * 1000⟩ else s.identityCache w' } : World).reply ()
  | .redisGet k => s.reply (Timed.live s.now (s.redis k))
  | .redisSetex k ttl v => (s.setRedis k (some ⟨v, s.now + ttl * 1000⟩)).reply ()
  | .redisIncr k =>
    let held : Timed JsString := match s.liveRedis k with
      | some t => t
      | none => ⟨js "0", neverExpires⟩
    (s.setRedis k (some { held with value := decimal (parseCount held.value + 1) })).reply ()
  | .redisExpire k ttl =>
    (s.setRedis k ((s.liveRedis k).map fun t => { t with expiresAt := s.now + ttl * 1000 })).reply ()
  | .redisDel k => (s.setRedis k none).reply ()
  | .templateFindFirst id p =>
    s.reply ((s.templates.find? fun t => t.id == id && t.protocolId == p).map (·.status))
  | .templateFindUnique id => s.reply ((s.templates.find? fun t => t.id == id).map (·.status))
  | .telegramTemplateFindFirst p category id =>
    s.reply ((s.telegramTemplates.find? fun t => t.protocolId == p && t.isActive &&
      if truthy id then some t.id == id else t.category == category).map (·.textTemplate))
  | .notificationCreate n => s.createNotification n
  | .notificationCreateMany ns => s.createNotifications ns
  | .notificationUpdate id u => s.updateNotification id u
  | .notificationFindUnique id =>
    s.reply ((s.notifications.find? fun n => n.id.text == id).map (·.protocolId))
  | .notificationFindByKey k since => s.reply (s.notifications.find? (matchesKey k since))
  | .notificationFindByWalletHash h => s.reply (s.notifications.any (·.walletHash == h))
  | .notificationFindBySesMessageId m =>
    s.reply (s.notifications.find? fun n => n.sesMessageId == some m)
  | .apiKeyFindUnique id => s.reply (s.apiKeys id)
  | .protocolSettingsFindUnique p => s.reply (s.protocolSettings p)
  | .protocolFindUnique p => s.reply (s.protocols p)
  | .protocolAssetFindMany p => s.reply (s.assets p)
  | .dkimKeyFindFirst p => s.reply (s.customDomain p)
  | .subscriptionFindMany p =>
    s.reply (s.subscriptions.filter fun r => r.protocolId == p && r.active && r.walletPubkey.isSome)
  | .subscriptionCount p =>
    s.reply (s.subscriptions.filter fun r => r.protocolId == p && r.active).length
  | .subscriptionFindByWalletHash h =>
    s.reply ((latest (·.subscribedAt)
      (s.subscriptions.filter fun r => r.walletHash == h && r.active && r.walletPubkey.isSome)).bind
        (·.walletPubkey))
  | .scheduledCreate data =>
    ({ s with scheduled := s.scheduled ++ [data s.scheduled.length] } : World).reply ()
  | .scheduledFindOverdue now =>
    s.reply ((s.scheduled.filter fun r => r.status == .pending && decide (r.nextRunAt ≤ Int.ofNat now)).take 200)
  | .scheduledUpdate id u =>
    if s.scheduled.any (·.id == id) then
      ({ s with scheduled := updateWhere (·.id == id) u s.scheduled } : World).reply ()
    else (.error .recordNotFound, s)
  | .scheduledCancel id p =>
    let pending := fun r : ScheduledNotification =>
      r.id == id && r.protocolId == p && r.status == .pending
    let cancel := fun r : ScheduledNotification => { r with status := .cancelled }
    ({ s with scheduled := updateWhere pending cancel s.scheduled } : World).reply ()
  | .campaignFindUnique id => s.reply (s.campaigns.find? (·.id == id))
  | .campaignFindFirst id p => s.reply (s.campaigns.find? fun c => c.id == id && c.protocolId == p)
  | .campaignUpdate id u =>
    if s.campaigns.any (·.id == id) then
      ({ s with campaigns := updateWhere (·.id == id) u s.campaigns } : World).reply ()
    else (.error .recordNotFound, s)
  | .portalUserFindUnique h => s.reply (s.portalUsers.find? (·.walletHash == h))
  | .portalUserUpdate h u =>
    if s.portalUsers.any (·.walletHash == h) then
      ({ s with portalUsers := updateWhere (·.walletHash == h) u s.portalUsers } : World).reply ()
    else (.error .recordNotFound, s)
  | .unsubscribeTokenCreate h =>
    if s.unsubscribeTokens.any (·.tokenHash == h) then (.error .uniqueViolation, s)
    else ({ s with unsubscribeTokens := s.unsubscribeTokens ++ [⟨h, none⟩] } : World).reply ()
  | .unsubscribeTokenFindUnique h => s.reply (s.unsubscribeTokens.find? (·.tokenHash == h))
  | .unsubscribeTokenUpdate h t =>
    if s.unsubscribeTokens.any (·.tokenHash == h) then
      let use := fun r : UnsubscribeTokenRow => { r with usedAt := some t }
      ({ s with unsubscribeTokens := updateWhere (·.tokenHash == h) use s.unsubscribeTokens } :
        World).reply ()
    else (.error .recordNotFound, s)
  | .suppressionFindUnique h => s.reply (s.suppressions.find? (·.walletHash == h))
  | .suppressionUpsert h reason id =>
    ({ s with suppressions := upsertSuppression ⟨h, reason, s.now, some id⟩ s.suppressions } :
      World).reply ()
  | .suppressionDeleteMany h =>
    ({ s with suppressions := s.suppressions.filter (·.walletHash != h) } : World).reply ()
  | .bounceFindFirst m t =>
    s.reply (s.bounces.any fun b => b.sesMessageId == m && (t == none || t == some b.bounceType))
  | .bounceCreate id h t m code =>
    ({ s with bounces := s.bounces ++ [⟨id, h, t, m, code, s.now⟩] } : World).reply ()
  | .bounceFindLatestHard h =>
    s.reply ((latest (·.bouncedAt)
      (s.bounces.filter fun b => b.walletHash == h && b.bounceType != .soft)).map (·.bouncedAt))
  | .bounceCountSoft h after =>
    s.reply (s.bounces.filter fun b =>
      b.walletHash == h && b.bounceType == .soft && decide (after < b.bouncedAt)).length
  | .deliveryCreate id m smtp time =>
    ({ s with deliveries := s.deliveries ++ [⟨id, m, smtp, time, s.now⟩] } : World).reply ()
  | .deliveryFindLatest h =>
    s.reply ((latest (·.deliveredAt) (s.deliveries.filter fun d =>
      s.notifications.any fun n => n.id == d.notificationId && n.walletHash == h)).map (·.deliveredAt))
  | .digestCreate h p subject category at_ =>
    ({ s with digestRows := s.digestRows ++
        [⟨s.digestRows.length, h, p, subject, category, s.now, at_, none⟩] } : World).reply ()
  | .digestFindDue now =>
    s.reply ((s.digestRows.filter fun r => r.scheduledFor ≤ now && r.sentAt.isNone).insertionSort
      fun a b => a.queuedAt ≤ b.queuedAt)
  | .digestMarkSent ids now =>
    ({ s with digestRows :=
        updateWhere (ids.contains ·.id) (fun r => { r with sentAt := some now }) s.digestRows } :
      World).reply ()
  | .channelDeliveryCreateAll id outcomes =>
    if s.notifications.any (·.id == id) then
      ({ s with channelDeliveries := s.channelDeliveries ++ outcomes.map fun o =>
          ⟨id, o, if o.success then some s.now else none⟩ } : World).reply ()
    else (.error .recordNotFound, s)
  | .sandboxReceiptCreate r =>
    ({ s with sandboxReceipts := s.sandboxReceipts ++ [r] } : World).reply ()
  | .meteringIncrement p =>
    ({ s with protocols := fun p' => if p' = p then
        (s.protocols p').map fun r => { r with sendsThisPeriod := r.sendsThisPeriod + 1 }
      else s.protocols p' } : World).reply ()
  | .notificationAdd data jobId _ => (s.addJob ⟨data, jobId, s.now⟩).reply ()
  | .digestAdd data at_ => (s.addDigest ⟨data, at_⟩).reply ()
  | .webhookDispatch e => ({ s with webhookEvents := s.webhookEvents ++ [e] } : World).reply ()
  | .fetchIdentityAccount w => s.reply (s.chain w)
  | .fetchDevnetIdentity w => s.reply (s.devnet w)
  | .fetchAllIdentities => s.reply s.registered
  | .decryptAllChannels i => s.reply (env.decryptAllChannels i)
  | .storeNotificationPayload .. => s.reply c.text
  | .classifyAndFlag .. => s.reply ()
  | .render _ => s.reply c.rendered
  | .ensureVerified _ => s.reply ()
  | .sendEmail m => ({ s with sent := s.sent ++ [.email m] } : World).reply c.text
  | .sendTelegram p => ({ s with sent := s.sent ++ [.telegram p] } : World).reply c.text
  | .pinGroupMessage .. => s.reply ()
  | .isMigrated chat p => s.reply (s.migrated chat p)
  | .sendSinglePrompt .. => s.reply ()
  | .answerCbQuery .. => s.reply ()
  | .sendMessage .. => s.reply ()
  | .getChatMember .. => s.reply c.text
  | .sendSms p => ({ s with sent := s.sent ++ [.sms p] } : World).reply c.text

/-- What a caller sees of a call that is answered by `r`, under a fault. -/
def meet {α : Type} (f : Fault) (s : World) (r : Except Err α × World) : Except Err α × World :=
  match f with
  | .none => r
  | .refused e => (.error (.external e), s)
  | .unheard e => (.error (.external e), r.2)
  | .stalled => (.error (.error (js "stalled")), s)

/-- A queue add under a timeout. One that is not heard of is left pending and may complete later. -/
def addWithTimeout (c : Choice) (s : World) (data : NotificationJobData) (jobId : Option Nat)
    (ms : Nat) : Except Err Unit × World :=
  let job : QueuedJob := ⟨data, jobId, s.now⟩
  match c.fault with
  | .none => (s.addJob job).reply ()
  | .refused e => (.error (.external e), s)
  | .unheard e => (.error (.external e), { s with pendingAdds := s.pendingAdds ++ [job] })
  | .stalled => (.error (.enqueueTimeout ms), { s with pendingAdds := s.pendingAdds ++ [job] })

/-- Answer a call, or not. Reading the clock and drawing a UUID cannot fail. -/
def handle (env : Env) : Handler Calls Err World Choice := fun c s o =>
  match o with
  | .now => s.serve env c .now
  | .uuid => s.serve env c .uuid
  | .notificationAdd data jobId (some ms) => addWithTimeout c s data jobId ms
  | o => meet c.fault s (s.serve env c o)

example {env : Env} {c : Choice} {s : World} : handle env c s .now = (.ok s.now, s) := by
  simp only [handle, serve, reply]

example {env : Env} {c : Choice} {s : World} {key : JsString} (h : c.fault = .none) :
    handle env c s (.idempotencyGet key) = (.ok (s.holder key), s) := by
  simp only [handle, meet, h, serve, reply]

end World

/-!
## Calls as functions

Each operation as a function of the gateway, and the ways the source treats the result of a call it does
not wait for or whose failure it ignores.
-/

/-- Make a call. -/
def call (o : Op) : Gateway o.Res := @Prog.perform Calls Err o

/-- `promise.catch(() => {})`, and `void promise` of a function that handles its own errors. -/
def swallow {α : Type} (p : Gateway α) : Gateway Unit :=
  p.andThen fun _ => .ret ()

/-- `promise.catch(() => null)` -/
def orNull {α : Type} (p : Gateway (Option α)) : Gateway (Option α) :=
  p.tryCatch fun _ => .ret none

/-- `QueueService.ENQUEUE_TIMEOUT_MS` -/
def ENQUEUE_TIMEOUT_MS : Nat := 10000

/-- `enqueueNotification`: a queue add that is given up on after `ENQUEUE_TIMEOUT_MS`. -/
def enqueueNotification (data : NotificationJobData) : Gateway Unit :=
  call (.notificationAdd data none (some ENQUEUE_TIMEOUT_MS))

/-!
## Steps of runs

Labels for writing down runs: which program goes on, and what its calls meet; and a recipient for them.
-/

section

variable {ρ E : Type}

/-- The next call of the `i`-th program meets the fault `f`. -/
def meets (i : Nat) (f : Fault) : Label ρ Choice E := .pick i (true, { fault := f })

/-- The next `n` calls of the `i`-th program are answered. -/
def proceeds (i n : Nat) : List (Label ρ Choice E) := List.replicate n (meets i .none)

/-- A recipient with an email address, who opted in to everything. -/
def recipient : IdentityAccount where
  owner := js "w"
  encryptedEmail := (js "w@useherald.xyz").map UInt16.toUInt8
  emailHash := []
  nonce := []
  registeredAt := 0
  optInAll := true
  optInDefi := true
  optInGovernance := true
  optInMarketing := true
  digestMode := false
  channelEmail := true
  channelTelegram := false
  channelSms := false
  encryptedTelegramId := []
  telegramIdHash := []
  nonceTelegram := []
  encryptedPhone := []
  phoneHash := []
  nonceSms := []

end

end HeraldGateway
