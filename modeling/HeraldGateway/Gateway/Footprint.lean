import HeraldGateway.Gateway.System
import HeraldGateway.Async.Along

/-!
# What the tasks of the gateway call

The calls that matter to what a run of the gateway does for its recipients: adds to the notification
queue, schedules, deliveries, and what a worker writes about them.
-/

namespace HeraldGateway

open Async

/-- The job that a call adds to the notification queue, with the identifier its producer chose. -/
def Op.added? : Op → Option (NotificationJobData × Option Nat)
  | .notificationAdd data jobId _ => some (data, jobId)
  | _ => none

/-- A call that neither produces a job nor delivers one. -/
def Op.plain : Op → Bool
  | .notificationAdd .. | .scheduledCreate _ | .scheduledUpdate .. | .sendEmail _ | .sendTelegram _
  | .sendSms _ | .digestCreate .. | .protocolAssetFindMany _ | .suppressionDeleteMany _ | .render _ => false
  | .notificationUpdate _ u => u.status.isNone
  | _ => true

/-- A plain call that neither stores a new notification nor decrypts contacts. -/
def Op.routine : Op → Bool
  | .notificationCreate _ | .notificationCreateMany _ | .decryptAllChannels _ => false
  | o => o.plain

/-- A routine call that tells no webhooks. -/
def Op.untold : Op → Bool
  | .webhookDispatch _ => false
  | o => o.routine

/-- The notification is recorded as sent, to all channels or to some. -/
def NotificationStatus.isSent : NotificationStatus → Bool
  | .delivered | .partialSend => true
  | _ => false

/-- An update that records that a notification was sent. -/
def NotificationUpdate.recordsSent (u : NotificationUpdate) : Bool := u.status.any (·.isSent)

/-- A call that produces no job. -/
def Op.quiet : Op → Bool
  | .notificationAdd .. | .scheduledCreate _ | .scheduledUpdate .. => false
  | _ => true

/-- What a call has to satisfy, and which replies are considered. -/
abbrev Allowed := Op → Prop

/-- Which replies are considered. -/
abbrev Good := (o : Op) → Except Err o.Res → Prop

/-- The calls of a function of the gateway are allowed while replies are good. -/
abbrev Gateway.Within {α : Type} (A : Allowed) (G : Good) (p : Gateway α) : Prop :=
  Async.Within (S := Calls) (ε := Err) A G p

/-- A link that is signed for the wallet and the category of a job. -/
def UnsubscribeLink.Names (link : UnsubscribeLink) (job : NotificationJobData) : Prop :=
  link.walletHash = job.walletHash.getD [] ∧
    link.category = if truthy (some job.category) then some job.category else none

/-- What a caller that ignores errors takes a reply for. -/
def heard : Except Err (Option JsString) → Option JsString
  | .ok v => v
  | .error _ => none

/-- A read finds no mark. -/
def Missing (G : Good) (key : RedisKey) : Prop := ∃ r, G (.redisGet key) r ∧ truthy (heard r) = false

/-- A message to a group is one of which no mark was found that it was sent before. -/
def Unmarked (G : Good) (job : NotificationJobData) (p : TelegramParams) : Prop :=
  p.target = .group → ∃ r, G (.redisGet (.groupSent job.notificationId p.chatId)) r ∧ truthy (heard r) = false

/-- A message of the delivery of a job: the chat of its subscriber was not found to have muted it, and if it
is to another chat, then to a group that it was not found to be posted to. -/
structure Conveys (G : Good) (chatId : JsString) (job : NotificationJobData) (p : TelegramParams) : Prop where
  protocolId : p.protocolId = job.protocolId
  category : p.category = job.category
  subscriber : p.target = .subscriber → p.chatId = chatId
  protocolMute : Missing G (.protocolMute chatId job.protocolId)
  categoryMute : Missing G (.categoryMute chatId job.category)
  unmarked : Unmarked G job p

/-- A call of a Telegram delivery other than that which sends: reads, and marks of what it met and did. -/
def Op.relays : Op → Bool
  | .redisGet _ | .protocolSettingsFindUnique _ | .telegramTemplateFindFirst .. | .isMigrated ..
  | .sendSinglePrompt .. | .pinGroupMessage .. => true
  | .redisSetex (.blocked _) .. | .redisSetex (.groupSent ..) .. | .redisSetex (.groupMessage ..) .. => true
  | _ => false

theorem relays_routine {o : Op} (h : o.relays = true) : o.routine = true := by
  cases o with
  | redisGet | protocolSettingsFindUnique | telegramTemplateFindFirst | isMigrated | sendSinglePrompt
  | pinGroupMessage | redisSetex => rfl
  | _ => cases h

/-- What a dispatch may call that is not plain: the protocol's assets, the renderer with a link of the job,
and the providers, the mail provider only if there is an address and the suppression of the job's wallet was
not found or not looked up, and a group only if no mark was found that it was posted to. -/
structure Dispatches (A : Allowed) (G : Good) (channels : DecryptedChannels)
    (job : NotificationJobData) : Prop where
  assets : A (.protocolAssetFindMany job.protocolId)
  render : ∀ r : RenderRequest, r.unsubscribeUrl.Names job → A (.render r)
  email : truthy channels.email = true →
    truthy job.walletHash = false ∨ G (.suppressionFindUnique (job.walletHash.getD [])) (.ok none) →
      ∀ m : EmailMessage, m.listUnsubscribe.Names job → A (.sendEmail m)
  telegram : ∀ p, Unmarked G job p → A (.sendTelegram p)
  sms : ∀ p, A (.sendSms p)

/-- What an attempt of a notification job may call that is not plain. -/
structure Attempts (A : Allowed) (G : Good) (job : NotificationJobData) : Prop where
  status : ∀ u, A (.notificationUpdate job.notificationId u)
  clear : A (.suppressionDeleteMany (job.walletHash.getD []))
  decrypt : ∀ identity, A (.decryptAllChannels identity)
  buffer : job.digestMode = true → ∀ time, A (.digestCreate (job.walletHash.getD []) job.protocolId
    job.subject job.category time)
  sandbox : job.production = false → Dispatches A G (job.testContact.getD {}) job
  production : job.production = true → ∀ identity channels,
    G (.decryptAllChannels identity) (.ok channels) → channels.hasAny = true →
      Dispatches A G channels job

/-- An add without an identifier of its own, as `enqueueNotification` makes it. -/
abbrev Op.enqueue (data : NotificationJobData) : Op :=
  .notificationAdd data none (some ENQUEUE_TIMEOUT_MS)

/-- What a notify request may call that is not plain: it adds its job if the scanner passes it and the
lookup of its template, if it names one, gave an approved template or none. -/
structure NotifyAdds (env : Env) (A : Allowed) (G : Good) (dto : NotifyDto)
    (protocol : AuthenticatedProtocol) : Prop where
  status : ∀ id u, A (.notificationUpdate id u)
  untemplated : protocol.environment = .production → truthy dto.templateId = false →
    (Scanner.scan dto.subject dto.body).verdict ≠ .block →
      ∀ id, A (.enqueue (productionJob env id dto protocol))
  templated : protocol.environment = .production → truthy dto.templateId = true →
    ∀ found : Option TemplateStatus,
      G (.templateFindFirst (dto.templateId.getD []) protocol.protocolId) (.ok found) →
        (∀ status ∈ found, status = .approved) →
          (Scanner.scan dto.subject dto.body).verdict ≠ .block →
            ∀ id, A (.enqueue (productionJob env id dto protocol))
  sandbox : protocol.environment = .sandbox →
    ∀ id contact, A (.enqueue (sandboxJob env id dto protocol contact))

/-- An update of a schedule that leaves its identifier and its wallet alone. -/
def Rearms (u : ScheduledNotification → ScheduledNotification) : Prop :=
  ∀ r, ((u r).id, (u r).wallet) = (r.id, r.wallet)

/-- What a pass of the scheduler may call that is not plain. -/
structure Reconciles (env : Env) (A : Allowed) (G : Good) : Prop where
  update : ∀ now overdue, G (.scheduledFindOverdue now) (.ok overdue) → ∀ job ∈ overdue,
    ∀ u, Rearms u → A (.scheduledUpdate job.id u)
  add : ∀ now overdue, G (.scheduledFindOverdue now) (.ok overdue) → ∀ job ∈ overdue,
    truthy job.wallet = true → ∀ id,
      A (.notificationAdd (reconciledJob env id job (job.wallet.getD [])) (some job.id) none)

/-- What a campaign may call that is not plain. -/
def CampaignAdds (env : Env) (A : Allowed) (G : Good) (id : JsString) : Prop :=
  ∀ campaign, G (.campaignFindUnique id) (.ok (some campaign)) →
    ∀ wallet ∈ campaign.wallets, ∀ id, A (.enqueue (campaignJob env campaign id wallet))

/-- What a task may call that is not plain. -/
def Task.Allows (env : Env) (A : Allowed) (G : Good) : Task → Prop
  | notify dto protocol => NotifyAdds env A G dto protocol
  | notifyBatch dto protocol => ∀ n ∈ dto.notifications, NotifyAdds env A G (dto.merged n) protocol
  | systemBroadcast dto protocol => ∀ wallet, NotifyAdds env A G
      { wallet := wallet, category := some dto.category, subject := dto.subject, body := dto.body }
      protocol
  | broadcast dto protocol => ∀ targets, G (.subscriptionFindMany protocol.protocolId) (.ok targets) →
      ∀ target ∈ targets, ∀ id, A (.enqueue (broadcastJob dto protocol id target))
  | scheduleOnce dto protocol => ∀ cron date,
      A (.scheduledCreate (scheduledRow protocol.protocolId dto cron date))
  | scheduleRecurring dto protocol => ∀ (row : ScheduleOnceDto) cron date, row.wallet = dto.wallet →
      A (.scheduledCreate (scheduledRow protocol.protocolId row cron date))
  | launchCampaign id _ | enqueueCampaign id => CampaignAdds env A G id
  | reconcile => Reconciles env A G
  | deliver job => Attempts A G job
  | deliverDigest _ => ∀ identity channels job, G (.decryptAllChannels identity) (.ok channels) →
      job.walletHash = none → job.category = js "system" → Dispatches A G channels job
  | cancelScheduled .. | flushDigests | resendEvent _ | sesMessage _ | unsubscribe _ => True

end HeraldGateway
