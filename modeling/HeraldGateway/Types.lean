import HeraldGateway.Js

/-!
# Data of the gateway

The values that requests, jobs and stored rows are made of (`common/types`, `notify.dto.ts` and the
columns of `prisma/schema.prisma` that the modelled functions read or write).
-/

namespace HeraldGateway

/-- Milliseconds since the epoch. -/
abbrev Millis := Nat

/-- The identifier of a notification: a drawn UUID, or the one the digest worker makes up. -/
inductive NotificationId where
  /-- The `n`-th UUID drawn. -/
  | uuid (n : Nat)
  /-- `digest-<wallet hash prefix>-<time>`. -/
  | digest (walletPrefix : JsString) (at_ : Millis)
  deriving DecidableEq, Repr

/-- The identifier as a string. -/
def NotificationId.text : NotificationId → JsString
  | uuid n => js "uuid-" ++ decimal n
  | digest walletPrefix at_ => js "digest-" ++ walletPrefix ++ js "-" ++ decimal at_

/-- A delivery channel, or some other string where a channel is expected. -/
inductive Channel where
  | email
  | telegram
  | sms
  | other (name : JsString)
  deriving DecidableEq, Repr

/-- `NotifyPriority`. -/
inductive Priority where
  | normal
  | important
  | critical
  deriving DecidableEq, Repr

/-- The status column of a notification. -/
inductive NotificationStatus where
  | queued
  | processing
  | delivered
  | partialSend
  | failed
  | optedOut
  | blocked
  | digested
  deriving DecidableEq, Repr

/-- `TemplateStatus`. -/
inductive TemplateStatus where
  | draft
  | pendingReview
  | approved
  | rejected
  deriving DecidableEq, Repr

/-- What a failing dependency threw. -/
structure ExternalError where
  message : JsString
  code : Option JsString := none
  statusCode : Option JsString := none
  description : Option JsString := none
  deriving DecidableEq, Repr

/-- An error in flight. -/
inductive Err where
  /-- A unique column already has the value (Prisma `P2002`). -/
  | uniqueViolation
  /-- The row to update does not exist (Prisma `P2025`). -/
  | recordNotFound
  /-- `withTimeout` gave up on a queue add. -/
  | enqueueTimeout (ms : Nat)
  /-- An `HttpException`. -/
  | http (status : Nat) (code : JsString)
  /-- `new Error(message)`. -/
  | error (message : JsString)
  /-- An error of a dependency. -/
  | external (e : ExternalError)
  deriving DecidableEq, Repr

/-- `err.message`. -/
def Err.message : Err → JsString
  | uniqueViolation => js "Unique constraint failed"
  | recordNotFound => js "Record to update not found."
  | enqueueTimeout ms => js "BullMQ enqueue timed out after " ++ decimal ms ++ js "ms"
  | http _ code => code
  | error m => m
  | external e => e.message

/-- `err.code`. -/
def Err.code : Err → Option JsString
  | uniqueViolation => some (js "P2002")
  | recordNotFound => some (js "P2025")
  | external e => e.code
  | _ => none

/-- `err.statusCode`. -/
def Err.statusCode : Err → Option JsString
  | external e => e.statusCode
  | _ => none

/-- The deployment environment of an API key. -/
inductive Environment where
  | production
  | sandbox
  deriving DecidableEq, Repr

/-- `AuthenticatedProtocol`: who a request comes from. -/
structure AuthenticatedProtocol where
  protocolId : JsString
  protocolPubkey : JsString
  apiKeyId : JsString
  tier : Nat
  environment : Environment
  name : Option JsString := none
  verificationStatus : Option JsString := none
  sendsThisPeriod : Option Nat := none
  overageEnabled : Option Bool := none
  deriving DecidableEq, Repr

/-- `NotifyDto`. -/
structure NotifyDto where
  wallet : JsString
  subject : JsString
  body : JsString
  category : Option JsString := none
  preferredChannel : Option Channel := none
  priority : Option Priority := none
  receipt : Option Bool := none
  idempotencyKey : Option JsString := none
  templateId : Option JsString := none
  telegramTemplateId : Option JsString := none
  batchChannels : Option (List Channel) := none
  batchExcludeChannels : Option (List Channel) := none
  variableValues : Option (List (JsString × JsString)) := none
  deriving DecidableEq, Repr

/-- The status of an answer to a notify request. -/
inductive ResponseStatus where
  | queued
  | optedOut
  | duplicate
  | failed
  | blocked
  deriving DecidableEq, Repr

/-- The masked contacts of a sandbox answer. -/
structure MaskedContact where
  email : Option JsString
  telegram : Option JsString
  sms : Option JsString
  deriving DecidableEq, Repr

/-- `NotifyResponseDto`. The identifier is absent where the batch endpoint answers with an empty one. -/
structure NotifyResponseDto where
  notificationId : Option NotificationId
  status : ResponseStatus
  errorCode : Option JsString := none
  recipientRegistered : Option Bool
  estimatedDeliveryMs : Nat
  receiptTx : Option JsString := none
  environment : Option Environment := none
  sandboxMode : Option Bool := none
  testContact : Option MaskedContact := none
  sandboxNotes : Option (List JsString) := none
  deriving DecidableEq, Repr

/-- Contacts in the clear: `DecryptedChannels`, and the test contacts of a sandbox job. -/
structure DecryptedChannels where
  email : Option JsString := none
  telegramChatId : Option JsString := none
  phone : Option JsString := none
  deriving DecidableEq, Repr

/-- Some contact is present and not empty. -/
def DecryptedChannels.hasAny (c : DecryptedChannels) : Bool :=
  truthy c.email || truthy c.telegramChatId || truthy c.phone

/-- `NotificationJobData`. -/
structure NotificationJobData where
  notificationId : NotificationId
  protocolId : JsString
  protocolPubkey : JsString
  protocolName : JsString
  wallet : JsString
  walletHash : Option JsString := none
  subject : JsString
  body : JsString
  category : JsString
  writeReceipt : Bool
  digestMode : Bool
  priority : Option Priority := none
  channels : Option (List Channel) := none
  excludedChannels : Option (List Channel) := none
  preferredChannel : Option Channel := none
  isSandbox : Option Bool := none
  testContact : Option DecryptedChannels := none
  tier : Option Nat := none
  templateId : Option JsString := none
  telegramTemplateId : Option JsString := none
  templateVariables : Option (List (JsString × JsString)) := none
  deriving DecidableEq, Repr

/-- Whether the worker takes the production branch. -/
def NotificationJobData.production (d : NotificationJobData) : Bool := d.isSandbox != some true

/-- `IdentityAccount`: what the chain stores for a wallet. -/
structure IdentityAccount where
  owner : JsString
  encryptedEmail : List UInt8
  emailHash : List UInt8
  nonce : List UInt8
  registeredAt : Nat
  optInAll : Bool
  optInDefi : Bool
  optInGovernance : Bool
  optInMarketing : Bool
  digestMode : Bool
  channelEmail : Bool
  channelTelegram : Bool
  channelSms : Bool
  encryptedTelegramId : List UInt8
  telegramIdHash : List UInt8
  nonceTelegram : List UInt8
  encryptedPhone : List UInt8
  phoneHash : List UInt8
  nonceSms : List UInt8
  senderX25519Pubkey : Option (List UInt8) := none
  deriving DecidableEq, Repr

/-- `ChannelDeliveryOutcome`. -/
structure ChannelDeliveryOutcome where
  channel : Channel
  success : Bool
  messageId : Option JsString := none
  provider : Option JsString := none
  error : Option JsString := none
  deriving DecidableEq, Repr

/-- `ChannelDispatchResult`. -/
structure ChannelDispatchResult where
  outcomes : List ChannelDeliveryOutcome
  totalChannels : Nat
  successCount : Nat
  allDelivered : Bool
  deriving DecidableEq, Repr

/-- `WebhookEventType`. -/
inductive WebhookEventType where
  | delivered
  | failed
  | bounced
  | partialSend
  deriving DecidableEq, Repr

/-- `UnsubscribePayload`: what the token of an unsubscribe link says. -/
structure UnsubscribePayload where
  walletHash : JsString
  category : Option JsString
  protocolId : Option JsString := none
  expiresAt : Nat
  deriving DecidableEq, Repr

/-- What `JSON.parse` makes of the payload of a token: `null`, or a value by its properties. -/
inductive JsonPayload where
  | null
  /-- `expiresAt` is the number that the property is compared as; comparing some objects throws. -/
  | value (walletHash category protocolId : JsValue) (expiresAt : Option JsNumber)
  deriving DecidableEq, Repr

/-- A string, or `null`. -/
def JsValue.ofNullable : Option JsString → JsValue
  | some s => .string s
  | none => .null

/-- The value that a payload is written as. JSON leaves out what is undefined. -/
def UnsubscribePayload.json (p : UnsubscribePayload) : JsonPayload :=
  .value (.string p.walletHash) (.ofNullable p.category) ((p.protocolId.map JsValue.string).getD .undefined)
    (some (.finite p.expiresAt))

/-- The payload that a value was written from. -/
def JsonPayload.typed? : JsonPayload → Option UnsubscribePayload
  | .value (.string walletHash) category protocolId (some (.finite q)) =>
    let p : UnsubscribePayload := {
      walletHash := walletHash
      category := match category with | .string s => some s | _ => none
      protocolId := match protocolId with | .string s => some s | _ => none
      expiresAt := q.num.toNat }
    if p.json = .value (.string walletHash) category protocolId (some (.finite q)) then some p else none
  | _ => none

/-- The verdict of the content scanner. -/
inductive Verdict where
  | pass
  | review
  | block
  deriving DecidableEq, Repr

end HeraldGateway
