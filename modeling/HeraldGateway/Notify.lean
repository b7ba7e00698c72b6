import HeraldGateway.Sandbox
import HeraldGateway.Scanner

/-!
# The notify service

`notify.service.ts`: what a notify request does before it is answered, on the production and on the
sandbox path, and the broadcast to all subscribers. The identifier a request draws first
(`const notificationId = uuidv4()`) is a parameter of what follows.
-/

namespace HeraldGateway

open Async

variable (env : Env)

/-- `checkOptIn` -/
def checkOptIn (identity : IdentityAccount) (category : JsString) : Bool :=
  if !identity.optInAll then false
  else if category = js "defi" then identity.optInDefi
  else if category = js "governance" then identity.optInGovernance
  else if category = js "marketing" then identity.optInMarketing
  else category == js "system"

/-! ### The production path -/

/-- An answer of the production path. -/
def productionAnswer (id : NotificationId) (status : ResponseStatus) (errorCode : Option JsString)
    (estimatedDeliveryMs : Nat) : NotifyResponseDto where
  notificationId := some id
  status := status
  errorCode := errorCode
  recipientRegistered := none
  estimatedDeliveryMs := estimatedDeliveryMs
  environment := some .production

/-- The job of a production request. -/
def productionJob (id : NotificationId) (dto : NotifyDto) (protocol : AuthenticatedProtocol) :
    NotificationJobData where
  notificationId := id
  protocolId := protocol.protocolId
  protocolPubkey := protocol.protocolPubkey
  protocolName := protocol.name.getD (js "Unknown Protocol")
  wallet := dto.wallet
  walletHash := some (env.sha256 dto.wallet)
  subject := dto.subject
  body := dto.body
  category := dto.category.getD (js "defi")
  writeReceipt := dto.receipt.getD true
  digestMode := false
  priority := some (dto.priority.getD .normal)
  preferredChannel := dto.preferredChannel
  channels := dto.batchChannels
  excludedChannels := dto.batchExcludeChannels
  tier := some protocol.tier
  templateId := dto.templateId
  telegramTemplateId := dto.telegramTemplateId
  templateVariables := dto.variableValues

/-- The row of a production request. -/
def productionRow (id : NotificationId) (dto : NotifyDto) (protocol : AuthenticatedProtocol)
    (scan : Scanner.ScanResult) : NewNotification where
  id := id
  protocolId := protocol.protocolId
  walletHash := env.sha256 dto.wallet
  subjectHash := env.sha256 dto.subject
  status := .queued
  category := dto.category.getD (js "defi")
  idempotencyKey := dto.idempotencyKey
  writeReceipt := dto.receipt.getD true
  riskScore := some scan.riskScore
  scanVerdict := some scan.verdict

/-- What both paths do when the queue add fails: mark the notification as failed and let go of the key. -/
def releaseFailed (id : NotificationId) (dto : NotifyDto) : Gateway Unit := do
  swallow (call (.notificationUpdate id
    { status := some .failed, errorCode := some (js "ENQUEUE_FAILED") }))
  if truthy dto.idempotencyKey then
    swallow (call (.idempotencyDel (dto.idempotencyKey.getD [])))
  else
    return ()

/-- Enqueue the delivery job. -/
def enqueueProduction (id : NotificationId) (dto : NotifyDto) (protocol : AuthenticatedProtocol) :
    Gateway NotifyResponseDto := do
  match ← (enqueueNotification (productionJob env id dto protocol)).settle with
  | .error _ =>
    releaseFailed id dto
    return productionAnswer id .failed (some (js "ENQUEUE_FAILED")) 0
  | .ok _ => return productionAnswer id .queued none 2500

/-- Scan the content, store the notification and enqueue it. -/
def admitProduction (id : NotificationId) (dto : NotifyDto) (protocol : AuthenticatedProtocol) :
    Gateway NotifyResponseDto := do
  let scan := Scanner.scan dto.subject dto.body
  if scan.verdict = .block then
    return productionAnswer id .blocked (some (js "CONTENT_BLOCKED")) 0
  else
    call (.notificationCreate (productionRow env id dto protocol scan))
    if scan.verdict = .review then
      swallow (call (.classifyAndFlag id protocol.protocolId))
      enqueueProduction env id dto protocol
    else
      enqueueProduction env id dto protocol

/-- The template status gate: a template of this protocol has to be approved. -/
def gateProduction (id : NotificationId) (dto : NotifyDto) (protocol : AuthenticatedProtocol) :
    Gateway NotifyResponseDto := do
  if truthy dto.templateId then
    match ← call (.templateFindFirst (dto.templateId.getD []) protocol.protocolId) with
    | some status =>
      if status ≠ .approved then
        return productionAnswer id .blocked (some (js "TEMPLATE_PENDING_REVIEW")) 0
      else
        admitProduction env id dto protocol
    | none => admitProduction env id dto protocol
  else
    admitProduction env id dto protocol

/-- `queueProductionNotification` -/
def queueProductionNotification (id : NotificationId) (dto : NotifyDto)
    (protocol : AuthenticatedProtocol) : Gateway NotifyResponseDto := do
  if truthy dto.idempotencyKey then
    if ← call (.idempotencySetNx (dto.idempotencyKey.getD []) id 86400) then
      gateProduction env id dto protocol
    else
      let existing ← call (.idempotencyGet (dto.idempotencyKey.getD []))
      return productionAnswer (existing.getD id) .duplicate none 0
  else
    gateProduction env id dto protocol

/-! ### The sandbox path -/

/-- An answer of the sandbox path. -/
def sandboxAnswer (id : NotificationId) (status : ResponseStatus) (errorCode : Option JsString)
    (recipientRegistered : Bool) (notes : List JsString) : NotifyResponseDto where
  notificationId := some id
  status := status
  errorCode := errorCode
  recipientRegistered := some recipientRegistered
  estimatedDeliveryMs := 0
  environment := some .sandbox
  sandboxMode := some true
  sandboxNotes := some notes

/-- The row of a sandbox request. -/
def sandboxRow (id : NotificationId) (dto : NotifyDto) (protocol : AuthenticatedProtocol)
    (status : NotificationStatus) (errorCode : Option JsString) (scan : Option Scanner.ScanResult) :
    NewNotification where
  id := id
  protocolId := protocol.protocolId
  walletHash := env.sha256 dto.wallet
  subjectHash := env.sha256 dto.subject
  status := status
  category := dto.category.getD (js "defi")
  idempotencyKey := dto.idempotencyKey
  writeReceipt := false
  errorCode := errorCode
  riskScore := scan.map (·.riskScore)
  scanVerdict := scan.map (·.verdict)

/-- The job of a sandbox request. -/
def sandboxJob (id : NotificationId) (dto : NotifyDto) (protocol : AuthenticatedProtocol)
    (testContact : DecryptedChannels) : NotificationJobData :=
  { productionJob env id dto protocol with
    subject := addTestPrefix dto.subject
    writeReceipt := false
    isSandbox := some true
    testContact := some testContact }

/-- `maskEmail` -/
def maskEmail (email : JsString) : JsString :=
  let parts := splitOn 64 email
  (parts.headD []).take 2 ++ js "***@" ++ (parts.tail.head?.getD (js "undefined"))

/-- `maskPhone` -/
def maskPhone (phone : JsString) : JsString := phone.take 4 ++ js "***" ++ sliceLast 4 phone

/-- The contacts of an answer, masked. -/
def maskContact (email telegram phone : Option JsString) : MaskedContact where
  email := if truthy email then email.map maskEmail else none
  telegram := if truthy telegram then some (js "configured") else none
  sms := if truthy phone then phone.map maskPhone else none

/-- The answer of a sandbox request that was enqueued. -/
def sandboxQueued (id : NotificationId) (devnet : DevnetResolutionResult)
    (settings : Option ProtocolSettings) (quota : SandboxValidationResult) (deliveryNote : JsString) :
    NotifyResponseDto :=
  { sandboxAnswer id .queued none devnet.resolved
      [ deliveryNote,
        js "This notification will NOT count against your production monthly quota.",
        js "Sandbox daily usage: " ++ decimal (quota.remainingToday - 1) ++ js " of " ++
          decimal quota.dailyLimit ++ js " remaining after this send.",
        js "ZK receipt disabled in sandbox mode." ] with
    estimatedDeliveryMs := 2500
    testContact := some (if devnet.resolved then
        maskContact devnet.channels.email devnet.channels.telegramChatId devnet.channels.phone
      else
        maskContact (settings.bind (·.testEmail)) (settings.bind (·.testTelegramId))
          (settings.bind (·.testPhone))) }

/-- Count the send and build the answer. -/
def acknowledgeSandbox (id : NotificationId) (protocol : AuthenticatedProtocol)
    (devnet : DevnetResolutionResult) (quota : SandboxValidationResult) (deliveryNote : JsString) :
    Gateway NotifyResponseDto := do
  incrementUsage protocol.apiKeyId
  if devnet.resolved then
    return sandboxQueued id devnet none quota deliveryNote
  else
    let settings ← call (.protocolSettingsFindUnique protocol.protocolId)
    return sandboxQueued id devnet settings quota deliveryNote

/-- Store the sandbox notification and enqueue it. -/
def enqueueSandbox (id : NotificationId) (dto : NotifyDto) (protocol : AuthenticatedProtocol)
    (testContact : DecryptedChannels) (devnet : DevnetResolutionResult)
    (quota : SandboxValidationResult) (deliveryNote : JsString) : Gateway NotifyResponseDto := do
  call (.notificationCreate (sandboxRow env id dto protocol .queued none none))
  match ← (enqueueNotification (sandboxJob env id dto protocol testContact)).settle with
  | .error _ =>
    releaseFailed id dto
    return sandboxAnswer id .failed (some (js "ENQUEUE_FAILED")) devnet.resolved
      [js "Failed to enqueue notification for delivery.",
        js "Service temporarily unavailable — retry later."]
  | .ok _ => acknowledgeSandbox id protocol devnet quota deliveryNote

/-- Store a sandbox notification that is not delivered, and answer why. -/
def shelveSandbox (id : NotificationId) (dto : NotifyDto) (protocol : AuthenticatedProtocol)
    (status : NotificationStatus) (errorCode : Option JsString) (scan : Option Scanner.ScanResult)
    (answer : NotifyResponseDto) : Gateway NotifyResponseDto := do
  call (.notificationCreate (sandboxRow env id dto protocol status errorCode scan))
  return answer

/-- Deliver to the channels of a wallet registered on devnet, if it opted in. -/
def deliverDevnet (id : NotificationId) (dto : NotifyDto) (protocol : AuthenticatedProtocol)
    (devnet : DevnetResolutionResult) (quota : SandboxValidationResult) : Gateway NotifyResponseDto :=
  if devnet.identity.any fun i => !checkOptIn i (dto.category.getD (js "defi")) then
    shelveSandbox env id dto protocol .optedOut none none
      (sandboxAnswer id .optedOut none true
        [js "Wallet opted out of this category on devnet.", js "Delivery skipped."])
  else
    enqueueSandbox env id dto protocol devnet.channels devnet quota
      (js "Delivering to devnet-registered channels (decrypted via ENCLAVE_TEST_KEY).")

/-- Deliver to the protocol's static test contacts. -/
def deliverStatic (id : NotificationId) (dto : NotifyDto) (protocol : AuthenticatedProtocol)
    (devnet : DevnetResolutionResult) (quota : SandboxValidationResult) :
    Gateway NotifyResponseDto := do
  let settings ← call (.protocolSettingsFindUnique protocol.protocolId)
  let contact : DecryptedChannels :=
    { email := settings.bind (·.testEmail)
      telegramChatId := settings.bind (·.testTelegramId)
      phone := settings.bind (·.testPhone) }
  if !contact.hasAny then
    shelveSandbox env id dto protocol .failed (some (js "SANDBOX_NO_TEST_CONTACT")) none
      (sandboxAnswer id .failed (some (js "SANDBOX_NO_TEST_CONTACT")) false
        [ if env.devnetSandboxResolution && devnet.identity.isNone then
            js "Wallet not registered on devnet. Register at app.useherald.xyz to test with real channels."
          else js "No test contact configured. Set one in your protocol settings.",
          js "This notification was NOT delivered." ])
  else
    enqueueSandbox env id dto protocol contact devnet quota
      (if env.devnetSandboxResolution && devnet.identity.isSome then
        js "Delivering to static test contacts (channels could not be decrypted via ENCLAVE_TEST_KEY)."
      else js "Delivering to static test contacts.")

/-- Resolve the devnet wallet where that is enabled, and deliver to it or to the static contacts. -/
def routeSandbox (id : NotificationId) (dto : NotifyDto) (protocol : AuthenticatedProtocol)
    (quota : SandboxValidationResult) : Gateway NotifyResponseDto := do
  let devnet ← if env.devnetSandboxResolution then resolveDevnetWallet env dto.wallet
    else pure DevnetResolutionResult.unresolved
  if devnet.resolved then
    deliverDevnet env id dto protocol devnet quota
  else
    deliverStatic env id dto protocol devnet quota

/-- The content scan of the sandbox path. -/
def admitSandbox (id : NotificationId) (dto : NotifyDto) (protocol : AuthenticatedProtocol)
    (quota : SandboxValidationResult) : Gateway NotifyResponseDto :=
  let scan := Scanner.scan dto.subject dto.body
  if scan.verdict = .block then
    shelveSandbox env id dto protocol .blocked (some (js "CONTENT_BLOCKED")) (some scan)
      (sandboxAnswer id .blocked (some (js "CONTENT_BLOCKED")) false
        [js "Content scan blocked — triggered rules: " ++ join (js ", ") scan.triggeredRules])
  else
    routeSandbox env id dto protocol quota

/-- The template status gate of the sandbox path, which looks the template up by its identifier only. -/
def gateSandbox (id : NotificationId) (dto : NotifyDto) (protocol : AuthenticatedProtocol)
    (quota : SandboxValidationResult) : Gateway NotifyResponseDto := do
  if truthy dto.templateId then
    match ← call (.templateFindUnique (dto.templateId.getD [])) with
    | some status =>
      if status ≠ .approved then
        shelveSandbox env id dto protocol .blocked (some (js "TEMPLATE_PENDING_REVIEW")) none
          (sandboxAnswer id .blocked (some (js "TEMPLATE_PENDING_REVIEW")) false
            [js "Template is not APPROVED."])
      else
        admitSandbox env id dto protocol quota
    | none => admitSandbox env id dto protocol quota
  else
    admitSandbox env id dto protocol quota

/-- `queueSandboxNotification` -/
def queueSandboxNotification (id : NotificationId) (dto : NotifyDto)
    (protocol : AuthenticatedProtocol) : Gateway NotifyResponseDto := do
  let quota ← validateSandboxKey protocol.apiKeyId
  if !quota.allowed then
    .throw (.http 429 (quota.errorCode.getD (js "SANDBOX_LIMIT_EXCEEDED")))
  else if truthy dto.idempotencyKey then
    let now ← call .now
    match ← call (.notificationFindByKey (dto.idempotencyKey.getD []) (now - 60 * 60 * 1000)) with
    | some existing =>
      return sandboxAnswer existing.id .duplicate none true
        [js "Sandbox duplicate — idempotency window is 1 hour"]
    | none => gateSandbox env id dto protocol quota
  else
    gateSandbox env id dto protocol quota

/-! ### Requests -/

/-- `queueNotification`, once its identifier is drawn. -/
def queueNotificationAs (id : NotificationId) (dto : NotifyDto) (protocol : AuthenticatedProtocol) :
    Gateway NotifyResponseDto :=
  match protocol.environment with
  | .sandbox => queueSandboxNotification env id dto protocol
  | .production => queueProductionNotification env id dto protocol

/-- `queueNotification` -/
def queueNotification (dto : NotifyDto) (protocol : AuthenticatedProtocol) :
    Gateway NotifyResponseDto := do
  let id ← call .uuid
  queueNotificationAs env id dto protocol

/-! ### Batches -/

/-- `NotifyBatchDto` -/
structure NotifyBatchDto where
  notifications : List NotifyDto
  channels : Option (List Channel) := none
  excludeChannels : Option (List Channel) := none
  deriving DecidableEq, Repr

/-- A notification of a batch with the channels of the batch. -/
def NotifyBatchDto.merged (dto : NotifyBatchDto) (n : NotifyDto) : NotifyDto :=
  { n with
    batchChannels := dto.channels <|> n.batchChannels
    batchExcludeChannels := dto.excludeChannels <|> n.batchExcludeChannels }

/-- The answer for a notification of a batch whose request was rejected. -/
def rejectedAnswer : NotifyResponseDto where
  notificationId := none
  status := .failed
  recipientRegistered := some false
  estimatedDeliveryMs := 0

/-- The answer for a notification of a batch. -/
def settledAnswer : Except Err NotifyResponseDto → NotifyResponseDto
  | .ok answer => answer
  | .error _ => rejectedAnswer

/-- `notifyBatch` -/
def notifyBatch (dto : NotifyBatchDto) (protocol : AuthenticatedProtocol) :
    Gateway (List NotifyResponseDto) := do
  if dto.channels.isSome && dto.excludeChannels.isSome then
    .throw (.http 400 (js "INVALID_BATCH_CHANNELS"))
  else
    let results ← Prog.allSettled
      (dto.notifications.map fun n => queueNotification env (dto.merged n) protocol)
    return results.map settledAnswer

/-! ### Broadcasts -/

/-- `BroadcastDto` -/
structure BroadcastDto where
  subject : JsString
  body : JsString
  category : Option JsString := none
  templateId : Option JsString := none
  receipt : Option Bool := none
  deriving DecidableEq, Repr

/-- `BroadcastResponseDto` -/
structure BroadcastResponseDto where
  broadcastId : NotificationId
  queuedCount : Nat
  totalSubscribers : Nat
  skippedCount : Int
  estimatedDeliveryS : Nat
  deriving DecidableEq, Repr

/-- The row of a broadcast for one subscriber. -/
def broadcastRow (dto : BroadcastDto) (protocol : AuthenticatedProtocol) (id : NotificationId)
    (target : ProtocolSubscription) : NewNotification where
  id := id
  protocolId := protocol.protocolId
  walletHash := target.walletHash
  subjectHash := env.sha256 dto.subject
  status := .queued
  category := dto.category.getD (js "system")
  writeReceipt := dto.receipt.getD false

/-- The job of a broadcast for one subscriber. It does not say which environment it is from. -/
def broadcastJob (dto : BroadcastDto) (protocol : AuthenticatedProtocol) (id : NotificationId)
    (target : ProtocolSubscription) : NotificationJobData where
  notificationId := id
  protocolId := protocol.protocolId
  protocolPubkey := protocol.protocolPubkey
  protocolName := protocol.name.getD (js "Unknown Protocol")
  wallet := target.walletPubkey.getD []
  walletHash := some target.walletHash
  subject := dto.subject
  body := dto.body
  category := dto.category.getD (js "system")
  writeReceipt := dto.receipt.getD false
  digestMode := false
  priority := some .normal
  tier := some protocol.tier
  templateId := dto.templateId

/-- Draw an identifier for a subscriber. -/
def drawId (target : ProtocolSubscription) : Gateway (NotificationId × ProtocolSubscription) := do
  let id ← call .uuid
  return (id, target)

/-- Store the rows of a broadcast and enqueue its jobs; the number of jobs that were enqueued. -/
def enqueueBroadcast (dto : BroadcastDto) (protocol : AuthenticatedProtocol)
    (targets : List ProtocolSubscription) : Gateway Nat := do
  let rows ← Prog.mapEach drawId targets
  call (.notificationCreateMany (rows.map fun r => broadcastRow env dto protocol r.1 r.2))
  let results ← Prog.allSettled
    (rows.map fun r => enqueueNotification (broadcastJob dto protocol r.1 r.2))
  return (results.filter (·.isOk)).length

/-- `queueBroadcast` -/
def queueBroadcast (dto : BroadcastDto) (protocol : AuthenticatedProtocol) :
    Gateway BroadcastResponseDto := do
  let broadcastId ← call .uuid
  let targets ← call (.subscriptionFindMany protocol.protocolId)
  let totalSubscribers ← call (.subscriptionCount protocol.protocolId)
  let skippedCount : Int := totalSubscribers - targets.length
  if targets.isEmpty then
    return ⟨broadcastId, 0, totalSubscribers, skippedCount, 0⟩
  else
    let queued ← enqueueBroadcast env dto protocol targets
    return ⟨broadcastId, queued, totalSubscribers, skippedCount, (queued + 9) / 10⟩

end HeraldGateway
