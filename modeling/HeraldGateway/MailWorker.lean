import HeraldGateway.Digest

/-!
# The mail worker

`mail.worker.ts`: one attempt of a notification job. A sandbox job goes to its test contacts; a production
job is buffered for a digest, or its wallet is resolved, decrypted and dispatched to.
-/

namespace HeraldGateway

open Async

variable (env : Env)

/-- The email outcome that succeeded, if there is one. -/
def emailOutcome (result : ChannelDispatchResult) : Option ChannelDeliveryOutcome :=
  result.outcomes.find? fun o => o.channel == .email && o.success

/-! ### The sandbox path -/

/-- Dispatch to the test contacts and record how it went. -/
def dispatchSandbox (job : NotificationJobData) (contact : DecryptedChannels) : Gateway Unit := do
  let result ← dispatch env contact job
  let outcome := emailOutcome result
  if result.successCount > 0 then
    let now ← call .now
    call (.notificationUpdate job.notificationId
      { status := some .delivered
        deliveredAt := some now
        sesMessageId := some (outcome.bind (·.messageId))
        emailProvider := some (outcome.bind (·.provider)) })
  else
    call (.notificationUpdate job.notificationId
      { status := some .failed, errorCode := some (js "SANDBOX_ALL_CHANNELS_FAILED") })

/-- `processSandbox` -/
def processSandbox (job : NotificationJobData) : Gateway Unit :=
  let contact := job.testContact.getD {}
  if !contact.hasAny then
    call (.notificationUpdate job.notificationId
      { status := some .optedOut, errorCode := some (js "SANDBOX_NO_TEST_CONTACT") })
  else
    (dispatchSandbox env job contact).tryCatch fun _ =>
      call (.notificationUpdate job.notificationId
        { status := some .failed, errorCode := some (js "SANDBOX_DELIVERY_ERROR") })

/-! ### The production path -/

/-- Step 0: put the notification into the digest buffer. -/
def bufferJob (job : NotificationJobData) : Gateway Unit := do
  bufferForDigest (job.walletHash.getD []) job.protocolId job.subject job.category
  call (.notificationUpdate job.notificationId { status := some .digested })

/-- The wallet is not registered: record why nothing was sent. -/
def recordUnregistered (job : NotificationJobData) : Gateway Unit := do
  if truthy job.walletHash then
    let portalUser ← call (.portalUserFindUnique (job.walletHash.getD []))
    let code := if truthy (portalUser.bind (·.emailHash)) then
      js "PORTAL_FALLBACK_CHANNELS_UNAVAILABLE" else js "WALLET_NOT_REGISTERED_AT_PROCESSING"
    call (.notificationUpdate job.notificationId { status := some .optedOut, errorCode := some code })
  else
    call (.notificationUpdate job.notificationId
      { status := some .optedOut, errorCode := some (js "WALLET_NOT_REGISTERED_AT_PROCESSING") })

/-- Clear the suppression of the wallet if its email channel is active and decrypted. -/
def clearSuppression (job : NotificationJobData) (identity : IdentityAccount)
    (channels : DecryptedChannels) : Gateway Unit :=
  if identity.channelEmail && truthy channels.email && truthy job.walletHash then
    swallow (call (.suppressionDeleteMany (job.walletHash.getD [])))
  else
    return ()

/-- Step 3: store the body on Arweave, or go on without. -/
def storeOnArweave (job : NotificationJobData) (channels : DecryptedChannels) :
    Gateway (Option JsString) :=
  let primaryChannel := if truthy channels.email then Channel.email
    else if truthy channels.telegramChatId then .telegram else .sms
  Prog.tryCatch (do
    let id ← call (.storeNotificationPayload job.protocolId (job.walletHash.getD []) primaryChannel
      job.subject job.body)
    return some id)
    fun _ => return none

/-- The body encrypted for the portal, where the user registered a notification key. -/
def encryptedBody (job : NotificationJobData) (identity : IdentityAccount) :
    Option (JsString × JsString) :=
  match identity.senderX25519Pubkey with
  | some key =>
    if key.length = 32 then
      let actionUrl := (job.templateVariables.getD []).lookup (js "action_url")
      env.encryptForUser key job.subject job.body (if truthy actionUrl then actionUrl else none)
    else none
  | none => none

/-- `o.channel` in a message. -/
def Channel.name : Channel → JsString
  | email => js "email"
  | telegram => js "telegram"
  | sms => js "sms"
  | other name => name

/-- The errors of a dispatch in which every channel failed. -/
def failureMessage (outcomes : List ChannelDeliveryOutcome) : JsString :=
  js "All channels failed: " ++ join (js "; ") ((outcomes.filter (!·.success)).map fun o =>
    o.channel.name ++ js ": " ++ o.error.getD (js "undefined"))

/-- The columns of a notification that was sent. -/
def deliveredUpdate (job : NotificationJobData) (identity : IdentityAccount)
    (arweaveId : Option JsString) (result : ChannelDispatchResult) (now : Millis) : NotificationUpdate :=
  let outcome := emailOutcome result
  let encrypted := encryptedBody env job identity
  { status := some (if result.allDelivered then .delivered else .partialSend)
    deliveredAt := some now
    arweaveId := some arweaveId
    sesMessageId := some (outcome.bind (·.messageId))
    emailProvider := some (outcome.bind (·.provider))
    errorCode := if result.allDelivered then none else
      some (js "PARTIAL_" ++ decimal result.successCount ++ js "/" ++ decimal result.totalChannels)
    ciphertext := some (encrypted.map (·.1))
    nonce := some (encrypted.map (·.2)) }

/-- The webhook event of a notification that was sent. -/
def deliveredEvent (job : NotificationJobData) (result : ChannelDispatchResult) (now : Millis) :
    WebhookEvent where
  protocolId := job.protocolId
  event := if result.allDelivered then .delivered else .partialSend
  notificationId := job.notificationId
  wallet := job.wallet
  status := if result.allDelivered then js "delivered" else js "partial"
  channels := result.outcomes.map fun o => (o.channel, o.success, o.provider)
  deliveredAt := some now

/-- Steps 5 and 6: record the delivery, count it and tell the webhooks. -/
def recordDelivery (job : NotificationJobData) (identity : IdentityAccount)
    (arweaveId : Option JsString) (result : ChannelDispatchResult) : Gateway Unit := do
  let now ← call .now
  call (.notificationUpdate job.notificationId (deliveredUpdate env job identity arweaveId result now))
  swallow (call (.meteringIncrement job.protocolId))
  let now ← call .now
  swallow (call (.webhookDispatch (deliveredEvent job result now)))

/-- Every channel failed: record it and throw, so that the job is retried. -/
def recordAllFailed (job : NotificationJobData) (result : ChannelDispatchResult) : Gateway Unit := do
  call (.notificationUpdate job.notificationId
    { status := some .failed
      errorCode := some (js "ALL_CHANNELS_FAILED")
      incrementRetryCount := true })
  .throw (.error (failureMessage result.outcomes))

/-- Steps 3 to 6, once a channel was decrypted. -/
def deliverDecrypted (job : NotificationJobData) (identity : IdentityAccount)
    (channels : DecryptedChannels) : Gateway Unit := do
  clearSuppression job identity channels
  let arweaveId ← storeOnArweave job channels
  let result ← dispatch env channels job
  if result.allDelivered || result.successCount > 0 then
    recordDelivery env job identity arweaveId result
  else
    recordAllFailed job result

/-- Steps 1 and 2: resolve the wallet and decrypt its channels. -/
def resolveAndDeliver (job : NotificationJobData) : Gateway Unit := do
  match ← resolveIdentity job.wallet with
  | none => recordUnregistered job
  | some identity =>
    let channels ← decryptAllChannelsInEnclave identity
    if !channels.hasAny then
      call (.notificationUpdate job.notificationId
        { status := some .optedOut, errorCode := some (js "NO_ACTIVE_CHANNELS") })
    else
      deliverDecrypted env job identity channels

/-- The `errorCode` of an error. -/
def errorCodeOf (e : Err) : JsString :=
  if truthy e.code then e.code.getD []
  else if truthy e.statusCode then e.statusCode.getD []
  else js "DELIVERY_FAILED"

/-- What the worker does with an error: unless every channel failed, which is recorded already, record it
and tell the webhooks. -/
def recordError (job : NotificationJobData) (e : Err) : Gateway Unit := do
  if (js "All channels failed").isPrefixOf e.message then
    .throw e
  else
    call (.notificationUpdate job.notificationId
      { status := some .failed, errorCode := some (errorCodeOf e), incrementRetryCount := true })
    swallow (call (.webhookDispatch
      { protocolId := job.protocolId
        event := .failed
        notificationId := job.notificationId
        wallet := job.wallet
        status := js "failed"
        error := some e.message }))
    .throw e

/-- `processProduction` -/
def processProduction (job : NotificationJobData) : Gateway Unit :=
  (if job.digestMode then bufferJob job else resolveAndDeliver env job).tryCatch (recordError job)

/-- `process` -/
def processNotification (job : NotificationJobData) : Gateway Unit := do
  let now ← call .now
  call (.notificationUpdate job.notificationId
    { status := some .processing, processingAt := some now })
  if job.production then processProduction env job else processSandbox env job

end HeraldGateway
