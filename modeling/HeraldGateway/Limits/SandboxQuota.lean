import HeraldGateway.Async.Totals
import HeraldGateway.Gateway.System
import HeraldGateway.MailWorker
import HeraldGateway.Notify

/-!
# Quotas of the sandbox

The playground of the dashboard, and the daily quotas that sandbox keys have.
-/

namespace HeraldGateway

open Async

/-!
## The playground of the dashboard

`sandbox.controller.ts`: a send to the test contacts of a protocol, which has a daily limit of its own.
-/

section

/-- `SandboxSendDto` -/
structure SandboxSendDto where
  subject : JsString
  body : JsString
  category : Option JsString := some (js "defi")
  preferredChannel : Option Channel := none
  deriving DecidableEq, Repr

/-- `SandboxSendResponseDto` -/
structure SandboxSendResponseDto where
  notificationId : NotificationId
  status : ResponseStatus
  errorCode : Option JsString := none
  testContact : MaskedContact
  remainingToday : Nat
  dailyLimit : Nat
  sandboxMode : Bool := true
  sandboxNotes : List JsString
  deriving DecidableEq, Repr

variable (env : Env)

/-- The hash that stands for the wallet of a playground send. -/
def playgroundWalletHash (protocol : AuthenticatedProtocol) : JsString :=
  env.sha256 (js "playground:" ++ protocol.protocolId)

/-- The row of a playground send. -/
def playgroundRow (id : NotificationId) (dto : SandboxSendDto) (protocol : AuthenticatedProtocol) :
    NewNotification where
  id := id
  protocolId := protocol.protocolId
  walletHash := playgroundWalletHash env protocol
  subjectHash := env.sha256 dto.subject
  status := .queued
  category := dto.category.getD (js "defi")
  writeReceipt := false

/-- The job of a playground send. -/
def playgroundJob (id : NotificationId) (dto : SandboxSendDto) (protocol : AuthenticatedProtocol)
    (testContact : DecryptedChannels) : NotificationJobData where
  notificationId := id
  protocolId := protocol.protocolId
  protocolPubkey := protocol.protocolPubkey
  protocolName := protocol.name.getD (js "Unknown Protocol")
  wallet := js "sandbox-playground"
  walletHash := some (playgroundWalletHash env protocol)
  subject := addTestPrefix dto.subject
  body := dto.body
  category := dto.category.getD (js "defi")
  writeReceipt := false
  digestMode := false
  priority := some .normal
  preferredChannel := dto.preferredChannel
  isSandbox := some true
  testContact := some testContact
  tier := some protocol.tier

/-- The channels that a contact is reached on, as a note names them. -/
def activeChannels (contact : DecryptedChannels) : List JsString :=
  (if truthy contact.email then [js "email"] else []) ++
    (if truthy contact.telegramChatId then [js "Telegram"] else []) ++
      if truthy contact.phone then [js "SMS"] else []

/-- The answer of a playground send that was enqueued. -/
def playgroundQueued (id : NotificationId) (contact : DecryptedChannels) (limit : PlaygroundLimit) :
    SandboxSendResponseDto where
  notificationId := id
  status := .queued
  testContact := maskContact contact.email contact.telegramChatId contact.phone
  remainingToday := limit.remaining - 1
  dailyLimit := limit.dailyLimit
  sandboxNotes :=
    [ js "Delivering playground test to " ++ join (js ", ") (activeChannels contact) ++ js ".",
      js "This notification will NOT count against your production monthly quota.",
      js "Playground daily usage: " ++ decimal (limit.remaining - 1) ++ js " of " ++
        decimal limit.dailyLimit ++
        js " remaining after this send.",
      js "ZK receipt disabled in sandbox mode." ]

/-- The answer of a playground send that could not be enqueued. -/
def playgroundFailed (id : NotificationId) (contact : DecryptedChannels) (limit : PlaygroundLimit) :
    SandboxSendResponseDto where
  notificationId := id
  status := .failed
  errorCode := some (js "ENQUEUE_FAILED")
  testContact := maskContact contact.email contact.telegramChatId contact.phone
  remainingToday := limit.remaining
  dailyLimit := limit.dailyLimit
  sandboxNotes :=
    [ js "Failed to enqueue playground test for delivery.",
      js "Service temporarily unavailable — retry later." ]

/-- Enqueue a playground send, record its receipt and count it. -/
def enqueuePlayground (id : NotificationId) (dto : SandboxSendDto) (protocol : AuthenticatedProtocol)
    (contact : DecryptedChannels) (limit : PlaygroundLimit) : Gateway SandboxSendResponseDto := do
  match ← (enqueueNotification (playgroundJob env id dto protocol contact)).settle with
  | .error _ =>
    swallow (call (.notificationUpdate id { status := some .failed, errorCode := some (js "ENQUEUE_FAILED") }))
    return playgroundFailed id contact limit
  | .ok _ =>
    swallow (recordSandboxReceipt
      { apiKeyId := protocol.apiKeyId
        notificationId := some id
        walletHash := playgroundWalletHash env protocol
        subject := some (addTestPrefix dto.subject)
        status := some (js "queued")
        channel := some ((dto.preferredChannel.map Channel.name).getD (js "email")) })
    incrementPlaygroundUsage protocol.apiKeyId
    return playgroundQueued id contact limit

/-- Load the test contacts and store the notification. -/
def loadTestContacts (id : NotificationId) (dto : SandboxSendDto) (protocol : AuthenticatedProtocol)
    (limit : PlaygroundLimit) : Gateway SandboxSendResponseDto := do
  let settings ← call (.protocolSettingsFindUnique protocol.protocolId)
  let contact : DecryptedChannels :=
    { email := settings.bind (·.testEmail)
      telegramChatId := settings.bind (·.testTelegramId)
      phone := settings.bind (·.testPhone) }
  if !contact.hasAny then
    .throw (.http 400 (js "SANDBOX_NO_TEST_CONTACT"))
  else
    call (.notificationCreate (playgroundRow env id dto protocol))
    enqueuePlayground env id dto protocol contact limit

/-- `sendTest` -/
def sendTest (dto : SandboxSendDto) (protocol : AuthenticatedProtocol) : Gateway SandboxSendResponseDto := do
  let id ← call .uuid
  if protocol.environment ≠ .sandbox then
    .throw (.http 403 (js "SANDBOX_ENDPOINT_REQUIRES_SANDBOX_KEY"))
  else
    let limit ← checkPlaygroundLimit protocol.apiKeyId
    if !limit.allowed then
      .throw (.http 429 (js "PLAYGROUND_LIMIT_EXCEEDED"))
    else
      loadTestContacts env id dto protocol limit

end

/-!
## The daily quotas of a sandbox key

A notify request reads the counter of its key before it does anything else and counts itself once its job is
on the queue, if the key is marked as a test key. A playground send does the same with a counter and a limit
of its own. Between the two there are many calls, of which any number of requests may have made some.
-/

/-- What a client asks of the sandbox. -/
inductive SandboxRequest where
  | notify (dto : NotifyDto) (protocol : AuthenticatedProtocol)
  | batch (dto : NotifyBatchDto) (protocol : AuthenticatedProtocol)
  | send (dto : SandboxSendDto) (protocol : AuthenticatedProtocol)
  deriving DecidableEq, Repr

/-- What it is answered. -/
inductive SandboxAnswer where
  | notify (r : NotifyResponseDto)
  | batch (rs : List NotifyResponseDto)
  | send (r : SandboxSendResponseDto)
  deriving DecidableEq, Repr

/-- The program of a request. -/
def SandboxRequest.code (env : Env) : SandboxRequest → Gateway SandboxAnswer
  | notify dto protocol => (queueNotification env dto protocol).bind fun r => .ret (.notify r)
  | batch dto protocol => (notifyBatch env dto protocol).bind fun rs => .ret (.batch rs)
  | send dto protocol => (sendTest env dto protocol).bind fun r => .ret (.send r)

/-- The counter that a request is checked against. -/
def SandboxRequest.counter : SandboxRequest → RedisKey
  | notify _ protocol | batch _ protocol => .sandboxDaily protocol.apiKeyId
  | send _ protocol => .sandboxPlayground protocol.apiKeyId

/-- The limit of a counter, given the daily limits of the keys. -/
def counterLimit (limits : JsString → Nat) : RedisKey → Nat
  | .sandboxDaily apiKeyId => limits apiKeyId
  | .sandboxPlayground _ => PLAYGROUND_DAILY_LIMIT
  | _ => 0

/-- Every key has its daily limit. -/
def World.Limited (limits : JsString → Nat) (s : World) : Prop :=
  ∀ id, ∀ key ∈ s.apiKeys id, key.testDailyLimit = limits id

/-- What happens to the stores between the calls of requests. -/
inductive SandboxChange where
  /-- Time passes. -/
  | tick (ms : Nat)
  /-- The `i`-th pending add completes. -/
  | completeAdd (i : Nat)
  /-- What requests only read, and Redis, becomes what it is in another world, but for the limits of keys. -/
  | configure (w : World)

/-- A change of the stores. -/
def SandboxChange.apply (limits : JsString → Nat) (e : SandboxChange) (s : World) : Option World :=
  match e with
  | tick ms => some { s with now := s.now + ms }
  | completeAdd i => s.completeAdd i
  | configure w => some { s.configured w with
      apiKeys := fun id => (w.apiKeys id).map fun key => { key with testDailyLimit := limits id } }

/-- Requests to the sandbox over one world, by any keys. -/
def sandboxRequests (env : Env) (limits : JsString → Nat) :
    System Calls Err SandboxAnswer SandboxRequest World Choice SandboxChange where
  handler := World.handle env
  code r _ := r.code env
  outside := SandboxChange.apply limits

/-- A pool of requests to the sandbox. -/
abbrev SandboxPool := Pool Calls Err SandboxAnswer SandboxRequest World Choice

/-- A request that runs, or has run. -/
abbrev SandboxThread := Thread Calls Err SandboxAnswer SandboxRequest World Choice

/-- A step of such a pool. -/
abbrev SandboxLabel := Label SandboxRequest Choice SandboxChange

/-- The UTC day of a time. -/
def utcDay (t : Millis) : Nat := t / 86400000

/-- The identifier that a call drew. -/
def Op.draws : (o : Op) → Except Err o.Res → Option NotificationId
  | uuid, .ok id => some id
  | _, _ => none

/-- A request with a counter drew the identifier of a sandbox job. -/
def drewFor (p : SandboxPool) (k : RedisKey) (job : NotificationJobData) : Bool :=
  job.isSandbox == some true && p.threads.any fun t =>
    t.request.counter == k && t.trace.any
      fun e : GatewayEvent => e.op.draws e.reply == some job.notificationId

/-- The sandbox jobs that the requests with a counter put on the queue on a day. -/
def jobsOn (p : SandboxPool) (k : RedisKey) (day : Nat) : Nat :=
  p.store.notificationQueue.countP fun j => drewFor p k j.data && utcDay j.addedAt == day

/-- No key has more jobs enqueued on a day than its daily limit, nor more playground sends than the limit of
these. -/
structure QuotasHeld (limits : JsString → Nat) (p : SandboxPool) : Prop where
  daily : ∀ apiKeyId day, jobsOn p (.sandboxDaily apiKeyId) day ≤ limits apiKeyId
  playground : ∀ apiKeyId day, jobsOn p (.sandboxPlayground apiKeyId) day ≤ PLAYGROUND_DAILY_LIMIT

/-! ### Checks that leave quota -/

/-- A reply lets a request with a counter through: the counter is below the limit. -/
def Op.lets (k : RedisKey) (limit : Nat) : (o : Op) → Except Err o.Res → Nat
  | redisGet k', .ok count => if k' = k ∧ countOf count < limit then 1 else 0
  | _, _ => 0

/-- A call adds a sandbox job to the queue. -/
def Op.addsSandbox : Op → Nat
  | notificationAdd data _ _ => if data.isSandbox = some true then 1 else 0
  | _ => 0

/-- How many jobs a running request may still add: it was let through more often than it has added one. -/
def mayAdd (k : RedisKey) (limit : Nat) (t : SandboxThread) : Nat :=
  if t.request.counter = k ∧ t.prog.running = true then
    traceWeight (fun e : GatewayEvent => e.op.lets k limit e.reply) t.trace -
      traceWeight (fun e : GatewayEvent => e.op.addsSandbox) t.trace
  else 0

/-- How many jobs are under way to the queue: what running requests may still add, and adds that may
complete. -/
def underWay (limits : JsString → Nat) (p : SandboxPool) (k : RedisKey) : Nat :=
  p.sum (mayAdd k (counterLimit limits k)) + p.store.pendingAdds.countP fun j => drewFor p k j.data

/-- A check lets a request through only while the jobs of the day and those under way leave some of the
quota. -/
def LeavesQuota (env : Env) (limits : JsString → Nat) (p : SandboxPool) : SandboxLabel → Prop
  | .pick i c => ∀ t ∈ p.threads[i]?, ∀ o ∈ t.prog.next?,
      let k := t.request.counter
      0 < o.lets k (counterLimit limits k) (World.handle env c.2 p.store o).1 →
        jobsOn p k (utcDay p.store.now) + underWay limits p k < counterLimit limits k
  | _ => True

instance (env : Env) (limits : JsString → Nat) (p : SandboxPool) (l : SandboxLabel) :
    Decidable (LeavesQuota env limits p l) := by unfold LeavesQuota; split <;> infer_instance

/-- No sandbox job on the queue, or under way to it, is newer than the clock or has an identifier that is yet
to be drawn. -/
structure World.Settled (s : World) : Prop where
  drawn : ∀ j ∈ s.notificationQueue ++ s.pendingAdds, j.data.isSandbox = some true →
    ∀ n, j.data.notificationId = .uuid n → n < s.nextUuid
  past : ∀ j ∈ s.notificationQueue, j.addedAt ≤ s.now

end HeraldGateway
