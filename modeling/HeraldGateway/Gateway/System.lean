import HeraldGateway.Admin
import HeraldGateway.Bounce
import HeraldGateway.MailWorker
import HeraldGateway.Scheduler
import HeraldGateway.Unsubscribe
import HeraldGateway.Operations

/-!
# The gateway as a whole

Everything the gateway does at the same time over one world: requests of clients, passes of its timers,
attempts of queued jobs and events of mail providers, interleaved at their calls.
-/

namespace HeraldGateway

open Async

/-- What the gateway is asked to do. -/
inductive Task where
  -- by clients
  | notify (dto : NotifyDto) (protocol : AuthenticatedProtocol)
  | notifyBatch (dto : NotifyBatchDto) (protocol : AuthenticatedProtocol)
  | broadcast (dto : BroadcastDto) (protocol : AuthenticatedProtocol)
  | systemBroadcast (dto : SystemBroadcastDto) (protocol : AuthenticatedProtocol)
  | scheduleOnce (dto : ScheduleOnceDto) (protocol : AuthenticatedProtocol)
  | scheduleRecurring (dto : ScheduleRecurringDto) (protocol : AuthenticatedProtocol)
  | cancelScheduled (id : Nat) (protocol : AuthenticatedProtocol)
  | launchCampaign (id : JsString) (protocol : AuthenticatedProtocol)
  -- by the administration
  | enqueueCampaign (id : JsString)
  -- by timers
  | reconcile
  | flushDigests
  -- by the queues: one attempt of a job
  | deliver (job : NotificationJobData)
  | deliverDigest (data : DigestJobData)
  -- by mail providers
  | resendEvent (e : ResendEvent)
  | sesMessage (m : SesMessage)
  -- by recipients
  | unsubscribe (token : JsString)
  deriving DecidableEq, Repr

/-- The notification job that a task attempts. -/
def Task.job? : Task → Option NotificationJobData
  | deliver job => some job
  | _ => none

/-- What a task returns. -/
inductive Answer where
  | done
  | notify (r : NotifyResponseDto)
  | notifyBatch (rs : List NotifyResponseDto)
  | broadcast (r : BroadcastResponseDto)
  | systemBroadcast (r : SystemBroadcastResult)
  | campaign (enqueued : Nat)
  | unsubscribe (r : UnsubscribeResult)
  deriving DecidableEq, Repr

/-- The answer of a program. -/
def answering {α : Type} (f : α → Answer) (p : Gateway α) : Gateway Answer := p.bind fun a => .ret (f a)

/-- The program of a task. -/
def Task.code (env : Env) : Task → Gateway Answer
  | notify dto protocol => answering .notify (queueNotification env dto protocol)
  | notifyBatch dto protocol => answering .notifyBatch (HeraldGateway.notifyBatch env dto protocol)
  | broadcast dto protocol => answering .broadcast (queueBroadcast env dto protocol)
  | systemBroadcast dto protocol =>
    answering .systemBroadcast (HeraldGateway.systemBroadcast env dto protocol)
  | scheduleOnce dto protocol =>
    answering (fun _ => .done) (HeraldGateway.scheduleOnce protocol.protocolId dto)
  | scheduleRecurring dto protocol =>
    answering (fun _ => .done) (HeraldGateway.scheduleRecurring protocol.protocolId dto)
  | cancelScheduled id protocol =>
    answering (fun _ => .done) (HeraldGateway.cancelScheduled protocol.protocolId id)
  | launchCampaign id protocol => answering .campaign (HeraldGateway.launchCampaign env id protocol)
  | enqueueCampaign id => answering .campaign (HeraldGateway.enqueueCampaign env id)
  | reconcile => answering (fun _ => .done) (reconcilePendingJobs env)
  | flushDigests => answering (fun _ => .done) flushDueDigests
  | deliver job => answering (fun _ => .done) (processNotification env job)
  | deliverDigest data => answering (fun _ => .done) (processDigest env data)
  | resendEvent e => answering (fun _ => .done) (processResendEvent e)
  | sesMessage m => answering (fun _ => .done) (processSesBounce m)
  | unsubscribe token => answering .unsubscribe (validateAndExecute env token)

/-- What happens to the stores between the calls of the gateway. -/
inductive Change where
  /-- Time passes. -/
  | tick (ms : Nat)
  /-- The `i`-th pending add completes. -/
  | completeAdd (i : Nat)
  /-- BullMQ removes the finished job that a producer identified. -/
  | removeJob (jobId : Nat)
  /-- What the gateway only reads, or others write too, becomes what it is in another world. -/
  | configure (w : World)

/-- The world with the tables and services of another that the gateway does not own. -/
def World.configured (s w : World) : World :=
  { s with
    redis := w.redis
    templates := w.templates
    telegramTemplates := w.telegramTemplates
    protocolSettings := w.protocolSettings
    protocols := w.protocols
    apiKeys := w.apiKeys
    subscriptions := w.subscriptions
    campaigns := w.campaigns
    portalUsers := w.portalUsers
    unsubscribeTokens := w.unsubscribeTokens
    assets := w.assets
    customDomain := w.customDomain
    chain := w.chain
    devnet := w.devnet
    registered := w.registered
    migrated := w.migrated }

/-- A change of the stores. -/
def Change.apply (e : Change) (s : World) : Option World :=
  match e with
  | tick ms => some { s with now := s.now + ms }
  | completeAdd i => s.completeAdd i
  | removeJob id => some { s with takenJobIds := s.takenJobIds.erase id }
  | configure w => some (s.configured w)

/-- The gateway: all its tasks over one world. -/
def gateway (env : Env) : System Calls Err Answer Task World Choice Change where
  handler := World.handle env
  code task _ := task.code env
  outside := Change.apply

/-- A pool of tasks. -/
abbrev GatewayPool := Pool Calls Err Answer Task World Choice

/-- A task that runs, or has run. -/
abbrev GatewayThread := Thread Calls Err Answer Task World Choice

/-- A call that was answered. -/
abbrev GatewayEvent := Event Calls Err World Choice

/-- A step of a pool. -/
abbrev GatewayLabel := Label Task Choice Change

/-- A replay of the gateway from a store. -/
def replayFrom (s : World) (ls : List GatewayLabel) : Option GatewayPool :=
  (gateway Env.transparent).run (Pool.empty s) ls

/-- A client of a protocol in an environment. -/
def client (environment : Environment) : AuthenticatedProtocol where
  protocolId := js "p"
  protocolPubkey := js "p"
  apiKeyId := js "key"
  tier := 1
  environment := environment

/-- The schedule of a wallet, or of nobody in particular. -/
def schedule (wallet : Option JsString) : ScheduleOnceDto where
  wallet := wallet
  subject := js "Margin"
  body := js "Add collateral."
  scheduledFor := some 0

/-- Workers attempt jobs that are on their queues. -/
def Legal (p : GatewayPool) : GatewayLabel → Prop
  | .arrive (.deliver job) => ∃ j ∈ p.store.notificationQueue, j.data = job
  | .arrive (.deliverDigest data) => ∃ j ∈ p.store.digestQueue, j.data = data
  | _ => True

instance (p : GatewayPool) (l : GatewayLabel) : Decidable (Legal p l) := by
  unfold Legal; split <;> infer_instance

end HeraldGateway
