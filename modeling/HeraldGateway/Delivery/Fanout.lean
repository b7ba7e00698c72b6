import HeraldGateway.Gateway.System
import HeraldGateway.Scheduling.Firing

/-!
# Producers of jobs

What becomes of the notifications that a producer stores, and what the jobs say that it puts on the queue.
-/

namespace HeraldGateway

open Async

/-!
## Fan-outs

Broadcasts and campaigns store a notification for each recipient and then put its job on the queue. Each of
them should account for every notification that it stored.
-/

/-- The notifications that a call stored. -/
def storedIds (e : GatewayEvent) : List NotificationId :=
  if e.before.notifications.length < e.after.notifications.length then
    match e.op with
    | .notificationCreate n => [n.id]
    | .notificationCreateMany ns => ns.map (·.id)
    | _ => []
  else []

/-- The notification whose job a call put on the queue. -/
def queuedIds (e : GatewayEvent) : List NotificationId :=
  if e.before.notificationQueue.length < e.after.notificationQueue.length then
    match e.op with
    | .notificationAdd data _ _ => [data.notificationId]
    | _ => []
  else []

/-- The notification that a call marked as failed. -/
def failedIds (e : GatewayEvent) : List NotificationId :=
  match e.op with
  | .notificationUpdate id u => if u.status = some .failed ∧ e.choice.fault.applies = true then [id] else []
  | _ => []

/-- The call puts a job on the queue. -/
def Op.adds : Op → Bool
  | .notificationAdd .. => true
  | _ => false

/-- A broadcast or a campaign. -/
def Task.fansOut : Task → Bool
  | .broadcast .. | .launchCampaign .. | .enqueueCampaign _ => true
  | _ => false

/-- The number of jobs that a fan-out reports. -/
def Answer.queuedCount? : Answer → Option Nat
  | .broadcast r => some r.queuedCount
  | .campaign enqueued => some enqueued
  | _ => none

/-- Every notification that a task stored has a job on the queue or is marked as failed, and as many as it
reports have a job. -/
structure AccountsForRows (t : GatewayThread) : Prop where
  covered : ∀ id ∈ t.trace.flatMap storedIds, id ∈ t.trace.flatMap queuedIds ∨ id ∈ t.trace.flatMap failedIds
  counted : ∀ n ∈ t.answer?.bind Answer.queuedCount?,
    n = (t.trace.flatMap storedIds).countP (· ∈ t.trace.flatMap queuedIds)

/-- No add of a task failed or timed out, and no insert that it took for failed stored anything. -/
def HearsAll (t : GatewayThread) : Prop :=
  ∀ e ∈ t.trace, e.op.adds = true ∨ storedIds e ≠ [] → e.reply.isOk = true

instance (t : GatewayThread) : Decidable (AccountsForRows t) :=
  decidable_of_iff ((∀ id ∈ t.trace.flatMap storedIds, id ∈ t.trace.flatMap queuedIds ∨ id ∈ t.trace.flatMap failedIds) ∧
    ∀ n ∈ t.answer?.bind Answer.queuedCount?,
      n = (t.trace.flatMap storedIds).countP (· ∈ t.trace.flatMap queuedIds))
      ⟨fun h => ⟨h.1, h.2⟩, fun h => ⟨h.1, h.2⟩⟩

instance (t : GatewayThread) : Decidable (HearsAll t) := by unfold HearsAll; infer_instance

/-!
## What producers put on the queue

Direct requests, broadcasts, campaigns and passes of the scheduler each write the job of a notification by
hand. What a job leaves out, dispatch fills in on its own.
-/

/-! ### The same job from each producer -/

/-- The direct request that says what a job says. -/
def NotificationJobData.directRequest (job : NotificationJobData) (templateId : Option JsString) :
    NotifyDto where
  wallet := job.wallet
  subject := job.subject
  body := job.body
  category := some job.category
  templateId := templateId

/-- Dispatch treats two jobs alike: whatever contacts there are, the same channels are allowed, the messages
name the same sender and have the same subject line, and receipts belong to the same owner. -/
structure TreatedAlike (job job' : NotificationJobData) : Prop where
  channels : ∀ contacts, resolveAllowedChannels contacts job = resolveAllowedChannels contacts job'
  sender : job.protocolName = job'.protocolName
  subjectLine : ∀ email domain rendered tracked now link,
    (emailMessage email job domain rendered tracked now link).subject =
      (emailMessage email job' domain rendered tracked now link).subject
  owner : job.protocolPubkey = job'.protocolPubkey

/-- The protocol that a task adds a job for. -/
def Task.AddsFor (job : NotificationJobData) (protocol : AuthenticatedProtocol) : Task → Prop
  | .broadcast _ caller => caller = protocol
  | .reconcile | .launchCampaign .. | .enqueueCampaign _ => job.protocolId = protocol.protocolId
  | _ => False

/-- A task that broadcasts. -/
def Task.broadcasts : Task → Bool
  | .broadcast .. => true
  | _ => false

/-- A protocol that jobs which say nothing about their protocol describe: it has tier 0, and its name and its
key are empty. -/
structure AuthenticatedProtocol.IsBlank (protocol : AuthenticatedProtocol) : Prop where
  tier : protocol.tier = 0
  name : protocol.name = some []
  pubkey : protocol.protocolPubkey = []

/-- The jobs that tasks add for a protocol are treated like those of its direct requests, exactly if the task
and the protocol are such as `ok` says. -/
def AgreeWhen (env : Env) (ok : Task → AuthenticatedProtocol → Prop) (p : GatewayPool) : Prop :=
  ∀ t ∈ p.threads, ∀ e ∈ t.trace, ∀ a ∈ e.op.added?, ∀ protocol, t.request.AddsFor a.1 protocol →
    ∀ id templateId, TreatedAlike a.1 (productionJob env id (a.1.directRequest templateId) protocol) ↔
      ok t.request protocol

/-! ### Stored channels -/

/-- The channels that a job may use are among those that were stored, if any were chosen. -/
def KeepsTo (stored : List JsString) (contacts : DecryptedChannels) (job : NotificationJobData) : Prop :=
  stored ≠ [] → ∀ c ∈ resolveAllowedChannels contacts job, c.name ∈ stored

instance (stored : List JsString) (contacts : DecryptedChannels) (job : NotificationJobData) :
    Decidable (KeepsTo stored contacts job) := by unfold KeepsTo; infer_instance

/-- The subscribers that a call found. -/
def targetRows : (o : Op) → Except Err o.Res → List ProtocolSubscription
  | .subscriptionFindMany _, .ok targets => targets
  | _, _ => []

/-- The subscribers that a broadcast found. -/
def foundTargets (tr : List GatewayEvent) : List ProtocolSubscription :=
  tr.flatMap fun e => targetRows e.op e.reply

/-- Every job that was added for a schedule keeps to the channels of the schedule if `scheduled` allows it,
and every job of a broadcast to those of its subscriber if `subscribed` does. -/
structure ChannelsCarried (scheduled : List JsString → DecryptedChannels → Prop)
    (subscribed : AuthenticatedProtocol → List JsString → DecryptedChannels → Prop)
    (t : GatewayThread) : Prop where
  schedules : t.request = .reconcile → ∀ e ∈ t.trace, ∀ a ∈ e.op.added?, ∃ row ∈ foundDue t.trace,
    a.2 = some row.id ∧ ∀ contacts, KeepsTo row.channels contacts a.1 ↔ scheduled row.channels contacts
  broadcasts : ∀ dto protocol, t.request = .broadcast dto protocol → ∀ e ∈ t.trace, ∀ a ∈ e.op.added?,
    ∃ target ∈ foundTargets t.trace, a.1.wallet = target.walletPubkey.getD [] ∧
      ∀ contacts, KeepsTo target.channels contacts a.1 ↔ subscribed protocol target.channels contacts

end HeraldGateway
