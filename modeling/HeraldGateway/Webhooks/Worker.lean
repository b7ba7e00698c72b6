import HeraldGateway.Async.Log
import HeraldGateway.Async.Totals
import HeraldGateway.Operations
import HeraldGateway.Webhooks.Delivery

/-!
# The webhook worker, step by step

`webhook.worker.ts`, call by call: jobs look their webhook up, deliver, and account for what came of it in the
row that all of them share. The network does what it likes; the database answers.
-/

namespace HeraldGateway

open Async

/-! ### Operations -/

/-- The calls of the worker. -/
inductive WebhookOp where
  /-- `Date.now()` -/
  | now
  | findWebhook (id : JsString)
  | disable (id : JsString)
  | lookup (hostname : JsString)
  | post (request : DeliveryRequest)
  | createDelivery (d : WebhookDelivery)
  | recordSuccess (id : JsString)
  | recordFailure (id : JsString)

/-- What these calls give. A request gives the status of its answer, if there is one. -/
def WebhookOp.Res : WebhookOp → Type
  | now => Millis
  | findWebhook _ => Option WebhookRow
  | lookup _ => JsString
  | post _ => Option Nat
  | disable _ | createDelivery _ | recordSuccess _ | recordFailure _ => Unit

/-- The calls of the worker. -/
abbrev WebhookCalls : Signature := ⟨WebhookOp, WebhookOp.Res⟩

/-- A function of the worker. -/
abbrev WebhookProg (α : Type) := Prog WebhookCalls Err α

/-- Make a call. -/
def WebhookOp.call (o : WebhookOp) : WebhookProg o.Res := @Prog.perform WebhookCalls Err o

/-- The clock and the tables of the worker. -/
structure WebhookStore where
  now : Millis := 0
  webhooks : JsString → Option WebhookRow
  deliveries : List WebhookDelivery := []

namespace WebhookStore

/-- `webhook.update` -/
def updateWebhook (s : WebhookStore) (id : JsString) (u : WebhookRow → WebhookRow) :
    Except Err Unit × WebhookStore :=
  match s.webhooks id with
  | some row => (.ok (), { s with webhooks := fun id' => if id' = id then some (u row) else s.webhooks id' })
  | none => (.error .recordNotFound, s)

/-- `webhookDelivery.create`, whose webhook has to exist. -/
def createDelivery (s : WebhookStore) (d : WebhookDelivery) : Except Err Unit × WebhookStore :=
  if (s.webhooks d.webhookId).isSome then (.ok (), { s with deliveries := s.deliveries ++ [d] })
  else (.error (.error (js "Foreign key constraint violated")), s)

/-- A call, given what the network does. -/
def handle : Handler WebhookCalls Err WebhookStore Network := fun net s o =>
  match o with
  | .now => (.ok s.now, s)
  | .findWebhook id => (.ok (s.webhooks id), s)
  | .disable id => s.updateWebhook id fun row => { row with isActive := false }
  | .lookup _ => (match net.lookup with
      | some address => .ok address
      | none => .error (.error (js "ENOTFOUND")), s)
  | .post _ => (.ok (finalStatus net.exchanges), s)
  | .createDelivery d => s.createDelivery d
  | .recordSuccess id => s.updateWebhook id fun row => { row with failureCount := 0 }
  | .recordFailure id => s.updateWebhook id fun row => { row with failureCount := row.failureCount + 1 }

end WebhookStore

/-! ### The worker -/

/-- An answer whose status means success. -/
def isSuccess (httpStatus : Option Nat) : Bool := httpStatus.any fun status => 200 ≤ status && status < 300

/-- The record of an attempt. -/
def deliveryRecord (job : WebhookJobData) (httpStatus : Option Nat) : WebhookDelivery where
  webhookId := job.webhookId
  event := job.payload.eventType
  httpStatus := httpStatus
  attempt := job.attemptsMade + 1
  success := isSuccess httpStatus
  notificationId := job.payload.notificationId

/-- Count the attempt, and fail the job if it failed. -/
def concludeDelivery (job : WebhookJobData) (httpStatus : Option Nat) : WebhookProg Unit :=
  if isSuccess httpStatus then (WebhookOp.recordSuccess job.webhookId).call
  else do
    (WebhookOp.recordFailure job.webhookId).call
    .throw (.error (js "Request failed"))

/-- The `finally` block. -/
def accountDelivery (job : WebhookJobData) (httpStatus : Option Nat) : WebhookProg Unit := do
  (WebhookOp.createDelivery (deliveryRecord job httpStatus)).call
  concludeDelivery job httpStatus

/-- Check the address of a host, unless local webhooks are allowed. -/
def guardAddress (env : WebhookEnv) (hostname : JsString) : WebhookProg Unit :=
  if env.allowLocal then return ()
  else do
    let found ← (WebhookOp.lookup hostname).call.settle
    match checkedAddress env ⟨found.toOption, []⟩ with
    | .error e => .throw e
    | .ok _ => return ()

/-- Send the request and account for it. -/
def deliverWebhook (env : WebhookEnv) (job : WebhookJobData) (plaintextSecret : JsString) (now : Millis) :
    WebhookProg Unit := do
  let httpStatus ← (WebhookOp.post (webhookRequest env job plaintextSecret now)).call
  accountDelivery job httpStatus

/-- An attempt: what a job does for a webhook that passes the pre-flight check. -/
def attemptWebhook (env : WebhookEnv) (job : WebhookJobData) : WebhookProg Unit :=
  match signingSecret env.gcm env.config job.secret with
  | .error e => .throw e
  | .ok plaintextSecret => do
    let now ← WebhookOp.now.call
    match env.hostname job.url with
    | none => return ()
    | some hostname =>
      guardAddress env hostname
      deliverWebhook env job plaintextSecret now

/-- `process`, for a webhook that was found or not. -/
def preflightWebhook (env : WebhookEnv) (job : WebhookJobData) : Option WebhookRow → WebhookProg Unit
  | none => return ()
  | some row =>
    if !row.isActive then return ()
    else if row.failureCount ≥ env.autoDisableThreshold then (WebhookOp.disable job.webhookId).call
    else attemptWebhook env job

/-- `process` -/
def runWebhookJob (env : WebhookEnv) (job : WebhookJobData) : WebhookProg Unit := do
  let webhook ← (WebhookOp.findWebhook job.webhookId).call
  preflightWebhook env job webhook

/-! ### Runs -/

/-- What happens to the tables between the calls of the worker. -/
inductive WebhookChange where
  | tick (ms : Nat)
  /-- An owner switches a webhook on or off. -/
  | setActive (id : JsString) (isActive : Bool)
  /-- An owner deletes a webhook, and its deliveries with it. -/
  | delete (id : JsString)
  deriving DecidableEq, Repr

/-- A change of the tables. -/
def WebhookChange.apply (e : WebhookChange) (s : WebhookStore) : Option WebhookStore :=
  match e with
  | tick ms => some { s with now := s.now + ms }
  | setActive id isActive => some (s.updateWebhook id fun row => { row with isActive := isActive }).2
  | delete id => some { s with
      webhooks := fun id' => if id' = id then none else s.webhooks id'
      deliveries := s.deliveries.filter (·.webhookId != id) }

/-- Webhook jobs over one database. -/
def webhookJobs (env : WebhookEnv) :
    System WebhookCalls Err Unit WebhookJobData WebhookStore Network WebhookChange where
  handler := WebhookStore.handle
  code job _ := runWebhookJob env job
  outside := WebhookChange.apply

/-- A pool of webhook jobs. -/
abbrev WebhookPool := Pool WebhookCalls Err Unit WebhookJobData WebhookStore Network

/-- A job that runs, or has run. -/
abbrev WebhookThread := Thread WebhookCalls Err Unit WebhookJobData WebhookStore Network

/-- A call of the worker that was answered. -/
abbrev WebhookCallEvent := Event WebhookCalls Err WebhookStore Network

/-- A step of such a pool. -/
abbrev WebhookLabel := Label WebhookJobData Network WebhookChange

/-- The pre-flight check lets a webhook pass. -/
def WebhookRow.ready (env : WebhookEnv) (row : WebhookRow) : Bool :=
  row.isActive && decide (row.failureCount < env.autoDisableThreshold)

/-- The pre-flight check finds that a webhook is to be disabled. -/
def WebhookRow.exhausted (env : WebhookEnv) (row : WebhookRow) : Bool :=
  row.isActive && decide (env.autoDisableThreshold ≤ row.failureCount)

/-- The webhook that a call found. -/
def WebhookOp.found : (o : WebhookOp) → Except Err o.Res → Option WebhookRow
  | findWebhook _, .ok row => row
  | _, _ => none

/-- The status that a call came back with, if it is a request. -/
def WebhookOp.status : (o : WebhookOp) → Except Err o.Res → Option (Option Nat)
  | post _, .ok status => some status
  | _, _ => none

/-- The job attempted a delivery: it found its webhook ready. -/
def deliveryAttempted (env : WebhookEnv) (tr : List WebhookCallEvent) : Bool :=
  tr.any fun e => (e.op.found e.reply).any (·.ready env)

/-- The status of the request that the job made. -/
def statusOfRequest (tr : List WebhookCallEvent) : Option (Option Nat) :=
  tr.findSome? fun e => e.op.status e.reply

/-- The status of the answer that the job got. -/
def answeredStatus (t : WebhookThread) : Option Nat := (statusOfRequest t.trace).join

/-- The failures since the last success, after one more job has ended. -/
def countAttempt (env : WebhookEnv) (id : JsString) (failures : Nat) (t : WebhookThread) : Nat :=
  if t.request.webhookId = id ∧ deliveryAttempted env t.trace = true then
    if isSuccess (answeredStatus t) then 0 else failures + 1
  else failures

/-- An attempt has ended that is to leave a record. -/
def leaves (env : WebhookEnv) (d : WebhookDelivery) (t : WebhookThread) : Nat :=
  if deliveryAttempted env t.trace = true ∧ t.prog.running = false ∧
    deliveryRecord t.request (answeredStatus t) = d
  then 1 else 0

/-- Every webhook counts its failed attempts since the last success, in the order in which attempts ended, and
every attempt on it left a record. -/
structure AccountedFor (env : WebhookEnv) (s : WebhookStore) (ends : List WebhookThread)
    (p : WebhookPool) : Prop where
  count : ∀ id, ∀ before ∈ s.webhooks id, ∀ row ∈ p.store.webhooks id,
    row.failureCount = ends.foldl (countAttempt env id) before.failureCount
  recorded : ∀ d, (p.store.webhooks d.webhookId).isSome = true →
    p.sum (leaves env d) ≤ p.store.deliveries.count d

/-- A webhook that failed too often is inactive. -/
def DisabledAtOnce (env : WebhookEnv) (s : WebhookStore) : Prop :=
  ∀ id, ∀ row ∈ s.webhooks id, env.autoDisableThreshold ≤ row.failureCount → row.isActive = false

/-- A job that finds that its webhook failed too often makes no request, and leaves it inactive. -/
def DisabledByNext (env : WebhookEnv) (p : WebhookPool) : Prop :=
  ∀ t ∈ p.threads, ∀ e ∈ t.trace, (e.op.found e.reply).any (·.exhausted env) = true →
    statusOfRequest t.trace = none ∧
    (t.prog.running = false →
      ∃ last ∈ t.trace.getLast?, ∀ row ∈ last.after.webhooks t.request.webhookId, row.isActive = false)

/-- An attempt whose webhook is ready can sign and address its request, and the address that is looked up
passes. -/
def Deliverable (env : WebhookEnv) (job : WebhookJobData) : (o : WebhookOp) → Except Err o.Res → Prop
  | .findWebhook id, r => ((WebhookOp.findWebhook id).found r).any (·.ready env) = true →
      (signingSecret env.gcm env.config job.secret).isOk = true ∧ (env.hostname job.url).isSome = true
  | .lookup _, r => (checkedAddress env ⟨r.toOption, []⟩).isOk = true
  | _, _ => True

instance (env : WebhookEnv) (job : WebhookJobData) (o : WebhookOp) (r : Except Err o.Res) :
    Decidable (Deliverable env job o r) := by unfold Deliverable; split <;> infer_instance

end HeraldGateway
