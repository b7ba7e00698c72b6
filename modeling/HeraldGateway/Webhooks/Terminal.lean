import HeraldGateway.Delivery.Attempts

/-!
# The event that ends a notification

The attempts of a production job, one after another: BullMQ makes another one when the one before threw, as
long as the job may have more. When the job has finished, its webhooks should have been told once how it
ended.
-/

namespace HeraldGateway

open Async

/-- The stored status of a notification. -/
def World.statusOf (s : World) (id : NotificationId) : Option NotificationStatus :=
  (s.notifications.find? (·.id == id)).map (·.status)

/-- The attempts of a job. What else happens leaves the status of its notification alone. -/
def jobAttempts (env : Env) (job : NotificationJobData) : System Calls Err Unit Unit World Choice World where
  handler := World.handle env
  code _ _ := processNotification env job
  outside w s := if w.statusOf job.notificationId = s.statusOf job.notificationId then some w else none

/-- A job is attempted again when every earlier attempt threw, until it has been attempted so often. -/
def Retried (attempts : Nat) (p : AttemptPool) : AttemptLabel → Prop
  | .arrive _ => p.threads.length < attempts ∧ ∀ t ∈ p.threads, t.prog.result?.any (!·.isOk) = true
  | _ => True

instance (attempts : Nat) (p : AttemptPool) (l : AttemptLabel) : Decidable (Retried attempts p l) :=
  match l with
  | .arrive _ => by unfold Retried; infer_instance
  | .pick .. | .outside _ => .isTrue trivial

/-- A job has finished: its latest attempt returned, or was the last one. -/
def Finished (attempts : Nat) (p : AttemptPool) : Prop :=
  ∃ t ∈ p.threads.getLast?, t.prog.running = false ∧
    (t.prog.result?.any (·.isOk) = true ∨ p.threads.length = attempts)

instance (attempts : Nat) (p : AttemptPool) : Decidable (Finished attempts p) := by
  unfold Finished; infer_instance

/-- What a call tells the webhooks of a notification. -/
def Op.tells? (id : NotificationId) : Op → Option WebhookEventType
  | .webhookDispatch e => if e.notificationId = id then some e.event else none
  | _ => none

/-- What a history told the webhooks of a notification. -/
def toldIn (id : NotificationId) (tr : List AttemptEvent) : List WebhookEventType :=
  tr.filterMap fun e => Op.tells? id e.op

/-- What the attempts told them. -/
def told (id : NotificationId) (p : AttemptPool) : List WebhookEventType :=
  p.threads.flatMap fun t => toldIn id t.trace

/-- What the webhooks are to be told of a notification that ends in a status, if it can end in it. -/
def NotificationStatus.terminalEvents : NotificationStatus → Option (List WebhookEventType)
  | delivered => some [.delivered]
  | partialSend => some [.partialSend]
  | failed => some [.failed]
  | optedOut | digested => some []
  | queued | processing | blocked => none

/-- Once a job has finished, its webhooks were told exactly what its status says. -/
def ToldOnce (attempts : Nat) (job : NotificationJobData) (p : AttemptPool) : Prop :=
  Finished attempts p → (p.store.statusOf job.notificationId).bind (·.terminalEvents) =
    some (told job.notificationId p)

instance (attempts : Nat) (job : NotificationJobData) (p : AttemptPool) :
    Decidable (ToldOnce attempts job p) := by
  unfold ToldOnce; infer_instance

/-- A call that stores that a notification is being processed, or failed. -/
def Op.storesOpen : Op → Bool
  | .notificationUpdate _ u => u.status == some .processing || u.status == some .failed
  | _ => false

/-- A call that stores that every channel failed. -/
def Op.storesAllFailed : Op → Bool
  | .notificationUpdate _ u => u.errorCode == some (js "ALL_CHANNELS_FAILED")
  | _ => false

/-- The reply that a call failed with a text that the worker takes for an error of its own. -/
def repliesAllFailed {α : Type} : Except Err α → Bool
  | .error e => (js "All channels failed").isPrefixOf e.message
  | .ok _ => false

/-- A call after which the attempt still reports a failure: it stores what it should of one, it does not store
that every channel failed, and it does not fail in the worker's own words. -/
def Reportable (e : AttemptEvent) : Prop :=
  (Op.storesOpen e.op = true → e.reply.isOk = true) ∧ Op.storesAllFailed e.op = false ∧
    repliesAllFailed e.reply = false

instance (e : AttemptEvent) : Decidable (Reportable e) := by unfold Reportable; infer_instance

/-- A job is attempted again only before its webhooks were told anything, and a failure of its last attempt
can be reported. -/
def ReportsLast (env : Env) (attempts : Nat) (job : NotificationJobData) (p : AttemptPool) :
    AttemptLabel → Prop
  | .arrive _ => told job.notificationId p = []
  | .pick i c => i + 1 = attempts → ∀ t ∈ p.threads[i]?, ∀ o ∈ t.prog.next?,
      Reportable ((World.handle env).event c.2 p.store o)
  | .outside _ => True

instance (env : Env) (attempts : Nat) (job : NotificationJobData) (p : AttemptPool) (l : AttemptLabel) :
    Decidable (ReportsLast env attempts job p l) :=
  match l with
  | .arrive _ | .pick .. => by unfold ReportsLast; infer_instance
  | .outside _ => .isTrue trivial

end HeraldGateway
