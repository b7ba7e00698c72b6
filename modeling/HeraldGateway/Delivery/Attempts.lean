import HeraldGateway.Gateway.Footprint

/-!
# Attempts of a job

BullMQ attempts a job again when its processor throws or stalls. All attempts of one production job run
here, over a world in which everything else may change at any time. A notification should leave them at
most once by each channel, and at most once for the digest buffer.
-/

namespace HeraldGateway

open Async

/-- A status in which the notification still has to be sent. -/
def NotificationStatus.isOpen : NotificationStatus → Bool
  | .queued | .processing | .failed => true
  | _ => false

/-- A notification is recorded as sent. -/
def World.recordedSent (s : World) (id : NotificationId) : Bool :=
  s.notifications.any fun r => r.id == id && r.status.isSent

/-- The attempts of a job. What else happens may not concern whether its notification is recorded as
sent. -/
def attempts (env : Env) (job : NotificationJobData) : System Calls Err Unit Unit World Choice World where
  handler := World.handle env
  code _ _ := processNotification env job
  outside w s :=
    if w.recordedSent job.notificationId = s.recordedSent job.notificationId then some w else none

/-- A pool of attempts. -/
abbrev AttemptPool := Pool Calls Err Unit Unit World Choice

/-- A call that an attempt made. -/
abbrev AttemptEvent := Event Calls Err World Choice

/-- A step of a pool of attempts. -/
abbrev AttemptLabel := Label Unit Choice World

/-- Where a notification goes from an attempt. -/
inductive Outlet where
  | channel (c : Channel)
  /-- The digest buffer. -/
  | buffer
  deriving DecidableEq, Repr

/-- The ways there are. -/
def Outlet.all : List Outlet := [.channel .email, .channel .telegram, .channel .sms, .buffer]

/-- The call hands the notification of an attempt over to its recipient. A post to the protocol's group
has another recipient. -/
def Op.handsTo (x : Outlet) : Op → Bool
  | .sendEmail _ => x == .channel .email
  | .sendTelegram p => x == .channel .telegram && p.target == .subscriber
  | .sendSms _ => x == .channel .sms
  | .digestCreate .. => x == .buffer
  | _ => false

/-- The notification was handed over, whether or not the attempt heard of it. -/
def handedOver (x : Outlet) (e : AttemptEvent) : Bool := e.op.handsTo x && e.choice.fault.applies

/-- How often the attempts handed the notification over. -/
def handovers (x : Outlet) (p : AttemptPool) : Nat :=
  (p.threads.map fun t => t.trace.countP (handedOver x)).sum

/-- The update reopens a notification. -/
def NotificationUpdate.reopens (u : NotificationUpdate) : Bool := u.status.any (·.isOpen)

/-- The call reopened a notification that was recorded as sent. -/
def reopened (id : NotificationId) (e : AttemptEvent) : Bool :=
  match e.op with
  | .notificationUpdate id' u =>
    id' == id && u.reopens && e.choice.fault.applies && e.before.recordedSent id
  | _ => false

/-- The notification was handed over at most once by each way, and once recorded as sent it was not
reopened. -/
structure AtMostOnce (job : NotificationJobData) (p : AttemptPool) : Prop where
  once : ∀ x, handovers x p ≤ 1
  final : ∀ t ∈ p.threads, ∀ e ∈ t.trace, reopened job.notificationId e = false

/-- The call records that the notification was sent. -/
def Op.recordsSent : Op → Bool
  | .notificationUpdate _ u => u.recordsSent
  | _ => false

/-- The job is attempted again only if nothing was handed over before, an earlier attempt does not go on
then, and no attempt misses that it recorded the notification as sent. -/
def RetriedUnsent (job : NotificationJobData) (p : AttemptPool) : AttemptLabel → Prop
  | .arrive _ => p.store.recordedSent job.notificationId = false ∧
      ∀ t ∈ p.threads, ∀ e ∈ t.trace, ∀ x ∈ Outlet.all, handedOver x e = false
  | .pick i c => i + 1 = p.threads.length ∧ ∀ t ∈ p.threads[i]?, ∀ o ∈ t.prog.next?,
      o.recordsSent = true → c.2.fault.applies = true → c.2.fault = .none
  | .outside _ => True

instance (job : NotificationJobData) (p : AttemptPool) (l : AttemptLabel) :
    Decidable (RetriedUnsent job p l) := by
  unfold RetriedUnsent; split <;> infer_instance

/-- The job is attempted again only once every earlier attempt threw. -/
def RetriedAfterThrow (p : AttemptPool) : AttemptLabel → Prop
  | .arrive _ => ∀ t ∈ p.threads, t.prog.result?.any (!·.isOk) = true
  | _ => True

instance (p : AttemptPool) (l : AttemptLabel) : Decidable (RetriedAfterThrow p l) := by
  unfold RetriedAfterThrow; split <;> infer_instance

end HeraldGateway
