import HeraldGateway.Gateway.Gating

/-!
# Schedules over runs

What should become of schedules that are cancelled, and of those that fall due.
-/

namespace HeraldGateway

open Async

/-!
## Cancelled schedules

A schedule that was cancelled should stay so, and nothing should be enqueued for it any more, whatever
passes of the scheduler are under way.
-/

/-- The status of the schedule of a number. -/
def World.scheduleStatus (s : World) (id : Nat) : Option ScheduledStatus :=
  s.scheduled[id]?.map (·.status)

/-- The jobs that were ever enqueued for a schedule. -/
def World.enqueuedFor (s : World) (id : Nat) : List QueuedJob :=
  s.notificationQueue.filter (·.jobId == some id)

/-- An add that was given up on names no identifier of its own. -/
def World.Anonymous (s : World) : Prop := ∀ j ∈ s.pendingAdds, j.jobId = none

/-- A schedule is cancelled, and nothing was enqueued for it since `p₁`. -/
structure StaysCancelled (id : Nat) (p₁ p₂ : GatewayPool) : Prop where
  status : p₂.store.scheduleStatus id = some .cancelled
  enqueued : p₂.store.enqueuedFor id = p₁.store.enqueuedFor id

/-- The call writes a schedule, or enqueues something for it. -/
def Op.concerns (id : Nat) : Op → Bool
  | .scheduledUpdate id' _ => id' == id
  | .notificationAdd _ jobId _ => jobId == some id
  | _ => false

/-- A schedule is not found due. -/
def NotDue (id : Nat) : Good
  | .scheduledFindOverdue _, .ok rows => ∀ r ∈ rows, r.id ≠ id
  | _, _ => True

/-- What is left of a program concerns a schedule only if it is found due again. -/
def DoneWith (id : Nat) {α : Type} (p : Gateway α) : Prop :=
  p.Within (fun o => o.concerns id = false) (NotDue id)

/-- A step in which no task that was under way in `p₁` goes on without being done with the schedule. -/
def ResumesDone (id : Nat) (p₁ p : GatewayPool) : GatewayLabel → Prop
  | .pick i _ => i < p₁.threads.length → ∀ t ∈ p.threads[i]?, DoneWith id t.prog
  | _ => True

/-!
## Scheduled sends

Each occurrence of a schedule that falls due should lead to one notification and one job that names it,
however many passes of the scheduler there are, and a recurring schedule should go on.
-/

/-- The schedules that a call found due. -/
def dueRows : (o : Op) → Except Err o.Res → List ScheduledNotification
  | .scheduledFindOverdue _, .ok rows => rows
  | _, _ => []

/-- The schedules that a pass found due. -/
def foundDue (tr : List GatewayEvent) : List ScheduledNotification := tr.flatMap fun e => dueRows e.op e.reply

/-- Those that name a wallet. -/
def dueSends (tr : List GatewayEvent) : List ScheduledNotification :=
  (foundDue tr).filter fun r => truthy r.wallet

/-- The notification that a call stored. -/
def storedRow (e : GatewayEvent) : Option NotificationId :=
  match e.op with
  | .notificationCreate n =>
    if e.before.notifications.length < e.after.notifications.length then some n.id else none
  | _ => none

/-- The notifications that a pass stored. -/
def storedRows (tr : List GatewayEvent) : List NotificationId := tr.filterMap storedRow

/-- The notification whose job a call put on the queue, and the schedule it did so for. -/
def enqueuedJob (e : GatewayEvent) : Option (NotificationId × Nat) :=
  match e.op with
  | .notificationAdd data (some id) _ =>
    if e.before.notificationQueue.length < e.after.notificationQueue.length then
      some (data.notificationId, id)
    else none
  | _ => none

/-- The jobs that a pass put on the queue. -/
def enqueuedJobs (tr : List GatewayEvent) : List (NotificationId × Nat) := tr.filterMap enqueuedJob

/-- The call writes a schedule. -/
def Op.updates (id : Nat) : Op → Bool
  | .scheduledUpdate id' _ => id' == id
  | _ => false

/-- The status in which a pass left a schedule. -/
def leftIn (tr : List GatewayEvent) (id : Nat) : Option ScheduledStatus :=
  (tr.filter (·.op.updates id)).getLast?.bind (·.after.scheduleStatus id)

/-- Whether there are further occurrences. -/
def ScheduledNotification.recurs (r : ScheduledNotification) : Bool := r.recurring && truthy r.cronExpr

/-- A schedule is as it was found, or was cancelled meanwhile. -/
def World.Waits (s : World) (r : ScheduledNotification) : Prop :=
  s.scheduled[r.id]? = some r ∨ s.scheduled[r.id]? = some { r with status := .cancelled }

/-- A pass takes up only occurrences that wait for it, stores at most one notification for each, enqueues
its job, and has done so for each in the end. -/
structure FiresOnce (t : GatewayThread) : Prop where
  waits : ∀ r ∈ foundDue t.trace, ∀ e ∈ t.trace.find? (·.op.updates r.id), e.before.Waits r
  jobs : (enqueuedJobs t.trace).map (·.2) <+: (dueSends t.trace).map (·.id)
  rows : (enqueuedJobs t.trace).map (·.1) <+: storedRows t.trace
  open_ : (storedRows t.trace).length ≤ (enqueuedJobs t.trace).length + 1
  ended : t.prog.running = false → (enqueuedJobs t.trace).map (·.2) = (dueSends t.trace).map (·.id) ∧
    storedRows t.trace = (enqueuedJobs t.trace).map (·.1) ∧
      ∀ r ∈ foundDue t.trace, r.recurs = true → leftIn t.trace r.id = some .pending

/-- Every pass fires what it takes up exactly once, and no notification is stored twice. -/
structure SendsFireOnce (p : GatewayPool) : Prop where
  passes : ∀ t ∈ p.threads, t.request = .reconcile → FiresOnce t
  distinct : (p.threads.flatMap fun t => storedRows t.trace).Nodup

/-- No call for a due schedule fails, the identifier of its job is free, and there is a next date for a
recurring one. -/
def CallSucceeds (tr : List GatewayEvent) (e : GatewayEvent) : Prop :=
  match e.op with
  | .scheduledUpdate .. | .notificationCreate _ => e.reply.isOk = true
  | .notificationAdd _ jobId _ => e.reply.isOk = true ∧ ∀ id ∈ jobId, id ∉ e.before.takenJobIds
  | .now => ∀ r ∈ foundDue tr, r.recurs = true →
      (nextCronRun e.before.now (r.cronExpr.getD [])).isSome = true
  | _ => True

instance (tr : List GatewayEvent) (e : GatewayEvent) : Decidable (CallSucceeds tr e) := by
  unfold CallSucceeds; split <;> infer_instance

/-- A pass found a schedule due, and has not yet completed it or set its next run. -/
def InHand (id : Nat) (t : GatewayThread) : Prop :=
  (∃ r ∈ foundDue t.trace, r.id = id) ∧ t.trace.countP (·.op.updates id) < 2

instance (id : Nat) (t : GatewayThread) : Decidable (InHand id t) := by unfold InHand; infer_instance

/-- A step in which the call of a pass succeeds and finds due no schedule that another pass has in
hand. -/
def PassUndisturbed (env : Env) (p : GatewayPool) : GatewayLabel → Prop
  | .pick i c => ∀ t ∈ p.threads[i]?, t.request = .reconcile → ∀ o ∈ t.prog.next?,
      CallSucceeds t.trace ((gateway env).handler.event c.2 p.store o) ∧
        ∀ r ∈ dueRows o (World.handle env c.2 p.store o).1, ∀ j : Fin p.threads.length,
          j.val ≠ i → ¬ InHand r.id p.threads[j]
  | _ => True

instance (env : Env) (p : GatewayPool) (l : GatewayLabel) : Decidable (PassUndisturbed env p l) :=
  match l with
  | .pick .. => by unfold PassUndisturbed; infer_instance
  | .arrive _ | .outside _ => .isTrue trivial

end HeraldGateway
