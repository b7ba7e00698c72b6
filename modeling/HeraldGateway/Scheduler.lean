import HeraldGateway.Operations

/-!
# Scheduled notifications

`scheduler.service.ts`: schedules are stored, and every five minutes those that are due are put on the
notification queue.
-/

namespace HeraldGateway

open Async

variable (env : Env)

/-- `ScheduleOnceDto`, with the date that `scheduledFor` names, if it is one. -/
structure ScheduleOnceDto where
  wallet : Option JsString := none
  subject : JsString
  body : JsString
  category : Option JsString := none
  channels : Option (List JsString) := none
  scheduledFor : Option Int
  timezone : Option JsString := none
  templateId : Option JsString := none
  deriving DecidableEq, Repr

/-- `ScheduleRecurringDto` -/
structure ScheduleRecurringDto where
  wallet : Option JsString := none
  subject : JsString
  body : JsString
  category : Option JsString := none
  channels : Option (List JsString) := none
  cronExpr : JsString
  timezone : Option JsString := none
  templateId : Option JsString := none
  deriving DecidableEq, Repr

/-- The date of a time value, unless it is out of the range of dates. -/
def toDate (t : Int) : Option Int := if t.natAbs ≤ 8640000000000000 then some t else none

/-- A date some minutes or hours from now, where the number may be `NaN`. -/
def dateAfter (now : Millis) (count : Option Int) (unit : Nat) : Option Int :=
  count.bind fun n => toDate (now + n * unit)

/-- `getNextCronRun` at a time. -/
def nextCronRun (now : Millis) (cronExpr : JsString) : Option Int :=
  match words cronExpr with
  | [minute, hour, _, _, _] =>
    if (js "*/").isPrefixOf minute then dateAfter now (parseInt (minute.drop 2)) 60000
    else if (js "*/").isPrefixOf hour then dateAfter now (parseInt (hour.drop 2)) 3600000
    else dateAfter now (some 1) 86400000
  | _ => dateAfter now (some 1) 3600000

/-- `getNextCronRun` -/
def getNextCronRun (cronExpr : JsString) : Gateway (Option Int) := do
  let now ← call .now
  return nextCronRun now cronExpr

/-- What the database client says to a date that is none. -/
def invalidDate : Err := .error (js "Invalid Date")

/-- The row of a schedule. -/
def scheduledRow (protocolId : JsString) (dto : ScheduleOnceDto) (cronExpr : Option JsString)
    (nextRunAt : Int) (id : Nat) : ScheduledNotification where
  id := id
  protocolId := protocolId
  wallet := dto.wallet
  subject := dto.subject
  body := dto.body
  category := dto.category.getD (js "defi")
  channels := dto.channels.getD [js "email"]
  recurring := cronExpr.isSome
  cronExpr := cronExpr
  timezone := dto.timezone.getD (js "UTC")
  nextRunAt := nextRunAt
  status := .pending
  templateId := dto.templateId

/-- Store a schedule whose next run is at a date, if it is one. -/
def createSchedule (protocolId : JsString) (dto : ScheduleOnceDto) (cronExpr : Option JsString)
    (nextRunAt : Option Int) : Gateway Unit :=
  match nextRunAt with
  | none => .throw invalidDate
  | some date => call (.scheduledCreate (scheduledRow protocolId dto cronExpr date))

/-- `scheduleOnce` -/
def scheduleOnce (protocolId : JsString) (dto : ScheduleOnceDto) : Gateway Unit :=
  createSchedule protocolId dto none dto.scheduledFor

/-- `scheduleRecurring` -/
def scheduleRecurring (protocolId : JsString) (dto : ScheduleRecurringDto) : Gateway Unit := do
  let nextRunAt ← getNextCronRun dto.cronExpr
  createSchedule protocolId
    { wallet := dto.wallet
      subject := dto.subject
      body := dto.body
      category := dto.category
      channels := dto.channels
      scheduledFor := nextRunAt
      timezone := dto.timezone
      templateId := dto.templateId } (some dto.cronExpr) nextRunAt

/-- `cancelScheduled` -/
def cancelScheduled (protocolId : JsString) (id : Nat) : Gateway Unit :=
  call (.scheduledCancel id protocolId)

/-! ### Reconciling -/

/-- The row of a scheduled notification. -/
def reconciledRow (id : NotificationId) (job : ScheduledNotification) (wallet : JsString)
    (now : Millis) : NewNotification where
  id := id
  protocolId := job.protocolId
  walletHash := env.sha256 wallet
  subjectHash := env.sha256 job.subject
  status := .queued
  category := job.category
  writeReceipt := false
  queuedAt := some now

/-- The job of a scheduled notification. -/
def reconciledJob (id : NotificationId) (job : ScheduledNotification) (wallet : JsString) :
    NotificationJobData where
  notificationId := id
  protocolId := job.protocolId
  protocolPubkey := []
  protocolName := []
  wallet := wallet
  walletHash := some (env.sha256 wallet)
  subject := job.subject
  body := job.body
  category := job.category
  writeReceipt := false
  digestMode := false
  isSandbox := some false
  templateId := job.templateId

/-- Enqueue a due schedule, where it names a wallet. -/
def enqueueScheduled (now : Millis) (job : ScheduledNotification) : Gateway Unit :=
  if truthy job.wallet then do
    let id ← call .uuid
    call (.notificationCreate (reconciledRow env id job (job.wallet.getD []) now))
    call (.notificationAdd (reconciledJob env id job (job.wallet.getD [])) (some job.id) none)
  else
    return ()

/-- Complete a schedule, or set its next run. -/
def rearm (job : ScheduledNotification) : Gateway Unit :=
  if job.recurring && truthy job.cronExpr then do
    match ← getNextCronRun (job.cronExpr.getD []) with
    | none => .throw invalidDate
    | some date =>
      call (.scheduledUpdate job.id fun r => { r with status := .pending, nextRunAt := date })
  else
    call (.scheduledUpdate job.id fun r => { r with status := .completed })

/-- What reconciling does with one due schedule. -/
def reconcileJob (now : Millis) (job : ScheduledNotification) : Gateway Unit :=
  Prog.tryCatch (do
    call (.scheduledUpdate job.id fun r => { r with status := .running, lastRunAt := some now })
    enqueueScheduled env now job
    rearm job)
    fun _ => swallow (call (.scheduledUpdate job.id fun r => { r with status := .failed }))

/-- `reconcilePendingJobs` -/
def reconcilePendingJobs : Gateway Unit := do
  let now ← call .now
  let overdue ← call (.scheduledFindOverdue now)
  Prog.forEach (reconcileJob env now) overdue

end HeraldGateway
