import HeraldGateway.Gateway.Footprint

/-!
# Which jobs are let through

What production jobs may say, and which jobs stay in the sandbox.
-/

namespace HeraldGateway

open Async

/-!
## Gated content

Every production job that is put on the notification queue says something that the content scanner does
not block and, if it names a template, names an approved one of its protocol.
-/

/-- What a notification says, in whose name. -/
structure Content where
  subject : JsString
  body : JsString
  templateId : Option JsString
  protocolId : JsString
  deriving DecidableEq

/-- The content of a job. -/
def NotificationJobData.content (job : NotificationJobData) : Content :=
  ⟨job.subject, job.body, job.templateId, job.protocolId⟩

/-- The content of a schedule. -/
def ScheduledNotification.content (r : ScheduledNotification) : Content :=
  ⟨r.subject, r.body, r.templateId, r.protocolId⟩

/-- The content of a campaign, whose jobs name no template. -/
def Campaign.content (c : Campaign) : Content := ⟨c.subject, c.body, none, c.protocolId⟩

/-- The content of a broadcast. -/
def Task.broadcastContent : Task → Option Content
  | broadcast dto protocol => some ⟨dto.subject, dto.body, dto.templateId, protocol.protocolId⟩
  | _ => none

/-- The scanner does not block the content. -/
def Content.Scanned (c : Content) : Prop := (Scanner.scan c.subject c.body).verdict ≠ .block

instance (c : Content) : Decidable c.Scanned := inferInstanceAs (Decidable (_ ≠ _))

/-- A protocol has an approved template. -/
def Approved (s : World) (id protocolId : JsString) : Prop :=
  (s.templates.find? fun t => t.id == id && t.protocolId == protocolId).map (·.status) = some .approved

instance (s : World) (id protocolId : JsString) : Decidable (Approved s id protocolId) :=
  inferInstanceAs (Decidable (_ = _))

/-- The scanner does not block the content, and the template that it names is approved. -/
def Content.Admissible (s : World) (c : Content) : Prop :=
  c.Scanned ∧ (truthy c.templateId = true → Approved s (c.templateId.getD []) c.protocolId)

instance (s : World) (c : Content) : Decidable (c.Admissible s) := inferInstanceAs (Decidable (_ ∧ _))

/-- If the call puts a production job on the queue, the job is admissible then. -/
def AddsAdmissible (e : GatewayEvent) : Prop :=
  ∀ a ∈ e.op.added?, a.1.production = true → a.1.content.Admissible e.before

instance (e : GatewayEvent) : Decidable (AddsAdmissible e) := by unfold AddsAdmissible; infer_instance

/-- Every production job was admissible when it was put on the queue. -/
def AddsGated (p : GatewayPool) : Prop := ∀ t ∈ p.threads, ∀ e ∈ t.trace, AddsAdmissible e

instance (p : GatewayPool) : Decidable (AddsGated p) := by unfold AddsGated; infer_instance

/-- What is read in a step is admissible: a template that is looked up is the protocol's, and so is the
content of a broadcast that finds subscribers, of a schedule that is due for a wallet, and of a campaign
that has an audience. -/
def ReadsAdmissible (task : Task) (s : World) : (o : Op) → Except Err o.Res → Prop
  | .templateFindFirst .., .ok found => found ≠ none
  | .subscriptionFindMany _, .ok targets => targets ≠ [] → ∀ c ∈ task.broadcastContent, c.Admissible s
  | .scheduledFindOverdue _, .ok rows => ∀ r ∈ rows, truthy r.wallet = true → r.content.Admissible s
  | .campaignFindUnique _, .ok found => ∀ c ∈ found, c.wallets ≠ [] → c.content.Admissible s
  | _, _ => True

instance (task : Task) (s : World) (o : Op) (r : Except Err o.Res) :
    Decidable (ReadsAdmissible task s o r) := by
  unfold ReadsAdmissible; split <;> infer_instance

/-- A step that reads only admissible content, and takes no approval back while a task is under way. -/
def Gated (env : Env) (p : GatewayPool) : GatewayLabel → Prop
  | .outside (.configure w) => (∃ t ∈ p.threads, t.prog.running = true) →
      ∀ t ∈ p.store.templates, Approved p.store t.id t.protocolId → Approved w t.id t.protocolId
  | l => (gateway env).Answers ReadsAdmissible p l

instance (env : Env) (p : GatewayPool) (l : GatewayLabel) : Decidable (Gated env p l) := by
  unfold Gated; split <;> infer_instance

/-!
## Sandbox isolation

What sandbox callers start stays in the sandbox: no job that one of them put on the queue, now or by a
schedule it stored, is processed by the production branch of the mail worker.
-/

/-- A task that a caller authenticated for the sandbox started. -/
def Task.sandboxed : Task → Bool
  | notify _ protocol | notifyBatch _ protocol | broadcast _ protocol | systemBroadcast _ protocol
  | scheduleOnce _ protocol | scheduleRecurring _ protocol | cancelScheduled _ protocol
  | launchCampaign _ protocol => protocol.environment == .sandbox
  | _ => false

/-- The wallet that a task stores a schedule for. -/
def Task.scheduledWallet : Task → Option JsString
  | scheduleOnce dto _ => dto.wallet
  | scheduleRecurring dto _ => dto.wallet
  | _ => none

/-- The schedule that a call stored. -/
def createdSchedule (e : GatewayEvent) : Option Nat :=
  match e.op with
  | .scheduledCreate _ =>
    if e.before.scheduled.length < e.after.scheduled.length then some e.before.scheduled.length
    else none
  | _ => none

/-- A task added a job with this data. -/
def AddedBy (t : GatewayThread) (job : NotificationJobData) : Prop :=
  ∃ e ∈ t.trace, e.op.added?.map (·.1) = some job

/-- A task stored a schedule from which a job with this data was added. -/
def ScheduledBy (p : GatewayPool) (t : GatewayThread) (job : NotificationJobData) : Prop :=
  ∃ e ∈ t.trace, ∃ n ∈ createdSchedule e, ∃ u ∈ p.threads, ∃ e' ∈ u.trace,
    e'.op.added? = some (job, some n)

instance (t : GatewayThread) (job : NotificationJobData) : Decidable (AddedBy t job) := by
  unfold AddedBy; infer_instance

instance (p : GatewayPool) (t : GatewayThread) (job : NotificationJobData) :
    Decidable (ScheduledBy p t job) := by
  unfold ScheduledBy; infer_instance

/-- No job that comes from a sandbox caller is attempted in production. -/
def SandboxIsolated (p : GatewayPool) : Prop :=
  ∀ t ∈ p.threads, t.request.sandboxed = true → ∀ u ∈ p.threads, ∀ job ∈ u.request.job?,
    job.production = true → ¬ AddedBy t job ∧ ¬ ScheduledBy p t job

instance (p : GatewayPool) : Decidable (SandboxIsolated p) := by
  unfold SandboxIsolated; infer_instance

/-- A broadcast of a sandbox caller finds nobody to send to, nor does a campaign it launches. -/
def NoAudience (task : Task) : (o : Op) → Except Err o.Res → Prop
  | .subscriptionFindMany _, .ok targets => task.sandboxed = true → targets = []
  | .campaignFindUnique _, .ok found => task.sandboxed = true → ∀ campaign ∈ found, campaign.wallets = []
  | _, _ => True

instance (task : Task) (o : Op) (r : Except Err o.Res) : Decidable (NoAudience task o r) := by
  unfold NoAudience; split <;> infer_instance

/-- A step in which no sandbox caller reaches anybody other than by notify requests: its schedules name
no wallet, and its broadcasts and campaigns have no audience. -/
def ReachesNobody (env : Env) (p : GatewayPool) : GatewayLabel → Prop
  | .arrive task => task.sandboxed = true → truthy task.scheduledWallet = false
  | l => (gateway env).Answers (fun task _ => NoAudience task) p l

instance (env : Env) (p : GatewayPool) (l : GatewayLabel) : Decidable (ReachesNobody env p l) :=
  match l with
  | .arrive _ | .pick .. | .outside _ => by unfold ReachesNobody; infer_instance

/-- Schedules are numbered by their places in the table. -/
def World.Numbered (s : World) : Prop :=
  ∀ (n : Nat) r, s.scheduled[n]? = some r → r.id = n

end HeraldGateway
