import HeraldGateway.ChannelDispatch
import HeraldGateway.Templates.Rendering

/-!
# Review of templates

Templates are written by `template.controller.ts`, reviewed by hand in the database, checked when a
notification that names one is accepted, and loaded when an email is rendered. Requests write one statement
after the other, so that other requests, reviews and sends may come between.
-/

namespace HeraldGateway

/-- The columns that an update of a template changes. -/
structure TemplateUpdates where
  htmlSource : Option JsString := none
  previewText : Option (Option JsString) := none
  isDefault : Option Bool := none
  deriving DecidableEq, Repr

/-- A statement that writes templates. -/
inductive TemplateWrite where
  | unsetDefaults (protocolId category : JsString)
  | create (row : TemplateRow)
  | update (id : JsString) (updates : TemplateUpdates)
  | deactivate (id : JsString)
  deriving DecidableEq, Repr

/-- The body of a request that creates or updates a template. -/
structure TemplateBody where
  category : JsString
  htmlSource : Option JsString := none
  textSource : Option JsString := none
  previewText : Option (Option JsString) := none
  isDefault : Option Bool := none
  deriving DecidableEq, Repr

/-- `validateCustomTemplate` of a tier that has templates, where `sanitizeHtml` leaves out what is
dangerous. -/
def validateCustomTemplate (sanitizeHtml : JsString → JsString) (source : JsString) : JsString :=
  sanitizeHtml (replaceUnsubscribeTags 0 source)

/-- What `createEmailTemplate` writes, with a new id. -/
def createEmailTemplate (sanitizeHtml : JsString → JsString) (protocolId : JsString) (tier : Nat)
    (id : JsString) (body : TemplateBody) : List TemplateWrite :=
  if tier < 1 then []
  else
    (if body.isDefault = some true then [.unsetDefaults protocolId body.category] else []) ++
    [.create {
      id := id
      protocolId := protocolId
      category := body.category
      htmlSource := some (validateCustomTemplate sanitizeHtml (body.htmlSource.getD []))
      textSource := body.textSource
      previewText := body.previewText.join
      isDefault := body.isDefault.getD false }]

/-- The template that a request is about. -/
def activeTemplate? (rows : List TemplateRow) (id protocolId : JsString) : Option TemplateRow :=
  rows.find? fun t => t.id == id && t.protocolId == protocolId && t.isActive

/-- What `updateEmailTemplate` writes, with the templates that it reads. -/
def updateEmailTemplate (sanitizeHtml : JsString → JsString) (rows : List TemplateRow) (protocolId : JsString)
    (tier : Nat) (id : JsString) (body : TemplateBody) : List TemplateWrite :=
  if tier < 1 then []
  else
    match activeTemplate? rows id protocolId with
    | none => []
    | some existing =>
      (if body.isDefault = some true then [.unsetDefaults protocolId existing.category] else []) ++
      [.update id {
        htmlSource :=
          if truthy body.htmlSource then body.htmlSource.map (validateCustomTemplate sanitizeHtml) else none
        previewText := body.previewText
        isDefault := body.isDefault }]

/-- What `deleteEmailTemplate` writes. -/
def deleteEmailTemplate (rows : List TemplateRow) (protocolId id : JsString) : List TemplateWrite :=
  match activeTemplate? rows id protocolId with
  | none => []
  | some _ => [.deactivate id]

/-- A request to the controller. -/
inductive TemplateRequest where
  | create (protocolId : JsString) (tier : Nat) (id : JsString) (body : TemplateBody)
  | update (protocolId : JsString) (tier : Nat) (id : JsString) (body : TemplateBody)
  | delete (protocolId id : JsString)
  deriving DecidableEq, Repr

/-- What a request writes. -/
def TemplateRequest.writes (sanitizeHtml : JsString → JsString) (rows : List TemplateRow) :
    TemplateRequest → List TemplateWrite
  | .create protocolId tier id body => createEmailTemplate sanitizeHtml protocolId tier id body
  | .update protocolId tier id body => updateEmailTemplate sanitizeHtml rows protocolId tier id body
  | .delete protocolId id => deleteEmailTemplate rows protocolId id

/-- The row after an update. -/
def TemplateRow.update (t : TemplateRow) (u : TemplateUpdates) : TemplateRow :=
  { t with
    htmlSource := u.htmlSource <|> t.htmlSource
    previewText := u.previewText.getD t.previewText
    isDefault := u.isDefault.getD t.isDefault }

/-- The table after a statement. A row whose id is taken is not created. -/
def TemplateWrite.apply (rows : List TemplateRow) : TemplateWrite → List TemplateRow
  | .unsetDefaults protocolId category =>
    rows.map fun t =>
      if t.protocolId = protocolId ∧ t.category = category then { t with isDefault := false } else t
  | .create row => if rows.any (·.id == row.id) then rows else rows ++ [row]
  | .update id updates => rows.map fun t => if t.id = id then t.update updates else t
  | .deactivate id => rows.map fun t => if t.id = id then { t with isActive := false } else t

/-! ### Emails -/

/-- What a queued email has for the choice of its template. -/
structure EmailJob where
  protocolId : JsString
  category : JsString
  templateId : Option JsString := none
  deriving DecidableEq, Repr

/-- The parameters that choose the template. -/
def EmailJob.params (job : EmailJob) : RenderParams where
  template := getTemplateName job.category
  vars := []
  protocolId := some job.protocolId
  templateId := job.templateId

/-- Whether `queueProductionNotification` accepts the template that is named. -/
def passesGate (rows : List TemplateRow) (job : EmailJob) : Bool :=
  if truthy job.templateId then
    match rows.find? fun t => t.id == job.templateId.getD [] && t.protocolId == job.protocolId with
    | some t => t.status = .approved
    | none => true
  else true

/-! ### Runs -/

/-- The tables, the statements that requests have still to make, and the queued emails. `reviewed` are the
templates whose HTML was not edited since it was last approved. -/
structure ReviewState where
  templates : List TemplateRow := []
  requests : List (List TemplateWrite) := []
  queue : List EmailJob := []
  reviewed : List JsString := []
  deriving DecidableEq, Repr

/-- What happens to templates and emails. -/
inductive ReviewOp where
  /-- A request reads what it needs. -/
  | request (r : TemplateRequest)
  /-- A request makes its next statement. -/
  | write (request : Nat)
  /-- A request ends early. -/
  | abort (request : Nat)
  /-- A reviewer sets the status of a template. -/
  | review (id : JsString) (status : TemplateStatus)
  /-- A notification is accepted. -/
  | notify (job : EmailJob)
  /-- A broadcast, a schedule or a digest queues an email. -/
  | enqueue (job : EmailJob)
  /-- A worker loads the template that a queued email names, from rows in any order. -/
  | loadCustom (job : EmailJob) (rows : List TemplateRow)
  /-- A worker loads the default template for a queued email. -/
  | loadDefault (job : EmailJob) (rows : List TemplateRow)

/-- The templates whose HTML is as it was approved, after a statement. -/
def TemplateWrite.reviewed (reviewed : List JsString) : TemplateWrite → List JsString
  | .update id updates => if updates.htmlSource.isSome then reviewed.filter (· ≠ id) else reviewed
  | _ => reviewed

/-- One step. -/
def ReviewState.step (sanitizeHtml : JsString → JsString) (s : ReviewState) : ReviewOp → ReviewState
  | .request r => { s with requests := s.requests ++ [r.writes sanitizeHtml s.templates] }
  | .write i =>
    match s.requests[i]? with
    | some (w :: ws) =>
      { s with
        templates := w.apply s.templates
        requests := s.requests.set i ws
        reviewed := w.reviewed s.reviewed }
    | _ => s
  | .abort i => { s with requests := s.requests.set i [] }
  | .review id status =>
    { s with
      templates := s.templates.map fun t => if t.id = id then { t with status := status } else t
      reviewed := if status = .approved then id :: s.reviewed else s.reviewed }
  | .notify job => if passesGate s.templates job then { s with queue := job :: s.queue } else s
  | .enqueue job => { s with queue := job :: s.queue }
  | .loadCustom .. | .loadDefault .. => s

/-- The template that a step loads for an email. -/
def ReviewOp.loaded? : ReviewOp → Option TemplateRow
  | .loadCustom job rows => loadCustomEmailTemplate (some rows) (job.templateId.getD []) job.protocolId
  | .loadDefault job rows =>
    loadProtocolDefaultTemplate (some rows) job.protocolId (getTemplateName job.category)
  | _ => none

/-- The statement that a step makes. -/
def ReviewState.statement? (s : ReviewState) : ReviewOp → Option TemplateWrite
  | .write i => (s.requests[i]?).bind List.head?
  | _ => none

/-- A job names a template. -/
def EmailJob.Names (job : EmailJob) (t : TemplateRow) : Prop :=
  truthy job.templateId = true ∧ job.templateId = some t.id ∧ job.protocolId = t.protocolId

instance (job : EmailJob) (t : TemplateRow) : Decidable (job.Names t) := by
  unfold EmailJob.Names; infer_instance

/-- What a step can be: a new template has an id that no email names, and what is loaded for a queued email
are the rows of the table. -/
def ReviewState.Possible (s : ReviewState) (op : ReviewOp) : Prop :=
  (∀ row, s.statement? op = some (.create row) → ∀ job ∈ s.queue, ¬job.Names row) ∧
  match op with
  | .loadCustom job rows => job ∈ s.queue ∧ truthy job.templateId = true ∧ rows.Perm s.templates
  | .loadDefault job rows => job ∈ s.queue ∧ rows.Perm s.templates
  | _ => True

/-- The step takes none of the ways around the review: the HTML of an approved template is not edited, only
approved templates are made defaults, what is queued without the check names none but approved templates, and
no approval is withdrawn from a default template or from one that a queued email names. -/
def ReviewState.Careful (s : ReviewState) (op : ReviewOp) : Prop :=
  (∀ row, s.statement? op = some (.create row) → row.isDefault = false) ∧
  (∀ id updates, s.statement? op = some (.update id updates) → ∀ t ∈ s.templates, t.id = id →
    (updates.htmlSource.isSome = true → t.status ≠ .approved) ∧
    (updates.isDefault = some true → t.status = .approved)) ∧
  match op with
  | .review id status =>
    status ≠ .approved → ∀ t ∈ s.templates, t.id = id → t.isDefault = false ∧ ∀ job ∈ s.queue, ¬job.Names t
  | .enqueue job => ∀ t ∈ s.templates, job.Names t → t.status = .approved
  | _ => True

/-- A property of the steps holds at every step of a run. -/
def ReviewState.Throughout (sanitizeHtml : JsString → JsString) (P : ReviewState → ReviewOp → Prop) :
    ReviewState → List ReviewOp → Prop
  | _, [] => True
  | s, op :: ops => P s op ∧ (s.step sanitizeHtml op).Throughout sanitizeHtml P ops

/-- The template that a step loads is approved, and its HTML was not edited since. -/
def ReviewState.LoadsApproved (s : ReviewState) (op : ReviewOp) : Prop :=
  ∀ t, op.loaded? = some t → t.status = .approved ∧ t.id ∈ s.reviewed

end HeraldGateway
