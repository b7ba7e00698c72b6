import HeraldGateway.Async.Pool
import HeraldGateway.Operations
import HeraldGateway.Templates.Rendering

/-!
# Template requests, statement by statement

`createEmailTemplate`, `updateEmailTemplate` and `deleteEmailTemplate` of `template.controller.ts`. Each is a
sequence of statements without a transaction: others may come between them, and each of them may fail.
-/

namespace HeraldGateway.TemplateController

open Async

/-! ### Tables -/

/-- A row of `notification_templates`, with its name, the template of its subject and its version. -/
structure StoredTemplate extends TemplateRow where
  name : JsString
  subjectTemplate : Option JsString := none
  version : Nat := 1
  deriving DecidableEq, Repr

/-- A row of `notification_template_versions`. The pair of template and version is unique. -/
structure TemplateVersion where
  id : JsString
  templateId : JsString
  version : Nat
  htmlSource : JsString
  subjectTemplate : Option JsString
  deriving DecidableEq, Repr

/-- The columns that an update of a template changes. -/
structure Updates where
  name : Option JsString := none
  subjectTemplate : Option (Option JsString) := none
  previewText : Option (Option JsString) := none
  isDefault : Option Bool := none
  isActive : Option Bool := none
  htmlSource : Option JsString := none
  version : Option Nat := none
  deriving DecidableEq, Repr

/-- The values of a new template, of which a request may lack the name and the category. -/
structure NewTemplate where
  protocolId : JsString
  name : Option JsString
  category : Option JsString
  subjectTemplate : Option JsString
  htmlSource : JsString
  textSource : Option JsString
  previewText : Option JsString
  isDefault : Bool
  deriving DecidableEq, Repr

/-- The tables. -/
structure Store where
  templates : List StoredTemplate := []
  versions : List TemplateVersion := []
  deriving DecidableEq, Repr

/-! ### Statements -/

/-- The calls of the controller. A category that is `undefined` does not restrict a statement. -/
inductive TemplateOp where
  | find (id protocolId : JsString)
  | unsetDefaults (protocolId : JsString) (category : Option JsString)
  | create (values : NewTemplate)
  | createVersion (templateId : JsString) (version : Nat) (htmlSource : JsString)
      (subjectTemplate : Option JsString)
  | countVersions (templateId : JsString)
  | oldestVersions (templateId : JsString) (take : Nat)
  | deleteVersions (ids : List JsString)
  | update (id : JsString) (updates : Updates)
  deriving DecidableEq, Repr

/-- What these calls give. -/
def TemplateOp.Res : TemplateOp → Type
  | find .. => Option StoredTemplate
  | create _ => JsString
  | countVersions _ => Nat
  | oldestVersions .. => List TemplateVersion
  | _ => Unit

/-- The calls of the controller. -/
abbrev TemplateCalls : Signature := ⟨TemplateOp, TemplateOp.Res⟩

/-- A function of the controller. -/
abbrev Templates (α : Type) := Prog TemplateCalls Err α

/-- Make a call. -/
def TemplateOp.call (o : TemplateOp) : Templates o.Res := @Prog.perform TemplateCalls Err o

/-- `notificationTemplate.findFirst` -/
def findTemplate (id protocolId : JsString) : Templates (Option StoredTemplate) :=
  (TemplateOp.find id protocolId).call

/-- `notificationTemplate.updateMany` -/
def unsetDefaults (protocolId : JsString) (category : Option JsString) : Templates Unit :=
  (TemplateOp.unsetDefaults protocolId category).call

/-- `notificationTemplate.create` -/
def insertTemplate (values : NewTemplate) : Templates JsString := (TemplateOp.create values).call

/-- `notificationTemplateVersion.create` -/
def insertVersion (templateId : JsString) (version : Nat) (htmlSource : JsString)
    (subjectTemplate : Option JsString) : Templates Unit :=
  (TemplateOp.createVersion templateId version htmlSource subjectTemplate).call

/-- `notificationTemplateVersion.count` -/
def countVersions (templateId : JsString) : Templates Nat := (TemplateOp.countVersions templateId).call

/-- `notificationTemplateVersion.findMany` -/
def oldestVersions (templateId : JsString) (take : Nat) : Templates (List TemplateVersion) :=
  (TemplateOp.oldestVersions templateId take).call

/-- `notificationTemplateVersion.deleteMany` -/
def deleteVersions (ids : List JsString) : Templates Unit := (TemplateOp.deleteVersions ids).call

/-- `notificationTemplate.update` -/
def setTemplate (id : JsString) (updates : Updates) : Templates Unit := (TemplateOp.update id updates).call

/-- What the surroundings decide about a call: its fate, and the UUID that is drawn for a row. -/
structure TemplateChoice where
  fault : Fault := .none
  uuid : JsString := []
  deriving DecidableEq, Repr

/-- The row after an update. -/
def StoredTemplate.updated (t : StoredTemplate) (u : Updates) : StoredTemplate :=
  { t with
    name := u.name.getD t.name
    subjectTemplate := u.subjectTemplate.getD t.subjectTemplate
    previewText := u.previewText.getD t.previewText
    isDefault := u.isDefault.getD t.isDefault
    isActive := u.isActive.getD t.isActive
    htmlSource := u.htmlSource <|> t.htmlSource
    version := u.version.getD t.version }

/-- A template is one of a protocol and of a category, if one is given. -/
def StoredTemplate.isOf (t : StoredTemplate) (protocolId : JsString) (category : Option JsString) : Bool :=
  t.protocolId == protocolId && category.all (t.category == ·)

/-- What Prisma says about values that lack a column. -/
def missingArgument : Err := .error (js "Argument is missing.")

namespace Store

/-- The tables after `notificationTemplate.create`, which draws an id. -/
def create (s : Store) (id : JsString) (v : NewTemplate) : Except Err JsString × Store :=
  match v.name, v.category with
  | some name, some category =>
    if s.templates.any (·.id == id) then (.error .uniqueViolation, s)
    else (.ok id, { s with templates := s.templates ++ [{
      id := id
      protocolId := v.protocolId
      category := category
      htmlSource := some v.htmlSource
      textSource := v.textSource
      previewText := v.previewText
      isDefault := v.isDefault
      name := name
      subjectTemplate := v.subjectTemplate }] })
  | _, _ => (.error missingArgument, s)

/-- The tables after `notificationTemplateVersion.create`. -/
def createVersion (s : Store) (v : TemplateVersion) : Except Err Unit × Store :=
  if s.versions.any fun w => w.id == v.id || w.templateId == v.templateId && w.version == v.version then
    (.error .uniqueViolation, s)
  else (.ok (), { s with versions := s.versions ++ [v] })

/-- The tables after `notificationTemplate.update`. -/
def update (s : Store) (id : JsString) (u : Updates) : Except Err Unit × Store :=
  if s.templates.any (·.id == id) then
    (.ok (), { s with templates := updateWhere (·.id == id) (·.updated u) s.templates })
  else (.error .recordNotFound, s)

/-- The tables after `notificationTemplate.updateMany`. -/
def unsetDefaults (s : Store) (protocolId : JsString) (category : Option JsString) : Store :=
  { s with
    templates :=
      updateWhere (·.isOf protocolId category) (fun t => { t with isDefault := false }) s.templates }

/-- The versions of a template. -/
def versionsOf (s : Store) (templateId : JsString) : List TemplateVersion :=
  s.versions.filter (·.templateId == templateId)

/-- A call that is answered. -/
def serve (c : TemplateChoice) (s : Store) : (o : TemplateOp) → Except Err o.Res × Store
  | .find id protocolId =>
    (.ok (s.templates.find? fun t => t.id == id && t.protocolId == protocolId && t.isActive), s)
  | .unsetDefaults protocolId category => (.ok (), s.unsetDefaults protocolId category)
  | .create values => s.create c.uuid values
  | .createVersion templateId version htmlSource subjectTemplate =>
    s.createVersion ⟨c.uuid, templateId, version, htmlSource, subjectTemplate⟩
  | .countVersions templateId => (.ok (s.versionsOf templateId).length, s)
  | .oldestVersions templateId take =>
    (.ok (((s.versionsOf templateId).insertionSort fun v w => v.version ≤ w.version).take take), s)
  | .deleteVersions ids => (.ok (), { s with versions := s.versions.filter fun v => !ids.contains v.id })
  | .update id updates => s.update id updates

/-- A call under a fault. -/
def handle : Handler TemplateCalls Err Store TemplateChoice := fun c s o => c.fault.meet s (s.serve c o)

end Store

/-! ### The controller -/

/-- The validation of templates: what `Handlebars.compile` says against a source, if it does, and what
`sanitizeHtml` leaves of it. -/
structure Validation where
  syntaxError : JsString → Option JsString
  sanitizeHtml : JsString → JsString

/-- `getTierLimits(tier).customTemplates` -/
def customTemplates : Nat → Nat
  | 1 => 3
  | 2 => 20
  | 3 => 999
  | _ => 0

/-- `validateCustomTemplate` -/
def validateCustomTemplate (v : Validation) (source : JsString) (tier : Nat) : Except JsString JsString :=
  if customTemplates tier = 0 then .error (js "Custom templates require the Growth plan or higher.")
  else
    let source := replaceUnsubscribeTags 0 source
    match v.syntaxError source with
    | some message => .error (js "Template syntax error: " ++ message)
    | none => .ok (v.sanitizeHtml source)

/-- The body of a request that creates a template. -/
structure CreateBody where
  name : Option JsString := none
  category : Option JsString := none
  subjectTemplate : Option JsString := none
  htmlSource : Option JsString := none
  textSource : Option JsString := none
  previewText : Option JsString := none
  isDefault : Option Bool := none
  deriving DecidableEq, Repr

/-- The body of a request that updates a template, where `none` is `undefined`. -/
structure UpdateBody where
  name : Option JsString := none
  subjectTemplate : Option (Option JsString) := none
  previewText : Option (Option JsString) := none
  isDefault : Option Bool := none
  htmlSource : Option JsString := none
  deriving DecidableEq, Repr

/-- The error for a tier without templates. -/
def growthRequired : Err := .http 403 (js "Custom email templates require Growth tier or higher")

/-- The error where no template is found. -/
def templateNotFound : Err := .http 404 (js "Template not found")

/-- Unset the defaults of a category where another template becomes the default one. -/
def unsetOthers (isDefault : Option Bool) (protocolId : JsString) (category : Option JsString) :
    Templates Unit :=
  if isDefault = some true then unsetDefaults protocolId category else return ()

/-- `createEmailTemplate` -/
def createEmailTemplate (v : Validation) (protocolId : JsString) (tier : Nat) (body : CreateBody) :
    Templates JsString :=
  if tier < 1 then .throw growthRequired
  else
    match validateCustomTemplate v (body.htmlSource.getD []) tier with
    | .error message => .throw (.http 400 message)
    | .ok html => do
      unsetOthers body.isDefault protocolId body.category
      insertTemplate {
        protocolId := protocolId
        name := body.name
        category := body.category
        subjectTemplate := body.subjectTemplate
        htmlSource := html
        textSource := body.textSource
        previewText := body.previewText
        isDefault := body.isDefault.getD false }

/-- Remove the oldest versions of a template, of which ten are kept. -/
def pruneVersions (templateId : JsString) : Templates Unit := do
  let versionCount ← countVersions templateId
  if versionCount > 10 then
    let oldest ← oldestVersions templateId (versionCount - 10)
    deleteVersions (oldest.map (·.id))
  else
    return ()

/-- The columns that a request names. -/
def UpdateBody.updates (body : UpdateBody) : Updates where
  name := body.name
  subjectTemplate := body.subjectTemplate
  previewText := body.previewText
  isDefault := body.isDefault

/-- Store what a request names, with a new version where it has HTML. -/
def storeUpdates (v : Validation) (tier : Nat) (existing : StoredTemplate) (body : UpdateBody) :
    Templates Unit :=
  if truthy body.htmlSource then
    match validateCustomTemplate v (body.htmlSource.getD []) tier with
    | .error message => .throw (.http 400 message)
    | .ok html => do
      insertVersion existing.id (existing.version + 1) html
        (body.subjectTemplate.join.or existing.subjectTemplate)
      pruneVersions existing.id
      setTemplate existing.id
        { body.updates with htmlSource := some html, version := some (existing.version + 1) }
  else setTemplate existing.id body.updates

/-- `updateEmailTemplate` -/
def updateEmailTemplate (v : Validation) (protocolId : JsString) (tier : Nat) (id : JsString)
    (body : UpdateBody) : Templates Unit :=
  if tier < 1 then .throw growthRequired
  else do
    match ← findTemplate id protocolId with
    | none => .throw templateNotFound
    | some existing => do
      unsetOthers body.isDefault protocolId (some existing.category)
      storeUpdates v tier existing body

/-- `deleteEmailTemplate` -/
def deleteEmailTemplate (protocolId id : JsString) : Templates Unit := do
  match ← findTemplate id protocolId with
  | none => .throw templateNotFound
  | some _ => setTemplate id { isActive := some false }

/-! ### Runs -/

/-- A request to the controller. -/
inductive Request where
  | create (protocolId : JsString) (tier : Nat) (body : CreateBody)
  | update (protocolId : JsString) (tier : Nat) (id : JsString) (body : UpdateBody)
  | delete (protocolId id : JsString)
  deriving DecidableEq, Repr

/-- The program of a request. -/
def Request.code (v : Validation) : Request → Templates Unit
  | create protocolId tier body => (createEmailTemplate v protocolId tier body).bind fun _ => .ret ()
  | update protocolId tier id body => updateEmailTemplate v protocolId tier id body
  | delete protocolId id => deleteEmailTemplate protocolId id

/-- The request updates a template. -/
def Request.isUpdate : Request → Bool
  | update .. => true
  | _ => false

/-- A review of a template by hand. -/
structure Review where
  id : JsString
  status : TemplateStatus
  deriving DecidableEq, Repr

/-- The table after a review. -/
def Review.apply (r : Review) (s : Store) : Store :=
  { s with templates := updateWhere (·.id == r.id) (fun t => { t with status := r.status }) s.templates }

/-- Any number of requests over the tables. -/
def controller (v : Validation) : System TemplateCalls Err Unit Request Store TemplateChoice Review where
  handler := Store.handle
  code r _ := r.code v
  outside r s := some (r.apply s)

/-- A pool of requests. -/
abbrev TemplatePool := Pool TemplateCalls Err Unit Request Store TemplateChoice

/-- A request that runs, or has run. -/
abbrev TemplateThread := Thread TemplateCalls Err Unit Request Store TemplateChoice

/-- A call that was answered. -/
abbrev TemplateEvent := Event TemplateCalls Err Store TemplateChoice

/-- A step of a pool. -/
abbrev TemplateLabel := Label Request TemplateChoice Review

/-! ### Failures -/

/-- A reply is an error. -/
def isError {ε α : Type} : Except ε α → Bool
  | .error _ => true
  | .ok _ => false

/-- A request has failed. -/
def Failed (t : TemplateThread) : Prop := t.prog.result?.any isError = true

instance (t : TemplateThread) : Decidable (Failed t) := by unfold Failed; infer_instance

/-- The HTML that a request brings, if it brings any, is valid. -/
def Request.validHtml (v : Validation) : Request → Bool
  | create .. | delete .. => true
  | update _ tier _ body =>
    !truthy body.htmlSource || !isError (validateCustomTemplate v (body.htmlSource.getD []) tier)

/-- The category of which a call unsets the defaults. -/
def TemplateOp.unsets : TemplateOp → Bool
  | unsetDefaults .. => true
  | _ => false

/-- When a statement of a request fails, all that the request did is harmless, and so is what the statement
did. A request that unsets defaults brings valid HTML, if any, unless that is harmless too. -/
def FailsWithout (v : Validation) (harmless : TemplateEvent → Prop) (r : Request) (tr : List TemplateEvent)
    (e : TemplateEvent) : Prop :=
  (isError e.reply = true → (∀ e' ∈ tr, harmless e') ∧ harmless e) ∧
    (TemplateOp.unsets e.op = true → r.validHtml v = true ∨ harmless e)

instance (v : Validation) (harmless : TemplateEvent → Prop) [DecidablePred harmless] (r : Request)
    (tr : List TemplateEvent) (e : TemplateEvent) : Decidable (FailsWithout v harmless r tr e) := by
  unfold FailsWithout; infer_instance

/-- An event that changes nothing. -/
def Unchanging (e : TemplateEvent) : Prop := e.after = e.before

instance (e : TemplateEvent) : Decidable (Unchanging e) := by unfold Unchanging; infer_instance

/-! ### Atomic updates -/

/-- A version row stands where the next version of a template belongs. -/
def Store.Stuck (s : Store) (id : JsString) : Prop :=
  ∃ t ∈ s.templates, t.id = id ∧ ∃ w ∈ s.versions, w.templateId = id ∧ w.version = t.version + 1

instance (s : Store) (id : JsString) : Decidable (s.Stuck id) := by unfold Store.Stuck; infer_instance

/-- An update that failed changed no table, and made no template stuck. -/
def UpdatesAtomic (p : TemplatePool) : Prop :=
  ∀ t ∈ p.threads, t.request.isUpdate = true → Failed t → ∀ e ∈ t.trace,
    e.after = e.before ∧ ∀ u ∈ e.after.templates, e.after.Stuck u.id → e.before.Stuck u.id

instance (p : TemplatePool) : Decidable (UpdatesAtomic p) := by unfold UpdatesAtomic; infer_instance

/-- The statements of an update fail before it has changed a table, and one that unsets defaults where there
are some brings valid HTML, if any. -/
def FailsEarly (v : Validation) (p : TemplatePool) : TemplateLabel → Prop
  | .pick i c => ∀ t ∈ p.threads[i]?, t.request.isUpdate = true → ∀ o ∈ t.prog.next?,
      FailsWithout v Unchanging t.request t.trace (Store.handle.event c.2 p.store o)
  | _ => True

instance (v : Validation) (p : TemplatePool) (l : TemplateLabel) : Decidable (FailsEarly v p l) := by
  unfold FailsEarly; split <;> infer_instance

/-! ### Default templates -/

/-- A template is the default one of its protocol and category. -/
def StoredTemplate.serves (t : StoredTemplate) (category : JsString × JsString) : Bool :=
  t.isActive && t.isDefault && (t.protocolId, t.category) == category

/-- A category has a default template. -/
def Store.hasDefault (s : Store) (category : JsString × JsString) : Bool :=
  s.templates.any (·.serves category)

/-- No protocol has two default templates for a category. -/
def OneDefault (s : Store) : Prop :=
  s.templates.Pairwise fun t u => ¬ (t.serves (u.protocolId, u.category) = true ∧ u.isActive = true ∧ u.isDefault = true)

instance (s : Store) : Decidable (OneDefault s) := by unfold OneDefault; infer_instance

/-- An event takes the default template of no category. -/
def KeepsDefaults (e : TemplateEvent) : Prop :=
  ∀ t ∈ e.before.templates, e.before.hasDefault (t.protocolId, t.category) = true →
    e.after.hasDefault (t.protocolId, t.category) = true

instance (e : TemplateEvent) : Decidable (KeepsDefaults e) := by unfold KeepsDefaults; infer_instance

/-- There is at most one default template for a category, and no request that failed took one. -/
def DefaultsKept (p : TemplatePool) : Prop :=
  OneDefault p.store ∧ ∀ t ∈ p.threads, Failed t → ∀ e ∈ t.trace, KeepsDefaults e

instance (p : TemplatePool) : Decidable (DefaultsKept p) := by unfold DefaultsKept; infer_instance

/-- The category whose defaults a call unsets. -/
def TemplateOp.unset? : TemplateOp → Option (JsString × JsString)
  | unsetDefaults protocolId (some category) => some (protocolId, category)
  | _ => none

/-- A call that creates a template. -/
def TemplateOp.creates : TemplateOp → Bool
  | create _ => true
  | _ => false

/-- The template that a request is about, unless it creates one. -/
def Request.target? : Request → Option JsString
  | create .. => none
  | update _ _ id _ | delete _ id => some id

/-- A request is between unsetting the defaults of a category and its end. -/
def Armed (t : TemplateThread) (category : JsString × JsString) : Prop :=
  t.prog.running = true ∧ (∀ e ∈ t.trace, TemplateOp.creates e.op = false) ∧
    ∃ e ∈ t.trace, TemplateOp.unset? e.op = some category ∧ isError e.reply = false

instance (t : TemplateThread) (category : JsString × JsString) : Decidable (Armed t category) := by
  unfold Armed; infer_instance

/-- Statements fail before their request has taken a default, and a request unsets the defaults of a category
only while no other one for another template is between unsetting them and its end. -/
def DefaultsApart (v : Validation) (p : TemplatePool) : TemplateLabel → Prop
  | .pick i c => ∀ t ∈ p.threads[i]?, ∀ o ∈ t.prog.next?,
      FailsWithout v KeepsDefaults t.request t.trace (Store.handle.event c.2 p.store o) ∧
      ∀ category ∈ TemplateOp.unset? o, ∀ u ∈ p.threads, Armed u category →
        u.request.target?.isSome = true ∧ u.request.target? = t.request.target?
  | _ => True

instance (v : Validation) (p : TemplatePool) (l : TemplateLabel) : Decidable (DefaultsApart v p l) := by
  unfold DefaultsApart; split <;> infer_instance

/-!
### The versions of a template

Each update that carries HTML stores a version row and removes the oldest ones. Run one after another, the
updates should leave the last ten versions, the newest of which is what the template holds.
-/

/-- What the constraints of the tables say: version rows have ids of their own and belong to templates that
there are. -/
structure Store.Constrained (s : Store) : Prop where
  ids : (s.versions.map (·.id)).Nodup
  references : ∀ w ∈ s.versions, ∃ t ∈ s.templates, t.id = w.templateId

/-- The tables after a request that is handled alone, if none of its steps fails. Its row, if it stores one,
draws a UUID. -/
def handled (v : Validation) (uuid : JsString) (r : Request) (s : Store) : Option Store :=
  match Store.handle.exec { uuid := uuid } (r.code v) s with
  | (.ok (), s') => some s'
  | (.error _, _) => none

/-- The tables after requests that are handled one after another. -/
def sequence (v : Validation) : List (JsString × Request) → Store → Option Store
  | [], s => some s
  | (uuid, r) :: rest, s => (handled v uuid r s).bind (sequence v rest)

/-- A request updates the HTML of a template. -/
def Request.editsHtml (id : JsString) : Request → Bool
  | update _ _ target body => target == id && truthy body.htmlSource
  | _ => false

/-- How many of some requests update the HTML of a template. -/
def htmlEdits (id : JsString) (rs : List (JsString × Request)) : Nat := rs.countP fun r => r.2.editsHtml id

/-- The tables without all but the ten newest versions of a template. -/
def Store.pruned (s : Store) (templateId : JsString) : Store :=
  { s with
    versions := s.versions.filter fun w =>
      !((((s.versionsOf templateId).insertionSort fun v w => v.version ≤ w.version).take
        ((s.versionsOf templateId).length - 10)).map (·.id)).contains w.id }

/-- The version and the HTML of a template, of which there is one row. -/
def Store.versionAndHtml (s : Store) (id : JsString) : List (Nat × Option JsString) :=
  (s.templates.filter (·.id == id)).map fun t => (t.version, t.htmlSource)

/-- What `n` updates of the HTML of a template leave of it. -/
structure Windowed (s : Store) (id : JsString) (n : Nat) (html : Option JsString) : Prop where
  stored : s.versionAndHtml id = [(n + 1, html)]
  /-- Its rows have the last versions, of which ten at most are kept. -/
  rows : (s.versionsOf id).map (·.version) = List.range' (n + 2 - min n 10) (min n 10)
  /-- The row of the current version has the current HTML. -/
  current : ∀ w ∈ s.versionsOf id, w.version = n + 1 → html = some w.htmlSource

end HeraldGateway.TemplateController
