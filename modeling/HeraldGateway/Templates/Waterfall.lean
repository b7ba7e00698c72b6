import HeraldGateway.Templates.Messages

/-!
# The template waterfall

Dispatch turns the category of a notification into the name of a system template, and `render` looks under
that name for the default template of the protocol as well. Templates are stored under categories.
-/

namespace HeraldGateway

/-- What an email is made of. -/
inductive EmailTemplate where
  /-- A template of the protocol. -/
  | stored (row : TemplateRow)
  /-- The source of a system template. -/
  | system (source : JsString)
  deriving DecidableEq, Repr

/-- The template that `render` takes. -/
def chosenTemplate (env : RenderEnv) (rows : List TemplateRow) (params : RenderParams) : EmailTemplate :=
  match customTemplate (some rows) (some rows) params with
  | some row => .stored row
  | none => .system (loadSystemTemplate env params.template)

/-- The system template of a category, as the previews name it. -/
def systemTemplateName (category : JsString) : JsString :=
  if category = js "defi" then js "defi-alert" else category

namespace NotificationJobData

variable (env : RenderEnv) (rows : List TemplateRow) (job : NotificationJobData)

/-- The active template of the protocol that the request names. -/
def namedTemplate : Option TemplateRow :=
  if truthy job.templateId then
    rows.find? fun t => t.id == job.templateId.getD [] && t.protocolId == job.protocolId && t.isActive
  else none

/-- A row is an active default template of the protocol for a category. -/
def defaultFor (category : JsString) (t : TemplateRow) : Bool :=
  t.protocolId == job.protocolId && t.category == category && t.isDefault && t.isActive

end NotificationJobData

/-- The template of an email is the one that the request names, else a default one for its category, else the
system template of the category. -/
structure FollowsWaterfall (env : RenderEnv) (rows : List TemplateRow) (job : NotificationJobData)
    (chosen : EmailTemplate) : Prop where
  named : ∀ t, job.namedTemplate rows = some t → chosen = .stored t
  default : job.namedTemplate rows = none → rows.any (job.defaultFor job.category) = true →
    ∃ t ∈ rows, job.defaultFor job.category t = true ∧ chosen = .stored t
  system : job.namedTemplate rows = none → rows.any (job.defaultFor job.category) = false →
    chosen = .system (loadSystemTemplate env (systemTemplateName job.category))

/-- What the lookups under the template name find is what those under the category would: a named template has
HTML, else the default template of the category does and the category is its own template name, or there is no
default template under either and the system templates of the two are the same. -/
structure NameServes (env : RenderEnv) (rows : List TemplateRow) (job : NotificationJobData) : Prop where
  named : ∀ t, job.namedTemplate rows = some t → truthy t.htmlSource = true
  default : job.namedTemplate rows = none → rows.any (job.defaultFor job.category) = true →
    getTemplateName job.category = job.category ∧
      ∀ t, rows.find? (job.defaultFor job.category) = some t → truthy t.htmlSource = true
  system : job.namedTemplate rows = none → rows.any (job.defaultFor job.category) = false →
    (∀ t, rows.find? (job.defaultFor (getTemplateName job.category)) = some t → truthy t.htmlSource = false) ∧
      loadSystemTemplate env (getTemplateName job.category) =
        loadSystemTemplate env (systemTemplateName job.category)

end HeraldGateway
