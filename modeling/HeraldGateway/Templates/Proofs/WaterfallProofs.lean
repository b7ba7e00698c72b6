import HeraldGateway.Templates.Waterfall

/-!
# When the waterfall is followed

The three parts of the choice are told apart by what the two lookups find, and each is right exactly where the
template name serves as the category.
-/

namespace HeraldGateway

variable {env : RenderEnv} {rows : List TemplateRow} {job : NotificationJobData}

/-- A row counts where it has HTML. -/
theorem filter_html (t : TemplateRow) :
    (some t).filter (truthy ·.htmlSource) = if truthy t.htmlSource = true then some t else none := rfl

/-- The template that `render` takes for a job: the one it names, else the default one under its template
name, if these have HTML, else the system template of that name. -/
theorem chosenTemplate_of_job (hprotocol : job.protocolId ≠ []) (assets : List ProtocolAsset)
    (settings : Option ProtocolSettings) (link : UnsubscribeLink) (unsubscribeUrl : JsString) :
    chosenTemplate env rows ((renderRequest job assets settings link).params unsubscribeUrl) =
      match (job.namedTemplate rows).filter (truthy ·.htmlSource) <|>
        (rows.find? (job.defaultFor (getTemplateName job.category))).filter (truthy ·.htmlSource) with
      | some row => .stored row
      | none => .system (loadSystemTemplate env (getTemplateName job.category)) := by
  have hthere : truthy (some job.protocolId) = true := by
    obtain ⟨a, s, hs⟩ := List.exists_cons_of_ne_nil hprotocol
    rw [hs]
    rfl
  have hcustom : customTemplate (some rows) (some rows)
      ((renderRequest job assets settings link).params unsubscribeUrl) =
      ((job.namedTemplate rows).filter (truthy ·.htmlSource) <|>
        (rows.find? (job.defaultFor (getTemplateName job.category))).filter (truthy ·.htmlSource)) := by
    unfold customTemplate RenderRequest.params renderRequest NotificationJobData.namedTemplate
    rw [if_pos hthere]
    split <;> rfl
  unfold chosenTemplate
  rw [hcustom]
  rfl

/-- The default template that the lookup under the template name gives. -/
abbrev defaultUnderName (rows : List TemplateRow) (job : NotificationJobData) : Option TemplateRow :=
  (rows.find? (job.defaultFor (getTemplateName job.category))).filter (truthy ·.htmlSource)

/-- What is left of the choice where no template is named. -/
def unnamedChoice (env : RenderEnv) (rows : List TemplateRow) (job : NotificationJobData) : EmailTemplate :=
  match defaultUnderName rows job with
  | some row => .stored row
  | none => .system (loadSystemTemplate env (getTemplateName job.category))

theorem unnamedChoice_stored {t : TemplateRow} (h : unnamedChoice env rows job = .stored t) :
    rows.find? (job.defaultFor (getTemplateName job.category)) = some t ∧ truthy t.htmlSource = true := by
  unfold unnamedChoice at h
  cases hfound : defaultUnderName rows job with
  | none =>
    rw [hfound] at h
    cases h
  | some row =>
    rw [hfound] at h
    cases h
    exact Option.filter_eq_some_iff.1 hfound

/-- A template that is named is taken exactly if it has HTML. -/
theorem named_iff {t : TemplateRow} :
    (match (some t).filter (truthy ·.htmlSource) <|> defaultUnderName rows job with
      | some row => EmailTemplate.stored row
      | none => .system (loadSystemTemplate env (getTemplateName job.category))) = .stored t ↔
      truthy t.htmlSource = true := by
  by_cases hhtml : truthy t.htmlSource = true
  · rw [filter_html, if_pos hhtml]
    exact iff_of_true rfl hhtml
  · rw [filter_html, if_neg hhtml]
    constructor
    · intro h
      exact (@unnamedChoice_stored env rows job _ h).2
    · intro h
      exact absurd h hhtml

/-- Where the category has a default template, one is taken exactly if the category is the template name and
the first one has HTML. -/
theorem default_iff (hany : rows.any (job.defaultFor job.category) = true) :
    (∃ t ∈ rows, job.defaultFor job.category t = true ∧ unnamedChoice env rows job = .stored t) ↔
      getTemplateName job.category = job.category ∧
        ∀ t, rows.find? (job.defaultFor job.category) = some t → truthy t.htmlSource = true := by
  constructor
  · rintro ⟨t, -, hcategory, hchosen⟩
    obtain ⟨hfound, hhtml⟩ := unnamedChoice_stored hchosen
    have hname := List.find?_some hfound
    simp only [NotificationJobData.defaultFor, Bool.and_eq_true, beq_iff_eq] at hcategory hname
    have hsame : getTemplateName job.category = job.category := by
      rw [← hname.1.1.2, ← hcategory.1.1.2]
    rw [hsame] at hfound
    refine ⟨hsame, fun u hu => ?_⟩
    rw [hfound] at hu
    cases hu
    exact hhtml
  · rintro ⟨hsame, hhtml⟩
    cases hfound : rows.find? (job.defaultFor job.category) with
    | none =>
      rw [List.find?_eq_none] at hfound
      obtain ⟨t, ht, hdefault⟩ := List.any_eq_true.1 hany
      exact absurd hdefault (hfound t ht)
    | some t =>
      refine ⟨t, List.mem_of_find?_eq_some hfound, List.find?_some hfound, ?_⟩
      unfold unnamedChoice defaultUnderName
      rw [hsame, hfound, filter_html, if_pos (hhtml t hfound)]

/-- A system template is taken exactly if no default template with HTML is found under the template name. -/
theorem system_iff (source : JsString) :
    unnamedChoice env rows job = .system source ↔
      (∀ t, rows.find? (job.defaultFor (getTemplateName job.category)) = some t → truthy t.htmlSource = false) ∧
        loadSystemTemplate env (getTemplateName job.category) = source := by
  unfold unnamedChoice defaultUnderName
  cases hfound : rows.find? (job.defaultFor (getTemplateName job.category)) with
  | none => simp
  | some t =>
    rw [filter_html]
    by_cases hhtml : truthy t.htmlSource = true
    · simp [hhtml]
    · simp [hhtml]

/-- A notification of a protocol in a category. -/
def notificationIn (category : String) : NotificationJobData where
  notificationId := .uuid 0
  protocolId := js "p"
  protocolPubkey := []
  protocolName := js "P"
  wallet := js "w"
  subject := []
  body := []
  category := js category
  writeReceipt := false
  digestMode := false

/-- The default template of the protocol for a category. -/
def defaultRow (category : String) : TemplateRow where
  id := js "t"
  protocolId := js "p"
  category := js category
  htmlSource := some (js "<p>Own</p>")
  isDefault := true

/-- Files of the system templates that differ. -/
def plainFiles : RenderEnv := ⟨fun _ _ => none, fun _ => none, some⟩

end HeraldGateway
