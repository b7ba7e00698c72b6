import HeraldGateway.Templates.Review

/-!
# Which templates reach users

As long as no step goes around the review, approved templates are those that were reviewed, and every default
template and every template that a queued email names is approved.
-/

namespace HeraldGateway

variable {s : ReviewState} {op : ReviewOp} {ops : List ReviewOp} {sanitizeHtml : JsString → JsString}
  {rows : List TemplateRow} {t : TemplateRow} {w : TemplateWrite}

/-- Approved templates were reviewed, and only they are used. -/
structure ReviewState.Sound (s : ReviewState) : Prop where
  unique : (s.templates.map (·.id)).Nodup
  reviewed : ∀ t ∈ s.templates, t.status = .approved → t.id ∈ s.reviewed
  defaults : ∀ t ∈ s.templates, t.isDefault = true → t.status = .approved
  named : ∀ job ∈ s.queue, ∀ t ∈ s.templates, job.Names t → t.status = .approved
  drafts : ∀ ws ∈ s.requests, ∀ row, .create row ∈ ws → row.status = .draft

/-! ### Statements -/

/-- What a statement does to a row that is there after it. -/
theorem mem_apply (h : t ∈ w.apply rows) :
    (∃ t₀ ∈ rows, t₀.id = t.id ∧ t₀.protocolId = t.protocolId ∧ t₀.status = t.status ∧
      (t.isDefault = true → t₀.isDefault = true ∨ ∃ updates, w = .update t.id updates ∧ updates.isDefault = some true)) ∨
    w = .create t := by
  cases w with
  | unsetDefaults protocolId category =>
    obtain ⟨t₀, ht₀, heq⟩ := List.mem_map.1 h
    by_cases hhit : t₀.protocolId = protocolId ∧ t₀.category = category
    · rw [if_pos hhit] at heq
      subst heq
      exact .inl ⟨t₀, ht₀, rfl, rfl, rfl, fun hdefault => nomatch hdefault⟩
    · rw [if_neg hhit] at heq
      subst heq
      exact .inl ⟨t₀, ht₀, rfl, rfl, rfl, .inl⟩
  | create row =>
    by_cases htaken : rows.any (·.id == row.id) = true
    · rw [TemplateWrite.apply, if_pos htaken] at h
      exact .inl ⟨t, h, rfl, rfl, rfl, .inl⟩
    · rw [TemplateWrite.apply, if_neg htaken, List.mem_append, List.mem_singleton] at h
      rcases h with h | rfl
      · exact .inl ⟨t, h, rfl, rfl, rfl, .inl⟩
      · exact .inr rfl
  | update id updates =>
    obtain ⟨t₀, ht₀, heq⟩ := List.mem_map.1 h
    by_cases hhit : t₀.id = id
    · rw [if_pos hhit] at heq
      subst heq
      refine .inl ⟨t₀, ht₀, rfl, rfl, rfl, fun hdefault => ?_⟩
      cases hset : updates.isDefault with
      | none =>
        rw [TemplateRow.update, hset] at hdefault
        exact .inl hdefault
      | some value =>
        rw [TemplateRow.update, hset] at hdefault
        obtain rfl : value = true := hdefault
        exact .inr ⟨updates, by rw [← hhit]; rfl, hset⟩
    · rw [if_neg hhit] at heq
      subst heq
      exact .inl ⟨t₀, ht₀, rfl, rfl, rfl, .inl⟩
  | deactivate id =>
    obtain ⟨t₀, ht₀, heq⟩ := List.mem_map.1 h
    by_cases hhit : t₀.id = id
    · rw [if_pos hhit] at heq
      subst heq
      exact .inl ⟨t₀, ht₀, rfl, rfl, rfl, .inl⟩
    · rw [if_neg hhit] at heq
      subst heq
      exact .inl ⟨t₀, ht₀, rfl, rfl, rfl, .inl⟩

theorem map_id_eq {f : TemplateRow → TemplateRow} (hf : ∀ t, (f t).id = t.id) :
    (rows.map f).map (·.id) = rows.map (·.id) := by
  rw [List.map_map]
  exact List.map_congr_left fun t _ => hf t

/-- Ids stay unique. -/
theorem nodup_apply (h : (rows.map (·.id)).Nodup) : ((w.apply rows).map (·.id)).Nodup := by
  cases w with
  | create row =>
    by_cases htaken : rows.any (·.id == row.id) = true
    · rwa [TemplateWrite.apply, if_pos htaken]
    · rw [TemplateWrite.apply, if_neg htaken, List.map_append, List.map_singleton]
      refine List.nodup_append.2 ⟨h, List.nodup_singleton _, fun id hid id' hid' heq => htaken ?_⟩
      obtain ⟨t, ht, rfl⟩ := List.mem_map.1 hid
      rw [List.mem_singleton.1 hid'] at heq
      exact List.any_eq_true.2 ⟨t, ht, beq_iff_eq.2 heq⟩
  | unsetDefaults protocolId category =>
    rw [TemplateWrite.apply, map_id_eq fun t => by split <;> rfl]
    exact h
  | update id updates =>
    rw [TemplateWrite.apply, map_id_eq fun t => by split <;> rfl]
    exact h
  | deactivate id =>
    rw [TemplateWrite.apply, map_id_eq fun t => by split <;> rfl]
    exact h

theorem mem_reviewed {id : JsString} {reviewed : List JsString} (h : id ∈ reviewed)
    (hedit : ∀ updates, w = .update id updates → updates.htmlSource.isSome = false) :
    id ∈ w.reviewed reviewed := by
  cases w with
  | update id' updates =>
    rw [TemplateWrite.reviewed]
    by_cases hsome : updates.htmlSource.isSome = true
    · rw [if_pos hsome, List.mem_filter, decide_eq_true_eq]
      refine ⟨h, fun hid => ?_⟩
      rw [hedit updates (hid ▸ rfl)] at hsome
      cases hsome
    · rwa [if_neg hsome]
  | unsetDefaults => exact h
  | create => exact h
  | deactivate => exact h

/-- Requests create drafts. -/
theorem create_draft {r : TemplateRequest} {row : TemplateRow}
    (h : .create row ∈ r.writes sanitizeHtml rows) :
    row.status = .draft := by
  cases r with
  | create protocolId tier id body =>
    simp only [TemplateRequest.writes, createEmailTemplate] at h
    by_cases htier : tier < 1
    · rw [if_pos htier] at h
      cases h
    · rw [if_neg htier, List.mem_append, List.mem_singleton] at h
      rcases h with h | h
      · by_cases hdefault : body.isDefault = some true
        · rw [if_pos hdefault, List.mem_singleton] at h
          cases h
        · rw [if_neg hdefault] at h
          cases h
      · cases h
        rfl
  | update protocolId tier id body =>
    simp only [TemplateRequest.writes, updateEmailTemplate] at h
    by_cases htier : tier < 1
    · rw [if_pos htier] at h
      cases h
    · rw [if_neg htier] at h
      cases hrow : activeTemplate? rows id protocolId with
      | none =>
        rw [hrow] at h
        cases h
      | some existing =>
        simp only [hrow, List.mem_append, List.mem_singleton, reduceCtorEq, or_false] at h
        by_cases hdefault : body.isDefault = some true
        · rw [if_pos hdefault, List.mem_singleton] at h
          cases h
        · rw [if_neg hdefault] at h
          cases h
  | delete protocolId id =>
    simp only [TemplateRequest.writes, deleteEmailTemplate] at h
    cases hrow : activeTemplate? rows id protocolId with
    | none =>
      rw [hrow] at h
      cases h
    | some existing =>
      simp only [hrow, List.mem_singleton, reduceCtorEq] at h

/-! ### Steps -/

theorem ReviewState.sound_empty : ReviewState.Sound {} where
  unique := List.nodup_nil
  reviewed := fun _ ht => nomatch ht
  defaults := fun _ ht => nomatch ht
  named := fun _ hjob => nomatch hjob
  drafts := fun _ hws => nomatch hws

theorem ReviewState.Sound.set {i : Nat} {ws ws' : List TemplateWrite} (h : s.Sound)
    (hget : s.requests[i]? = some ws') (hsub : ∀ w ∈ ws, w ∈ ws') {vs : List TemplateWrite}
    (hvs : vs ∈ s.requests.set i ws) {row : TemplateRow} (hrow : .create row ∈ vs) : row.status = .draft := by
  rcases List.mem_or_eq_of_mem_set hvs with hvs | rfl
  · exact h.drafts vs hvs row hrow
  · exact h.drafts ws' (List.mem_of_getElem? hget) row (hsub _ hrow)

theorem ReviewState.Sound.write {i : Nat} {ws : List TemplateWrite} (h : s.Sound)
    (hget : s.requests[i]? = some (w :: ws)) (hpossible : s.Possible (.write i))
    (hcareful : s.Careful (.write i)) :
    (s.step sanitizeHtml (.write i)).Sound := by
  have hstatement : s.statement? (.write i) = some w := by rw [ReviewState.statement?, hget]; rfl
  have hstep : s.step sanitizeHtml (.write i) =
      { s with
        templates := w.apply s.templates
        requests := s.requests.set i ws
        reviewed := w.reviewed s.reviewed } := by
    simp only [ReviewState.step, hget]
  rw [hstep]
  refine ⟨nodup_apply h.unique, fun t ht happroved => ?_, fun t ht hdefault => ?_, fun job hjob t ht hnames => ?_,
    fun vs hvs row hrow => h.set hget (fun w hw => List.mem_cons_of_mem _ hw) hvs hrow⟩
  · rcases mem_apply ht with ⟨t₀, ht₀, hid, -, hstatus, -⟩ | rfl
    · refine mem_reviewed (hid ▸ h.reviewed t₀ ht₀ (hstatus.trans happroved)) fun updates hw => ?_
      have hedit := (hcareful.2.1 t.id updates (hw ▸ hstatement) t₀ ht₀ hid).1
      exact Bool.eq_false_iff.2 fun hsome => hedit hsome (hstatus.trans happroved)
    · rw [h.drafts _ (List.mem_of_getElem? hget) t List.mem_cons_self] at happroved
      cases happroved
  · rcases mem_apply ht with ⟨t₀, ht₀, hid, -, hstatus, hwas⟩ | rfl
    · rcases hwas hdefault with hwas | ⟨updates, hw, hset⟩
      · exact hstatus ▸ h.defaults t₀ ht₀ hwas
      · exact hstatus ▸ (hcareful.2.1 t.id updates (hw ▸ hstatement) t₀ ht₀ hid).2 hset
    · rw [hcareful.1 t hstatement] at hdefault
      cases hdefault
  · rcases mem_apply ht with ⟨t₀, ht₀, hid, hprotocol, hstatus, -⟩ | rfl
    · have hnames₀ : job.Names t₀ := by
        unfold EmailJob.Names at hnames ⊢
        rwa [hid, hprotocol]
      exact hstatus ▸ h.named job hjob t₀ ht₀ hnames₀
    · exact absurd hnames (hpossible.1 t hstatement job hjob)

/-- What passes the check names only approved templates. -/
theorem approved_of_passesGate (hunique : (rows.map (·.id)).Nodup) {job : EmailJob}
    (h : passesGate rows job = true) (ht : t ∈ rows) (hnames : job.Names t) : t.status = .approved := by
  obtain ⟨htruthy, hid, hprotocol⟩ := hnames
  rw [passesGate, if_pos htruthy, hid, hprotocol] at h
  cases hfind : rows.find? fun r => r.id == (some t.id).getD [] && r.protocolId == t.protocolId with
  | none =>
    have hnone := List.find?_eq_none.1 hfind t ht
    rw [Option.getD_some, beq_self_eq_true, beq_self_eq_true] at hnone
    exact absurd rfl hnone
  | some r =>
    rw [hfind] at h
    have hsame := List.find?_some hfind
    rw [Bool.and_eq_true, Option.getD_some, beq_iff_eq] at hsame
    obtain rfl : r = t := List.inj_on_of_nodup_map hunique (List.mem_of_find?_eq_some hfind) ht hsame.1
    exact of_decide_eq_true h

/-- A review changes no more than the status of its template. -/
theorem mem_review {id : JsString} {status : TemplateStatus}
    (h : t ∈ rows.map fun t => if t.id = id then { t with status := status } else t) :
    ∃ t₀ ∈ rows, t₀.id = t.id ∧ t₀.isDefault = t.isDefault ∧ (∀ job : EmailJob, job.Names t → job.Names t₀) ∧
      (t₀.id = id ∧ t.status = status ∨ t₀.id ≠ id ∧ t₀.status = t.status) := by
  obtain ⟨t₀, ht₀, heq⟩ := List.mem_map.1 h
  by_cases hhit : t₀.id = id
  · rw [if_pos hhit] at heq
    subst heq
    exact ⟨t₀, ht₀, rfl, rfl, fun _ hnames => hnames, .inl ⟨hhit, rfl⟩⟩
  · rw [if_neg hhit] at heq
    subst heq
    exact ⟨t₀, ht₀, rfl, rfl, fun _ hnames => hnames, .inr ⟨hhit, rfl⟩⟩

theorem ReviewState.Sound.review {id : JsString} {status : TemplateStatus} (h : s.Sound)
    (hcareful : s.Careful (.review id status)) : (s.step sanitizeHtml (.review id status)).Sound := by
  refine ⟨?_, fun t ht happroved => ?_, fun t ht hdefault => ?_, fun job hjob t ht hnames => ?_, h.drafts⟩
  · rw [ReviewState.step, map_id_eq fun t => by split <;> rfl]
    exact h.unique
  · obtain ⟨t₀, ht₀, hid, -, -, ⟨hhit, hstatus⟩ | ⟨-, hstatus⟩⟩ := mem_review ht
    · rw [ReviewState.step, if_pos (hstatus.symm.trans happroved), ← hid, hhit]
      exact List.mem_cons_self
    · have hwas := h.reviewed t₀ ht₀ (hstatus.trans happroved)
      rw [hid] at hwas
      rw [ReviewState.step]
      by_cases hnew : status = .approved
      · rw [if_pos hnew]
        exact List.mem_cons_of_mem id hwas
      · rwa [if_neg hnew]
  · obtain ⟨t₀, ht₀, hid, hsame, -, ⟨hhit, hstatus⟩ | ⟨-, hstatus⟩⟩ := mem_review ht
    · by_cases hnew : status = .approved
      · exact hstatus.trans hnew
      · have hno := (hcareful.2.2 hnew t₀ ht₀ hhit).1
        rw [hsame, hdefault] at hno
        cases hno
    · exact hstatus ▸ h.defaults t₀ ht₀ (hsame.trans hdefault)
  · obtain ⟨t₀, ht₀, hid, -, hnamed, ⟨hhit, hstatus⟩ | ⟨-, hstatus⟩⟩ := mem_review ht
    · by_cases hnew : status = .approved
      · exact hstatus.trans hnew
      · exact absurd (hnamed job hnames) ((hcareful.2.2 hnew t₀ ht₀ hhit).2 job hjob)
    · exact hstatus ▸ h.named job hjob t₀ ht₀ (hnamed job hnames)

theorem ReviewState.Sound.step (h : s.Sound) (hpossible : s.Possible op) (hcareful : s.Careful op) :
    (s.step sanitizeHtml op).Sound := by
  cases op with
  | request r =>
    refine ⟨h.unique, h.reviewed, h.defaults, h.named, fun ws hws row hrow => ?_⟩
    rcases List.mem_append.1 hws with hws | hws
    · exact h.drafts ws hws row hrow
    · rw [List.mem_singleton.1 hws] at hrow
      exact create_draft hrow
  | write i =>
    match hget : s.requests[i]? with
    | some (w :: ws) => exact h.write hget hpossible hcareful
    | some [] =>
      have hstep : s.step sanitizeHtml (.write i) = s := by simp only [ReviewState.step, hget]
      rwa [hstep]
    | none =>
      have hstep : s.step sanitizeHtml (.write i) = s := by simp only [ReviewState.step, hget]
      rwa [hstep]
  | abort i =>
    refine ⟨h.unique, h.reviewed, h.defaults, h.named, fun ws hws row hrow => ?_⟩
    rcases List.mem_or_eq_of_mem_set hws with hws | rfl
    · exact h.drafts ws hws row hrow
    · cases hrow
  | review id status => exact h.review hcareful
  | notify job =>
    rw [ReviewState.step]
    by_cases hgate : passesGate s.templates job = true
    · rw [if_pos hgate]
      refine ⟨h.unique, h.reviewed, h.defaults, fun job' hjob t ht hnames => ?_, h.drafts⟩
      rcases List.mem_cons.1 hjob with rfl | hjob
      · exact approved_of_passesGate h.unique hgate ht hnames
      · exact h.named job' hjob t ht hnames
    · rwa [if_neg hgate]
  | enqueue job =>
    refine ⟨h.unique, h.reviewed, h.defaults, fun job' hjob t ht hnames => ?_, h.drafts⟩
    rcases List.mem_cons.1 hjob with rfl | hjob
    · exact hcareful.2.2 t ht hnames
    · exact h.named job' hjob t ht hnames
  | loadCustom job rows => exact h
  | loadDefault job rows => exact h

/-! ### Loads -/

/-- What is loaded is a row of the table that the email names, or a default. -/
theorem mem_of_loaded (hpossible : s.Possible op) (hload : op.loaded? = some t) :
    t ∈ s.templates ∧ (t.isDefault = true ∨ ∃ job ∈ s.queue, job.Names t) := by
  cases op with
  | loadCustom job rows =>
    obtain ⟨-, hjob, htruthy, hrows⟩ := hpossible
    obtain ⟨hfind, -⟩ := Option.filter_eq_some_iff.1 hload
    have hsame := List.find?_some hfind
    simp only [Bool.and_eq_true, beq_iff_eq] at hsame
    obtain ⟨id, hid, -⟩ := truthy_eq_true.1 htruthy
    rw [hid, Option.getD_some] at hsame
    exact ⟨hrows.subset (List.mem_of_find?_eq_some hfind),
      .inr ⟨job, hjob, htruthy, by rw [hid, hsame.1.1], hsame.1.2.symm⟩⟩
  | loadDefault job rows =>
    obtain ⟨-, hjob, hrows⟩ := hpossible
    obtain ⟨hfind, -⟩ := Option.filter_eq_some_iff.1 hload
    have hsame := List.find?_some hfind
    simp only [Bool.and_eq_true, beq_iff_eq] at hsame
    exact ⟨hrows.subset (List.mem_of_find?_eq_some hfind), .inl hsame.1.2⟩
  | request => cases hload
  | write => cases hload
  | abort => cases hload
  | review => cases hload
  | notify => cases hload
  | enqueue => cases hload

theorem ReviewState.Sound.loadsApproved (h : s.Sound) (hpossible : s.Possible op) : s.LoadsApproved op := by
  intro t hload
  obtain ⟨ht, hused⟩ := mem_of_loaded hpossible hload
  have happroved : t.status = .approved := by
    rcases hused with hdefault | ⟨job, hjob, hnames⟩
    · exact h.defaults t ht hdefault
    · exact h.named job hjob t ht hnames
  exact ⟨happroved, h.reviewed t ht happroved⟩

theorem ReviewState.Sound.throughout (h : s.Sound) (hpossible : s.Throughout sanitizeHtml Possible ops)
    (hcareful : s.Throughout sanitizeHtml Careful ops) : s.Throughout sanitizeHtml LoadsApproved ops := by
  induction ops generalizing s with
  | nil => trivial
  | cons op ops ih =>
    exact ⟨h.loadsApproved hpossible.1, ih (h.step hpossible.1 hcareful.1) hpossible.2 hcareful.2⟩

/-- In a run that takes none of the ways around the review, every template that is loaded is approved, and its
HTML was not edited since. -/
theorem only_approved_loaded (hpossible : ReviewState.Throughout sanitizeHtml ReviewState.Possible {} ops)
    (hcareful : ReviewState.Throughout sanitizeHtml ReviewState.Careful {} ops) :
    ReviewState.Throughout sanitizeHtml ReviewState.LoadsApproved {} ops :=
  ReviewState.sound_empty.throughout hpossible hcareful

/-- A template for votes, as a request creates it. -/
def voteTemplate (isDefault : Bool) : TemplateRow where
  id := js "t1"
  protocolId := js "acme"
  category := js "governance"
  htmlSource := some (js "<p>Vote</p>")
  isDefault := isDefault

def voteRequest (isDefault : Bool) : ReviewOp :=
  .request (.create (js "acme") 1 (js "t1")
    { category := js "governance", htmlSource := some (js "<p>Vote</p>"), isDefault := some isDefault })

theorem only_approved_loaded_named :
    ReviewState.Throughout id ReviewState.LoadsApproved {} [
      voteRequest false, .write 0, .review (js "t1") .approved,
      .notify ⟨js "acme", js "governance", some (js "t1")⟩,
      .loadCustom ⟨js "acme", js "governance", some (js "t1")⟩ [{ voteTemplate false with status := .approved }]] := by
  refine only_approved_loaded ⟨⟨fun _ h => (nomatch h), trivial⟩, ⟨fun _ _ _ h => (nomatch h), trivial⟩,
    ⟨fun _ h => (nomatch h), trivial⟩, ⟨fun _ h => (nomatch h), trivial⟩,
    ⟨fun _ h => (nomatch h), by decide +kernel, by decide +kernel, by decide +kernel⟩, trivial⟩
    ⟨⟨fun _ h => (nomatch h), fun _ _ h => (nomatch h), trivial⟩, ⟨fun _ h => ?_, fun _ _ h => (nomatch h), trivial⟩,
      ⟨fun _ h => (nomatch h), fun _ _ h => (nomatch h), fun h => absurd rfl h⟩,
      ⟨fun _ h => (nomatch h), fun _ _ h => (nomatch h), trivial⟩,
      ⟨fun _ h => (nomatch h), fun _ _ h => (nomatch h), trivial⟩, trivial⟩
  cases h
  rfl

/-- A draft that is made the default of its category is sent. -/
theorem draft_loaded :
    ReviewState.Throughout id ReviewState.Possible {} [
      voteRequest true, .write 0, .write 0, .notify ⟨js "acme", js "governance", none⟩,
      .loadDefault ⟨js "acme", js "governance", none⟩ [voteTemplate true]] ∧
    ¬ReviewState.Throughout id ReviewState.LoadsApproved {} [
      voteRequest true, .write 0, .write 0, .notify ⟨js "acme", js "governance", none⟩,
      .loadDefault ⟨js "acme", js "governance", none⟩ [voteTemplate true]] := by
  refine ⟨⟨⟨fun _ h => (nomatch h), trivial⟩, ⟨fun _ h => (nomatch h), trivial⟩, ⟨fun _ _ _ h => (nomatch h), trivial⟩,
    ⟨fun _ h => (nomatch h), trivial⟩,
      ⟨fun _ h => (nomatch h), by decide +kernel, by decide +kernel⟩, trivial⟩,
    fun h => ?_⟩
  exact absurd (h.2.2.2.2.1 (voteTemplate true) (by decide +kernel)).1 (by decide)

end HeraldGateway
