import HeraldGateway.Templates.Proofs.StoringProofs
import Mathlib.Data.List.Sort

/-!
# The window of versions

An update of HTML appends the next version, and what it prunes then is the first row exactly if there are
eleven. Whatever else a request does leaves the rows of a template and its HTML alone.
-/

namespace HeraldGateway.TemplateController

open Async

variable {v : Validation} {c : TemplateChoice} {s s' : Store} {id : JsString}

/-! ### Rows -/

/-- Without the rows whose ids are among the first `k`, the others stay in their order. -/
theorem filter_ids_eq_drop {rows : List TemplateVersion} (h : (rows.map (·.id)).Nodup) (k : Nat) :
    (rows.filter fun w => !((rows.take k).map (·.id)).contains w.id) = rows.drop k := by
  induction rows generalizing k with
  | nil => simp
  | cons row rows ih =>
    rw [List.map_cons, List.nodup_cons] at h
    cases k with
    | zero => simp
    | succ k =>
      have hrest : (rows.filter fun w => !(((row :: rows).take (k + 1)).map (·.id)).contains w.id) =
          rows.filter fun w => !((rows.take k).map (·.id)).contains w.id := by
        refine List.filter_congr fun w hw => ?_
        have hne : w.id ≠ row.id := fun he => h.1 (List.mem_map.2 ⟨w, hw, he⟩)
        simp [hne]
      rw [List.filter_cons_of_neg (by simp), hrest, ih h.2 k, List.drop_succ_cons]

/-- Rows in order of their versions are sorted already. -/
theorem insertionSort_versions {rows : List TemplateVersion} {a n : Nat}
    (h : rows.map (·.version) = List.range' a n) :
    (rows.insertionSort fun v w => v.version ≤ w.version) = rows := by
  refine List.Pairwise.insertionSort_eq ?_
  have hpairs : (rows.map (·.version)).Pairwise (· < ·) := by
    rw [h]
    exact List.pairwise_lt_range'
  exact (List.pairwise_map.1 hpairs).imp fun hlt => Nat.le_of_lt hlt

theorem versionsOf_nodup (h : (s.versions.map (·.id)).Nodup) (id : JsString) :
    ((s.versionsOf id).map (·.id)).Nodup :=
  h.sublist (List.filter_sublist.map _)

/-- Pruning a template leaves the last ten of its rows. -/
theorem versionsOf_pruned {a n : Nat} (hids : (s.versions.map (·.id)).Nodup)
    (hrows : (s.versionsOf id).map (·.version) = List.range' a n) :
    (s.pruned id).versionsOf id = (s.versionsOf id).drop ((s.versionsOf id).length - 10) := by
  have hsplit : (s.pruned id).versionsOf id = (s.versionsOf id).filter fun w =>
      !(((s.versionsOf id).take ((s.versionsOf id).length - 10)).map (·.id)).contains w.id := by
    unfold Store.pruned
    rw [insertionSort_versions hrows]
    exact List.filter_comm ..
  rw [hsplit]
  exact filter_ids_eq_drop (versionsOf_nodup hids id) _

/-- It leaves the rows of the other templates. -/
theorem versionsOf_pruned_of_ne {target : JsString} (hids : (s.versions.map (·.id)).Nodup)
    (hne : target ≠ id) :
    (s.pruned target).versionsOf id = s.versionsOf id := by
  unfold Store.pruned Store.versionsOf
  rw [List.filter_filter]
  refine List.filter_congr fun w hw => ?_
  by_cases hof : w.templateId = id
  · have hkept : w.id ∉ (((s.versions.filter (·.templateId == target)).insertionSort
        fun v w => v.version ≤ w.version).take
          ((s.versions.filter (·.templateId == target)).length - 10)).map (·.id) := by
      intro hmem
      obtain ⟨u, hu, he⟩ := List.mem_map.1 hmem
      obtain ⟨hu, hof'⟩ := List.mem_filter.1 ((List.mem_insertionSort _).1 (List.mem_of_mem_take hu))
      have hsame : u = w := List.inj_on_of_nodup_map hids hu hw he
      rw [hsame, hof] at hof'
      exact hne (eq_of_beq hof').symm
    simpa [hof] using hkept
  · simp [hof]

/-! ### Statements -/

theorem exec_call (hc : c.fault = .none) (o : TemplateOp) : Store.handle.exec c o.call s = s.serve c o := by
  refine (exec_perform (S := TemplateCalls) o).trans ?_
  rw [Store.handle, hc]
  rfl

theorem exec_findTemplate (hc : c.fault = .none) (id protocolId : JsString) :
    Store.handle.exec c (findTemplate id protocolId) s =
      (.ok (s.templates.find? fun t => t.id == id && t.protocolId == protocolId && t.isActive), s) :=
  exec_call hc _

theorem exec_insertTemplate (hc : c.fault = .none) (values : NewTemplate) :
    Store.handle.exec c (insertTemplate values) s = s.create c.uuid values := exec_call hc _

theorem exec_insertVersion (hc : c.fault = .none) (templateId html : JsString) (version : Nat)
    (subject : Option JsString) :
    Store.handle.exec c (insertVersion templateId version html subject) s =
      s.createVersion ⟨c.uuid, templateId, version, html, subject⟩ := exec_call hc _

theorem exec_setTemplate (hc : c.fault = .none) (id : JsString) (u : Updates) :
    Store.handle.exec c (setTemplate id u) s = s.update id u := exec_call hc _

theorem exec_pruneVersions (hc : c.fault = .none) (templateId : JsString) :
    Store.handle.exec c (pruneVersions templateId) s = (.ok (), s.pruned templateId) := by
  have hcount : Store.handle.exec c (countVersions templateId) s =
      (.ok (s.versionsOf templateId).length, s) := exec_call hc _
  unfold pruneVersions
  rw [Prog.bind_eq_bind, exec_bind hcount]
  by_cases hmany : (s.versionsOf templateId).length > 10
  · have holdest : Store.handle.exec c
        (oldestVersions templateId ((s.versionsOf templateId).length - 10)) s =
        (.ok (((s.versionsOf templateId).insertionSort fun v w => v.version ≤ w.version).take
          ((s.versionsOf templateId).length - 10)), s) := exec_call hc _
    rw [if_pos hmany, Prog.bind_eq_bind, exec_bind holdest]
    exact exec_call hc _
  · rw [if_neg hmany]
    have hnone : (s.versionsOf templateId).length - 10 = 0 := by omega
    have hkept : s.pruned templateId = s := by
      unfold Store.pruned
      rw [hnone]
      simp
    rw [hkept]
    rfl

/-- Unsetting defaults leaves all but the marks of the templates. -/
theorem exec_unsetOthers_eq (hc : c.fault = .none) (isDefault : Option Bool) (protocolId : JsString)
    (category : Option JsString) :
    ∃ s', Store.handle.exec c (unsetOthers isDefault protocolId category) s = (.ok (), s') ∧
      (s' = s ∨ s' = s.unsetDefaults protocolId category) := by
  unfold unsetOthers
  split
  · exact ⟨_, exec_call hc _, .inr rfl⟩
  · exact ⟨s, rfl, .inl rfl⟩

/-! ### What a request leaves of a template -/

/-- The rows of a template with their versions and HTML, and its version rows, are the same. -/
def SameVersions (id : JsString) (s s' : Store) : Prop :=
  s'.versionAndHtml id = s.versionAndHtml id ∧ s'.versionsOf id = s.versionsOf id

theorem SameVersions.trans {s'' : Store} (h : SameVersions id s s') (h' : SameVersions id s' s'') :
    SameVersions id s s'' := ⟨h'.1.trans h.1, h'.2.trans h.2⟩

/-- An update of rows that keeps their ids, versions and HTML. -/
theorem map_versions_updateWhere {q : StoredTemplate → Bool} {u : StoredTemplate → StoredTemplate}
    {rows : List StoredTemplate}
    (hid : ∀ t, (u t).id = t.id)
    (hsame : ∀ t, q t = true → t.id = id → (u t).version = t.version ∧ (u t).htmlSource = t.htmlSource) :
    (((updateWhere q u rows).filter (·.id == id)).map fun t => (t.version, t.htmlSource)) =
      ((rows.filter (·.id == id)).map fun t => (t.version, t.htmlSource)) := by
  unfold updateWhere
  induction rows with
  | nil => rfl
  | cons t rows ih =>
    have hkey : (if q t then u t else t).id = t.id := by split <;> simp [hid]
    rw [List.map_cons, List.filter_cons, List.filter_cons, hkey]
    by_cases hof : t.id = id
    · have hcols : ((if q t then u t else t).version, (if q t then u t else t).htmlSource) =
          (t.version, t.htmlSource) := by
        split
        · next hq => rw [(hsame t hq hof).1, (hsame t hq hof).2]
        · rfl
      simp only [hof, beq_self_eq_true, if_true, List.map_cons, ih, hcols]
    · simp only [beq_iff_eq, hof, if_false, ih]

theorem SameVersions.refl (s : Store) : SameVersions id s s := ⟨rfl, rfl⟩

theorem sameVersions_unsetDefaults (protocolId : JsString) (category : Option JsString) :
    SameVersions id s (s.unsetDefaults protocolId category) :=
  ⟨map_versions_updateWhere (fun _ => rfl) fun _ _ _ => ⟨rfl, rfl⟩, rfl⟩

/-- An update of a template is one of its columns, where there is the template. -/
theorem update_eq {target : JsString} (u : Updates) (h : ∃ t ∈ s.templates, t.id = target) :
    s.update target u =
      (.ok (), { s with templates := updateWhere (·.id == target) (·.updated u) s.templates }) := by
  obtain ⟨t, ht, hid⟩ := h
  have hany : s.templates.any (·.id == target) = true := List.any_eq_true.2 ⟨t, ht, beq_iff_eq.2 hid⟩
  exact if_pos hany

/-- An update of another template, or one of other columns. -/
theorem sameVersions_update {target : JsString} {u : Updates} (hthere : ∃ t ∈ s.templates, t.id = target)
    (h : target ≠ id ∨ u.htmlSource = none ∧ u.version = none) :
    SameVersions id s (s.update target u).2 := by
  rw [update_eq u hthere]
  refine ⟨map_versions_updateWhere (fun _ => rfl) fun t hq hof => ?_, rfl⟩
  rcases h with hne | ⟨hhtml, hversion⟩
  · exact absurd ((eq_of_beq hq).symm.trans hof) hne
  · exact ⟨by simp [StoredTemplate.updated, hversion], by simp [StoredTemplate.updated, hhtml]⟩

/-- A version row is stored where its id is new, whatever else it is. -/
theorem createVersion_ok {row : TemplateVersion} (h : (s.createVersion row).1 = .ok ()) :
    (s.createVersion row).2 = { s with versions := s.versions ++ [row] } ∧
      row.id ∉ s.versions.map (·.id) := by
  unfold Store.createVersion at h ⊢
  split at h
  · exact absurd h nofun
  · next hnone =>
    rw [if_neg hnone]
    refine ⟨rfl, fun hmem => hnone ?_⟩
    obtain ⟨w, hw, he⟩ := List.mem_map.1 hmem
    exact List.any_eq_true.2 ⟨w, hw, by simp [he]⟩

/-! ### Constraints -/

/-- Templates keep their ids, and no version row is new but of a template that there is. -/
theorem Store.Constrained.of_rows (h : s.Constrained) (hids : (s'.versions.map (·.id)).Nodup)
    (htemplates : s'.templates.map (·.id) = s.templates.map (·.id))
    (hrows : ∀ w ∈ s'.versions, w ∈ s.versions ∨ ∃ t ∈ s.templates, t.id = w.templateId) :
    s'.Constrained := by
  refine ⟨hids, fun w hw => ?_⟩
  have hthere : w.templateId ∈ s.templates.map (·.id) := by
    rcases hrows w hw with hold | hnew
    · exact List.mem_map.2 (h.references w hold)
    · exact List.mem_map.2 hnew
  rw [← htemplates] at hthere
  exact List.mem_map.1 hthere

theorem map_id_updateWhere {q : StoredTemplate → Bool} {u : StoredTemplate → StoredTemplate}
    {rows : List StoredTemplate} (h : ∀ t, (u t).id = t.id) :
    (updateWhere q u rows).map (·.id) = rows.map (·.id) := by
  unfold updateWhere
  rw [List.map_map]
  refine List.map_congr_left fun t _ => ?_
  simp only [Function.comp_apply]
  split <;> simp [h]

theorem constrained_unsetDefaults (h : s.Constrained) (protocolId : JsString) (category : Option JsString) :
    (s.unsetDefaults protocolId category).Constrained :=
  h.of_rows h.ids (map_id_updateWhere fun _ => rfl) fun _ hw => .inl hw

theorem constrained_update (h : s.Constrained) {target : JsString} (u : Updates)
    (hthere : ∃ t ∈ s.templates, t.id = target) : (s.update target u).2.Constrained := by
  rw [update_eq u hthere]
  exact h.of_rows h.ids (map_id_updateWhere fun _ => rfl) fun _ hw => .inl hw

theorem constrained_createVersion (h : s.Constrained) {row : TemplateVersion}
    (hok : (s.createVersion row).1 = .ok ()) (hthere : ∃ t ∈ s.templates, t.id = row.templateId) :
    (s.createVersion row).2.Constrained := by
  obtain ⟨heq, hnew⟩ := createVersion_ok hok
  rw [heq]
  refine h.of_rows ?_ rfl fun w hw => ?_
  · rw [List.map_append, List.nodup_append]
    refine ⟨h.ids, List.nodup_singleton _, fun a ha b hb => ?_⟩
    rw [List.mem_singleton.1 hb]
    rintro rfl
    exact hnew ha
  · rcases List.mem_append.1 hw with hold | hrow
    · exact .inl hold
    · rw [List.mem_singleton.1 hrow]
      exact .inr hthere

theorem constrained_pruned (h : s.Constrained) (target : JsString) : (s.pruned target).Constrained :=
  h.of_rows (h.ids.sublist (List.filter_sublist.map _)) rfl fun _ hw => .inl (List.mem_filter.1 hw).1

/-! ### Requests -/

theorem handled_ok {uuid : JsString} {r : Request} (h : handled v uuid r s = some s') :
    Store.handle.exec { uuid := uuid } (r.code v) s = (.ok (), s') := by
  unfold handled at h
  split at h
  · next s'' hexec =>
    cases h
    exact hexec
  · exact absurd h nofun

/-- What is stored of an update whose steps all succeed. -/
theorem exec_storeUpdates {tier : Nat} {existing : StoredTemplate} {body : UpdateBody}
    (hc : c.fault = .none)
    (h : Store.handle.exec c (storeUpdates v tier existing body) s = (.ok (), s')) :
    truthy body.htmlSource = false ∧ s' = (s.update existing.id body.updates).2 ∨
      truthy body.htmlSource = true ∧ ∃ html subject,
        let row : TemplateVersion := ⟨c.uuid, existing.id, existing.version + 1, html, subject⟩
        (s.createVersion row).1 = .ok () ∧
          s' = (((s.createVersion row).2.pruned existing.id).update existing.id
            { body.updates with htmlSource := some html, version := some (existing.version + 1) }).2 := by
  unfold storeUpdates at h
  split at h
  · next hhtml =>
    right
    refine ⟨hhtml, ?_⟩
    cases hvalid : validateCustomTemplate v (body.htmlSource.getD []) tier with
    | error message =>
      rw [hvalid] at h
      exact absurd (congrArg Prod.fst h) nofun
    | ok html =>
      rw [hvalid] at h
      simp only [Prog.bind_eq_bind] at h
      obtain ⟨_, s₁, hrow, h⟩ := exec_bind_ok h
      rw [exec_insertVersion hc] at hrow
      rw [exec_bind (exec_pruneVersions hc existing.id), exec_setTemplate hc] at h
      refine ⟨html, body.subjectTemplate.join.or existing.subjectTemplate, congrArg Prod.fst hrow, ?_⟩
      have hs₁ : (s.createVersion ⟨c.uuid, existing.id, existing.version + 1, html,
          body.subjectTemplate.join.or existing.subjectTemplate⟩).2 = s₁ := congrArg Prod.snd hrow
      rw [hs₁]
      exact (congrArg Prod.snd h).symm
  · next hhtml =>
    left
    rw [exec_setTemplate hc] at h
    exact ⟨Bool.eq_false_iff.2 hhtml, (congrArg Prod.snd h).symm⟩

/-- What an update finds and unsets before it stores anything. -/
theorem handled_update {uuid protocolId target : JsString} {tier : Nat} {body : UpdateBody}
    (h : handled v uuid (.update protocolId tier target body) s = some s') :
    ∃ existing ∈ s.templates, existing.id = target ∧
      ∃ s₁, (s₁ = s ∨ s₁ = s.unsetDefaults protocolId (some existing.category)) ∧
        Store.handle.exec { uuid := uuid } (storeUpdates v tier existing body) s₁ = (.ok (), s') := by
  have hc : ({ uuid := uuid } : TemplateChoice).fault = .none := rfl
  have hexec := handled_ok h
  rw [Request.code, updateEmailTemplate] at hexec
  by_cases htier : tier < 1
  · rw [if_pos htier] at hexec
    cases congrArg Prod.fst hexec
  · rw [if_neg htier, Prog.bind_eq_bind] at hexec
    obtain ⟨found, s₀, hfind, hexec⟩ := exec_bind_ok hexec
    rw [exec_findTemplate hc] at hfind
    have hs₀ : s = s₀ := congrArg Prod.snd hfind
    have hfound : (s.templates.find? fun t => t.id == target && t.protocolId == protocolId && t.isActive) =
        found := Except.ok.inj (congrArg Prod.fst hfind)
    subst hs₀
    cases found with
    | none => cases congrArg Prod.fst hexec
    | some existing =>
      have hprop := List.find?_some hfound
      simp only [Bool.and_eq_true, beq_iff_eq] at hprop
      obtain ⟨s₁, hunset, hs₁⟩ := exec_unsetOthers_eq (s := s) hc body.isDefault protocolId
        (some existing.category)
      simp only [Prog.bind_eq_bind] at hexec
      rw [exec_bind hunset] at hexec
      exact ⟨existing, List.mem_of_find?_eq_some hfound, hprop.1.1, s₁, hs₁, hexec⟩

/-- What a request creates whose steps all succeed: the first version of a template, under a new id. -/
theorem exec_createEmailTemplate {protocolId created : JsString} {tier : Nat} {body : CreateBody}
    (hc : c.fault = .none)
    (h : Store.handle.exec c (createEmailTemplate v protocolId tier body) s = (.ok created, s')) :
    created = c.uuid ∧ ∃ s₁, (s₁ = s ∨ s₁ = s.unsetDefaults protocolId body.category) ∧
      (∀ t ∈ s₁.templates, t.id ≠ c.uuid) ∧
      ∃ t, t.id = c.uuid ∧ t.version = 1 ∧ s' = { s₁ with templates := s₁.templates ++ [t] } := by
  unfold createEmailTemplate at h
  by_cases htier : tier < 1
  · rw [if_pos htier] at h
    exact absurd (congrArg Prod.fst h) nofun
  · rw [if_neg htier] at h
    cases hvalid : validateCustomTemplate v (body.htmlSource.getD []) tier with
    | error message =>
      rw [hvalid] at h
      exact absurd (congrArg Prod.fst h) nofun
    | ok html =>
      rw [hvalid] at h
      simp only [Prog.bind_eq_bind] at h
      obtain ⟨s₁, hunset, hs₁⟩ := exec_unsetOthers_eq (s := s) hc body.isDefault protocolId body.category
      rw [exec_bind hunset, exec_insertTemplate hc] at h
      unfold Store.create at h
      split at h
      · split at h
        · exact absurd (congrArg Prod.fst h) nofun
        · next hnew =>
          obtain ⟨hid, hs'⟩ := Prod.mk.inj h
          refine ⟨(Except.ok.inj hid).symm, s₁, hs₁, fun t ht he => hnew ?_, _, rfl, rfl, hs'.symm⟩
          exact List.any_eq_true.2 ⟨t, ht, beq_iff_eq.2 he⟩
      · exact absurd (congrArg Prod.fst h) nofun

/-- Unsetting defaults, if it comes to that, leaves the versions, the constraints and the ids of templates. -/
theorem unset_kept {s₁ : Store} {protocolId : JsString} {category : Option JsString}
    (h : s₁ = s ∨ s₁ = s.unsetDefaults protocolId category) (hs : s.Constrained) (id : JsString) :
    SameVersions id s s₁ ∧ s₁.Constrained ∧ s₁.templates.map (·.id) = s.templates.map (·.id) := by
  rcases h with rfl | rfl
  · exact ⟨.refl s₁, hs, rfl⟩
  · exact ⟨sameVersions_unsetDefaults protocolId category, constrained_unsetDefaults hs protocolId category,
      map_id_updateWhere fun _ => rfl⟩

theorem there_of_map {s₁ : Store} (h : s₁.templates.map (·.id) = s.templates.map (·.id))
    (hthere : ∃ t ∈ s.templates, t.id = id) : ∃ t ∈ s₁.templates, t.id = id := by
  have hmem : id ∈ s.templates.map (·.id) := List.mem_map.2 hthere
  rw [← h] at hmem
  exact List.mem_map.1 hmem

/-- A version row of another template. -/
theorem sameVersions_createVersion {row : TemplateVersion} (hok : (s.createVersion row).1 = .ok ())
    (hne : row.templateId ≠ id) : SameVersions id s (s.createVersion row).2 := by
  rw [(createVersion_ok hok).1]
  refine ⟨rfl, ?_⟩
  unfold Store.versionsOf
  rw [List.filter_append, List.filter_singleton, beq_eq_false_iff_ne.2 hne]
  exact List.append_nil _

theorem sameVersions_pruned {target : JsString} (hs : s.Constrained) (hne : target ≠ id) :
    SameVersions id s (s.pruned target) := ⟨rfl, versionsOf_pruned_of_ne hs.ids hne⟩

/-- A request that does not update the HTML of a template leaves its versions. -/
theorem handled_kept {uuid : JsString} {r : Request} (hs : s.Constrained)
    (hthere : ∃ t ∈ s.templates, t.id = id) (hr : r.editsHtml id = false)
    (h : handled v uuid r s = some s') : SameVersions id s s' ∧ s'.Constrained := by
  have hc : ({ uuid := uuid } : TemplateChoice).fault = .none := rfl
  cases r with
  | create protocolId tier body =>
    obtain ⟨created, s₀, hexec, hret⟩ := exec_bind_ok (handled_ok h)
    have hs' : s₀ = s' := congrArg Prod.snd hret
    subst hs'
    obtain ⟨-, s₁, hs₁, hfresh, t, hid, -, rfl⟩ := exec_createEmailTemplate hc hexec
    obtain ⟨hsame, hconstrained, hids⟩ := unset_kept hs₁ hs id
    obtain ⟨u, hu, huid⟩ := there_of_map hids hthere
    have hne : t.id ≠ id := by
      rw [hid, ← huid]
      exact (hfresh u hu).symm
    refine ⟨hsame.trans ⟨?_, rfl⟩, ⟨hconstrained.ids, fun w hw => ?_⟩⟩
    · unfold Store.versionAndHtml
      rw [List.filter_append, List.filter_singleton, beq_eq_false_iff_ne.2 hne]
      exact congrArg (List.map _) (List.append_nil _)
    · obtain ⟨t', ht', hw'⟩ := hconstrained.references w hw
      exact ⟨t', List.mem_append_left _ ht', hw'⟩
  | delete protocolId target =>
    have hexec := handled_ok h
    rw [Request.code, deleteEmailTemplate, Prog.bind_eq_bind] at hexec
    rw [exec_bind (exec_findTemplate hc target protocolId)] at hexec
    cases hfound : s.templates.find? fun t => t.id == target && t.protocolId == protocolId && t.isActive with
    | none =>
      rw [hfound] at hexec
      cases congrArg Prod.fst hexec
    | some existing =>
      rw [hfound] at hexec
      have hprop := List.find?_some hfound
      simp only [Bool.and_eq_true, beq_iff_eq] at hprop
      have htarget : ∃ t ∈ s.templates, t.id = target :=
        ⟨existing, List.mem_of_find?_eq_some hfound, hprop.1.1⟩
      simp only [exec_setTemplate hc] at hexec
      have hs' : (s.update target { isActive := some false }).2 = s' := congrArg Prod.snd hexec
      rw [← hs']
      exact ⟨sameVersions_update htarget (.inr ⟨rfl, rfl⟩), constrained_update hs _ htarget⟩
  | update protocolId tier target body =>
    obtain ⟨existing, hexisting, rfl, s₁, hs₁, hexec⟩ := handled_update h
    obtain ⟨hsame, hconstrained, hids⟩ := unset_kept hs₁ hs id
    have htarget := there_of_map hids ⟨existing, hexisting, rfl⟩
    rcases exec_storeUpdates hc hexec with ⟨-, rfl⟩ | ⟨hhtml, html, subject, hrow, rfl⟩
    · exact ⟨hsame.trans (sameVersions_update htarget (.inr ⟨rfl, rfl⟩)),
        constrained_update hconstrained _ htarget⟩
    · have hne : existing.id ≠ id := by
        intro he
        rw [Request.editsHtml, he, hhtml] at hr
        exact absurd hr (by simp)
      have hstored := constrained_createVersion hconstrained hrow htarget
      have hthere' : ∃ t ∈ ((s₁.createVersion ⟨uuid, existing.id, existing.version + 1, html, subject⟩).2.pruned
          existing.id).templates, t.id = existing.id := by
        rw [(createVersion_ok hrow).1]
        exact htarget
      refine ⟨((hsame.trans (sameVersions_createVersion hrow hne)).trans
        (sameVersions_pruned hstored hne)).trans (sameVersions_update hthere' (.inl hne)), ?_⟩
      exact constrained_update (constrained_pruned hstored existing.id) _ hthere'

/-! ### The window -/

theorem Windowed.of_same {n : Nat} {html : Option JsString} (h : Windowed s id n html)
    (hsame : SameVersions id s s') : Windowed s' id n html :=
  ⟨hsame.1.trans h.stored, hsame.2 ▸ h.rows, hsame.2 ▸ h.current⟩

/-- A template in its window is there. -/
theorem Windowed.there {n : Nat} {html : Option JsString} (h : Windowed s id n html) :
    ∃ t ∈ s.templates, t.id = id := by
  obtain ⟨t, ht, -⟩ := List.map_eq_singleton_iff.1 h.stored
  have hmem : t ∈ s.templates.filter (·.id == id) := by rw [ht]; simp
  obtain ⟨hin, hid⟩ := List.mem_filter.1 hmem
  exact ⟨t, hin, eq_of_beq hid⟩

/-- The version of a template in its window. -/
theorem Windowed.version_of_mem {n : Nat} {html : Option JsString} (h : Windowed s id n html)
    {t : StoredTemplate} (ht : t ∈ s.templates) (hid : t.id = id) : t.version = n + 1 := by
  have hmem : (t.version, t.htmlSource) ∈ s.versionAndHtml id :=
    List.mem_map.2 ⟨t, List.mem_filter.2 ⟨ht, beq_iff_eq.2 hid⟩, rfl⟩
  rw [h.stored] at hmem
  exact (Prod.mk.inj (List.mem_singleton.1 hmem)).1

/-- The next version continues those of a window. -/
theorem window_concat (n : Nat) :
    List.range' (n + 2 - min n 10) (min n 10) ++ [n + 2] = List.range' (n + 2 - min n 10) (min n 10 + 1) := by
  have hlast : n + 2 = n + 2 - min n 10 + 1 * min n 10 := by omega
  rw [List.range'_concat, ← hlast]

/-- Dropping what then exceeds ten leaves the next window. -/
theorem drop_window (n : Nat) :
    (List.range' (n + 2 - min n 10) (min n 10) ++ [n + 2]).drop (min n 10 + 1 - 10) =
      List.range' (n + 3 - min (n + 1) 10) (min (n + 1) 10) := by
  rw [window_concat, List.drop_range']
  congr 1 <;> omega

theorem filter_updateWhere {u : StoredTemplate → StoredTemplate} (hid : ∀ t, (u t).id = t.id)
    (rows : List StoredTemplate) :
    (updateWhere (·.id == id) u rows).filter (·.id == id) = (rows.filter (·.id == id)).map u := by
  unfold updateWhere
  simp only [beq_iff_eq]
  induction rows with
  | nil => rfl
  | cons t rows ih =>
    rw [List.map_cons, List.filter_cons, List.filter_cons]
    by_cases hof : t.id = id
    · simp [hof, hid, ih]
    · simp [hof, ih]

/-- The next version row moves the rows of a window, once they are pruned. -/
theorem rows_moved {n : Nat} {html : Option JsString} {row : TemplateVersion} (hs : s.Constrained)
    (hw : Windowed s id n html) (hrow : (s.createVersion row).1 = .ok ()) (hof : row.templateId = id)
    (hversion : row.version = n + 2) (hthere : ∃ t ∈ s.templates, t.id = id) :
    ((s.createVersion row).2.pruned id).versionsOf id =
      (s.versionsOf id ++ [row]).drop ((s.versionsOf id).length + 1 - 10) ∧
    (((s.createVersion row).2.pruned id).versionsOf id).map (·.version) =
      List.range' (n + 3 - min (n + 1) 10) (min (n + 1) 10) := by
  have hstored := constrained_createVersion hs hrow (hof ▸ hthere)
  have hrows : (s.createVersion row).2.versionsOf id = s.versionsOf id ++ [row] := by
    rw [(createVersion_ok hrow).1]
    unfold Store.versionsOf
    rw [List.filter_append, List.filter_singleton, beq_iff_eq.2 hof]
    rfl
  have hlength : (s.versionsOf id).length = min n 10 := by
    rw [← List.length_map (·.version), hw.rows, List.length_range']
  have hnumbers : ((s.createVersion row).2.versionsOf id).map (·.version) =
      List.range' (n + 2 - min n 10) (min n 10) ++ [n + 2] := by
    rw [hrows, List.map_append, hw.rows, List.map_singleton, hversion]
  have hpruned : ((s.createVersion row).2.pruned id).versionsOf id =
      (s.versionsOf id ++ [row]).drop ((s.versionsOf id).length + 1 - 10) := by
    rw [versionsOf_pruned hstored.ids (hnumbers.trans (window_concat n)), hrows, List.length_append,
      List.length_singleton]
  refine ⟨hpruned, ?_⟩
  rw [hpruned, hlength, List.map_drop, List.map_append, hw.rows, List.map_singleton, hversion]
  exact drop_window n

/-- An update of the HTML of a template moves its window. -/
theorem windowed_edit {uuid protocolId : JsString} {tier n : Nat} {body : UpdateBody} {html : Option JsString}
    (hs : s.Constrained) (hw : Windowed s id n html) (hhtml : truthy body.htmlSource = true)
    (h : handled v uuid (.update protocolId tier id body) s = some s') :
    (∃ html', Windowed s' id (n + 1) html') ∧ s'.Constrained := by
  have hc : ({ uuid := uuid } : TemplateChoice).fault = .none := rfl
  obtain ⟨existing, hexisting, rfl, s₁, hs₁, hexec⟩ := handled_update h
  obtain ⟨hsame, hconstrained, hids⟩ := unset_kept hs₁ hs existing.id
  have hw₁ := hw.of_same hsame
  have htarget := there_of_map hids ⟨existing, hexisting, rfl⟩
  have hversion := hw.version_of_mem hexisting rfl
  rcases exec_storeUpdates hc hexec with ⟨hnone, -⟩ | ⟨-, new, subject, hrow, rfl⟩
  · rw [hhtml] at hnone
    exact absurd hnone nofun
  · have hnext : existing.version + 1 = n + 2 := by omega
    obtain ⟨hpruned, hnumbers⟩ := rows_moved hconstrained hw₁ hrow rfl hnext htarget
    have hstored := constrained_createVersion hconstrained hrow htarget
    have hthere : ∃ t ∈ ((s₁.createVersion ⟨uuid, existing.id, existing.version + 1, new, subject⟩).2.pruned
        existing.id).templates, t.id = existing.id := by
      rw [(createVersion_ok hrow).1]
      exact htarget
    refine ⟨⟨some new, ?_⟩, constrained_update (constrained_pruned hstored existing.id) _ hthere⟩
    rw [update_eq _ hthere]
    refine ⟨?_, hnumbers, fun w hw' hnumber => ?_⟩
    · obtain ⟨t, ht, -⟩ := List.map_eq_singleton_iff.1 hw₁.stored
      unfold Store.versionAndHtml
      simp only [filter_updateWhere (u := (·.updated _)) (fun _ => rfl), (createVersion_ok hrow).1]
      change ((s₁.templates.filter (·.id == existing.id)).map _).map _ = _
      rw [ht]
      simp [StoredTemplate.updated, hnext]
    · have hlist : w ∈ s₁.versionsOf existing.id ++
          [⟨uuid, existing.id, existing.version + 1, new, subject⟩] :=
        List.mem_of_mem_drop (hpruned ▸ hw')
      rcases List.mem_append.1 hlist with hold | hrow'
      · have hin : w.version ∈ (s₁.versionsOf existing.id).map (·.version) := List.mem_map_of_mem hold
        rw [hw₁.rows, List.mem_range'_1] at hin
        omega
      · rw [List.mem_singleton.1 hrow']

/-- A request moves the window of a template by the updates of its HTML that it makes. -/
theorem windowed_handled {uuid : JsString} {r : Request} {n : Nat} {html : Option JsString}
    (hs : s.Constrained) (hw : Windowed s id n html) (h : handled v uuid r s = some s') :
    (∃ html', Windowed s' id (n + if r.editsHtml id then 1 else 0) html') ∧ s'.Constrained := by
  by_cases hedits : r.editsHtml id = true
  · rw [if_pos hedits]
    cases r with
    | update protocolId tier target body =>
      obtain ⟨htarget, hhtml⟩ := Bool.and_eq_true_iff.1 hedits
      cases eq_of_beq htarget
      exact windowed_edit hs hw hhtml h
    | create protocolId tier body => exact absurd hedits nofun
    | delete protocolId target => exact absurd hedits nofun
  · rw [if_neg hedits]
    obtain ⟨hsame, hconstrained⟩ := handled_kept hs hw.there (Bool.eq_false_iff.2 hedits) h
    exact ⟨⟨html, hw.of_same hsame⟩, hconstrained⟩

theorem windowed_sequence {rs : List (JsString × Request)} {n : Nat} {html : Option JsString}
    (hs : s.Constrained) (hw : Windowed s id n html) (h : sequence v rs s = some s') :
    ∃ html', Windowed s' id (n + htmlEdits id rs) html' := by
  induction rs generalizing s n html with
  | nil =>
    cases h
    exact ⟨html, hw⟩
  | cons r rs ih =>
    obtain ⟨uuid, r⟩ := r
    obtain ⟨s₁, hr, hrest⟩ := Option.bind_eq_some_iff.1 h
    obtain ⟨⟨html', hw'⟩, hs'⟩ := windowed_handled hs hw hr
    obtain ⟨html'', hw''⟩ := ih hs' hw' hrest
    refine ⟨html'', ?_⟩
    have hcount : n + htmlEdits id ((uuid, r) :: rs) =
        n + (if r.editsHtml id then 1 else 0) + htmlEdits id rs := by
      simp only [htmlEdits, List.countP_cons]
      omega
    rw [hcount]
    exact hw''

/-- A template that was just created is in the window of no update. -/
theorem windowed_created {protocolId created uuid : JsString} {tier : Nat} {body : CreateBody}
    (hs : s.Constrained)
    (h : Store.handle.exec { uuid := uuid } (createEmailTemplate v protocolId tier body) s = (.ok created, s')) :
    (∃ html, Windowed s' created 0 html) ∧ s'.Constrained := by
  obtain ⟨rfl, s₁, hs₁, hfresh, t, hid, hversion, rfl⟩ := exec_createEmailTemplate rfl h
  obtain ⟨-, hconstrained, -⟩ := unset_kept hs₁ hs created
  have hnone : s₁.versionsOf created = [] := by
    refine List.filter_eq_nil_iff.2 fun w hw hof => ?_
    obtain ⟨u, hu, hof'⟩ := hconstrained.references w hw
    exact hfresh u hu (hof'.trans (eq_of_beq hof))
  have halone : s₁.templates.filter (·.id == created) = [] :=
    List.filter_eq_nil_iff.2 fun u hu he => hfresh u hu (eq_of_beq he)
  refine ⟨⟨t.htmlSource, ?_, ?_, fun w hw => ?_⟩, ⟨hconstrained.ids, fun w hw => ?_⟩⟩
  · unfold Store.versionAndHtml
    rw [List.filter_append, halone, List.filter_singleton, beq_iff_eq.2 hid]
    simp [hversion]
  · change (s₁.versionsOf created).map _ = _
    rw [hnone]
    rfl
  · change w ∈ s₁.versionsOf created at hw
    rw [hnone] at hw
    exact absurd hw List.not_mem_nil
  · obtain ⟨u, hu, hof⟩ := hconstrained.references w hw
    exact ⟨u, List.mem_append_left _ hu, hof⟩

/-- After `n` updates of the HTML of a template that was created before them, among any other requests and
none of them failing, its version rows are the last ten or all `n`, the last of them with the HTML of the
template, whose version it is. -/
theorem versions_slide (v : Validation) {s s₁ s₂ : Store} (hs : s.Constrained)
    {protocolId created uuid : JsString}
    {tier : Nat} {body : CreateBody}
    (hcreate : Store.handle.exec { uuid := uuid } (createEmailTemplate v protocolId tier body) s = (.ok created, s₁))
    {rs : List (JsString × Request)} (hrun : sequence v rs s₁ = some s₂) (hedits : 1 ≤ htmlEdits created rs) :
    ∃ t, s₂.templates.filter (·.id == created) = [t] ∧ t.version = htmlEdits created rs + 1 ∧
      (s₂.versionsOf created).map (·.version) =
        List.range' (t.version + 1 - min (htmlEdits created rs) 10) (min (htmlEdits created rs) 10) ∧
      ∃ w ∈ s₂.versionsOf created, w.version = t.version ∧ t.htmlSource = some w.htmlSource := by
  obtain ⟨⟨html₁, hw₁⟩, hs₁⟩ := windowed_created hs hcreate
  obtain ⟨html, hw⟩ := windowed_sequence hs₁ hw₁ hrun
  rw [Nat.zero_add] at hw
  obtain ⟨t, ht, hcolumns⟩ := List.map_eq_singleton_iff.1 hw.stored
  obtain ⟨hversion, hhtml⟩ := Prod.mk.inj hcolumns
  refine ⟨t, ht, hversion, ?_, ?_⟩
  · rw [hversion]
    exact hw.rows
  · have hlast : htmlEdits created rs + 1 ∈ (s₂.versionsOf created).map (·.version) := by
      rw [hw.rows, List.mem_range'_1]
      omega
    obtain ⟨w, hmem, hnumber⟩ := List.mem_map.1 hlast
    exact ⟨w, hmem, hnumber.trans hversion.symm, hhtml.trans (hw.current w hmem hnumber)⟩

/-- A template with one update of its HTML, between one of its name and its deletion. -/
def editedOnce : List (JsString × Request) := [
  ([], .update (js "p") 1 (js "t") { name := some (js "Monthly") }),
  (js "v", .update (js "p") 1 (js "t") { htmlSource := some (js "B") }),
  ([], .delete (js "p") (js "t"))]

theorem versions_of_edited_once :
    ∃ s₁ s₂, sequence plainSources editedOnce s₁ = some s₂ ∧
      ∃ w ∈ s₂.versionsOf (js "t"), some (js "B") = some w.htmlSource := by
  obtain ⟨s₁, hcreate, s₂, hrun, hhtml⟩ :
      ∃ s₁, Store.handle.exec { uuid := js "t" } (createEmailTemplate plainSources (js "p") 1
          { name := some (js "Weekly"), category := some (js "defi"), htmlSource := some (js "A") }) {} =
          (.ok (js "t"), s₁) ∧
        ∃ s₂, sequence plainSources editedOnce s₁ = some s₂ ∧
          ∀ t ∈ s₂.templates.filter (·.id == js "t"), t.htmlSource = some (js "B") :=
    ⟨_, rfl, _, rfl, by decide⟩
  obtain ⟨t, ht, -, -, w, hw, -, hcurrent⟩ :=
    versions_slide plainSources (s := {}) ⟨List.nodup_nil, nofun⟩ hcreate hrun (by decide)
  exact ⟨s₁, s₂, hrun, w, hw, by rw [← hcurrent, hhtml t (by rw [ht]; exact List.mem_singleton_self t)]⟩

end HeraldGateway.TemplateController
