import HeraldGateway.Templates.Proofs.StoringProofs

/-!
# Requests whose defaults do not overlap

A request marks a template only after it unset the defaults of its category. While it is between the two no
other template of the category is marked, if no other request does the same there.
-/

namespace HeraldGateway.TemplateController

open Async

variable {v : Validation} {r : Request} {tr : List TemplateEvent} {c : TemplateChoice} {s s' : Store}
  {o : TemplateOp} {category : JsString × JsString}

/-! ### What requests mark -/

/-- The template that a call found. -/
def found? : (o : TemplateOp) → Except Err o.Res → Option StoredTemplate
  | .find .., .ok t => t
  | _, _ => none

/-- A template was found. -/
def Found (tr : List TemplateEvent) (t : StoredTemplate) : Prop := ∃ e ∈ tr, found? e.op e.reply = some t

/-- The defaults of a category were unset. -/
def Unset (tr : List TemplateEvent) (protocolId : JsString) (category : Option JsString) : Prop :=
  ∃ e ∈ tr, e.op = .unsetDefaults protocolId category ∧ isError e.reply = false

/-- No template was created. -/
def NotCreated (tr : List TemplateEvent) : Prop := ∀ e ∈ tr, TemplateOp.creates e.op = false

/-- What a request did before it wrote a template: whatever it marks is of a category that it unset. -/
def MarksCovered (r : Request) (tr : List TemplateEvent) (e : TemplateEvent) : Prop :=
  match (e.op : TemplateOp) with
  | .create values => r.target? = none ∧ NotCreated tr ∧
      (values.isDefault = true → Unset tr values.protocolId values.category)
  | .update id updates => r.target? = some id ∧ NotCreated tr ∧ updates.isActive ≠ some true ∧
      (updates.isDefault = some true → ∃ t, Found tr t ∧ t.id = id ∧ Unset tr t.protocolId (some t.category))
  | _ => True

theorem Unset.append {protocolId : JsString} {category : Option JsString} (h : Unset tr protocolId category)
    (tr' : List TemplateEvent) : Unset (tr ++ tr') protocolId category := by
  obtain ⟨e, he, hop⟩ := h
  exact ⟨e, List.mem_append_left _ he, hop⟩

theorem Found.append {t : StoredTemplate} (h : Found tr t) (tr' : List TemplateEvent) :
    Found (tr ++ tr') t := by
  obtain ⟨e, he, hfound⟩ := h
  exact ⟨e, List.mem_append_left _ he, hfound⟩

/-- What is found is stored under the id that was asked for. -/
theorem find_spec {id protocolId : JsString} {t : StoredTemplate}
    (h : (Store.handle c s (.find id protocolId)).1 = .ok (some t)) :
    t ∈ s.templates ∧ t.id = id ∧ t.protocolId = protocolId := by
  have hserve : Store.handle c s (.find id protocolId) = s.serve c (.find id protocolId) := Fault.meet_ok h
  rw [hserve] at h
  have hfind : (s.templates.find? fun t => t.id == id && t.protocolId == protocolId && t.isActive) = some t :=
    Except.ok.inj h
  have hprop := List.find?_some hfind
  simp only [Bool.and_eq_true, beq_iff_eq] at hprop
  exact ⟨List.mem_of_find?_eq_some hfind, hprop.1.1, hprop.1.2⟩

/-- A template that was found is stored. -/
theorem stored_of_found {t : StoredTemplate} (h : found? o (Store.handle c s o).1 = some t) :
    t ∈ s.templates := by
  cases o with
  | find id protocolId =>
    cases hr : (Store.handle c s (.find id protocolId)).1 with
    | error e =>
      rw [hr] at h
      cases h
    | ok found =>
      rw [hr] at h
      exact (find_spec (hr.trans (congrArg Except.ok h))).1
  | _ => cases h

/-- A request's own way of following its history. -/
abbrev LogsMarks {α : Type} (r : Request) (Q : List TemplateEvent → Except Err α → Prop) (p : Templates α)
    (tr : List TemplateEvent) : Prop :=
  Logs Store.handle (fun _ _ => True) (Async.Obeys (MarksCovered r)) Q p tr

/-- What is known before a template is written. -/
structure Ready (r : Request) (isDefault : Option Bool) (t : StoredTemplate)
    (tr : List TemplateEvent) : Prop where
  lawful : Async.Obeys (MarksCovered r) tr
  created : NotCreated tr
  found : Found tr t
  unset : isDefault = some true → Unset tr t.protocolId (some t.category)

theorem NotCreated.concat {e : TemplateEvent} (h : NotCreated tr) (he : TemplateOp.creates e.op = false) :
    NotCreated (tr ++ [e]) := List.forall_mem_append.2 ⟨h, List.forall_mem_singleton.2 he⟩

/-- A call that writes no template is covered. -/
theorem covered_plain {o : TemplateOp}
    (h : TemplateOp.creates o = false ∧ ∀ id updates, o ≠ .update id updates) :
    MarksCovered r tr (Store.handle.event c s o) := by
  unfold MarksCovered
  cases o with
  | create => cases h.1
  | update id updates => exact absurd rfl (h.2 id updates)
  | _ => trivial

/-- A call that writes no template keeps what is known. -/
theorem logs_ready {o : TemplateOp} {isDefault : Option Bool} {t : StoredTemplate}
    (ho : TemplateOp.creates o = false ∧ ∀ id updates, o ≠ .update id updates)
    (htr : Ready r isDefault t tr) :
    LogsMarks r (fun tr _ => Ready r isDefault t tr) o.call tr := by
  refine Logs.perform (S := TemplateCalls) fun c s _ => ?_
  have hlawful := htr.lawful.append (covered_plain (c := c) (s := s) ho)
  exact ⟨hlawful, hlawful, htr.created.concat ho.1, htr.found.append _, fun h => (htr.unset h).append _⟩

/-- The template that was found is written. -/
theorem logs_setTemplate {isDefault : Option Bool} {t : StoredTemplate} {updates : Updates}
    (htr : Ready r isDefault t tr) (hr : r.target? = some t.id) (hactive : updates.isActive ≠ some true)
    (hdefault : updates.isDefault = some true → isDefault = some true) :
    LogsMarks r (fun _ _ => True) (setTemplate t.id updates) tr := by
  refine Logs.perform (S := TemplateCalls) (o := TemplateOp.update t.id updates) fun c s _ => ⟨?_, trivial⟩
  exact htr.lawful.append ⟨hr, htr.created, hactive, fun h => ⟨t, htr.found, rfl, htr.unset (hdefault h)⟩⟩

theorem logs_pruneReady {isDefault : Option Bool} {t : StoredTemplate} {templateId : JsString}
    (htr : Ready r isDefault t tr) :
    LogsMarks r (fun tr _ => Ready r isDefault t tr) (pruneVersions templateId) tr := by
  refine (logs_ready (o := .countVersions templateId) ⟨rfl, nofun⟩ htr).bind (fun tr versionCount htr => ?_)
    fun _ _ h => h
  split
  · refine (logs_ready (o := .oldestVersions ..) ⟨rfl, nofun⟩ htr).bind (fun tr oldest htr => ?_)
      fun _ _ h => h
    exact logs_ready (o := .deleteVersions _) ⟨rfl, nofun⟩ htr
  · exact htr

theorem logs_storeMarks {tier : Nat} {t : StoredTemplate} {body : UpdateBody}
    (htr : Ready r body.isDefault t tr) (hr : r.target? = some t.id) :
    LogsMarks r (fun _ _ => True) (storeUpdates v tier t body) tr := by
  unfold storeUpdates
  split
  · split
    · trivial
    · refine (logs_ready (o := .createVersion ..) ⟨rfl, nofun⟩ htr).bind (fun tr _ htr => ?_)
        fun _ _ _ => trivial
      refine (logs_pruneReady htr).bind (fun tr _ htr => ?_) fun _ _ _ => trivial
      exact logs_setTemplate htr hr nofun id
  · exact logs_setTemplate htr hr nofun id

/-- The template of a request is found before anything is written. -/
theorem logs_findMarks {id protocolId : JsString} {f : Option StoredTemplate → Templates Unit}
    (hnone : ∀ tr, LogsMarks r (fun _ _ => True) (f none) tr)
    (hsome : ∀ tr t, t.id = id → t.protocolId = protocolId → (∀ isDefault, isDefault ≠ some true →
      Ready r isDefault t tr) → LogsMarks r (fun _ _ => True) (f (some t)) tr) :
    LogsMarks r (fun _ _ => True) ((findTemplate id protocolId).bind f) [] := by
  refine Logs.bind (Q := fun tr reply => Async.Obeys (MarksCovered r) tr ∧ NotCreated tr ∧ ∀ t, reply = .ok (some t) →
      t.id = id ∧ t.protocolId = protocolId ∧ Found tr t)
    (Logs.perform (S := TemplateCalls) (o := TemplateOp.find id protocolId) fun c s _ => ?_)
    (fun tr found h => ?_) fun _ _ _ => trivial
  · have hlawful := (obeys_nil : Async.Obeys (MarksCovered r) []).append
      (covered_plain (c := c) (s := s) (o := .find id protocolId) ⟨rfl, nofun⟩)
    refine ⟨hlawful, hlawful, List.forall_mem_singleton.2 rfl, fun t ht => ?_⟩
    obtain ⟨-, hid, hprotocol⟩ := find_spec ht
    refine ⟨hid, hprotocol, _, List.mem_singleton.2 rfl, ?_⟩
    change found? (.find id protocolId) (Store.handle c s (.find id protocolId)).1 = some t
    rw [ht]
    rfl
  · obtain ⟨hlawful, hcreated, hfound⟩ := h
    cases found with
    | none => exact hnone tr
    | some t =>
      obtain ⟨hid, hprotocol, hfound⟩ := hfound t rfl
      exact hsome tr t hid hprotocol fun isDefault hno => ⟨hlawful, hcreated, hfound, fun h => absurd h hno⟩

/-- Whatever a request marks is of a category whose defaults it unset. -/
theorem logs_marks : LogsMarks r (fun _ _ => True) (r.code v) [] := by
  cases r with
  | create protocolId tier body =>
    refine Logs.bind (Q := fun _ _ => True) ?_ (fun _ _ _ => trivial) fun _ _ h => h
    unfold createEmailTemplate
    split
    · trivial
    · split
      · trivial
      · next html _ =>
        have hinsert : ∀ tr, Async.Obeys (MarksCovered (.create protocolId tier body)) tr → NotCreated tr →
            (body.isDefault = some true → Unset tr protocolId body.category) →
            LogsMarks (.create protocolId tier body) (fun _ _ => True) (insertTemplate {
              protocolId := protocolId
              name := body.name
              category := body.category
              subjectTemplate := body.subjectTemplate
              htmlSource := html
              textSource := body.textSource
              previewText := body.previewText
              isDefault := body.isDefault.getD false }) tr := by
          intro tr hlawful hcreated hunset
          refine Logs.perform (S := TemplateCalls) (o := TemplateOp.create _) fun c s _ => ⟨?_, trivial⟩
          refine hlawful.append ⟨rfl, hcreated, fun h => hunset ?_⟩
          cases hb : body.isDefault with
          | none => simp [hb] at h
          | some b => simpa [hb] using h
        refine Logs.bind (Q := fun tr reply => ∀ a, reply = .ok a →
            Async.Obeys (MarksCovered (.create protocolId tier body)) tr ∧ NotCreated tr ∧
              (body.isDefault = some true → Unset tr protocolId body.category))
          ?_ (fun tr a h => hinsert tr (h a rfl).1 (h a rfl).2.1 (h a rfl).2.2) fun _ _ _ => trivial
        unfold unsetOthers
        split
        · refine Logs.perform (S := TemplateCalls) (o := TemplateOp.unsetDefaults protocolId body.category)
            fun c s _ => ?_
          have hlawful := (obeys_nil : Async.Obeys (MarksCovered (.create protocolId tier body)) []).append
            (covered_plain (c := c) (s := s) (o := .unsetDefaults protocolId body.category) ⟨rfl, fun _ _ h => by cases h⟩)
          refine ⟨hlawful, fun a ha => ⟨hlawful, List.forall_mem_singleton.2 rfl, fun _ => ?_⟩⟩
          exact ⟨_, List.mem_singleton.2 rfl, rfl, by rw [Handler.event, ha]; rfl⟩
        · next hno =>
          rintro a -
          exact ⟨obeys_nil, fun _ he => absurd he List.not_mem_nil, fun h => absurd h hno⟩
  | update protocolId tier id body =>
    rw [Request.code, updateEmailTemplate]
    split
    · trivial
    · refine logs_findMarks (fun _ => trivial) fun tr t hid hprotocol hready => ?_
      refine Logs.bind (Q := fun tr reply => ∀ a, reply = .ok a → Ready (.update protocolId tier id body)
        body.isDefault t tr) ?_ (fun tr a h => logs_storeMarks (h a rfl) (congrArg some hid.symm))
        fun _ _ _ => trivial
      unfold unsetOthers
      split
      · have hfound := hready none fun h => by cases h
        refine Logs.perform (S := TemplateCalls) (o := TemplateOp.unsetDefaults protocolId (some t.category))
          fun c s _ => ?_
        have hlawful := hfound.lawful.append
          (covered_plain (c := c) (s := s) (o := .unsetDefaults protocolId (some t.category)) ⟨rfl, fun _ _ h => by cases h⟩)
        refine ⟨hlawful, fun a ha => ⟨hlawful, hfound.created.concat rfl, hfound.found.append _, fun _ => ?_⟩⟩
        refine ⟨_, List.mem_append_right _ (List.mem_singleton.2 rfl), ?_, by rw [Handler.event, ha]; rfl⟩
        rw [hprotocol]
        rfl
      · next hno =>
        rintro a -
        exact hready _ hno
  | delete protocolId id =>
    rw [Request.code, deleteEmailTemplate]
    refine logs_findMarks (fun _ => trivial) fun tr t hid _ hready => ?_
    subst hid
    exact logs_setTemplate (hready none fun h => by cases h) rfl (fun h => by cases h) fun h => by cases h

/-! ### What calls do to the templates -/

/-- What stays of a template: its id, its protocol and its category. -/
def key (t : StoredTemplate) : JsString × JsString × JsString := (t.id, t.protocolId, t.category)

theorem map_key_updateWhere {q : StoredTemplate → Bool} {f : StoredTemplate → StoredTemplate}
    (hf : ∀ t, key (f t) = key t) (ts : List StoredTemplate) :
    (updateWhere q f ts).map key = ts.map key := by
  rw [updateWhere, List.map_map]
  refine List.map_congr_left fun t _ => ?_
  rw [Function.comp_apply]
  split
  · exact hf t
  · rfl

/-- A call keeps the templates there are, and adds at most one, under the id that is drawn. -/
theorem keys_handle : (Store.handle c s o).2.templates.map key = s.templates.map key ∨
    ∃ k : JsString × JsString × JsString, k.1 = c.uuid ∧ (∀ t ∈ s.templates, t.id ≠ c.uuid) ∧
      (Store.handle c s o).2.templates.map key = s.templates.map key ++ [k] := by
  rcases handle_cases (c := c) (s := s) (o := o) with h | h
  · rw [h]
    exact .inl rfl
  · rw [h]
    cases o with
    | unsetDefaults protocolId category =>
      exact .inl (map_key_updateWhere (f := fun t => { t with isDefault := false }) (fun _ => rfl) s.templates)
    | update id updates =>
      simp only [Store.serve, Store.update]
      split
      · exact .inl (map_key_updateWhere (f := (·.updated updates)) (fun _ => rfl) s.templates)
      · exact .inl rfl
    | create values =>
      simp only [Store.serve, Store.create]
      split
      · split
        · exact .inl rfl
        · next hfree =>
          refine .inr ⟨_, rfl, fun t ht hid => hfree ?_, List.map_append⟩
          exact List.any_eq_true.2 ⟨t, ht, beq_iff_eq.2 hid⟩
      · exact .inl rfl
    | createVersion templateId version htmlSource subjectTemplate =>
      simp only [Store.serve, Store.createVersion]
      split
      · exact .inl rfl
      · exact .inl rfl
    | _ => exact .inl rfl

theorem ids_eq (ts : List StoredTemplate) : ts.map (·.id) = (ts.map key).map Prod.fst := by
  rw [List.map_map]
  rfl

theorem ids_handle (h : (s.templates.map (·.id)).Nodup) :
    ((Store.handle c s o).2.templates.map (·.id)).Nodup := by
  rcases keys_handle (c := c) (s := s) (o := o) with hk | ⟨k, hid, hfree, hk⟩
  · rw [ids_eq, hk, ← ids_eq]
    exact h
  · rw [ids_eq, hk, List.map_append, ← ids_eq]
    refine List.nodup_append.2 ⟨h, List.pairwise_singleton _ _, ?_⟩
    rintro id hmem _ hnew rfl
    obtain ⟨t, ht, rfl⟩ := List.mem_map.1 hmem
    rw [List.map_singleton, List.mem_singleton, hid] at hnew
    exact hfree t ht hnew

/-- A template is stored under what stays of it. -/
def Stored (s : Store) (t : StoredTemplate) : Prop := key t ∈ s.templates.map key

theorem stored_handle {t : StoredTemplate} (h : Stored s t) : Stored (Store.handle c s o).2 t := by
  unfold Stored
  rcases keys_handle (c := c) (s := s) (o := o) with hk | ⟨k, -, -, hk⟩
  · rw [hk]
    exact h
  · rw [hk]
    exact List.mem_append_left _ h

theorem serves_iff {t : StoredTemplate} : t.serves category = true ↔
    t.isActive = true ∧ t.isDefault = true ∧ t.protocolId = category.1 ∧ t.category = category.2 := by
  obtain ⟨protocolId, name⟩ := category
  simp [StoredTemplate.serves, and_assoc]

/-- A default template was one before a call, or is marked by it. -/
theorem serves_handle {t' : StoredTemplate} (ht' : t' ∈ (Store.handle c s o).2.templates)
    (hserves : t'.serves category = true) :
    (∃ t ∈ s.templates, t.id = t'.id ∧ t.serves category = true) ∨
    (∃ t ∈ s.templates, key t = key t' ∧ ∃ updates, o = .update t'.id updates ∧
      (updates.isDefault = some true ∨ updates.isActive = some true)) ∨
    ∃ values, o = .create values ∧ t'.id = c.uuid ∧ values.isDefault = true ∧
      values.protocolId = category.1 ∧ values.category = some category.2 := by
  obtain ⟨hactive, hdefault, hprotocol, hcategory⟩ := serves_iff.1 hserves
  rcases handle_cases (c := c) (s := s) (o := o) with h | h
  · rw [h] at ht'
    exact .inl ⟨t', ht', rfl, hserves⟩
  · rw [h] at ht'
    cases o with
    | unsetDefaults protocolId category' =>
      obtain ⟨t, ht, rfl⟩ := List.mem_map.1 ht'
      split at hserves
      · simp [StoredTemplate.serves] at hserves
      · next hno =>
        rw [if_neg hno]
        exact .inl ⟨t, ht, rfl, hserves⟩
    | update id updates =>
      simp only [Store.serve, Store.update] at ht'
      split at ht'
      · obtain ⟨t, ht, rfl⟩ := List.mem_map.1 ht'
        by_cases hid : (t.id == id) = true
        · rw [if_pos hid] at hactive hdefault hprotocol hcategory ⊢
          obtain rfl := beq_iff_eq.1 hid
          by_cases hmarks : updates.isDefault = some true ∨ updates.isActive = some true
          · exact .inr (.inl ⟨t, ht, rfl, updates, rfl, hmarks⟩)
          · -- neither flag was set by the update
            obtain ⟨hno, hno'⟩ := not_or.1 hmarks
            refine .inl ⟨t, ht, rfl, serves_iff.2 ⟨?_, ?_, hprotocol, hcategory⟩⟩
            · cases hflag : updates.isActive with
              | none => simpa [StoredTemplate.updated, hflag] using hactive
              | some b => simp_all [StoredTemplate.updated]
            · cases hflag : updates.isDefault with
              | none => simpa [StoredTemplate.updated, hflag] using hdefault
              | some b => simp_all [StoredTemplate.updated]
        · rw [if_neg hid] at hserves ⊢
          exact .inl ⟨t, ht, rfl, hserves⟩
      · exact .inl ⟨t', ht', rfl, hserves⟩
    | create values =>
      simp only [Store.serve, Store.create] at ht'
      split at ht'
      · next name category' hname hcategory' =>
        split at ht'
        · exact .inl ⟨t', ht', rfl, hserves⟩
        · rcases List.mem_append.1 ht' with hold | hnew
          · exact .inl ⟨t', hold, rfl, hserves⟩
          · obtain rfl := List.mem_singleton.1 hnew
            refine .inr (.inr ⟨values, rfl, rfl, hdefault, hprotocol, ?_⟩)
            rw [hcategory']
            exact congrArg some hcategory
      · exact .inl ⟨t', ht', rfl, hserves⟩
    | createVersion templateId version htmlSource subjectTemplate =>
      simp only [Store.serve, Store.createVersion] at ht'
      split at ht'
      · exact .inl ⟨t', ht', rfl, hserves⟩
      · exact .inl ⟨t', ht', rfl, hserves⟩
    | _ => exact .inl ⟨t', ht', rfl, hserves⟩

/-- After the defaults of a category were unset it has none. -/
theorem unset_handle (ho : TemplateOp.unset? o = some category)
    (hok : isError (Store.handle c s o).1 = false) :
    ∀ t ∈ (Store.handle c s o).2.templates, t.serves category = false := by
  cases o with
  | unsetDefaults protocolId category' =>
    cases category' with
    | none => cases ho
    | some name =>
      obtain rfl := Option.some.inj ho
      have hserve : Store.handle c s (.unsetDefaults protocolId (some name)) =
          s.serve c (.unsetDefaults protocolId (some name)) := by
        cases hr : (Store.handle c s (.unsetDefaults protocolId (some name))).1 with
        | ok a => exact Fault.meet_ok hr
        | error e =>
          rw [hr] at hok
          cases hok
      rw [hserve]
      intro t ht
      obtain ⟨u, hu, rfl⟩ := List.mem_map.1 ht
      split
      · simp [StoredTemplate.serves]
      · next hother =>
        refine Bool.eq_false_iff.2 fun hserves => hother ?_
        obtain ⟨-, -, hprotocol, hcategory⟩ := serves_iff.1 hserves
        simp [StoredTemplate.isOf, hprotocol, hcategory]
  | _ => cases ho

/-! ### The invariant -/

section invariant

variable {p p' : TemplatePool} {l : TemplateLabel}

/-- What every step keeps where defaults stay apart. -/
structure DefaultsInvariant (v : Validation) (p : TemplatePool) : Prop where
  traced : (controller v).Traced p
  ids : (p.store.templates.map (·.id)).Nodup
  found : ∀ th ∈ p.threads, ∀ t, Found th.trace t → Stored p.store t
  one : ∀ category, ∀ t ∈ p.store.templates, ∀ u ∈ p.store.templates,
    t.serves category = true → u.serves category = true → t.id = u.id
  armed : ∀ category, ∀ th ∈ p.threads, Armed th category →
    ∀ t ∈ p.store.templates, t.serves category = true → th.request.target? = some t.id
  apart : ∀ category (i j : Nat) th u, i ≠ j → p.threads[i]? = some th → p.threads[j]? = some u →
    Armed th category → Armed u category →
      th.request.target?.isSome = true ∧ th.request.target? = u.request.target?

/-- A review keeps the templates, and what they serve. -/
theorem keys_review {r : Review} : (r.apply s).templates.map key = s.templates.map key :=
  map_key_updateWhere (f := fun t => { t with status := r.status }) (fun _ => rfl) s.templates

theorem serves_review {r : Review} {t' : StoredTemplate} (ht' : t' ∈ (r.apply s).templates)
    (hserves : t'.serves category = true) : ∃ t ∈ s.templates, t.id = t'.id ∧ t.serves category = true := by
  obtain ⟨t, ht, rfl⟩ := List.mem_map.1 ht'
  by_cases hid : (t.id == r.id) = true
  · rw [if_pos hid] at hserves ⊢
    exact ⟨t, ht, rfl, hserves⟩
  · rw [if_neg hid] at hserves ⊢
    exact ⟨t, ht, rfl, hserves⟩

/-- The call that a request makes next is covered by what it did. -/
theorem marks_of_next {i : Nat} {th : TemplateThread} {k : Except Err o.Res → Templates Unit}
    (hp : (controller v).Traced p) (hth : p.threads[i]? = some th) (hprog : th.prog = .call o k)
    (c : TemplateChoice) (s : Store) : MarksCovered th.request th.trace (Store.handle.event c s o) := by
  have hlogs : LogsMarks th.request (fun _ _ => True) th.prog th.trace :=
    ((hp i th hth).logs logs_marks obeys_nil fun _ _ _ _ => trivial).2
  rw [hprog] at hlogs
  exact (hlogs c s trivial).1 th.trace _ [] rfl

/-- A template that serves a category after a step did so before, or was marked by a request that had unset
the defaults of the category. -/
theorem served_cases (hp : DefaultsInvariant v p) (h : (controller v).step p l = some p')
    {t' : StoredTemplate} (ht' : t' ∈ p'.store.templates) (hserves : t'.serves category = true) :
    (∃ t ∈ p.store.templates, t.id = t'.id ∧ t.serves category = true) ∨
    ∃ i c th o k, l = .pick i c ∧ p.threads[i]? = some th ∧ th.prog = .call o k ∧ Armed th category ∧
      (th.request.target? = some t'.id ∨
        th.request.target? = none ∧ TemplateOp.creates o = true ∧ t'.id = c.2.uuid) := by
  rcases System.store_cases h with hs | ⟨i, c, th, o, k, hl, hth, hprog, hs⟩ | ⟨r, -, hs⟩
  · rw [hs] at ht'
    exact .inl ⟨t', ht', rfl, hserves⟩
  · rw [hs] at ht'
    have hmarks := marks_of_next hp.traced hth hprog c.2 p.store
    have hrunning : th.prog.running = true := by
      rw [hprog]
      rfl
    rcases serves_handle ht' hserves with hold | ⟨t, ht, hkey, updates, rfl, hflag⟩ |
      ⟨values, rfl, hid, hdefault, hprotocol, hcategory⟩
    · exact .inl hold
    · obtain ⟨htarget, hcreated, hactive, hunset⟩ := hmarks
      obtain ⟨t₀, hfound, hid₀, e, he, hop, hok⟩ := hunset (hflag.resolve_right hactive)
      -- the template that was found is the one that is marked
      have hkey₀ : key t₀ = key t' := by
        obtain ⟨t₁, ht₁, hkey₁⟩ := List.mem_map.1 (hp.found th (List.mem_of_getElem? hth) t₀ hfound)
        have hid₁ : t₁.id = t.id := (congrArg Prod.fst hkey₁).trans (hid₀.trans (congrArg Prod.fst hkey).symm)
        obtain rfl := List.inj_on_of_nodup_map hp.ids ht₁ ht hid₁
        exact hkey₁.symm.trans hkey
      obtain ⟨-, -, hprotocol, hcategory⟩ := serves_iff.1 hserves
      refine .inr ⟨i, c, th, _, k, hl, hth, hprog, ⟨hrunning, hcreated, e, he, ?_, hok⟩, .inl htarget⟩
      rw [hop, TemplateOp.unset?]
      simp only [key, Prod.mk.injEq] at hkey₀
      rw [hkey₀.2.1, hkey₀.2.2, hprotocol, hcategory]
    · obtain ⟨htarget, hcreated, hunset⟩ := hmarks
      obtain ⟨e, he, hop, hok⟩ := hunset hdefault
      refine .inr ⟨i, c, th, _, k, hl, hth, hprog, ⟨hrunning, hcreated, e, he, ?_, hok⟩, .inr ⟨htarget, rfl, hid⟩⟩
      rw [hop, hprotocol, hcategory]
      rfl
  · have hreview : p'.store = r.apply p.store := (Option.some.inj hs).symm
    rw [hreview] at ht'
    exact .inl (serves_review ht' hserves)

/-- A request that has unset the defaults of a category had done so before a step, or does it in the step. -/
theorem armed_cases {i : Nat} {th' : TemplateThread} (h : (controller v).step p l = some p')
    (hth' : p'.threads[i]? = some th') (harmed : Armed th' category) :
    ∃ th, p.threads[i]? = some th ∧ th.request = th'.request ∧
      ((Armed th category ∧ ∀ c o k, l = .pick i c → th.prog = .call o k → TemplateOp.creates o = false) ∨
        ∃ c o k, l = .pick i c ∧ th.prog = .call o k ∧ TemplateOp.unset? o = some category ∧
          isError (Store.handle c.2 p.store o).1 = false ∧ p'.store = (Store.handle c.2 p.store o).2) := by
  obtain ⟨hrunning, hcreated, e, he, hunset, hok⟩ := harmed
  rcases System.thread_cases h hth' with hth | ⟨r, -, -, -, rfl⟩ | ⟨th, c, k, hl, hth, hprog, -, rfl⟩ |
    ⟨th, c, o, k, hl, hth, hprog, hs, rfl⟩
  · refine ⟨th', hth, rfl, .inl ⟨⟨hrunning, hcreated, e, he, hunset, hok⟩, fun c o k hl hprog => ?_⟩⟩
    -- the request was picked, so its call is the last one of its history
    subst hl
    obtain ⟨th, hth₁, hcase⟩ := System.step_pick h
    obtain rfl := Option.some.inj (hth.symm.trans hth₁)
    have hi := (List.getElem?_eq_some_iff.1 hth).1
    rcases hcase with ⟨k', hprog', -⟩ | ⟨o', k', hprog', rfl⟩
    · rw [hprog] at hprog'
      cases hprog'
    · rw [List.getElem?_set_self hi] at hth'
      have htrace := congrArg (fun t : TemplateThread => t.trace.length) (Option.some.inj hth')
      simp at htrace
  · exact absurd he List.not_mem_nil
  · have hrun : th.prog.running = true := by
      rw [hprog]
      rfl
    refine ⟨th, hth, rfl, .inl ⟨⟨hrun, hcreated, e, he, hunset, hok⟩, fun c' o k' _ hcall => ?_⟩⟩
    rw [hprog] at hcall
    cases hcall
  · have hrun : th.prog.running = true := by
      rw [hprog]
      rfl
    obtain ⟨hold, hlast⟩ := List.forall_mem_append.1 hcreated
    refine ⟨th, hth, rfl, ?_⟩
    rcases List.mem_append.1 he with he | he
    · refine .inl ⟨⟨hrun, hold, e, he, hunset, hok⟩, fun c' o' k' _ hcall => ?_⟩
      rw [hprog] at hcall
      cases hcall
      exact hlast _ (List.mem_singleton.2 rfl)
    · obtain rfl := List.mem_singleton.1 he
      exact .inr ⟨c, o, k, hl, hprog, hunset, hok, hs⟩

/-! ### The steps of the invariant -/

theorem ids_step (hp : DefaultsInvariant v p) (h : (controller v).step p l = some p') :
    (p'.store.templates.map (·.id)).Nodup := by
  rcases System.store_cases h with hs | ⟨_, c, _, o, _, -, -, -, hs⟩ | ⟨r, -, hs⟩
  · rw [hs]
    exact hp.ids
  · rw [hs]
    exact ids_handle hp.ids
  · have hreview : p'.store = r.apply p.store := (Option.some.inj hs).symm
    rw [hreview, ids_eq, keys_review, ← ids_eq]
    exact hp.ids

theorem stored_step (h : (controller v).step p l = some p') {t : StoredTemplate} (ht : Stored p.store t) :
    Stored p'.store t := by
  refine System.store_rel (R := fun s s' => Stored s t → Stored s' t) h (fun _ => id)
    (fun _ _ _ => stored_handle) (fun r s s' hs hstored => ?_) ht
  obtain rfl := Option.some.inj hs
  unfold Stored
  rw [keys_review]
  exact hstored

theorem found_step (hp : DefaultsInvariant v p) (h : (controller v).step p l = some p') :
    ∀ th ∈ p'.threads, ∀ t, Found th.trace t → Stored p'.store t := by
  intro th' hth' t hfound
  obtain ⟨i, hi⟩ := List.mem_iff_getElem?.1 hth'
  rcases System.thread_cases h hi with hth | ⟨r, -, -, -, rfl⟩ | ⟨th, _, _, -, hth, -, -, rfl⟩ |
    ⟨th, c, o, k, -, hth, -, -, rfl⟩
  · exact stored_step h (hp.found th' (List.mem_of_getElem? hth) t hfound)
  · obtain ⟨e, he, -⟩ := hfound
    exact absurd he List.not_mem_nil
  · exact stored_step h (hp.found th (List.mem_of_getElem? hth) t hfound)
  · obtain ⟨e, he, hfind⟩ := hfound
    rcases List.mem_append.1 he with he | he
    · exact stored_step h (hp.found th (List.mem_of_getElem? hth) t ⟨e, he, hfind⟩)
    · obtain rfl := List.mem_singleton.1 he
      exact stored_step h (List.mem_map_of_mem (stored_of_found hfind))

theorem one_step (hp : DefaultsInvariant v p) (h : (controller v).step p l = some p') :
    ∀ category, ∀ t ∈ p'.store.templates, ∀ u ∈ p'.store.templates,
      t.serves category = true → u.serves category = true → t.id = u.id := by
  intro category t ht u hu htserves huserves
  rcases served_cases hp h ht htserves with ⟨t₀, ht₀, htid, ht₀serves⟩ |
      ⟨i, c, th, o, k, rfl, hth, hprog, harmed, hmark⟩ <;>
    rcases served_cases hp h hu huserves with ⟨u₀, hu₀, huid, hu₀serves⟩ |
      ⟨j, d, th', o', k', hl, hth', hprog', harmed', hmark'⟩
  · rw [← htid, ← huid]
    exact hp.one category t₀ ht₀ u₀ hu₀ ht₀serves hu₀serves
  · have htarget := hp.armed category th' (List.mem_of_getElem? hth') harmed' t₀ ht₀ ht₀serves
    rcases hmark' with hid | ⟨hnone, -⟩
    · rw [← htid]
      exact Option.some.inj (htarget.symm.trans hid)
    · cases htarget.symm.trans hnone
  · have htarget := hp.armed category th (List.mem_of_getElem? hth) harmed u₀ hu₀ hu₀serves
    rcases hmark with hid | ⟨hnone, -⟩
    · rw [← huid]
      exact Option.some.inj (hid.symm.trans htarget)
    · cases htarget.symm.trans hnone
  · -- one request marked both
    cases hl
    obtain rfl := Option.some.inj (hth.symm.trans hth')
    rcases hmark with hid | ⟨hnone, -, hid⟩ <;> rcases hmark' with hid' | ⟨hnone', -, hid'⟩
    · exact Option.some.inj (hid.symm.trans hid')
    · cases hid.symm.trans hnone'
    · cases hnone.symm.trans hid'
    · rw [hid, hid']

theorem armed_step (hp : DefaultsInvariant v p) (h : (controller v).step p l = some p') :
    ∀ category, ∀ th ∈ p'.threads, Armed th category →
      ∀ t ∈ p'.store.templates, t.serves category = true → th.request.target? = some t.id := by
  intro category th' hth' harmed' t ht hserves
  obtain ⟨j, hj⟩ := List.mem_iff_getElem?.1 hth'
  obtain ⟨th, hth, hrequest, ⟨harmed, hcreates⟩ | ⟨c, o, k, hl, hprog, hunset, hok, hs⟩⟩ :=
    armed_cases h hj harmed'
  · rw [← hrequest]
    rcases served_cases hp h ht hserves with ⟨t₀, ht₀, hid, ht₀serves⟩ |
      ⟨i, c, th₁, o, k, hl, hth₁, hprog, harmed₁, hmark⟩
    · rw [← hid]
      exact hp.armed category th (List.mem_of_getElem? hth) harmed t₀ ht₀ ht₀serves
    · by_cases hij : j = i
      · subst hij
        obtain rfl := Option.some.inj (hth.symm.trans hth₁)
        rcases hmark with hid | ⟨-, hcreate, -⟩
        · exact hid
        · rw [hcreates c o k hl hprog] at hcreate
          cases hcreate
      · obtain ⟨hsome, hsame⟩ := hp.apart category j i th th₁ hij hth hth₁ harmed harmed₁
        rcases hmark with hid | ⟨hnone, -⟩
        · rw [hsame, hid]
        · rw [hsame, hnone] at hsome
          cases hsome
  · -- the defaults were unset just now
    rw [hs] at ht
    rw [unset_handle hunset hok t ht] at hserves
    cases hserves

theorem apart_step (hok : DefaultsApart v p l) (hp : DefaultsInvariant v p)
    (h : (controller v).step p l = some p') :
    ∀ category (i j : Nat) th u, i ≠ j → p'.threads[i]? = some th → p'.threads[j]? = some u →
      Armed th category → Armed u category →
        th.request.target?.isSome = true ∧ th.request.target? = u.request.target? := by
  intro category i j th' u' hij hth' hu' harmed' harmedu'
  obtain ⟨th, hth, hrequest, ⟨harmed, -⟩ | ⟨c, o, k, hl, hprog, hunset, -⟩⟩ := armed_cases h hth' harmed' <;>
    obtain ⟨u, hu, hrequestu, ⟨harmedu, -⟩ | ⟨d, o', k', hl', hprog', hunset', -⟩⟩ :=
      armed_cases h hu' harmedu'
  · rw [← hrequest, ← hrequestu]
    exact hp.apart category i j th u hij hth hu harmed harmedu
  · subst hl'
    rw [← hrequest, ← hrequestu]
    exact (hok u hu o' (by rw [hprog']; rfl)).2 category hunset' th (List.mem_of_getElem? hth) harmed
  · subst hl
    rw [← hrequest, ← hrequestu]
    obtain ⟨hsome, hsame⟩ :=
      (hok th hth o (by rw [hprog]; rfl)).2 category hunset u (List.mem_of_getElem? hu) harmedu
    rw [← hsame]
    exact ⟨hsome, rfl⟩
  · cases hl.symm.trans hl'
    exact absurd rfl hij

theorem defaultsInvariant_step (hok : DefaultsApart v p l) (hp : DefaultsInvariant v p)
    (h : (controller v).step p l = some p') : DefaultsInvariant v p' where
  traced := hp.traced.step h
  ids := ids_step hp h
  found := found_step hp h
  one := one_step hp h
  armed := armed_step hp h
  apart := apart_step hok hp h

/-- Where there is at most one default for a category, those that serve it have the same id. -/
theorem id_of_oneDefault (hone : OneDefault s) : ∀ category, ∀ t ∈ s.templates, ∀ u ∈ s.templates,
    t.serves category = true → u.serves category = true → t.id = u.id := by
  rintro ⟨protocolId, name⟩ t ht u hu htserves huserves
  have hpair := List.pairwise_iff_getElem.1 hone
  obtain ⟨i, hi, rfl⟩ := List.mem_iff_getElem.1 ht
  obtain ⟨j, hj, rfl⟩ := List.mem_iff_getElem.1 hu
  have htflags := serves_iff.1 htserves
  have huflags := serves_iff.1 huserves
  rcases Nat.lt_trichotomy i j with hij | rfl | hij
  · refine absurd ⟨?_, huflags.1, huflags.2.1⟩ (hpair i j hi hj hij)
    rwa [huflags.2.2.1, huflags.2.2.2]
  · rfl
  · refine absurd ⟨?_, htflags.1, htflags.2.1⟩ (hpair j i hj hi hij)
    rwa [htflags.2.2.1, htflags.2.2.2]

theorem DefaultsInvariant.oneDefault (hp : DefaultsInvariant v p) : OneDefault p.store := by
  refine (List.pairwise_map.1 hp.ids).imp_of_mem fun {t u} ht hu hne hboth => hne ?_
  exact hp.one _ t ht u hu hboth.1 (serves_iff.2 ⟨hboth.2.1, hboth.2.2, rfl, rfl⟩)

/-- Where requests stay apart that unset the defaults of a category, and fail before they have taken one,
there is at most one default template for a category, and no failure leaves a category without one. -/
theorem defaults_kept {ls : List TemplateLabel} (hids : (s.templates.map (·.id)).Nodup) (hone : OneDefault s)
    (hok : (controller v).Keeps (DefaultsApart v) (Pool.empty s) ls)
    (hr : (controller v).run (Pool.empty s) ls = some p) : DefaultsKept p := by
  have hempty : DefaultsInvariant v (Pool.empty s) := {
    traced := System.traced_empty s
    ids := hids
    found := fun th hth => absurd hth List.not_mem_nil
    one := id_of_oneDefault hone
    armed := fun _ th hth => absurd hth List.not_mem_nil
    apart := fun _ i _ th _ _ hth => nomatch hth }
  have hinv : DefaultsInvariant v p ∧
      System.Histories (fun r tr e => FailsWithout v KeepsDefaults r tr e) p := by
    refine System.Keeps.induction (I := fun p => DefaultsInvariant v p ∧ System.Histories _ p)
      (fun p l p' hok hp h => ⟨defaultsInvariant_step hok hp.1 h, ?_⟩) hok hr ⟨hempty, System.histories_empty s⟩
    refine hp.2.step h fun i c t o k hl ht hprog => ?_
    subst hl
    exact (hok t ht o (by rw [hprog]; rfl)).1
  refine ⟨hinv.1.oneDefault, fun t ht hfail e he => ?_⟩
  have hreads : ∀ c s o, TemplateOp.reads o = true → KeepsDefaults (Store.handle.event c s o) := by
    intro c s o ho t _ hdefault
    change (Store.handle c s o).2.hasDefault _ = true
    rw [handle_reads ho]
    exact hdefault
  exact harmless_of_failed hreads hinv.1.traced ht (hinv.2 t ht) hfail e he

end invariant

/-! ### Runs that keep and break it -/

/-- A request for a default template. -/
def createDefault : Request := .create (js "p") 1 {
  name := some (js "Weekly")
  category := some (js "defi")
  htmlSource := some (js "<p>New</p>")
  isDefault := some true }

/-- One default template follows another. -/
def oneAfterOther : List TemplateLabel :=
  .arrive createDefault :: answered 0 ["", "a"] ++ .arrive createDefault :: answered 1 ["", "b"]

theorem defaults_kept_oneAfterOther :
    ∃ p ∈ (controller plainSources).run (Pool.empty {}) oneAfterOther,
      DefaultsKept p ∧ p.store.templates.map (·.isDefault) = [false, true] := by
  obtain ⟨p, hp, hflags⟩ : ∃ p ∈ (controller plainSources).run (Pool.empty {}) oneAfterOther,
      p.store.templates.map (·.isDefault) = [false, true] := by decide +kernel
  exact ⟨p, hp, defaults_kept (by decide) (by decide) (by decide +kernel) hp, hflags⟩

/-- Two requests unset the defaults before either of them stores its template. -/
def bothUnsetFirst : List TemplateLabel :=
  .arrive createDefault :: .arrive createDefault :: answered 0 [""] ++ answered 1 [""] ++ answered 0 ["a"] ++
    answered 1 ["b"]

theorem two_defaults_stored :
    ∃ p ∈ (controller plainSources).run (Pool.empty {}) bothUnsetFirst,
      ¬ OneDefault p.store ∧ ¬ DefaultsKept p ∧ ∀ t ∈ p.threads, ¬ Failed t := by
  decide +kernel

end HeraldGateway.TemplateController
