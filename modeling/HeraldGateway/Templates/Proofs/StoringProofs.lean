import HeraldGateway.Async.History
import HeraldGateway.Templates.Storing

/-!
# Requests that fail early

A request fails where one of its statements fails, or where its HTML is not valid. What it did before is
harmless if each failing statement finds it so, and if it unsets no defaults before HTML that is not valid.
-/

namespace HeraldGateway.TemplateController

open Async

variable {v : Validation} {F : TemplateEvent → Prop} {r : Request} {tr : List TemplateEvent}
  {c : TemplateChoice}
  {s : Store} {o : TemplateOp}

/-! ### Statements -/

/-- A call that only reads. -/
def TemplateOp.reads : TemplateOp → Bool
  | find .. | countVersions _ | oldestVersions .. => true
  | _ => false

/-- A call leaves the tables alone, or takes effect as if it was answered. -/
theorem handle_cases : (Store.handle c s o).2 = s ∨ (Store.handle c s o).2 = (s.serve c o).2 :=
  Fault.meet_cases.imp id And.right

theorem handle_reads (h : o.reads = true) : (Store.handle c s o).2 = s := by
  rcases handle_cases (c := c) (s := s) (o := o) with hs | hs
  · exact hs
  · rw [hs]
    cases o with
    | find | countVersions | oldestVersions => rfl
    | _ => cases h

/-! ### Requests -/

/-- When a request has failed, all that it did is harmless. -/
def HarmlessFailure (F : TemplateEvent → Prop) {α : Type} (tr : List TemplateEvent) : Except Err α → Prop
  | .ok _ => True
  | .error _ => ∀ e ∈ tr, F e

/-- A request's own way of following its history. -/
abbrev LogsHarmless {α : Type} (v : Validation) (F : TemplateEvent → Prop) (r : Request) (p : Templates α)
    (tr : List TemplateEvent) : Prop :=
  Logs Store.handle (FailsWithout v F r) (fun _ => True) (HarmlessFailure F) p tr

/-- A statement of which the law says that its failure is harmless. -/
theorem logs_call : Logs Store.handle (FailsWithout v F r) (fun _ => True) (fun tr' reply =>
    HarmlessFailure F tr' reply ∧ ∃ c s, FailsWithout v F r tr (Store.handle.event c s o) ∧
      tr' = tr ++ [Store.handle.event c s o]) o.call tr := by
  refine Logs.perform (S := TemplateCalls) (o := o) fun c s hl => ⟨trivial, ?_, c, s, hl, rfl⟩
  cases hr : (Store.handle c s o).1 with
  | ok a => trivial
  | error e =>
    obtain ⟨htr, he⟩ := hl.1 (by rw [Handler.event, hr]; rfl)
    exact List.forall_mem_append.2 ⟨htr, List.forall_mem_singleton.2 he⟩

theorem logs_call_bind {α : Type} {o : TemplateOp} {f : o.Res → Templates α}
    (hf : ∀ tr a, LogsHarmless v F r (f a) tr) :
    LogsHarmless v F r (o.call.bind f) tr :=
  logs_call.bind (fun tr a _ => hf tr a) fun _ _ h => h.1

theorem logs_last {o : TemplateOp} : LogsHarmless v F r o.call tr := logs_call.mono fun _ _ h => h.1

section requests

variable (hreads : ∀ c s o, TemplateOp.reads o = true → F (Store.handle.event c s o))

include hreads

omit hreads in
/-- What is known before a template is stored: nothing but harmless things happened, or the HTML is valid. -/
theorem logs_unsetOthers {α : Type} {isDefault : Option Bool} {protocolId : JsString}
    {category : Option JsString} {f : Unit → Templates α} (htr : ∀ e ∈ tr, F e)
    (hf : ∀ tr, (∀ e ∈ tr, F e) ∨ r.validHtml v = true → LogsHarmless v F r (f ()) tr) :
    LogsHarmless v F r ((unsetOthers isDefault protocolId category).bind f) tr := by
  unfold unsetOthers
  split
  · refine (logs_call (o := .unsetDefaults protocolId category)).bind (fun tr' a h => ?_) fun _ _ h => h.1
    obtain ⟨-, c, s, hl, rfl⟩ := h
    refine hf _ ?_
    rcases hl.2 rfl with hvalid | hharmless
    · exact .inr hvalid
    · exact .inl (List.forall_mem_append.2 ⟨htr, List.forall_mem_singleton.2 hharmless⟩)
  · exact hf tr (.inl htr)

theorem logs_find {α : Type} {id protocolId : JsString} {f : Option StoredTemplate → Templates α}
    (htr : ∀ e ∈ tr, F e) (hf : ∀ tr found, (∀ e ∈ tr, F e) → LogsHarmless v F r (f found) tr) :
    LogsHarmless v F r ((findTemplate id protocolId).bind f) tr := by
  refine (logs_call (o := .find id protocolId)).bind (fun tr' found h => ?_) fun _ _ h => h.1
  obtain ⟨-, c, s, -, rfl⟩ := h
  exact hf _ found (List.forall_mem_append.2 ⟨htr, List.forall_mem_singleton.2 (hreads c s _ rfl)⟩)

omit hreads in
theorem logs_pruneVersions {α : Type} {templateId : JsString} {f : Unit → Templates α}
    (hf : ∀ tr, LogsHarmless v F r (f ()) tr) :
    LogsHarmless v F r ((pruneVersions templateId).bind f) tr := by
  have hprune : LogsHarmless v F r (pruneVersions templateId) tr := by
    refine logs_call_bind (o := .countVersions templateId) fun tr versionCount => ?_
    split
    · exact logs_call_bind (o := .oldestVersions ..) fun _ _ => logs_last (o := .deleteVersions _)
    · trivial
  exact hprune.bind (fun tr _ _ => hf tr) fun _ _ h => h

omit hreads in
theorem logs_storeUpdates {protocolId id : JsString} {tier : Nat} {existing : StoredTemplate}
    {body : UpdateBody} (hr : r = .update protocolId tier id body)
    (htr : (∀ e ∈ tr, F e) ∨ r.validHtml v = true) :
    LogsHarmless v F r (storeUpdates v tier existing body) tr := by
  unfold storeUpdates
  split
  · next hhtml =>
    cases hvalid : validateCustomTemplate v (body.htmlSource.getD []) tier with
    | error message =>
      refine htr.resolve_right fun h => ?_
      rw [hr, Request.validHtml, hhtml, hvalid] at h
      cases h
    | ok html =>
      exact logs_call_bind (o := .createVersion ..) fun _ _ =>
        logs_pruneVersions fun _ => logs_last (o := .update ..)
  · exact logs_last (o := .update ..)

/-- All that a request did which failed is harmless. -/
theorem logs_code : LogsHarmless v F r (r.code v) [] := by
  have hnil : ∀ e ∈ ([] : List TemplateEvent), F e := fun _ he => absurd he List.not_mem_nil
  cases r with
  | create protocolId tier body =>
    refine Logs.bind (Q := HarmlessFailure F) ?_ (fun _ _ _ => trivial) fun _ _ h => h
    unfold createEmailTemplate
    split
    · exact hnil
    · split
      · exact hnil
      · exact logs_unsetOthers hnil fun _ _ => logs_last (o := .create _)
  | update protocolId tier id body =>
    rw [Request.code, updateEmailTemplate]
    split
    · exact hnil
    · refine logs_find hreads hnil fun tr found htr => ?_
      cases found with
      | none => exact htr
      | some existing =>
        exact logs_unsetOthers htr fun tr htr => logs_storeUpdates rfl htr
  | delete protocolId id =>
    refine logs_find hreads hnil fun tr found htr => ?_
    cases found with
    | none => exact htr
    | some existing => exact logs_last (o := .update ..)

end requests

/-- What a failed request of a pool did is harmless. -/
theorem harmless_of_failed {p : TemplatePool} (hreads : ∀ c s o, TemplateOp.reads o = true →
      F (Store.handle.event c s o)) (hp : (controller v).Traced p) {t : TemplateThread} (ht : t ∈ p.threads)
    (hl : Async.Obeys (FailsWithout v F t.request) t.trace) (hfail : Failed t) : ∀ e ∈ t.trace, F e := by
  obtain ⟨i, hr⟩ := hp.of_mem ht
  have hq := (hr.logs (logs_code hreads) trivial hl).2
  unfold Failed at hfail
  cases hprog : t.prog with
  | throw e =>
    rw [hprog] at hq
    exact hq
  | ret a => rw [hprog] at hfail; cases hfail
  | choose k => rw [hprog] at hfail; cases hfail
  | call o k => rw [hprog] at hfail; cases hfail

/-! ### Updates -/

section updates

variable {p : TemplatePool} {ls : List TemplateLabel}

/-- Where the statements of updates fail before they have changed anything, updates are atomic. -/
theorem updates_atomic (hok : (controller v).Keeps (FailsEarly v) (Pool.empty s) ls)
    (hr : (controller v).run (Pool.empty s) ls = some p) : UpdatesAtomic p := by
  have hlaw : System.Histories (fun r tr e => r.isUpdate = true → FailsWithout v Unchanging r tr e) p := by
    refine System.Keeps.induction (I := System.Histories _) (fun p l p' hok hp h => ?_) hok hr
      (System.histories_empty s)
    refine hp.step h fun i c t o k hl ht hprog => ?_
    subst hl
    have hsteps := hok t ht
    exact fun hupdate => hsteps hupdate o (by rw [hprog]; rfl)
  intro t ht hupdate hfail e he
  have hobeys : Async.Obeys (FailsWithout v Unchanging t.request) t.trace :=
    fun pre e post heq => hlaw t ht pre e post heq hupdate
  have hsame : e.after = e.before :=
    harmless_of_failed (fun c s o h => handle_reads h) (System.traced_of_run hr) ht hobeys hfail e he
  refine ⟨hsame, fun u _ hstuck => ?_⟩
  rwa [hsame] at hstuck

end updates

/-! ### What a version row that stays does -/

/-- An error of the first part of a program is one of the whole. -/
theorem isError_bind {α β : Type} {p : Templates α} {f : α → Templates β}
    (h : isError (Store.handle.exec c p s).1 = true) :
    isError (Store.handle.exec c (p.bind f) s).1 = true := by
  rw [Prog.bind, exec_andThen]
  cases hr : (Store.handle.exec c p s).1 with
  | ok a =>
    rw [hr] at h
    cases h
  | error e => rfl

theorem exec_unsetOthers (isDefault : Option Bool) (protocolId : JsString) (category : Option JsString)
    (hc : c.fault = .none) :
    ∃ s', Store.handle.exec c (unsetOthers isDefault protocolId category) s = (.ok (), s') ∧
      s'.versions = s.versions := by
  unfold unsetOthers
  split
  · refine ⟨s.unsetDefaults protocolId category, ?_, rfl⟩
    exact (exec_perform (S := TemplateCalls) _).trans (by rw [Store.handle, hc]; rfl)
  · exact ⟨s, rfl, rfl⟩

/-- Where a template is stuck, an update of its HTML fails, though no call is refused. -/
theorem update_of_stuck {protocolId id : JsString} {tier : Nat} {body : UpdateBody} {t : StoredTemplate}
    (hc : c.fault = .none)
    (hfound : s.templates.find? (fun t => t.id == id && t.protocolId == protocolId && t.isActive) = some t)
    (hstuck : ∃ w ∈ s.versions, w.templateId = t.id ∧ w.version = t.version + 1)
    (hhtml : truthy body.htmlSource = true) :
    isError (Store.handle.exec c (updateEmailTemplate v protocolId tier id body) s).1 = true := by
  unfold updateEmailTemplate
  split
  · rfl
  · have hfind : Store.handle.exec c (findTemplate id protocolId) s = (.ok (some t), s) := by
      refine (exec_perform (S := TemplateCalls) _).trans ?_
      rw [Store.handle, hc, ← hfound]
      rfl
    rw [Prog.bind_eq_bind, exec_bind hfind]
    obtain ⟨s', hunset, hversions⟩ := exec_unsetOthers (s := s) body.isDefault protocolId
      (some t.category) hc
    simp only [Prog.bind_eq_bind]
    rw [exec_bind hunset]
    unfold storeUpdates
    rw [if_pos hhtml]
    split
    · rfl
    · next html _ =>
      refine isError_bind ?_
      obtain ⟨w, hw, htemplate, hversion⟩ := hstuck
      have hclash : ∀ row : TemplateVersion, row.templateId = t.id → row.version = t.version + 1 →
          (s'.versions.any fun w => w.id == row.id || w.templateId == row.templateId && w.version == row.version)
            = true := by
        intro row hid hnumber
        refine List.any_eq_true.2 ⟨w, hversions ▸ hw, ?_⟩
        simp [htemplate, hversion, hid, hnumber]
      have hexec : Store.handle.exec c (insertVersion t.id (t.version + 1) html
          (body.subjectTemplate.join.or t.subjectTemplate)) s' = (.error .uniqueViolation, s') := by
        refine (exec_perform (S := TemplateCalls) _).trans ?_
        rw [Store.handle, hc]
        exact if_pos (hclash ⟨c.uuid, t.id, t.version + 1, html, body.subjectTemplate.join.or t.subjectTemplate⟩ rfl rfl)
      rw [hexec]
      rfl

/-! ### Runs that keep and break it -/

/-- Sources that compile and are clean. -/
def plainSources : Validation := ⟨fun _ => none, fun source => source⟩

/-- A template of a protocol. -/
def weekly : StoredTemplate where
  id := js "t"
  protocolId := js "p"
  category := js "defi"
  htmlSource := some (js "<p>Old</p>")
  name := js "Weekly"

/-- An update of its HTML. -/
def editHtml : Request := .update (js "p") 1 (js "t") { htmlSource := some (js "<p>New</p>") }

/-- The next calls of the `i`-th request are answered, with some UUIDs. -/
def answered (i : Nat) (uuids : List String) : List TemplateLabel :=
  uuids.map fun uuid => .pick i (true, { uuid := js uuid })

/-- A call of the `i`-th request is refused. -/
def refused (i : Nat) : TemplateLabel :=
  .pick i (true, { fault := .refused ⟨js "timeout", none, none, none⟩ })

/-- The version of an update is refused, and the next update succeeds. -/
def refusedEarly : List TemplateLabel :=
  .arrive editHtml :: answered 0 [""] ++ refused 0 :: .arrive editHtml :: answered 1 ["", "v", "", ""]

theorem updates_atomic_refusedEarly :
    ∃ p ∈ (controller plainSources).run (Pool.empty { templates := [weekly] }) refusedEarly,
      UpdatesAtomic p ∧ p.store.templates.map (·.version) = [2] := by
  obtain ⟨p, hp, hversion⟩ :
      ∃ p ∈ (controller plainSources).run (Pool.empty { templates := [weekly] }) refusedEarly,
        p.store.templates.map (·.version) = [2] := by decide +kernel
  exact ⟨p, hp, updates_atomic (by decide +kernel) hp, hversion⟩

/-- The last statement of an update is refused, after its version was stored. -/
def refusedLate : List TemplateLabel :=
  .arrive editHtml :: answered 0 ["", "v", ""] ++ refused 0 :: .arrive editHtml :: answered 1 ["", "w"]

/-- The version stays, and the next update fails on it though no call is refused. -/
theorem update_left_version :
    ∃ p ∈ (controller plainSources).run (Pool.empty { templates := [weekly] }) refusedLate,
      ¬ UpdatesAtomic p ∧ p.store.Stuck (js "t") ∧ ∀ t ∈ p.threads, Failed t := by
  decide +kernel

end HeraldGateway.TemplateController
