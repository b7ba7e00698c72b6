import HeraldGateway.Billing.Events
import HeraldGateway.Billing.Proofs.PeriodsProofs

/-!
# Events are enqueued if handlers go on

An event is stored once, so a handler that stored it and failed leaves it to nobody: every later delivery
meets the unique identifier. Where handlers go on, whoever stored an event enqueues it.
-/

namespace HeraldGateway

open Async

variable {env : BillingEnv} {s s' : BillingStore} {f : Fault} {o : BillingOp} {id : JsString}
  {tr : List BillingEvent} {e : BillingEvent}

/-! ### Storing an event -/

theorem storedEvent_eq {row : Nat → HelioWebhookEvent} {x : Except Err HelioWebhookEvent}
    {r : HelioWebhookEvent} (h : r ∈ storedEvent (.createEvent row) x) : x = .ok r := by
  cases x with
  | ok r' => exact congrArg Except.ok (Option.some.inj h)
  | error err => cases h

/-- An event that is stored is a new row at the end. -/
theorem create_ok {row : Nat → HelioWebhookEvent} {r : HelioWebhookEvent}
    (h : (BillingStore.handle f s (.createEvent row)).1 = .ok r) : r = row s.helioEvents.length ∧
      (BillingStore.handle f s (.createEvent row)).2.helioEvents = s.helioEvents ++ [r] := by
  have hserve : BillingStore.handle f s (.createEvent row) = s.serve (.createEvent row) :=
    Fault.meet_ok (r := s.serve (.createEvent row)) h
  rw [hserve] at h ⊢
  unfold BillingStore.serve at h ⊢
  dsimp only at h ⊢
  split at h
  · cases h
  · next hno =>
    rw [if_neg hno]
    obtain rfl := Except.ok.inj h
    exact ⟨rfl, rfl⟩

/-! ### What a handler leaves behind -/

/-- The call put the event of a transaction on the queue. -/
def Enqueues (id : JsString) (e : BillingEvent) : Prop :=
  e.choice.applies = true ∧ ∃ n payload, e.op = .queueAdd n payload ∧ payload.transactionId = id

/-- The call found an event that is processed. -/
def FindsProcessed (payloadHash : JsString) (e : BillingEvent) : Prop :=
  e.op = .findByPayloadHash payloadHash ∧
    ∃ r ∈ e.before.helioEvents, r.payloadHash = payloadHash ∧ r.processed = true

/-- What was stored is on the queue. -/
def AllEnqueued (tr : List BillingEvent) : Prop :=
  ∀ e ∈ tr, ∀ id, Stores id e → ∃ e' ∈ tr, Enqueues id e'

/-- A handler that ended enqueued what it stored, and acknowledged only what is processed or enqueued. -/
def EndsEnqueued (env : BillingEnv) (body : JsString) (tr : List BillingEvent)
    (r : Except Err BillingAnswer) : Prop :=
  AllEnqueued tr ∧ (r = .ok .received → (∃ e ∈ tr, FindsProcessed (env.sha256 body) e) ∨
    ∃ e ∈ tr, Enqueues (env.parseBody body).transactionId e)

/-- The handler goes on at this call. -/
def GoesOn (_ : List BillingEvent) (e : BillingEvent) : Prop := HandlerGoesOn e.op e.choice

theorem allEnqueued_nil : AllEnqueued [] := fun _ he => absurd he List.not_mem_nil

theorem AllEnqueued.append (h : AllEnqueued tr) (he : ∀ id, Stores id e → ∃ e' ∈ tr ++ [e], Enqueues id e') :
    AllEnqueued (tr ++ [e]) := by
  intro e₁ he₁ id hs
  rcases List.mem_append.1 he₁ with he₁ | he₁
  · obtain ⟨e₂, he₂, henq⟩ := h e₁ he₁ id hs
    exact ⟨e₂, List.mem_append_left _ he₂, henq⟩
  · rw [List.mem_singleton.1 he₁] at hs
    exact he id hs

/-- A call that stores nothing leaves everything enqueued. -/
theorem AllEnqueued.other (h : AllEnqueued tr) (he : storedEvent e.op e.reply = none) :
    AllEnqueued (tr ++ [e]) := h.append fun id ⟨r, hr, _⟩ => by
  rw [he] at hr
  cases hr

section handler

variable {payload : HelioWebhookPayload} {body : JsString} {req : WebhookRequest}

/-- The handler's own way of following its history. -/
abbrev LogsEnqueued {α : Type} (Q : List BillingEvent → Except Err α → Prop) (p : Billing α)
    (tr : List BillingEvent) : Prop :=
  Logs BillingStore.handle GoesOn (fun _ => True) Q p tr

theorem logs_queueAdd {n : Nat} (h : ∀ e ∈ tr, ∀ id, Stores id e →
      id = payload.transactionId ∨ ∃ e' ∈ tr, Enqueues id e') :
    LogsEnqueued (fun tr _ => AllEnqueued tr ∧ ∃ e ∈ tr, Enqueues payload.transactionId e)
      (BillingOp.queueAdd n payload).call tr := by
  refine logs_call (o := .queueAdd n payload) fun f s hl => ⟨trivial, ?_⟩
  have henq : Enqueues payload.transactionId ((BillingStore.handle).event f s (.queueAdd n payload)) :=
    ⟨hl, n, payload, rfl, rfl⟩
  have hlast := List.mem_append_right tr (List.mem_singleton.2 rfl :
    (BillingStore.handle).event f s (.queueAdd n payload) ∈ [_])
  refine ⟨?_, _, hlast, henq⟩
  intro e he id hs
  rcases List.mem_append.1 he with he | he
  · rcases h e he id hs with rfl | ⟨e', he', henq'⟩
    · exact ⟨_, hlast, henq⟩
    · exact ⟨e', List.mem_append_left _ he', henq'⟩
  · rw [List.mem_singleton.1 he] at hs
    obtain ⟨r, hr, -⟩ := hs
    cases hr

theorem logs_storeAndEnqueue (htr : AllEnqueued tr) :
    LogsEnqueued (fun tr r => AllEnqueued tr ∧
        (r = .ok .received → ∃ e ∈ tr, Enqueues payload.transactionId e))
      (storeAndEnqueue payload (env.sha256 body)) tr := by
  have find : LogsEnqueued (fun tr _ => AllEnqueued tr) (BillingOp.findProtocol payload.protocolPubkey).call tr :=
    logs_call (o := .findProtocol payload.protocolPubkey) fun f s _ => ⟨trivial, htr.other rfl⟩
  refine find.bind (fun tr protocol htr => ?_) fun _ _ h => ⟨h, nofun⟩
  -- a call that fails stored nothing, since the handler would have heard of it
  have create : LogsEnqueued (fun tr r => (∀ e ∈ tr, ∀ id, Stores id e →
        id = payload.transactionId ∧ (∃ r', r = .ok r') ∨ ∃ e' ∈ tr, Enqueues id e'))
      (BillingOp.createEvent (webhookEvent payload protocol (env.sha256 body))).call tr := by
    refine logs_call (o := .createEvent _) fun f s _ => ⟨trivial, fun e he id hs => ?_⟩
    rcases List.mem_append.1 he with he | he
    · obtain ⟨e', he', henq⟩ := htr e he id hs
      exact .inr ⟨e', List.mem_append_left _ he', henq⟩
    · rw [List.mem_singleton.1 he] at hs
      obtain ⟨r, hr, rfl⟩ := hs
      have hok := storedEvent_eq hr
      obtain ⟨rfl, -⟩ := create_ok hok
      exact .inl ⟨rfl, _, hok⟩
  refine create.bind (fun tr r h => ?_) fun tr err h => ⟨fun e he id hs => ?_, nofun⟩
  · refine (logs_queueAdd fun e he id hs => (h e he id hs).imp_left And.left).bind ?_ ?_
    · exact fun tr _ h => ⟨h.1, fun _ => h.2⟩
    · exact fun tr err h => ⟨h.1, nofun⟩
  · rcases h e he id hs with ⟨-, _, hr⟩ | henq
    · cases hr
    · exact henq

theorem logs_handleWebhook (hreq : helioWebhookGuard env req = .ok body) :
    LogsEnqueued (EndsEnqueued env body) (handleWebhook env req) [] := by
  unfold handleWebhook
  rw [hreq]
  have find : LogsEnqueued (fun tr r => AllEnqueued tr ∧ ∀ r', r = .ok (some r') → r'.processed = true →
      ∃ e ∈ tr, FindsProcessed (env.sha256 body) e)
        (BillingOp.findByPayloadHash (env.sha256 body)).call [] := by
    refine logs_call (o := .findByPayloadHash (env.sha256 body)) fun f s _ =>
      ⟨trivial, allEnqueued_nil.other rfl, fun r' hr hproc => ⟨_, List.mem_singleton.2 rfl, rfl, r', ?_⟩⟩
    have hserve := Fault.meet_ok (r := s.serve (.findByPayloadHash (env.sha256 body))) hr
    have hfound : s.helioEvents.find? (·.payloadHash == env.sha256 body) = some r' :=
      Except.ok.inj ((congrArg Prod.fst hserve).symm.trans hr)
    have hhash := List.find?_some (p := fun r : HelioWebhookEvent => r.payloadHash == env.sha256 body) hfound
    exact ⟨List.mem_of_find?_eq_some hfound, beq_iff_eq.1 hhash, hproc⟩
  refine find.bind (fun tr existing h => ?_) fun _ _ h => ⟨h.1, nofun⟩
  split
  · next hany =>
    cases existing with
    | none => cases hany
    | some r' => exact ⟨h.1, fun _ => .inl (h.2 r' rfl hany)⟩
  · exact (logs_storeAndEnqueue h.1).mono fun tr r h => ⟨h.1, fun hr => .inr (h.2 hr)⟩

end handler

/-! ### Rows and the queue -/

/-- What a task may call: only handlers store events, as they were delivered, and only activations mark
them, their own. -/
def BillingTask.Calls (env : BillingEnv) (task : BillingTask) (o : BillingOp) : Prop :=
  match o with
  | .createEvent row => ∃ req body, task = .webhook req ∧ helioWebhookGuard env req = .ok body ∧
      ∀ n, (row n).payloadHash = env.sha256 body ∧
        (row n).helioEventId = (env.parseBody body).transactionId ∧ (row n).processed = false
  | .transaction a => ∃ payload, task = .activate payload ∧ a.transactionId = payload.transactionId
  | _ => True

theorem along_code {task : BillingTask} :
    Along (S := BillingCalls) (task.Calls env) (fun _ _ => True) (fun _ => True) (task.code env) := by
  have call : ∀ o : BillingOp, task.Calls env o →
      Along (S := BillingCalls) (task.Calls env) (fun _ _ => True) (fun _ => True) o.call := fun o ho =>
    (Along.perform ho).mono fun _ _ => trivial
  cases task with
  | webhook req =>
    change Along _ _ _ (handleWebhook env req)
    unfold handleWebhook
    split
    · trivial
    · next body hreq =>
      refine (call (.findByPayloadHash _) trivial).bind (fun existing _ => ?_) fun _ _ => trivial
      split
      · trivial
      · refine (call (.findProtocol _) trivial).bind (fun protocol _ => ?_) fun _ _ => trivial
        refine (call (.createEvent _) ⟨req, body, rfl, hreq, fun n => ⟨rfl, rfl, rfl⟩⟩).bind (fun r _ => ?_)
          fun _ _ => trivial
        exact (call (.queueAdd _ _) trivial).bind (fun _ _ => trivial) fun _ _ => trivial
  | activate payload =>
    change Along _ _ _ (activateFromHelioPayment payload)
    unfold activateFromHelioPayment
    split
    · trivial
    · refine (call (.findProtocol _) trivial).bind (fun found _ => ?_) fun _ _ => trivial
      cases found with
      | none => trivial
      | some protocol =>
        have renew : Along (S := BillingCalls) (BillingTask.Calls env (.activate payload)) (fun _ _ => True)
            (fun _ => True) ((BillingOp.renewSubscription payload.protocolPubkey).call.tryCatch fun _ => .ret []) :=
          (call (.renewSubscription _) trivial).tryCatch (fun _ _ => trivial) fun _ _ => trivial
        refine renew.bind (fun _ _ => ?_) fun _ _ => trivial
        refine (call .now trivial).bind (fun now _ => ?_) fun _ _ => trivial
        exact (call (.transaction _) ⟨payload, rfl, rfl⟩).bind (fun _ _ => trivial) fun _ _ => trivial

/-- The queue keeps its jobs. -/
theorem enqueued_handle (h : s.enqueued id = true) : (BillingStore.handle f s o).2.enqueued id = true := by
  rcases BillingStore.handle_cases (f := f) (s := s) (o := o) with hs | ⟨-, hs⟩ <;> rw [hs]
  · exact h
  · unfold BillingStore.enqueued at h ⊢
    cases o with
    | queueAdd n payload => simp only [BillingStore.serve, List.any_append, h, Bool.true_or]
    | transaction a =>
      cases hc : s.commit a with
      | ok s' => simp only [BillingStore.serve, hc, (commit_events hc).1, h]
      | error err => simp only [BillingStore.serve, hc, h]
    | createEvent row =>
      simp only [BillingStore.serve]
      split <;> exact h
    | now | findByPayloadHash | findProtocol | renewSubscription => exact h

/-- Where the rows after a call come from: they were there, and were marked at most by their own
transaction, or were stored by the call. -/
theorem row_cases {r' : HelioWebhookEvent} (h : r' ∈ (BillingStore.handle f s o).2.helioEvents) :
    (∃ r ∈ s.helioEvents, r'.helioEventId = r.helioEventId ∧ r'.payloadHash = r.payloadHash ∧
      (r'.processed = true → r.processed = true ∨ ∃ a, o = .transaction a ∧ a.transactionId = r.helioEventId)) ∨
    f.applies = true ∧ ∃ row, o = .createEvent row ∧ r' = row s.helioEvents.length ∧
      (f = .none → Stores r'.helioEventId ((BillingStore.handle).event f s o)) := by
  have same : r' ∈ s.helioEvents → ∃ r ∈ s.helioEvents, r'.helioEventId = r.helioEventId ∧
      r'.payloadHash = r.payloadHash ∧ (r'.processed = true → r.processed = true ∨
        ∃ a, o = .transaction a ∧ a.transactionId = r.helioEventId) := fun h => ⟨r', h, rfl, rfl, .inl⟩
  rcases BillingStore.handle_cases (f := f) (s := s) (o := o) with hs | ⟨happ, hs⟩ <;> rw [hs] at h
  · exact .inl (same h)
  · cases o with
    | transaction a =>
      cases hc : s.commit a with
      | ok s' =>
        simp only [BillingStore.serve, hc, (commit_events hc).2] at h
        obtain ⟨r, hr, rfl⟩ := List.mem_map.1 h
        refine .inl ⟨r, hr, ?_⟩
        split
        · next heq => exact ⟨rfl, rfl, fun _ => .inr ⟨a, rfl, (beq_iff_eq.1 heq).symm⟩⟩
        · exact ⟨rfl, rfl, .inl⟩
      | error err =>
        simp only [BillingStore.serve, hc] at h
        exact .inl (same h)
    | createEvent row =>
      simp only [BillingStore.serve] at h
      split at h
      · exact .inl (same h)
      · next hno =>
        rcases List.mem_append.1 h with h | h
        · exact .inl (same h)
        · obtain rfl := List.mem_singleton.1 h
          refine .inr ⟨happ, row, rfl, rfl, ?_⟩
          rintro rfl
          have hreply : (BillingStore.handle .none s (.createEvent row)).1 = .ok (row s.helioEvents.length) :=
            congrArg Prod.fst (if_neg hno)
          refine ⟨_, ?_, rfl⟩
          change _ ∈ storedEvent (.createEvent row) (BillingStore.handle .none s (.createEvent row)).1
          rw [hreply]
          rfl
    | now | findByPayloadHash | queueAdd | findProtocol | renewSubscription => exact .inl (same h)

/-! ### Runs -/

variable {p p' : BillingPool} {l : BillingLabel} {ls : List BillingLabel}

/-- What holds in every pool that a run reaches. -/
structure EventsInvariant (env : BillingEnv) (p : BillingPool) : Prop where
  traced : (billing env).Traced p
  lawful : System.Histories (fun _ => GoesOn) p
  queued : ∀ t ∈ p.threads, ∀ e ∈ t.trace, ∀ id, Enqueues id e → p.store.enqueued id = true
  found : ∀ t ∈ p.threads, ∀ e ∈ t.trace, ∀ body, FindsProcessed (env.sha256 body) e →
    p.store.enqueued (env.parseBody body).transactionId = true
  activations : ∀ t ∈ p.threads, ∀ payload, t.request = .activate payload →
    p.store.enqueued payload.transactionId = true
  delivered : ∀ r ∈ p.store.helioEvents,
    ∃ body, env.sha256 body = r.payloadHash ∧ (env.parseBody body).transactionId = r.helioEventId
  processed : ∀ r ∈ p.store.helioEvents, r.processed = true → p.store.enqueued r.helioEventId = true
  stored : ∀ r ∈ p.store.helioEvents, p.store.enqueued r.helioEventId = true ∨
    ∃ t ∈ p.threads, ∃ e ∈ t.trace, Stores r.helioEventId e

theorem enqueued_step (h : (billing env).step p l = some p') (hid : p.store.enqueued id = true) :
    p'.store.enqueued id = true := by
  refine System.store_rel (R := fun s s' => s.enqueued id = true → s'.enqueued id = true) h (fun _ => fun hs => hs)
    (fun _ _ _ => enqueued_handle) ?_ hid
  intro e s s' hs
  rw [← Option.some.inj hs]
  cases e <;> exact fun hs => hs

/-- What a handler put on the queue is there. -/
theorem enqueued_of_enqueues (h : Enqueues id ((BillingStore.handle).event f s o)) :
    (BillingStore.handle f s o).2.enqueued id = true := by
  obtain ⟨happ, n, payload, rfl, hid⟩ : f.applies = true ∧ ∃ n payload, o = .queueAdd n payload ∧
    payload.transactionId = id := h
  have hserve : (s.serve (.queueAdd n payload)).2.enqueued id = true := by
    simp [BillingStore.serve, BillingStore.enqueued, hid]
  cases f with
  | none | unheard => exact hserve
  | refused | stalled => cases happ

/-- Where the rows after a step come from. -/
theorem row_step (hok : Unbroken p l) (h : (billing env).step p l = some p') (hp : EventsInvariant env p)
    {r' : HelioWebhookEvent} (hr' : r' ∈ p'.store.helioEvents) :
    (∃ r ∈ p.store.helioEvents, r'.helioEventId = r.helioEventId ∧ r'.payloadHash = r.payloadHash ∧
      (r'.processed = true → p.store.enqueued r.helioEventId = true)) ∨
    r'.processed = false ∧
      (∃ body, env.sha256 body = r'.payloadHash ∧ (env.parseBody body).transactionId = r'.helioEventId) ∧
        ∃ t ∈ p'.threads, ∃ e ∈ t.trace, Stores r'.helioEventId e := by
  have same : r' ∈ p.store.helioEvents → ∃ r ∈ p.store.helioEvents, r'.helioEventId = r.helioEventId ∧
      r'.payloadHash = r.payloadHash ∧ (r'.processed = true → p.store.enqueued r.helioEventId = true) :=
    fun h => ⟨r', h, rfl, rfl, hp.processed r' h⟩
  cases l with
  | arrive task =>
    obtain rfl := System.step_arrive h
    exact .inl (same hr')
  | outside e =>
    obtain ⟨s, hs, rfl⟩ := System.step_outside h
    obtain rfl := Option.some.inj hs
    refine .inl (same ?_)
    cases e <;> exact hr'
  | pick i c =>
    obtain ⟨t, ht, ⟨k, hprog, rfl⟩ | ⟨o, k, hprog, rfl⟩⟩ := System.step_pick h
    · exact .inl (same hr')
    · have hrun := hp.traced i t ht
      rw [hprog] at hrun
      have hcalls : BillingTask.Calls env t.request o := (hrun.along along_code fun _ _ => trivial).1.1
      rcases row_cases hr' with ⟨r, hr, hid, hhash, hproc⟩ | ⟨happ, row, rfl, rfl, hstores⟩
      · refine .inl ⟨r, hr, hid, hhash, fun hp' => ?_⟩
        rcases hproc hp' with hold | ⟨a, rfl, ha⟩
        · exact hp.processed r hr hold
        · obtain ⟨payload, hreq, hpay⟩ := hcalls
          rw [← ha, hpay]
          exact hp.activations t (List.mem_of_getElem? ht) payload hreq
      · obtain ⟨-, body, -, -, hrow⟩ := hcalls
        obtain ⟨hhash, hid, hfresh⟩ := hrow p.store.helioEvents.length
        have hnone : c.2 = .none := hok t ht (.createEvent row) (by rw [hprog]; rfl) happ
        refine .inr ⟨hfresh, ⟨body, hhash.symm, hid.symm⟩, _, List.mem_of_getElem?
          (List.getElem?_set_self (List.getElem?_eq_some_iff.1 ht).1), _,
          List.mem_append_right _ (List.mem_singleton.2 rfl), hstores hnone⟩

theorem eventsInvariant_step (hinj : ∀ a b, env.sha256 a = env.sha256 b → a = b) (hok : Unbroken p l)
    (h : (billing env).step p l = some p') (hp : EventsInvariant env p) : EventsInvariant env p' where
  traced := hp.traced.step h
  lawful := hp.lawful.step h fun i c t o k hl ht hprog => by
    subst hl
    exact hok t ht o (by rw [hprog]; rfl)
  queued := by
    intro t ht e he id hid
    rcases System.event_cases h ht he with ⟨t₀, ht₀, he₀⟩ | ⟨-, hafter⟩
    · exact enqueued_step h (hp.queued t₀ ht₀ e he₀ id hid)
    · obtain ⟨i, hrun⟩ := (hp.traced.step h).of_mem ht
      obtain ⟨f, s, o, rfl⟩ := hrun.event e he
      rw [← hafter]
      exact enqueued_of_enqueues hid
  found := by
    rintro t ht e he body ⟨hop, r, hr, hhash, hproc⟩
    rcases System.event_cases h ht he with ⟨t₀, ht₀, he₀⟩ | ⟨hbefore, -⟩
    · exact enqueued_step h (hp.found t₀ ht₀ e he₀ body ⟨hop, r, hr, hhash, hproc⟩)
    · rw [hbefore] at hr
      obtain ⟨body', hbody', hid⟩ := hp.delivered r hr
      obtain rfl := hinj _ _ (hbody'.trans hhash)
      rw [hid]
      exact enqueued_step h (hp.processed r hr hproc)
  activations := by
    intro t' ht' payload hreq
    refine enqueued_step h ?_
    obtain ⟨i, hi⟩ := List.mem_iff_getElem?.1 ht'
    rcases System.request_cases h hi with ⟨t, ht, hsame⟩ | ⟨task, rfl, -, rfl⟩
    · exact hp.activations t (List.mem_of_getElem? ht) payload (hsame.trans hreq)
    · obtain rfl : task = .activate payload := hreq
      exact hok
  delivered := by
    intro r' hr'
    rcases row_step hok h hp hr' with ⟨r, hr, hid, hhash, -⟩ | ⟨-, hbody, -⟩
    · rw [hid, hhash]
      exact hp.delivered r hr
    · exact hbody
  processed := by
    intro r' hr' hproc
    rcases row_step hok h hp hr' with ⟨r, -, hid, -, hold⟩ | ⟨hfresh, -⟩
    · rw [hid]
      exact enqueued_step h (hold hproc)
    · rw [hfresh] at hproc
      cases hproc
  stored := by
    intro r' hr'
    rcases row_step hok h hp hr' with ⟨r, hr, hid, -⟩ | ⟨-, -, hstores⟩
    · rw [hid]
      rcases hp.stored r hr with henq | ⟨t, ht, e, he, hs⟩
      · exact .inl (enqueued_step h henq)
      · obtain ⟨t', ht', he'⟩ := System.event_kept h ht he
        exact .inr ⟨t', ht', e, he', hs⟩
    · exact .inr hstores

/-- A handler that ended put what it stored on the queue. -/
theorem allEnqueued_of_ended (hp : EventsInvariant env p) {t : BillingThread} (ht : t ∈ p.threads)
    (hend : t.prog.running = false) (he : e ∈ t.trace) (hs : Stores id e) : p.store.enqueued id = true := by
  obtain ⟨i, hrun⟩ := hp.traced.of_mem ht
  obtain ⟨row, hop⟩ : ∃ row, e.op = .createEvent row := by
    obtain ⟨choice, before, o, reply, after⟩ := e
    obtain ⟨r, hr, -⟩ := hs
    cases o with
    | createEvent row => exact ⟨row, rfl⟩
    | _ => cases hr
  have hcalls : BillingTask.Calls env t.request e.op := (hrun.along along_code fun _ _ => trivial).2 e he
  rw [hop] at hcalls
  obtain ⟨req, body, hreq, hguard, -⟩ := hcalls
  have hrun : Runs (billing env).handler (handleWebhook env req) t.trace t.prog := by
    rw [hreq] at hrun
    exact hrun
  have hlogs := (hrun.logs (logs_handleWebhook hguard) trivial (hp.lawful t ht)).2
  have hall : AllEnqueued t.trace := by
    cases hprog : t.prog with
    | ret | throw =>
      rw [hprog] at hlogs
      exact hlogs.1
    | choose | call =>
      rw [hprog] at hend
      cases hend
  obtain ⟨e', he', henq⟩ := hall e he id hs
  exact hp.queued t ht e' he' id henq

/-- Where no handler fails between storing an event and enqueuing it, every event that was acknowledged or
stored is enqueued, or its handler still runs. -/
theorem events_activatable (hinj : ∀ a b, env.sha256 a = env.sha256 b → a = b) (hs : s.InOrder env)
    (hok : (billing env).Keeps Unbroken (Pool.empty s) ls)
    (hr : (billing env).run (Pool.empty s) ls = some p) : EventsActivatable env p := by
  have hI : EventsInvariant env p := System.Keeps.induction
    (fun p l p' hok hp h => eventsInvariant_step hinj hok h hp) hok hr
    ⟨System.traced_empty s, System.histories_empty s, fun _ ht => absurd ht List.not_mem_nil,
      fun _ ht => absurd ht List.not_mem_nil, fun _ ht => absurd ht List.not_mem_nil,
      fun r hr => (hs r hr).2, fun r hr _ => (hs r hr).1, fun r hr => .inl (hs r hr).1⟩
  refine ⟨fun t ht req body hreq hguard hans => ?_, fun r hr => ?_⟩
  · obtain ⟨i, hrun⟩ := hI.traced.of_mem ht
    have hrun : Runs (billing env).handler (handleWebhook env req) t.trace t.prog := by
      rw [hreq] at hrun
      exact hrun
    have hlogs := (hrun.logs (logs_handleWebhook hguard) trivial (hI.lawful t ht)).2
    cases hprog : t.prog with
    | ret a =>
      rw [hprog] at hlogs
      have ha : a = .received := by
        unfold Thread.answer? at hans
        rw [hprog] at hans
        exact Option.some.inj hans
      subst ha
      rcases hlogs.2 rfl with ⟨e, he, hfound⟩ | ⟨e, he, henq⟩
      · exact hI.found t ht e he body hfound
      · exact hI.queued t ht e he _ henq
    | throw | choose | call =>
      unfold Thread.answer? at hans
      rw [hprog] at hans
      cases hans
  · rcases hI.stored r hr with henq | ⟨t, ht, e, he, hstores⟩
    · exact .inl henq
    · by_cases hrun : t.prog.running = true
      · exact .inr (.inl ⟨t, ht, hrun, e, he, hstores⟩)
      · exact .inl (allEnqueued_of_ended hI ht (Bool.eq_false_iff.2 hrun) he hstores)

/-! ### Runs that keep and break it -/

/-- A request that delivers the event of a transaction. -/
def deliveryOf (transactionId : String) : WebhookRequest := ⟨some (js transactionId), some (js transactionId)⟩

/-- Billing before any event. -/
def unpaidStore : BillingStore where
  now := 0
  protocols := [growthProtocol]
  subscriptions := []
  payments := []
  helioEvents := []
  webhookQueue := []

/-- An event is delivered, activated, and delivered again. -/
def deliveredAgain : List BillingLabel :=
  .arrive (.webhook (deliveryOf "1")) :: billed 0 4 ++
    .arrive (.activate (BillingEnv.transparent.parseBody (js "1"))) :: billed 1 4 ++
      .arrive (.webhook (deliveryOf "1")) :: billed 2 1

theorem events_activatable_deliveredAgain :
    ∃ p ∈ replayBilling unpaidStore deliveredAgain, EventsActivatable BillingEnv.transparent p ∧
      p.threads.map (·.answer?) = [some .received, some .activated, some .received] := by
  have hs : unpaidStore.InOrder BillingEnv.transparent := fun r hr => by cases hr
  obtain ⟨⟨p, hp, hans⟩, hok⟩ :
      (∃ p ∈ replayBilling unpaidStore deliveredAgain,
        p.threads.map (·.answer?) = [some .received, some .activated, some .received]) ∧
      (billing BillingEnv.transparent).Keeps Unbroken (Pool.empty unpaidStore) deliveredAgain := by
    decide +kernel
  exact ⟨p, hp, events_activatable (fun _ _ h => h) hs hok hp, hans⟩

/-- The queue does not take the event that was stored, and it is delivered again. -/
def enqueueFailed : List BillingLabel :=
  .arrive (.webhook (deliveryOf "1")) :: billed 0 3 ++
    .pick 0 (true, .refused ⟨js "timeout", none, none, none⟩) ::
      .arrive (.webhook (deliveryOf "1")) :: billed 1 3

/-- The event cannot be stored again, so it is not enqueued, then or later. -/
theorem event_stranded :
    ∃ p ∈ replayBilling unpaidStore enqueueFailed, ¬ EventsActivatable BillingEnv.transparent p ∧
      ∀ t ∈ p.threads, t.prog.result?.any (!·.isOk) = true := by
  obtain ⟨p, hp, hrow, hqueue, hended, hagain⟩ : ∃ p ∈ replayBilling unpaidStore enqueueFailed,
      (∃ r ∈ p.store.helioEvents, r.helioEventId = js "1" ∧ r.payloadHash = js "1") ∧
        p.store.enqueued (js "1") = false ∧
          (∀ t ∈ p.threads, t.prog.result?.any (!·.isOk) = true) ∧
            ((BillingStore.handle).exec .none (handleWebhook BillingEnv.transparent (deliveryOf "1"))
              p.store).2.enqueued (js "1") = false := by decide +kernel
  refine ⟨p, hp, fun h => ?_, hended⟩
  obtain ⟨r, hr, hid, hhash⟩ := hrow
  rcases h.stored r hr with henq | ⟨t, ht, hrun, -⟩ | hre
  · rw [hid, hqueue] at henq
    cases henq
  · have := hended t ht
    unfold Prog.running at hrun
    rw [Option.isNone_iff_eq_none.1 hrun] at this
    cases this
  · have henq := hre (deliveryOf "1") (js "1") rfl hhash.symm
    rw [hid, hagain] at henq
    cases henq

end HeraldGateway
