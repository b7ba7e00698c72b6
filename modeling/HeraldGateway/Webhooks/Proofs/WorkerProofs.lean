import HeraldGateway.Async.Along
import HeraldGateway.Webhooks.Worker
import HeraldGateway.Webhooks.Proofs.DeliveryProofs

/-!
# What webhook jobs leave behind

Where attempts come to their requests, a webhook counts its failed attempts since the last success and keeps a
record of each attempt, whatever else runs. A webhook that failed too often is disabled by the next job that
looks it up.
-/

namespace HeraldGateway

open Async WebhookStore

variable {env : WebhookEnv} {job : WebhookJobData} {tr pre : List WebhookCallEvent} {q : WebhookProg Unit}
  {status : Option Nat} {s : WebhookStore} {net : Network} {o : WebhookOp} {id : JsString} {d : WebhookDelivery}

/-! ### Calls -/

/-- What a call makes of the count of a webhook. -/
def WebhookOp.counts (id : JsString) (n : Nat) : WebhookOp → Nat
  | recordSuccess id' => if id = id' then 0 else n
  | recordFailure id' => if id = id' then n + 1 else n
  | _ => n

/-- The record that a call made. -/
def WebhookOp.created : (o : WebhookOp) → Except Err o.Res → Option WebhookDelivery
  | createDelivery d, .ok _ => some d
  | _, _ => none

/-- The calls of the `finally` block. -/
def WebhookOp.accounts : WebhookOp → Bool
  | createDelivery _ | recordSuccess _ | recordFailure _ => true
  | _ => false

theorem counts_of_not_accounts {n : Nat} (h : o.accounts = false) : o.counts id n = n := by
  cases o with
  | recordSuccess | recordFailure => cases h
  | _ => rfl

theorem updateWebhook_row {id' : JsString} {u : WebhookRow → WebhookRow} {row' : WebhookRow}
    (h : row' ∈ (s.updateWebhook id' u).2.webhooks id) :
    ∃ row ∈ s.webhooks id, row' = if id = id' then u row else row := by
  unfold updateWebhook at h
  by_cases hid : id = id'
  · subst hid
    cases hrow : s.webhooks id with
    | none =>
      rw [hrow] at h
      simp [hrow] at h
    | some row =>
      simp only [hrow, if_true, Option.mem_some] at h
      exact ⟨row, rfl, by rw [if_pos rfl, ← h]⟩
  · refine ⟨row', ?_, by rw [if_neg hid]⟩
    split at h
    · simpa [hid] using h
    · exact h

theorem updateWebhook_deliveries {id' : JsString} {u : WebhookRow → WebhookRow} :
    (s.updateWebhook id' u).2.deliveries = s.deliveries := by
  unfold updateWebhook
  split <;> rfl

/-- Calls bring no webhook back, and of a webhook they change the count only as they say. -/
theorem handle_row {row' : WebhookRow} (h : row' ∈ (handle net s o).2.webhooks id) :
    ∃ row ∈ s.webhooks id, row'.failureCount = o.counts id row.failureCount := by
  cases o with
  | now | findWebhook | lookup | post => exact ⟨row', h, rfl⟩
  | createDelivery d =>
    refine ⟨row', ?_, rfl⟩
    simp only [handle, WebhookStore.createDelivery] at h
    split at h <;> exact h
  | disable id' | recordSuccess id' | recordFailure id' =>
    obtain ⟨row, hrow, rfl⟩ := updateWebhook_row h
    refine ⟨row, hrow, ?_⟩
    by_cases hid : id = id'
    · simp [hid, WebhookOp.counts]
    · simp [hid, WebhookOp.counts]

/-- The table of deliveries has the records that calls made. -/
theorem handle_deliveries :
    (handle net s o).2.deliveries = s.deliveries ++ (o.created (handle net s o).1).toList := by
  cases o with
  | now | findWebhook | lookup | post => exact (List.append_nil _).symm
  | createDelivery d =>
    simp only [handle, WebhookStore.createDelivery]
    split
    · rfl
    · exact (List.append_nil _).symm
  | disable id' | recordSuccess id' | recordFailure id' =>
    exact updateWebhook_deliveries.trans (List.append_nil _).symm

/-- Others neither bring a webhook back nor count. -/
theorem outside_row {e : WebhookChange} {s' : WebhookStore} {row' : WebhookRow} (h : e.apply s = some s')
    (hrow : row' ∈ s'.webhooks id) : ∃ row ∈ s.webhooks id, row'.failureCount = row.failureCount := by
  cases e with
  | tick ms =>
    obtain rfl := Option.some.inj h
    exact ⟨row', hrow, rfl⟩
  | setActive id' isActive =>
    obtain rfl := Option.some.inj h
    obtain ⟨row, hbefore, rfl⟩ := updateWebhook_row hrow
    exact ⟨row, hbefore, by split <;> rfl⟩
  | delete id' =>
    obtain rfl := Option.some.inj h
    refine ⟨row', ?_, rfl⟩
    dsimp only at hrow
    split at hrow
    · cases hrow
    · exact hrow

/-- The records of a webhook last as long as the webhook. -/
theorem outside_deliveries {e : WebhookChange} {s' : WebhookStore} (h : e.apply s = some s')
    (hex : (s'.webhooks d.webhookId).isSome = true) : s'.deliveries.count d = s.deliveries.count d := by
  cases e with
  | tick ms =>
    obtain rfl := Option.some.inj h
    rfl
  | setActive id' isActive =>
    obtain rfl := Option.some.inj h
    rw [updateWebhook_deliveries]
  | delete id' =>
    obtain rfl := Option.some.inj h
    dsimp only at hex ⊢
    split at hex
    · cases hex
    · next hid => exact List.count_filter (by simpa using hid)

/-- What is in the table of webhooks was in it before. -/
def WebhooksFrom (s s' : WebhookStore) : Prop :=
  ∀ id, (s'.webhooks id).isSome = true → (s.webhooks id).isSome = true

theorem WebhooksFrom.of_rows {s' : WebhookStore}
    (h : ∀ id, ∀ row' ∈ s'.webhooks id, ∃ row, row ∈ s.webhooks id) :
    WebhooksFrom s s' := by
  intro id hex
  obtain ⟨row', hrow'⟩ := Option.isSome_iff_exists.1 hex
  obtain ⟨row, hrow⟩ := h id row' hrow'
  exact Option.isSome_iff_exists.2 ⟨row, hrow⟩

theorem webhooksFrom_step {p p' : WebhookPool} {l : WebhookLabel} (h : (webhookJobs env).step p l = some p') :
    WebhooksFrom p.store p'.store :=
  System.store_rel (R := WebhooksFrom) h (fun _ _ => id)
    (fun _ _ _ => .of_rows fun _ _ hrow => (handle_row hrow).imp fun _ => And.left)
    fun _ _ _ he => .of_rows fun _ _ hrow => (outside_row he hrow).imp fun _ => And.left

/-! ### Stages of a job -/

/-- A record of the attempt was made, unless its webhook was gone. -/
def Filed (job : WebhookJobData) (status : Option Nat) (tr : List WebhookCallEvent) : Prop :=
  ∃ e ∈ tr, e.op.created e.reply = some (deliveryRecord job status) ∨ e.before.webhooks job.webhookId = none

/-- Where a job stands after the calls of a trace. -/
inductive Stage (env : WebhookEnv) (job : WebhookJobData) (tr : List WebhookCallEvent) :
    WebhookProg Unit → Prop where
  /-- It has not sent a request: it is on its way to it, or ended and attempted nothing. -/
  | before {q : WebhookProg Unit} (hnext : (q.running = false ∧ deliveryAttempted env tr = false) ∨
      ∃ o k, q = .call o k ∧ o.accounts = false) : Stage env job tr q
  | sent {q : WebhookProg Unit} (status : Option Nat) (hs : statusOfRequest tr = some status)
      (ha : deliveryAttempted env tr = true) (hq : q = accountDelivery job status) : Stage env job tr q
  | recorded {q : WebhookProg Unit} (status : Option Nat) (hs : statusOfRequest tr = some status)
      (ha : deliveryAttempted env tr = true) (hq : q = concludeDelivery job status) : Stage env job tr q
  | ended {q : WebhookProg Unit} (status : Option Nat) (hs : statusOfRequest tr = some status)
      (ha : deliveryAttempted env tr = true) (hend : q.running = false)
      (hlast : ∃ e ∈ tr.getLast?, e.op.accounts = true) (hfiled : Filed job status tr) : Stage env job tr q

theorem deliveryAttempted_append (h : deliveryAttempted env pre = true) :
    deliveryAttempted env (pre ++ tr) = true := by
  rw [deliveryAttempted, List.any_append, Bool.or_eq_true]
  exact .inl h

theorem statusOfRequest_append (h : statusOfRequest pre = some status) :
    statusOfRequest (pre ++ tr) = some status := by
  rw [statusOfRequest, List.findSome?_append]
  exact congrArg (Option.or · _) h

theorem statusOfRequest_append_none (h : statusOfRequest pre = none) :
    statusOfRequest (pre ++ tr) = statusOfRequest tr := by
  rw [statusOfRequest, List.findSome?_append]
  exact congrArg (Option.or · _) h

/-- What counts an attempt is one call, after which the job ends. -/
theorem concludeDelivery_call (job : WebhookJobData) (status : Option Nat) :
    ∃ o k, concludeDelivery job status = .call o k ∧ o.accounts = true ∧ (∀ r, (k r).running = false) ∧
      ∀ id n, o.counts id n = if id = job.webhookId then if isSuccess status then 0 else n + 1 else n := by
  by_cases hs : isSuccess status = true
  · refine ⟨.recordSuccess job.webhookId, _, if_pos hs, rfl, fun r => by cases r <;> rfl, fun id n => ?_⟩
    simp [WebhookOp.counts, hs]
  · refine ⟨.recordFailure job.webhookId, _, if_neg hs, rfl, fun r => by cases r <;> rfl, fun id n => ?_⟩
    simp [WebhookOp.counts, hs]

theorem accountDelivery_call (job : WebhookJobData) (status : Option Nat) :
    accountDelivery job status = .call (WebhookOp.createDelivery (deliveryRecord job status)) fun
      | .ok _ => concludeDelivery job status
      | .error e => .throw e :=
  congrArg (Prog.call _) (funext fun r => by cases r <;> rfl)

/-- The stages after a request. -/
theorem stage_of_sent (hs : statusOfRequest pre = some status) (ha : deliveryAttempted env pre = true)
    (hr : Runs handle (accountDelivery job status) tr q) : Stage env job (pre ++ tr) q := by
  rw [accountDelivery_call] at hr
  rcases hr.call_cases with ⟨rfl, rfl⟩ | ⟨net, s, tr', rfl, hrest⟩
  · rw [List.append_nil, ← accountDelivery_call]
    exact .sent status hs ha rfl
  · have hs' : statusOfRequest (pre ++ handle.event net s (.createDelivery (deliveryRecord job status)) :: tr') =
        some status := statusOfRequest_append hs
    have ha' : deliveryAttempted env
        (pre ++ handle.event net s (.createDelivery (deliveryRecord job status)) :: tr') = true :=
      deliveryAttempted_append ha
    by_cases hex : (s.webhooks job.webhookId).isSome = true
    · have hreply : (handle net s (.createDelivery (deliveryRecord job status))).1 = .ok () :=
        congrArg Prod.fst (if_pos hex)
      have hfiled : ∃ e ∈ handle.event net s (.createDelivery (deliveryRecord job status)) :: tr',
          e.op.created e.reply = some (deliveryRecord job status) := by
        refine ⟨_, List.mem_cons_self, ?_⟩
        simp only [Handler.event, hreply]
        rfl
      rw [hreply] at hrest
      obtain ⟨o, k, hconclude, haccounts, hk, -⟩ := concludeDelivery_call job status
      rw [hconclude] at hrest
      rcases hrest.call_cases with ⟨rfl, rfl⟩ | ⟨net', s', tr'', rfl, hrest'⟩
      · rw [← hconclude]
        exact .recorded status hs' ha' rfl
      · obtain ⟨r, hres⟩ := Prog.result?_of_ended (hk (handle net' s' o).1)
        obtain ⟨rfl, rfl⟩ := hrest'.ended hres
        refine .ended status hs' ha' (hk _) ⟨handle.event net' s' o, by simp, haccounts⟩ ?_
        obtain ⟨e, he, hcreated⟩ := hfiled
        exact ⟨e, List.mem_append_right pre he, .inl hcreated⟩
    · have hgone : s.webhooks job.webhookId = none := by simpa using hex
      have hreply : (handle net s (.createDelivery (deliveryRecord job status))).1 =
          .error (.error (js "Foreign key constraint violated")) :=
        congrArg Prod.fst (if_neg hex)
      rw [hreply] at hrest
      obtain ⟨rfl, rfl⟩ := hrest.ended rfl
      exact .ended status hs' ha' rfl
        ⟨handle.event net s (.createDelivery (deliveryRecord job status)), List.getLast?_concat, rfl⟩
        ⟨_, List.mem_append_right pre List.mem_cons_self, .inr hgone⟩

/-- The stages of a request. -/
theorem stage_of_delivery {secret : JsString} {now : Millis} (hs : statusOfRequest pre = none)
    (ha : deliveryAttempted env pre = true) (hr : Runs handle (deliverWebhook env job secret now) tr q) :
    Stage env job (pre ++ tr) q := by
  rcases hr.call_cases with ⟨rfl, rfl⟩ | ⟨net, s, tr', rfl, hrest⟩
  · exact .before (.inr ⟨_, _, rfl, rfl⟩)
  · have hposted : statusOfRequest (pre ++ [handle.event net s (.post (webhookRequest env job secret now))]) =
        some (finalStatus net.exchanges) := by
      rw [statusOfRequest_append_none hs]
      rfl
    have hstage := stage_of_sent hposted (deliveryAttempted_append ha) hrest
    rwa [List.append_assoc] at hstage

theorem guardAddress_call (hlocal : env.allowLocal = false) (hostname : JsString)
    (f : Unit → WebhookProg Unit) :
    (guardAddress env hostname).bind f = .call (WebhookOp.lookup hostname) fun r =>
      match checkedAddress env ⟨r.toOption, []⟩ with
      | .error e => .throw e
      | .ok _ => f () := by
  rw [guardAddress, hlocal]
  have hbind : ∀ checked : Except Err (Option JsString), Prog.bind (match checked with
      | .error e => .throw e
      | .ok _ => .ret ()) f = match checked with
        | .error e => .throw e
        | .ok _ => f () := by
    rintro (e | a) <;> rfl
  refine congrArg (Prog.call _) (funext fun r => ?_)
  cases r with
  | ok | error => exact hbind _

/-- The stages of the check of an address that passes. -/
theorem stage_of_guard {hostname secret : JsString} {now : Millis} (hs : statusOfRequest pre = none)
    (ha : deliveryAttempted env pre = true) (hd : ∀ e ∈ tr, Deliverable env job e.op e.reply)
    (hr : Runs handle ((guardAddress env hostname).bind fun _ => deliverWebhook env job secret now) tr q) :
    Stage env job (pre ++ tr) q := by
  cases hlocal : env.allowLocal with
  | true =>
    rw [guardAddress, hlocal] at hr
    exact stage_of_delivery hs ha hr
  | false =>
    rw [guardAddress_call hlocal] at hr
    rcases hr.call_cases with ⟨rfl, rfl⟩ | ⟨net, s, tr', rfl, hrest⟩
    · exact .before (.inr ⟨_, _, rfl, rfl⟩)
    · have hpass : (checkedAddress env ⟨(handle net s (.lookup hostname)).1.toOption, []⟩).isOk = true :=
        hd _ List.mem_cons_self
      have hs' : statusOfRequest (pre ++ [handle.event net s (.lookup hostname)]) = none := by
        rw [statusOfRequest_append_none hs]
        rfl
      cases hcheck : checkedAddress env ⟨(handle net s (.lookup hostname)).1.toOption, []⟩ with
      | error e =>
        rw [hcheck] at hpass
        cases hpass
      | ok checked =>
        rw [hcheck] at hrest
        have hstage := stage_of_delivery hs' (deliveryAttempted_append ha) hrest
        rwa [List.append_assoc] at hstage

/-- The stages of an attempt that comes to its request. -/
theorem stage_of_attempt (hs : statusOfRequest pre = none) (ha : deliveryAttempted env pre = true)
    (hsecret : (signingSecret env.gcm env.config job.secret).isOk = true)
    (hurl : (env.hostname job.url).isSome = true) (hd : ∀ e ∈ tr, Deliverable env job e.op e.reply)
    (hr : Runs handle (attemptWebhook env job) tr q) :
    Stage env job (pre ++ tr) q := by
  unfold attemptWebhook at hr
  cases hsigned : signingSecret env.gcm env.config job.secret with
  | error e =>
    rw [hsigned] at hsecret
    cases hsecret
  | ok plaintextSecret =>
    rw [hsigned] at hr
    rcases hr.call_cases with ⟨rfl, rfl⟩ | ⟨net, s, tr', rfl, hrest⟩
    · exact .before (.inr ⟨_, _, rfl, rfl⟩)
    · obtain ⟨hostname, hhost⟩ := Option.isSome_iff_exists.1 hurl
      have hgo : Runs handle ((guardAddress env hostname).bind fun _ => deliverWebhook env job plaintextSecret s.now)
          tr' q := by
        dsimp only at hrest
        rw [hhost] at hrest
        exact hrest
      have hs' : statusOfRequest (pre ++ [handle.event net s .now]) = none := by
        rw [statusOfRequest_append_none hs]
        rfl
      have hstage := stage_of_guard hs' (deliveryAttempted_append ha)
        (fun e he => hd e (List.mem_cons_of_mem _ he)) hgo
      rwa [List.append_assoc] at hstage

/-! What the pre-flight check decides. -/

theorem preflightWebhook_of_ready {row : WebhookRow} (h : row.ready env = true) :
    preflightWebhook env job (some row) = attemptWebhook env job := by
  obtain ⟨hactive, hfew⟩ : row.isActive = true ∧ row.failureCount < env.autoDisableThreshold := by
    simpa [WebhookRow.ready] using h
  exact (if_neg (by simp [hactive])).trans (if_neg (Nat.not_le.2 hfew))

theorem preflightWebhook_of_exhausted {row : WebhookRow} (h : row.exhausted env = true) :
    ∃ k : Except Err Unit → WebhookProg Unit,
      preflightWebhook env job (some row) = .call (WebhookOp.disable job.webhookId) k ∧
      ∀ r, (k r).running = false := by
  obtain ⟨hactive, hmany⟩ : row.isActive = true ∧ env.autoDisableThreshold ≤ row.failureCount := by
    simpa [WebhookRow.exhausted] using h
  refine ⟨_, (if_neg (by simp [hactive])).trans (if_pos hmany), fun r => by cases r <;> rfl⟩

theorem preflightWebhook_of_neither {row : WebhookRow} (hready : row.ready env = false)
    (hexhausted : row.exhausted env = false) : preflightWebhook env job (some row) = .ret () := by
  cases hactive : row.isActive with
  | false => exact if_pos (by rw [hactive]; rfl)
  | true =>
    have hmany : env.autoDisableThreshold ≤ row.failureCount := by
      simpa [WebhookRow.ready, hactive] using hready
    have hfew : row.failureCount < env.autoDisableThreshold := by
      simpa [WebhookRow.exhausted, hactive] using hexhausted
    omega

/-- Whatever a job did, it stands at one of the stages, if its attempt comes to its request. -/
theorem stage_of_runs (hd : ∀ e ∈ tr, Deliverable env job e.op e.reply)
    (hr : Runs handle (runWebhookJob env job) tr q) : Stage env job tr q := by
  rcases hr.call_cases with ⟨rfl, rfl⟩ | ⟨net, s, tr', rfl, hrest⟩
  · exact .before (.inr ⟨_, _, rfl, rfl⟩)
  · have hgo : Runs handle (preflightWebhook env job (s.webhooks job.webhookId)) tr' q := hrest
    have hready : deliveryAttempted env [handle.event net s (.findWebhook job.webhookId)] =
        (s.webhooks job.webhookId).any (·.ready env) := Bool.or_false _
    have hfound : (s.webhooks job.webhookId).any (·.ready env) = true →
        (signingSecret env.gcm env.config job.secret).isOk = true ∧ (env.hostname job.url).isSome = true :=
      hd _ List.mem_cons_self
    cases hrow : s.webhooks job.webhookId with
    | none =>
      rw [hrow] at hgo hready
      obtain ⟨rfl, rfl⟩ := hgo.ended rfl
      exact .before (.inl ⟨rfl, hready⟩)
    | some row =>
      rw [hrow] at hgo hready hfound
      cases hpass : row.ready env with
      | true =>
        rw [preflightWebhook_of_ready hpass] at hgo
        obtain ⟨hsecret, hurl⟩ := hfound hpass
        have hnone : statusOfRequest [handle.event net s (.findWebhook job.webhookId)] = none := rfl
        exact stage_of_attempt hnone (hready.trans hpass) hsecret hurl (fun e he => hd e (List.mem_cons_of_mem _ he)) hgo
      | false =>
        cases hmany : row.exhausted env with
        | true =>
          obtain ⟨k, hk, hend⟩ := @preflightWebhook_of_exhausted env job row hmany
          rw [hk] at hgo
          rcases hgo.call_cases with ⟨rfl, rfl⟩ | ⟨net', s', tr'', rfl, hrest'⟩
          · exact .before (.inr ⟨_, _, rfl, rfl⟩)
          · obtain ⟨r, hres⟩ := Prog.result?_of_ended (hend (handle net' s' (.disable job.webhookId)).1)
            obtain ⟨rfl, rfl⟩ := hrest'.ended hres
            refine .before (.inl ⟨hend _, ?_⟩)
            exact Bool.or_eq_false_iff.2 ⟨(Bool.or_false _).symm.trans (hready.trans hpass), rfl⟩
        | false =>
          rw [preflightWebhook_of_neither hpass hmany] at hgo
          obtain ⟨rfl, rfl⟩ := hgo.ended rfl
          exact .before (.inl ⟨rfl, hready.trans hpass⟩)

/-- A job that has ended after an attempt accounted for it. -/
theorem Stage.ended_cases (h : Stage env job tr q) (hend : q.running = false)
    (ha : deliveryAttempted env tr = true) :
    ∃ status, statusOfRequest tr = some status ∧ (∃ e ∈ tr.getLast?, e.op.accounts = true) ∧
    Filed job status tr := by
  cases h with
  | before hnext =>
    rcases hnext with ⟨-, hnone⟩ | ⟨o, k, rfl, -⟩
    · rw [hnone] at ha
      cases ha
    · cases hend
  | sent status _ _ hq =>
    rw [hq, accountDelivery_call] at hend
    cases hend
  | recorded status _ _ hq =>
    obtain ⟨o, k, hcall, -⟩ := concludeDelivery_call job status
    rw [hq, hcall] at hend
    cases hend
  | ended status hs _ _ hlast hfiled => exact ⟨status, hs, hlast, hfiled⟩

/-- Jobs leave nothing to the scheduler. -/
theorem Stage.not_choose {k : Bool → WebhookProg Unit} (h : Stage env job tr (.choose k)) : False := by
  cases h with
  | before hnext =>
    rcases hnext with ⟨hend, -⟩ | ⟨o, k, hcall, -⟩
    · cases hend
    · cases hcall
  | sent status _ _ hq =>
    rw [accountDelivery_call] at hq
    cases hq
  | recorded status _ _ hq =>
    obtain ⟨o, k, hcall, -⟩ := concludeDelivery_call job status
    rw [hcall] at hq
    cases hq
  | ended _ _ _ hend => cases hend

/-- What a call of a job is for. -/
theorem Stage.call_cases {k : Except Err o.Res → WebhookProg Unit} (h : Stage env job tr (.call o k)) :
    o.accounts = false ∨
    ∃ status, statusOfRequest tr = some status ∧ deliveryAttempted env tr = true ∧
      ((o = .createDelivery (deliveryRecord job status) ∧ ∀ a, (k (.ok a)).running = true) ∨
        (∀ r, (k r).running = false) ∧ ∀ id n, o.counts id n =
          if id = job.webhookId then if isSuccess status then 0 else n + 1 else n) := by
  cases h with
  | before hnext =>
    rcases hnext with ⟨hend, -⟩ | ⟨o', k', hcall, ho⟩
    · cases hend
    · cases hcall
      exact .inl ho
  | sent status hs ha hq =>
    rw [accountDelivery_call] at hq
    cases hq
    obtain ⟨o', k', hcall, -⟩ := concludeDelivery_call job status
    exact .inr ⟨status, hs, ha, .inl ⟨rfl, fun _ => by rw [hcall]; rfl⟩⟩
  | recorded status hs ha hq =>
    obtain ⟨o', k', hcall, -, hk, hcounts⟩ := concludeDelivery_call job status
    rw [hcall] at hq
    cases hq
    exact .inr ⟨status, hs, ha, .inr ⟨hk, hcounts⟩⟩
  | ended _ _ _ hend => cases hend

/-! ### One job alone -/

/-- What a delivery does to the tables. -/
def WebhookEffects.on (effects : WebhookEffects) (id : JsString) (s : WebhookStore) : WebhookStore where
  now := s.now
  webhooks id' := if id' = id then effects.row <|> s.webhooks id else s.webhooks id'
  deliveries := s.deliveries ++ effects.recorded.toList

/-- How a delivery settles. -/
def WebhookEffects.result (effects : WebhookEffects) : Except Err Unit :=
  match effects.error with
  | none => .ok ()
  | some e => .error e

theorem updateWebhook_some {u : WebhookRow → WebhookRow} {row : WebhookRow} (h : s.webhooks id = some row) :
    s.updateWebhook id u = (.ok (), WebhookEffects.on { row := some (u row) } id s) := by
  simp [updateWebhook, WebhookEffects.on, h]

theorem on_nothing {effects : WebhookEffects} (hrow : effects.row = none)
    (hrecorded : effects.recorded = none) :
    effects.on id s = s := by
  have hwebhooks : (fun id' => if id' = id then s.webhooks id else s.webhooks id') = s.webhooks := by
    funext id'
    split
    · next h => rw [h]
    · rfl
  simp [WebhookEffects.on, hrow, hrecorded, hwebhooks]

/-- Alone, an attempt is counted in one step. -/
theorem exec_concludeDelivery {row : WebhookRow} (hrow : s.webhooks job.webhookId = some row)
    (status : Option Nat) (net : Network) :
    handle.exec net (concludeDelivery job status) s =
      (if isSuccess status then .ok () else .error (.error (js "Request failed")),
        WebhookEffects.on { row := some { row with
          failureCount := if isSuccess status then 0 else row.failureCount + 1 } } job.webhookId s) := by
  by_cases hs : isSuccess status = true
  · have hgo : concludeDelivery job status = (WebhookOp.recordSuccess job.webhookId).call := if_pos hs
    have hcount : handle net s (.recordSuccess job.webhookId) =
        (.ok (), WebhookEffects.on { row := some { row with failureCount := 0 } } job.webhookId s) :=
      updateWebhook_some hrow
    rw [hgo, WebhookOp.call, if_pos hs, if_pos hs]
    exact (exec_perform (S := WebhookCalls) _).trans hcount
  · have hgo : concludeDelivery job status = (WebhookOp.recordFailure job.webhookId).call.bind fun _ =>
        .throw (.error (js "Request failed")) := if_neg hs
    have hcount : handle net s (.recordFailure job.webhookId) = (.ok (), WebhookEffects.on
        { row := some { row with failureCount := row.failureCount + 1 } } job.webhookId s) :=
      updateWebhook_some hrow
    rw [hgo, WebhookOp.call, if_neg hs, if_neg hs]
    exact exec_bind ((exec_perform (S := WebhookCalls) _).trans hcount) _

/-- Alone, a request is accounted for in one step. -/
theorem exec_accountDelivery {row : WebhookRow} (hrow : s.webhooks job.webhookId = some row)
    (env : WebhookEnv) (secret : JsString) (now : Millis) (net : Network) (checked : List JsString) :
    handle.exec net (accountDelivery job (finalStatus net.exchanges)) s =
      ((sendWebhook env job row net now secret checked).result,
        (sendWebhook env job row net now secret checked).on job.webhookId s) := by
  have hfiled : handle net s (.createDelivery (deliveryRecord job (finalStatus net.exchanges))) =
      (.ok (), { s with deliveries := s.deliveries ++ [deliveryRecord job (finalStatus net.exchanges)] }) :=
    if_pos (Option.isSome_iff_exists.2 ⟨row, hrow⟩)
  refine (exec_bind ((exec_perform (S := WebhookCalls) _).trans hfiled) _).trans ?_
  refine (exec_concludeDelivery (s := { s with
    deliveries := s.deliveries ++ [deliveryRecord job (finalStatus net.exchanges)] }) hrow _ net).trans ?_
  have hsent : (finalStatus net.exchanges).any (fun status => 200 ≤ status && status < 300) =
    isSuccess (finalStatus net.exchanges) := rfl
  cases hs : isSuccess (finalStatus net.exchanges) with
  | true | false =>
    rw [hs] at hsent
    simp [sendWebhook, WebhookEffects.on, WebhookEffects.result, hsent, deliveryRecord, hs]

/-- Alone, an attempt goes on if the address passes the check. -/
theorem exec_guardAddress (env : WebhookEnv) (hostname : JsString) (f : Unit → WebhookProg Unit)
    (net : Network) (s : WebhookStore) : handle.exec net ((guardAddress env hostname).bind f) s =
      match checkedAddress env net with
      | .error e => (.error e, s)
      | .ok _ => handle.exec net (f ()) s := by
  cases hlocal : env.allowLocal with
  | true => simp [guardAddress, checkedAddress, hlocal, Prog.bind, Prog.andThen]
  | false =>
    have hfound : (handle net s (.lookup hostname)).1.toOption = net.lookup := by
      rcases net with ⟨_ | address, exchanges⟩ <;> rfl
    have hlookup : checkedAddress env ⟨(handle net s (.lookup hostname)).1.toOption, []⟩ =
      checkedAddress env net := by
      simp only [checkedAddress, hfound]
    rw [guardAddress_call hlocal, Handler.exec, hlookup]
    cases checkedAddress env net <;> rfl

/-- Alone, a job does what the worker does in one step. -/
theorem exec_runWebhookJob (env : WebhookEnv) (job : WebhookJobData) (net : Network) (s : WebhookStore) :
    handle.exec net (runWebhookJob env job) s =
      ((processWebhook env job (s.webhooks job.webhookId) net s.now).result,
        (processWebhook env job (s.webhooks job.webhookId) net s.now).on job.webhookId s) := by
  show handle.exec net (preflightWebhook env job (s.webhooks job.webhookId)) s = _
  cases hrow : s.webhooks job.webhookId with
  | none => exact congrArg (Prod.mk _) (on_nothing rfl rfl).symm
  | some row =>
    unfold processWebhook
    cases hactive : row.isActive with
    | false =>
      simp only [preflightWebhook, hactive, Bool.not_false, if_true]
      exact congrArg (Prod.mk _) (on_nothing rfl rfl).symm
    | true =>
      by_cases hmany : row.failureCount ≥ env.autoDisableThreshold
      · have hgo : preflightWebhook env job (some row) = (WebhookOp.disable job.webhookId).call :=
          (if_neg (by simp [hactive])).trans (if_pos hmany)
        have hdisabled : handle net s (.disable job.webhookId) =
            (.ok (), WebhookEffects.on { row := some { row with isActive := false } } job.webhookId s) :=
          updateWebhook_some hrow
        rw [hgo, WebhookOp.call]
        simp only [hactive, Bool.not_true, hmany, if_true, if_false, Bool.false_eq_true]
        exact (exec_perform (S := WebhookCalls) _).trans hdisabled
      · simp only [preflightWebhook, hactive, Bool.not_true, hmany, if_false, Bool.false_eq_true]
        unfold attemptWebhook
        cases hsecret : signingSecret env.gcm env.config job.secret with
        | error e => exact congrArg (Prod.mk _) (on_nothing rfl rfl).symm
        | ok plaintextSecret =>
          cases hhost : env.hostname job.url with
          | none => exact congrArg (Prod.mk _) (on_nothing rfl rfl).symm
          | some hostname =>
            show handle.exec net ((guardAddress env hostname).bind fun _ =>
              deliverWebhook env job plaintextSecret s.now) s = _
            rw [exec_guardAddress]
            cases hcheck : checkedAddress env net with
            | error e => exact congrArg (Prod.mk _) (on_nothing rfl rfl).symm
            | ok checked => exact exec_accountDelivery hrow env plaintextSecret s.now net checked.toList

/-! ### The count -/

section pools

variable {p p' : WebhookPool} {l : WebhookLabel} {n : Nat}

/-- Every job of a pool stands at one of the stages. -/
def Staged (env : WebhookEnv) (p : WebhookPool) : Prop := ∀ t ∈ p.threads, Stage env t.request t.trace t.prog

theorem staged_of_traced (htr : (webhookJobs env).Traced p)
    (hev : System.Events (fun job (e : WebhookCallEvent) => Deliverable env job e.op e.reply) p) :
    Staged env p := by
  intro t ht
  obtain ⟨i, hr⟩ := htr.of_mem ht
  exact stage_of_runs (hev t ht) hr

/-- The count after a call, from the stage of the job that makes it and the stage that it comes to. -/
theorem count_call {t : WebhookThread} {k : Except Err o.Res → WebhookProg Unit} (hprog : t.prog = .call o k)
    (hstage : Stage env t.request t.trace t.prog)
    (hstage' : Stage env t.request (t.trace ++ [handle.event net s o]) (k (handle net s o).1))
    {row : WebhookRow} (hrow : row ∈ s.webhooks id) :
    o.counts id n = ((if (k (handle net s o).1).running = true then none else some { t with
      trace := t.trace ++ [handle.event net s o]
      prog := k (handle net s o).1 } : Option WebhookThread).toList.foldl (countAttempt env id) n) := by
  rw [hprog] at hstage
  rcases hstage.call_cases with hnot | ⟨status, hs, ha, ⟨rfl, hgo⟩ | ⟨hend, hcounts⟩⟩
  · rw [counts_of_not_accounts hnot]
    split
    · rfl
    · next hend =>
      have hnone : deliveryAttempted env (t.trace ++ [handle.event net s o]) = false := by
        by_contra ha
        obtain ⟨-, -, ⟨e, he, haccounts⟩, -⟩ := hstage'.ended_cases (by simpa using hend) (by simpa using ha)
        obtain rfl : handle.event net s o = e := by simpa using he
        exact absurd hnot (by simpa [Handler.event] using haccounts)
      simp [countAttempt, hnone]
  · -- a record that could not be made leaves a job that ends with its webhook gone
    split
    · rfl
    · next hend =>
      have hne : t.request.webhookId ≠ id := by
        rintro rfl
        have hreply : (handle net s (.createDelivery (deliveryRecord t.request status))).1 = .ok () :=
          congrArg Prod.fst (if_pos (Option.isSome_iff_exists.2 ⟨row, hrow⟩))
        rw [hreply] at hend
        exact hend (hgo ())
      simp [countAttempt, hne, WebhookOp.counts]
  · rw [if_neg (by rw [hend]; exact Bool.false_ne_true), hcounts]
    have hs' : statusOfRequest (t.trace ++ [handle.event net s o]) = some status := statusOfRequest_append hs
    have ha' : deliveryAttempted env (t.trace ++ [handle.event net s o]) = true := deliveryAttempted_append ha
    simp only [Option.toList_some, List.foldl_cons, List.foldl_nil, countAttempt, answeredStatus, ha',
      hs', and_true,
      Option.join_some, eq_comm (a := id)]

/-- A step counts the attempt that it ends. -/
theorem count_step (h : (webhookJobs env).step p l = some p') (hp : Staged env p) (hp' : Staged env p')
    (hn : ∀ row ∈ p.store.webhooks id, row.failureCount = n) {row' : WebhookRow}
    (hrow' : row' ∈ p'.store.webhooks id) :
    row'.failureCount = ((webhookJobs env).ends? p l).toList.foldl (countAttempt env id) n := by
  cases l with
  | arrive job =>
    rw [System.ends?_arrive rfl]
    obtain rfl := System.step_arrive h
    exact hn row' hrow'
  | outside e =>
    rw [System.ends?_outside]
    obtain ⟨s, hs, rfl⟩ := System.step_outside h
    obtain ⟨row, hrow, hsame⟩ := outside_row hs hrow'
    exact hsame.trans (hn row hrow)
  | pick i c =>
    obtain ⟨t, ht, ⟨k, hprog, -⟩ | ⟨o, k, hprog, rfl⟩⟩ := System.step_pick h
    · have hstage := hp t (List.mem_of_getElem? ht)
      rw [hprog] at hstage
      exact hstage.not_choose.elim
    · obtain ⟨row, hrow, hcount⟩ := handle_row hrow'
      rw [hcount, hn row hrow, System.ends?_call ht hprog]
      have hi := (List.getElem?_eq_some_iff.1 ht).1
      exact count_call hprog (hp t (List.mem_of_getElem? ht))
        (hp' _ (List.mem_of_getElem? (List.getElem?_set_self hi))) hrow

/-! ### The records -/

/-- A call that made a record. -/
def filing (d : WebhookDelivery) (e : WebhookCallEvent) : Nat :=
  if e.op.created e.reply = some d then 1 else 0

/-- The table of deliveries has the records that were made of a webhook that is still there. -/
def RecordsKept (d : WebhookDelivery) (p : WebhookPool) : Prop :=
  (p.store.webhooks d.webhookId).isSome = true → p.weight (filing d) ≤ p.store.deliveries.count d

theorem recordsKept_step (h : (webhookJobs env).step p l = some p') (hp : RecordsKept d p) :
    RecordsKept d p' := by
  intro hex
  have hle := hp (webhooksFrom_step h _ hex)
  rcases System.total_step (f := traceWeight (filing d)) traceWeight_nil h with
    ⟨hsame, hstore | ⟨e, he⟩⟩ | ⟨i, c, t, o, k, -, -, -, hstore, hsum⟩
  · have hweight : p'.weight (filing d) = p.weight (filing d) := hsame
    rw [hweight, hstore]
    exact hle
  · have hweight : p'.weight (filing d) = p.weight (filing d) := hsame
    rw [hweight, outside_deliveries he hex]
    exact hle
  · rw [traceWeight_append, traceWeight_cons, traceWeight_nil] at hsum
    have hweight : p'.weight (filing d) + traceWeight (filing d) t.trace = p.weight (filing d) +
      (traceWeight (filing d) t.trace + (filing d (handle.event c.2 p.store o) + 0)) := hsum
    have hdeliveries : p'.store.deliveries.count d =
        p.store.deliveries.count d + filing d (handle.event c.2 p.store o) := by
      have hfiled : filing d (handle.event c.2 p.store o) =
          (o.created (handle c.2 p.store o).1).toList.count d := by
        unfold filing
        show (if o.created (handle c.2 p.store o).1 = some d then 1 else 0) = _
        cases hcreated : o.created (handle c.2 p.store o).1 with
        | none => rfl
        | some d' => simp [List.count_singleton]
      rw [hstore, hfiled, ← List.count_append, ← handle_deliveries]
      rfl
    omega

/-- A job that left a record made it, if its webhook is still there. -/
theorem leaves_le_filing {t : WebhookThread} (hstage : Stage env t.request t.trace t.prog)
    (hfrom : ∀ e ∈ t.trace, WebhooksFrom e.before s) (hex : (s.webhooks d.webhookId).isSome = true) :
    leaves env d t ≤ traceWeight (filing d) t.trace := by
  unfold leaves
  split
  · next hleft =>
    obtain ⟨ha, hend, rfl⟩ := hleft
    obtain ⟨status, hs, -, e, he, hcreated | hgone⟩ := hstage.ended_cases hend ha
    · have hone : filing (deliveryRecord t.request (answeredStatus t)) e = 1 := by
        unfold filing answeredStatus
        rw [hs]
        exact if_pos hcreated
      rw [← hone]
      exact List.single_le_sum (fun _ _ => Nat.zero_le _) _ (List.mem_map_of_mem he)
    · have hthere := hfrom e he t.request.webhookId hex
      rw [hgone] at hthere
      cases hthere
  · exact Nat.zero_le _

/-! ### Disabling -/

/-- The calls of an attempt. -/
def WebhookOp.ofAttempt : WebhookOp → Bool
  | findWebhook _ | disable _ => false
  | _ => true

theorem found_of_ofAttempt {r : Except Err o.Res} (h : o.ofAttempt = true) : o.found r = none := by
  cases o with
  | findWebhook => cases h
  | _ => rfl

/-- A program that makes only calls of attempts. -/
abbrev OfAttempt (p : WebhookProg Unit) : Prop :=
  Within (S := WebhookCalls) (fun o : WebhookOp => o.ofAttempt = true) (fun _ _ => True) p

theorem ofAttempt_guardAddress (env : WebhookEnv) (hostname : JsString) :
    OfAttempt (guardAddress env hostname) := by
  refine Within.ite (fun _ => .ret _) fun _ => ?_
  refine Within.bind (Within.settle (Within.perform (S := WebhookCalls) rfl)) fun found => ?_
  split
  · exact Within.throw _
  · exact Within.ret _

theorem ofAttempt_deliverWebhook (env : WebhookEnv) (job : WebhookJobData) (secret : JsString)
    (now : Millis) : OfAttempt (deliverWebhook env job secret now) := by
  refine Within.perform_bind (S := WebhookCalls) rfl fun status _ => ?_
  refine Within.perform_bind (S := WebhookCalls) rfl fun _ _ => ?_
  refine Within.ite (fun _ => Within.perform (S := WebhookCalls) rfl) fun _ => ?_
  exact Within.perform_bind (S := WebhookCalls) rfl fun _ _ => .throw _

theorem ofAttempt_attemptWebhook (env : WebhookEnv) (job : WebhookJobData) :
    OfAttempt (attemptWebhook env job) := by
  unfold attemptWebhook
  split
  · exact Within.throw _
  · refine Within.perform_bind (S := WebhookCalls) rfl fun now _ => ?_
    split
    · exact Within.ret _
    · exact Within.bind (ofAttempt_guardAddress env _) fun _ => ofAttempt_deliverWebhook env job _ now

theorem ofAttempt_preflightWebhook {found : Option WebhookRow}
    (h : found.any (·.exhausted env) = false) : OfAttempt (preflightWebhook env job found) := by
  cases found with
  | none => exact Within.ret _
  | some row =>
    cases hready : row.ready env with
    | true =>
      rw [preflightWebhook_of_ready hready]
      exact ofAttempt_attemptWebhook env job
    | false =>
      rw [preflightWebhook_of_neither hready h]
      exact Within.ret _

/-- A job looks its webhook up first. If it finds it exhausted, it makes one more call, which disables it;
otherwise it makes calls of an attempt. -/
theorem job_cases (hr : Runs handle (runWebhookJob env job) tr q) :
    (tr = [] ∧ ∃ k, q = .call (WebhookOp.findWebhook job.webhookId) k) ∨
    ∃ net s tr', tr = handle.event net s (.findWebhook job.webhookId) :: tr' ∧
      (((s.webhooks job.webhookId).any (·.exhausted env) = true ∧
        ((tr' = [] ∧ ∃ k, q = .call (WebhookOp.disable job.webhookId) k) ∨
          q.running = false ∧ ∃ net' s', tr' = [handle.event net' s' (.disable job.webhookId)])) ∨
      (s.webhooks job.webhookId).any (·.exhausted env) = false ∧ OfAttempt q ∧
        ∀ e ∈ tr', e.op.ofAttempt = true) := by
  rcases hr.call_cases with ⟨rfl, rfl⟩ | ⟨net, s, tr', rfl, hrest⟩
  · exact .inl ⟨rfl, _, rfl⟩
  · have hgo : Runs handle (preflightWebhook env job (s.webhooks job.webhookId)) tr' q := hrest
    refine .inr ⟨net, s, tr', rfl, ?_⟩
    cases hfirst : (s.webhooks job.webhookId).any (·.exhausted env) with
    | true =>
      obtain ⟨row, hrow, hmany⟩ := (Option.any_eq_true _ _).1 hfirst
      obtain ⟨k, hk, hend⟩ := @preflightWebhook_of_exhausted env job row hmany
      rw [hrow, hk] at hgo
      rcases hgo.call_cases with ⟨rfl, rfl⟩ | ⟨net', s', tr'', rfl, hrest'⟩
      · exact .inl ⟨rfl, .inl ⟨rfl, k, rfl⟩⟩
      · obtain ⟨r, hres⟩ := Prog.result?_of_ended (hend (handle net' s' (.disable job.webhookId)).1)
        obtain ⟨rfl, rfl⟩ := hrest'.ended hres
        exact .inl ⟨rfl, .inr ⟨hend _, net', s', rfl⟩⟩
    | false =>
      have hwithin := hgo.along (@ofAttempt_preflightWebhook env job _ hfirst) fun _ _ => trivial
      exact .inr ⟨rfl, hwithin.1, hwithin.2⟩

/-- A job that finds its webhook exhausted disables it, and does nothing else. -/
theorem disables_of_runs {e : WebhookCallEvent} (hr : Runs handle (runWebhookJob env job) tr q) (he : e ∈ tr)
    (hx : (e.op.found e.reply).any (·.exhausted env) = true) : statusOfRequest tr = none ∧
      (q.running = false → ∃ last ∈ tr.getLast?, ∀ row ∈ last.after.webhooks job.webhookId, row.isActive = false) := by
  rcases job_cases hr with ⟨rfl, -⟩ | ⟨net, s, tr', rfl, ⟨-, hdisables⟩ | ⟨hfirst, -, hattempt⟩⟩
  · cases he
  · rcases hdisables with ⟨rfl, k, rfl⟩ | ⟨-, net', s', rfl⟩
    · exact ⟨rfl, nofun⟩
    · refine ⟨rfl, fun _ => ⟨handle.event net' s' (.disable job.webhookId), rfl, fun row' hrow' => ?_⟩⟩
      obtain ⟨row, -, rfl⟩ := updateWebhook_row hrow'
      rw [if_pos rfl]
  · rcases List.mem_cons.1 he with rfl | he
    · have hfound : (s.webhooks job.webhookId).any (·.exhausted env) = true := hx
      rw [hfirst] at hfound
      cases hfound
    · rw [found_of_ofAttempt (hattempt e he)] at hx
      cases hx

/-- Every job that finds its webhook exhausted disables it. -/
theorem disabledByNext_of_run {ls : List WebhookLabel}
    (hr : (webhookJobs env).run (Pool.empty s) ls = some p) :
    DisabledByNext env p := by
  intro t ht e he hx
  obtain ⟨i, hruns⟩ := (System.traced_of_run hr).of_mem ht
  exact disables_of_runs hruns he hx

end pools

/-! ### Runs -/

section runs

variable {ls : List WebhookLabel} {p : WebhookPool}

/-- What is looked up since then is still what was there before. -/
theorem since_of_run (hr : (webhookJobs env).run (Pool.empty s) ls = some p) : System.Since WebhooksFrom p :=
  System.run_induction (I := System.Since WebhooksFrom) (fun _ _ _ hp h => hp.step h (fun _ _ => id)
    (fun _ _ _ hab hbc id hex => hab id (hbc id hex)) (webhooksFrom_step h)) hr (System.since_empty s)

/-- The counts of a run whose attempts come to their requests. -/
theorem count_of_run (hok : (webhookJobs env).Keeps ((webhookJobs env).Answers fun job _ => Deliverable env job)
    (Pool.empty s) ls) (hr : (webhookJobs env).run (Pool.empty s) ls = some p) {before row : WebhookRow}
    (hbefore : before ∈ s.webhooks id) (hrow : row ∈ p.store.webhooks id) :
    row.failureCount =
      ((webhookJobs env).endings (Pool.empty s) ls).foldl (countAttempt env id) before.failureCount := by
  have hcount := System.endings_induction (f := countAttempt env id) (b := before.failureCount)
    (R := fun n p => (webhookJobs env).Traced p ∧
      System.Events (fun job (e : WebhookCallEvent) => Deliverable env job e.op e.reply) p ∧
        ∀ row ∈ p.store.webhooks id, row.failureCount = n)
    (fun n p l p' hl hp h => by
      obtain ⟨htr, hev, hn⟩ := hp
      have htr' := htr.step h
      have hev' := System.Events.answers hl h hev
      exact ⟨htr', hev', fun row' => count_step h (staged_of_traced htr hev) (staged_of_traced htr' hev') hn⟩)
    hok hr ⟨System.traced_empty s, System.events_empty s, fun row' hrow' => by rw [Option.mem_unique hrow' hbefore]⟩
  exact hcount.2.2 row hrow

/-- The records of a run whose attempts come to their requests. -/
theorem recorded_of_run (hok : (webhookJobs env).Keeps ((webhookJobs env).Answers fun job _ => Deliverable env job)
    (Pool.empty s) ls) (hr : (webhookJobs env).run (Pool.empty s) ls = some p)
    (hex : (p.store.webhooks d.webhookId).isSome = true) :
    p.sum (leaves env d) ≤ p.store.deliveries.count d := by
  have hev : System.Events (fun job (e : WebhookCallEvent) => Deliverable env job e.op e.reply) p :=
    System.Keeps.induction (fun _ _ _ hl hp h => System.Events.answers hl h hp) hok hr (System.events_empty s)
  have hstaged := staged_of_traced (System.traced_of_run hr) hev
  have hkept : RecordsKept d p := System.run_induction (I := RecordsKept d)
    (fun _ _ _ hp h => recordsKept_step h hp) hr fun _ => Nat.zero_le _
  calc p.sum (leaves env d)
      ≤ p.weight (filing d) := List.sum_le_sum fun t ht =>
        leaves_le_filing (hstaged t ht) (fun e he => (since_of_run hr t ht e he).1) hex
    _ ≤ p.store.deliveries.count d := hkept hex

end runs

/-- In every run a webhook that failed too often is disabled by the next job that finds it so. In a run in
which every attempt comes to its request, every webhook counts its failed attempts since the last success and
has a record of every attempt. -/
theorem webhooks_accounted_for {ls : List WebhookLabel} {p : WebhookPool}
    (hr : (webhookJobs env).run (Pool.empty s) ls = some p) : DisabledByNext env p ∧
      ((webhookJobs env).Keeps ((webhookJobs env).Answers fun job _ => Deliverable env job) (Pool.empty s) ls →
        AccountedFor env s ((webhookJobs env).endings (Pool.empty s) ls) p) :=
  ⟨disabledByNext_of_run hr, fun hok => ⟨fun _ _ hbefore _ hrow => count_of_run hok hr hbefore hrow,
    fun _ hex => recorded_of_run hok hr hex⟩⟩

/-! ### A failing webhook -/

/-- A worker that disables a webhook after one failure. -/
def impatient : WebhookEnv := { publicOnly with autoDisableThreshold := 1 }

/-- A webhook that never failed. -/
def oneWebhook : WebhookStore where
  webhooks id := if id = [119] then some ⟨true, 0⟩ else none

/-- A job for that webhook. -/
def oneDelivery : WebhookJobData where
  webhookId := [119]
  url := [117]
  secret := [115]
  payload := ⟨[101], [116], [], none⟩

/-- A job that the network answers in one way. -/
def delivered (i calls : Nat) (net : Network) : List WebhookLabel :=
  .arrive oneDelivery :: List.replicate calls (.pick i (true, net))

/-- A server whose address is public and that always fails. -/
def failingServer : Network := ⟨some (js "93.184.216.34"), [⟨some (js "93.184.216.34"), .final 500⟩]⟩

theorem webhooks_accounted_for_failing :
    ∃ p, (webhookJobs impatient).run (Pool.empty oneWebhook)
        (delivered 0 6 failingServer ++ delivered 1 2 failingServer) = some p ∧ DisabledByNext impatient p ∧
      AccountedFor impatient oneWebhook ((webhookJobs impatient).endings (Pool.empty oneWebhook)
        (delivered 0 6 failingServer ++ delivered 1 2 failingServer)) p := by
  have hsome : ((webhookJobs impatient).run (Pool.empty oneWebhook)
      (delivered 0 6 failingServer ++ delivered 1 2 failingServer)).isSome = true := by decide +kernel
  have hok : (webhookJobs impatient).Keeps ((webhookJobs impatient).Answers fun job _ => Deliverable impatient job)
      (Pool.empty oneWebhook) (delivered 0 6 failingServer ++ delivered 1 2 failingServer) := by
        decide +kernel
  obtain ⟨p, hr⟩ := Option.isSome_iff_exists.1 hsome
  obtain ⟨hnext, haccounted⟩ := webhooks_accounted_for hr
  exact ⟨p, hr, hnext, haccounted hok⟩

/-- A server whose address is internal. -/
def internalServer : Network := ⟨some (js "169.254.169.254"), []⟩

/-- A webhook whose count has reached the threshold is active until the next job, and an attempt that ends at
an internal address is not counted. -/
theorem webhook_accounting_late :
    (∃ p, (webhookJobs impatient).run (Pool.empty oneWebhook) (delivered 0 6 failingServer) = some p ∧
      ¬DisabledAtOnce impatient p.store) ∧
    ∃ p, (webhookJobs impatient).run (Pool.empty oneWebhook) (delivered 0 3 internalServer) = some p ∧
      ¬AccountedFor impatient oneWebhook
        ((webhookJobs impatient).endings (Pool.empty oneWebhook) (delivered 0 3 internalServer)) p := by
  have hfailed : ((webhookJobs impatient).run (Pool.empty oneWebhook) (delivered 0 6 failingServer)).map
      (·.store.webhooks [119]) = some (some ⟨true, 1⟩) := by decide +kernel
  have hblocked : ((webhookJobs impatient).run (Pool.empty oneWebhook) (delivered 0 3 internalServer)).map
      (·.store.webhooks [119]) = some (some ⟨true, 0⟩) := by decide +kernel
  have hcount : ((webhookJobs impatient).endings (Pool.empty oneWebhook) (delivered 0 3 internalServer)).foldl
      (countAttempt impatient [119]) 0 = 1 := by decide +kernel
  obtain ⟨p, hr, hrow⟩ := Option.map_eq_some_iff.1 hfailed
  obtain ⟨p', hr', hrow'⟩ := Option.map_eq_some_iff.1 hblocked
  refine ⟨⟨p, hr, fun h => ?_⟩, p', hr', fun h => ?_⟩
  · cases h [119] _ hrow (Nat.le_refl 1)
  · have hzero := h.count [119] ⟨true, 0⟩ rfl _ hrow'
    rw [hcount] at hzero
    cases hzero

end HeraldGateway
