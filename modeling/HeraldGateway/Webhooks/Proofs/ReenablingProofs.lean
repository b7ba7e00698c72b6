import HeraldGateway.Async.Log
import HeraldGateway.Webhooks.Proofs.WorkerProofs
import Mathlib.Data.List.Infix

/-!
# Re-enabling webhooks

An owner switches a webhook on again that was off, by hand or because it failed too often. From then on it is
to be attempted, until as many deliveries in a row have failed as disable a webhook.
-/

namespace HeraldGateway

section

open Async

/-- The failures in a row that calls count for a webhook. -/
def failuresInRow (id : JsString) (calls : List (Nat × WebhookCallEvent)) : Nat :=
  calls.foldl (fun n x => x.2.op.counts id n) 0

/-- The webhook that a step re-enables: it is off, and its owner switches it on. -/
def reenabled? (p : WebhookPool) : WebhookLabel → Option JsString
  | .outside (.setActive id true) => if (p.store.webhooks id).any (!·.isActive) then some id else none
  | _ => none

/-- An owner switches a webhook off, or deletes it. -/
def ownerStops (id : JsString) : WebhookLabel → Bool
  | .outside (.setActive id' false) => id' == id
  | .outside (.delete id') => id' == id
  | _ => false

/-- The call disables a webhook. -/
def WebhookOp.disables (id : JsString) : WebhookOp → Bool
  | disable id' => id' == id
  | _ => false

/-- A program is about to disable a webhook. -/
def aboutToDisable (id : JsString) (q : WebhookProg Unit) : Bool := q.next?.any (WebhookOp.disables id)

/-- No failures are counted for a webhook, and no job is about to disable it. -/
def AtRest (id : JsString) (p : WebhookPool) : Prop :=
  (p.store.webhooks id).all (·.failureCount == 0) = true ∧
    p.threads.all (fun t => !aboutToDisable id t.prog) = true

/-- A webhook that is re-enabled is at rest. -/
def ReenabledAtRest (p : WebhookPool) (l : WebhookLabel) : Prop := ∀ id ∈ reenabled? p l, AtRest id p

instance (id : JsString) (p : WebhookPool) : Decidable (AtRest id p) := by unfold AtRest; infer_instance

instance (p : WebhookPool) (l : WebhookLabel) : Decidable (ReenabledAtRest p l) :=
  match h : reenabled? p l with
  | none => isTrue (by simp [ReenabledAtRest, h])
  | some id => decidable_of_iff (AtRest id p) (by simp [ReenabledAtRest, h])

/-- A webhook is ready for deliveries, and jobs for it that arrived from the `first`-th on attempted one. They
made a request if they could sign and address it. -/
structure AttemptedSince (env : WebhookEnv) (id : JsString) (first : Nat) (p : WebhookPool) : Prop where
  ready : (p.store.webhooks id).any (·.ready env) = true
  attempts : ∀ i t, first ≤ i → p.threads[i]? = some t → t.request.webhookId = id →
    t.prog.running = false → deliveryAttempted env t.trace = true ∧
      ((∀ e ∈ t.trace, Deliverable env t.request e.op e.reply) → (statusOfRequest t.trace).isSome = true)

/-- A webhook that is re-enabled in a run is attempted from then on, until its owner intervenes or as many
failures in a row have been counted as disable it. -/
def ReenablingWorks (env : WebhookEnv) (s : WebhookStore) (ls : List WebhookLabel) : Prop :=
  ∀ id before l after p₀ p₁ p, ls = before ++ l :: after →
    (webhookJobs env).run (Pool.empty s) before = some p₀ → (webhookJobs env).step p₀ l = some p₁ →
    (webhookJobs env).run p₁ after = some p → reenabled? p₀ l = some id →
    (∀ l' ∈ after, ownerStops id l' = false) →
    (∀ pre, pre <+: (webhookJobs env).log p₁ after → failuresInRow id pre < env.autoDisableThreshold) →
    AttemptedSince env id p₁.threads.length p

end

/-!
## When re-enabling works

A job disables a webhook only with its second call, after it found it exhausted. So where no failures are
left and no such job is on its way when a webhook is re-enabled, its count is that of the failures in a row
since then, and every job that looks it up before they are too many finds it ready.
-/

section

open Async WebhookStore

variable {env : WebhookEnv} {id : JsString} {first n : Nat} {p p' : WebhookPool} {l : WebhookLabel}
  {s s' : WebhookStore}

/-! ### Rows -/

theorem updateWebhook_mem {id' : JsString} {u : WebhookRow → WebhookRow} {row : WebhookRow}
    (h : s.webhooks id = some row) :
    (s.updateWebhook id' u).2.webhooks id = some (if id = id' then u row else row) := by
  unfold updateWebhook
  by_cases hid : id = id'
  · subst hid
    simp [h]
  · cases hother : s.webhooks id' with
    | none => simpa [hother, hid] using h
    | some other => simpa [hother, hid] using h

/-- A call that does not disable a webhook leaves it as active as it was, and counts. -/
theorem handle_keeps {net : Network} {o : WebhookOp} {row : WebhookRow} (h : s.webhooks id = some row)
    (ho : o.disables id = false) : ∃ row', (handle net s o).2.webhooks id = some row' ∧
      row'.isActive = row.isActive ∧ row'.failureCount = o.counts id row.failureCount := by
  cases o with
  | now | findWebhook | lookup | post => exact ⟨row, h, rfl, rfl⟩
  | createDelivery d =>
    refine ⟨row, ?_, rfl, rfl⟩
    simp only [handle, WebhookStore.createDelivery]
    split <;> exact h
  | disable id' =>
    have hid : id ≠ id' := fun heq => by simp [WebhookOp.disables, heq] at ho
    refine ⟨row, ?_, rfl, rfl⟩
    exact (updateWebhook_mem h).trans (by rw [if_neg hid])
  | recordSuccess id' | recordFailure id' =>
    refine ⟨_, updateWebhook_mem h, ?_⟩
    by_cases hid : id = id'
    · simp [hid, WebhookOp.counts]
    · simp [hid, WebhookOp.counts]

/-- Owners leave a webhook active that they neither switch off nor delete. -/
theorem outside_keeps {e : WebhookChange} {row : WebhookRow} (hs : e.apply s = some s')
    (h : s.webhooks id = some row) (hactive : row.isActive = true)
    (hoff : ownerStops id (.outside e) = false) : ∃ row', s'.webhooks id = some row' ∧
      row'.isActive = true ∧ row'.failureCount = row.failureCount := by
  cases e with
  | tick ms =>
    obtain rfl := Option.some.inj hs
    exact ⟨row, h, hactive, rfl⟩
  | setActive id' isActive =>
    obtain rfl := Option.some.inj hs
    refine ⟨_, updateWebhook_mem h, ?_⟩
    by_cases hid : id = id'
    · subst hid
      have hon : isActive = true := by
        cases isActive with
        | true => rfl
        | false => simp [ownerStops] at hoff
      simp [hon]
    · simp [hid, hactive]
  | delete id' =>
    obtain rfl := Option.some.inj hs
    have hid : id ≠ id' := fun heq => by simp [ownerStops, heq] at hoff
    exact ⟨row, (if_neg hid).trans h, hactive, rfl⟩

/-! ### Jobs -/

section jobs

variable {job : WebhookJobData} {tr : List WebhookCallEvent} {q : WebhookProg Unit}

/-- A job that is about to disable a webhook has just found it exhausted. -/
theorem found_of_aboutToDisable (hr : Runs handle (runWebhookJob env job) tr q)
    (h : aboutToDisable id q = true) : ∃ net s, tr = [handle.event net s (.findWebhook id)] ∧
      (s.webhooks id).any (·.exhausted env) = true := by
  rcases job_cases hr with ⟨-, k, rfl⟩ | ⟨net, s, tr', rfl, ⟨hfirst, hdisables⟩ | ⟨-, hattempt, -⟩⟩
  · cases h
  · rcases hdisables with ⟨rfl, k, rfl⟩ | ⟨hend, -⟩
    · have hid : job.webhookId = id := eq_of_beq h
      rw [← hid]
      exact ⟨net, s, rfl, hfirst⟩
    · obtain ⟨r, hres⟩ := Prog.result?_of_ended hend
      cases q with
      | ret | throw => cases h
      | choose | call => cases hres
  · cases q with
    | ret | throw | choose => cases h
    | call o k =>
      have ho : WebhookOp.ofAttempt o = true := hattempt.1
      have hdis : WebhookOp.disables id o = true := h
      cases o with
      | disable => cases ho
      | _ => cases hdis

/-- What the scheduler chooses does not lead to disabling a webhook. -/
theorem not_aboutToDisable_choose {k : Bool → WebhookProg Unit} {b : Bool}
    (hr : Runs handle (runWebhookJob env job) tr (.choose k)) : aboutToDisable id (k b) = false := by
  by_contra hdis
  obtain ⟨net, s, rfl, hmany⟩ := found_of_aboutToDisable (hr.choose b) (by simpa using hdis)
  rcases job_cases hr with ⟨hnil, -⟩ | ⟨net', s', tr', heq, ⟨-, hdisables⟩ | ⟨hnot, -⟩⟩
  · cases hnil
  · rcases hdisables with ⟨-, k', hq⟩ | ⟨hend, -⟩
    · cases hq
    · cases hend
  · have hfirst := (List.cons.inj heq).1
    have hop : (WebhookOp.findWebhook id) = .findWebhook job.webhookId :=
      congrArg (fun e : WebhookCallEvent => e.op) hfirst
    have hbefore : s = s' := congrArg (fun e : WebhookCallEvent => e.before) hfirst
    rw [← WebhookOp.findWebhook.inj hop, ← hbefore, hmany] at hnot
    cases hnot

/-- A job that has ended looked its webhook up. -/
theorem looked_up_of_ended (hr : Runs handle (runWebhookJob env job) tr q) (hend : q.running = false) :
    ∃ net s tr', tr = handle.event net s (.findWebhook job.webhookId) :: tr' := by
  rcases job_cases hr with ⟨-, k, rfl⟩ | ⟨net, s, tr', rfl, -⟩
  · cases hend
  · exact ⟨net, s, tr', rfl⟩

end jobs

/-! ### Steps -/

/-- A job looked up a webhook that was ready, if it was this one. -/
def LookedUpReady (env : WebhookEnv) (id : JsString) (job : WebhookJobData) (e : WebhookCallEvent) : Prop :=
  job.webhookId = id → e.op = .findWebhook id → (e.op.found e.reply).any (·.ready env) = true

/-- A webhook is active and has `n` failures counted, nobody is about to disable it, and the jobs that arrived
from the `first`-th on found it ready. -/
structure Enabled (env : WebhookEnv) (id : JsString) (first n : Nat) (p : WebhookPool) : Prop where
  row : ∃ row, p.store.webhooks id = some row ∧ row.isActive = true ∧ row.failureCount = n
  quiet : ∀ t ∈ p.threads, aboutToDisable id t.prog = false
  found : System.EventsFrom first (LookedUpReady env id) p

theorem Enabled.ready (h : Enabled env id first n p) (hfew : n < env.autoDisableThreshold) :
    (p.store.webhooks id).any (·.ready env) = true := by
  obtain ⟨row, hrow, hactive, hcount⟩ := h.row
  rw [hrow, Option.any_some, WebhookRow.ready, hactive, hcount, Bool.true_and, decide_eq_true hfew]

theorem Enabled.not_exhausted (h : Enabled env id first n p) (hfew : n < env.autoDisableThreshold) :
    (p.store.webhooks id).any (·.exhausted env) = false := by
  obtain ⟨row, hrow, hactive, hcount⟩ := h.row
  rw [hrow, Option.any_some, WebhookRow.exhausted, hactive, hcount, Bool.true_and,
    decide_eq_false (Nat.not_le.2 hfew)]

/-- What a step does to the row. -/
theorem enabled_row_step (h : (webhookJobs env).step p l = some p') (hp : Enabled env id first n p)
    (hoff : ownerStops id l = false) : ∃ row, p'.store.webhooks id = some row ∧ row.isActive = true ∧
      row.failureCount = ((webhookJobs env).answered? p l).toList.foldl (fun n x => x.2.op.counts id n) n := by
  obtain ⟨row, hrow, hactive, rfl⟩ := hp.row
  cases l with
  | arrive job =>
    obtain rfl := System.step_arrive h
    exact ⟨row, hrow, hactive, rfl⟩
  | outside e =>
    obtain ⟨s, hs, rfl⟩ := System.step_outside h
    exact outside_keeps hs hrow hactive hoff
  | pick i c =>
    obtain ⟨t, ht, ⟨k, hprog, rfl⟩ | ⟨o, k, hprog, rfl⟩⟩ := System.step_pick h
    · have hnone : (webhookJobs env).answered? p (.pick i c) = none := by
        simp [System.answered?, ht, hprog, Prog.next?]
      rw [hnone]
      exact ⟨row, hrow, hactive, rfl⟩
    · have hquiet := hp.quiet t (List.mem_of_getElem? ht)
      rw [hprog] at hquiet
      obtain ⟨row', hrow', hactive', hcount'⟩ := @handle_keeps _ _ c.2 _ _ hrow hquiet
      rw [System.answered_of_next ht hprog]
      exact ⟨row', hrow', hactive'.trans hactive, hcount'⟩

/-- A step leaves an enabled webhook enabled, as long as it has few failures and its owner does not
intervene. -/
theorem Enabled.step (htr : (webhookJobs env).Traced p) (hp : Enabled env id first n p)
    (hfew : n < env.autoDisableThreshold) (h : (webhookJobs env).step p l = some p')
    (hoff : ownerStops id l = false) :
    Enabled env id first
      (((webhookJobs env).answered? p l).toList.foldl (fun n x => x.2.op.counts id n) n) p' := by
  refine ⟨enabled_row_step h hp hoff, fun t' ht' => ?_, hp.found.step h ?_⟩
  · obtain ⟨i, hi⟩ := List.mem_iff_getElem?.1 ht'
    rcases System.thread_cases h hi with ht | ⟨r, -, -, -, rfl⟩ | ⟨t, c, k, -, ht, hprog, -, rfl⟩ |
      ⟨t, c, o, k, -, ht, hprog, -, rfl⟩
    · exact hp.quiet t' (List.mem_of_getElem? ht)
    · rfl
    · have hr := htr i t ht
      rw [hprog] at hr
      exact not_aboutToDisable_choose hr
    · by_contra hdis
      have hr := htr i t ht
      rw [hprog] at hr
      obtain ⟨net, s, htrace, hmany⟩ := found_of_aboutToDisable
        (show Runs handle (runWebhookJob env t.request) (t.trace ++ [handle.event c.2 p.store o])
          (k (handle c.2 p.store o).1) from hr.call c.2 p.store) (Bool.eq_true_of_not_eq_false hdis)
      obtain ⟨-, hlast⟩ := @List.append_inj' _ t.trace _ [] _ htrace rfl
      have hbefore : p.store = s :=
        congrArg (fun e : WebhookCallEvent => e.before) (List.singleton_inj.1 hlast)
      rw [← hbefore, hp.not_exhausted hfew] at hmany
      cases hmany
  · intro i c t o k hi hl ht hprog hid hop
    have hfind : o = .findWebhook id := hop
    subst hfind
    exact hp.ready hfew

/-! ### Runs -/

/-- A run leaves an enabled webhook enabled that never has too many failures in a row. -/
theorem Enabled.run {ls : List WebhookLabel} (htr : (webhookJobs env).Traced p)
    (hp : Enabled env id first n p) (hoff : ∀ l ∈ ls, ownerStops id l = false)
    (hfew : ∀ pre, pre <+: (webhookJobs env).log p ls →
      pre.foldl (fun n x => x.2.op.counts id n) n < env.autoDisableThreshold)
    (hr : (webhookJobs env).run p ls = some p') :
    Enabled env id first (((webhookJobs env).log p ls).foldl (fun n x => x.2.op.counts id n) n) p' := by
  induction ls generalizing p n with
  | nil =>
    obtain rfl := Option.some.inj hr
    exact hp
  | cons l ls ih =>
    obtain ⟨p₁, hs, hr'⟩ := Option.bind_eq_some_iff.1 hr
    have hlog : (webhookJobs env).log p (l :: ls) =
        ((webhookJobs env).answered? p l).toList ++ (webhookJobs env).log p₁ ls := System.log_cons hs
    have hstep := hp.step htr (hfew [] List.nil_prefix) hs (hoff l List.mem_cons_self)
    rw [hlog, List.foldl_append]
    refine ih (htr.step hs) hstep (fun l' hl' => hoff l' (List.mem_cons_of_mem l hl')) (fun pre hpre => ?_) hr'
    rw [← List.foldl_append]
    refine hfew _ ?_
    rw [hlog]
    exact (List.prefix_append_right_inj _).2 hpre

theorem reenabled_cases (h : reenabled? p l = some id) :
    l = .outside (.setActive id true) ∧ ∃ row, p.store.webhooks id = some row := by
  unfold reenabled? at h
  split at h
  · split at h
    · next hinactive =>
      obtain rfl := Option.some.inj h
      obtain ⟨row, hrow, -⟩ := (Option.any_eq_true _ _).1 hinactive
      exact ⟨rfl, row, hrow⟩
    · cases h
  · cases h

/-- A webhook at rest that is re-enabled is enabled. -/
theorem enabled_of_reenabled (h : (webhookJobs env).step p l = some p') (hl : reenabled? p l = some id)
    (hrest : AtRest id p) : Enabled env id p'.threads.length 0 p' := by
  obtain ⟨rfl, row, hrow⟩ := reenabled_cases hl
  obtain ⟨s, hs, rfl⟩ := System.step_outside h
  obtain rfl := Option.some.inj hs
  obtain ⟨hzero, hquiet⟩ := hrest
  rw [hrow, Option.all_some, beq_iff_eq] at hzero
  refine ⟨⟨_, updateWebhook_mem hrow, by simp, by simpa using hzero⟩, fun t ht => ?_, System.eventsFrom_length⟩
  simpa using List.all_eq_true.1 hquiet t ht

/-- A job that has ended and found its webhook ready attempted a delivery. -/
theorem attempted_of_enabled (htr : (webhookJobs env).Traced p) (hp : Enabled env id first n p)
    (hfew : n < env.autoDisableThreshold) : AttemptedSince env id first p := by
  refine ⟨hp.ready hfew, fun i t hi ht hid hend => ?_⟩
  have hr : Runs handle (runWebhookJob env t.request) t.trace t.prog := htr i t ht
  obtain ⟨net, s, tr', htrace⟩ := looked_up_of_ended hr hend
  have hmem : handle.event net s (.findWebhook t.request.webhookId) ∈ t.trace := by
    rw [htrace]
    exact List.mem_cons_self
  have hattempted : deliveryAttempted env t.trace = true :=
    List.any_eq_true.2 ⟨_, hmem, hp.found i t hi ht _ hmem hid (congrArg WebhookOp.findWebhook hid)⟩
  refine ⟨hattempted, fun hd => ?_⟩
  obtain ⟨status, hs, -⟩ := (stage_of_runs hd hr).ended_cases hend hattempted
  rw [hs]
  rfl

/-- In every run in which re-enabled webhooks have no failures counted and no job about to disable them,
re-enabling works. -/
theorem reenabling_works (env : WebhookEnv) (s : WebhookStore) {ls : List WebhookLabel}
    (hok : (webhookJobs env).Keeps ReenabledAtRest (Pool.empty s) ls) : ReenablingWorks env s ls := by
  rintro id before l after p₀ p₁ p rfl hbefore hstep hafter hl hoff hfew
  have hrest : AtRest id p₀ := hok.at_step hbefore id hl
  have htr := (System.traced_of_run hbefore).step hstep
  have henabled := enabled_of_reenabled hstep hl hrest
  have hend := henabled.run htr hoff hfew hafter
  have htraced : (webhookJobs env).Traced p :=
    System.run_induction (fun _ _ _ hp h => System.Traced.step h hp) hafter htr
  exact attempted_of_enabled htraced hend (hfew _ List.prefix_rfl)

/-! ### Runs -/

/-- An owner switches a webhook. -/
def switched (isActive : Bool) : WebhookLabel := .outside (.setActive [119] isActive)

theorem reenabling_works_switched : ReenablingWorks impatient oneWebhook
    ([switched false] ++ switched true :: delivered 0 6 failingServer) := by
  refine reenabling_works impatient oneWebhook ?_
  decide +kernel

/-- A webhook that was disabled for one failure is disabled again by the first job after its owner switched
it on. -/
theorem disabled_once_more : ¬ReenablingWorks impatient oneWebhook
    ((delivered 0 6 failingServer ++ delivered 1 2 failingServer) ++
      switched true :: delivered 2 2 failingServer) := by
  intro h
  have hrun : (do
      let p₀ ← (webhookJobs impatient).run (Pool.empty oneWebhook)
        (delivered 0 6 failingServer ++ delivered 1 2 failingServer)
      let p₁ ← (webhookJobs impatient).step p₀ (switched true)
      let p ← (webhookJobs impatient).run p₁ (delivered 2 2 failingServer)
      return reenabled? p₀ (switched true) == some [119] &&
        ((webhookJobs impatient).log p₁ (delivered 2 2 failingServer)).inits.all
          (fun pre => failuresInRow [119] pre < 1) &&
        p.store.webhooks [119] == some ⟨false, 1⟩) = some true := by decide +kernel
  obtain ⟨p₀, hbefore, hrun⟩ := Option.bind_eq_some_iff.1 hrun
  obtain ⟨p₁, hstep, hrun⟩ := Option.bind_eq_some_iff.1 hrun
  obtain ⟨p, hafter, hfacts⟩ := Option.bind_eq_some_iff.1 hrun
  obtain ⟨⟨hl, hfew⟩, hrow⟩ : (reenabled? p₀ (switched true) = some [119] ∧
      ∀ pre, pre <+: (webhookJobs impatient).log p₁ (delivered 2 2 failingServer) →
        failuresInRow [119] pre < 1) ∧ p.store.webhooks [119] = some ⟨false, 1⟩ := by
    simpa [List.mem_inits] using hfacts
  have hready := (h [119] _ _ _ p₀ p₁ p rfl hbefore hstep hafter hl
    (fun l hl => by revert l; decide) hfew).ready
  rw [hrow] at hready
  cases hready

end

end HeraldGateway
