import HeraldGateway.Gateway.Gating
import HeraldGateway.Gateway.Proofs.FootprintProofs
import HeraldGateway.Gateway.Proofs.WorldProofs

/-!
# Gated content where what is read is admissible

The direct path checks the content and its template. The other producers check nothing and pass on what
they read, so a job is admissible if what its producer read was, and its template stayed approved since.
-/

namespace HeraldGateway

open Async

variable {env : Env} {c : Content} {s s' : World} {o : Op}

/-! ### What tasks add -/

/-- Nothing read so far lets the task add a job of that content. -/
def Unwarranted (task : Task) (c : Content) : Good
  | .templateFindFirst id protocolId, .ok found => (∀ status ∈ found, status = .approved) →
      c.Scanned → c.templateId = some id → c.protocolId ≠ protocolId
  | .subscriptionFindMany _, .ok targets => targets ≠ [] → task.broadcastContent ≠ some c
  | .scheduledFindOverdue _, .ok rows => ∀ r ∈ rows, truthy r.wallet = true → r.content ≠ c
  | .campaignFindUnique _, .ok found => ∀ k ∈ found, k.wallets ≠ [] → k.content ≠ c
  | _, _ => True

/-- No production job of that content is added. -/
def AddsNone (c : Content) : Allowed := fun o =>
  ∀ a ∈ o.added?, a.1.production = true → a.1.content ≠ c

theorem addsNone_enqueue {data : NotificationJobData}
    (h : data.production = true → data.content ≠ c) : AddsNone c (.enqueue data) := by
  rintro a ha
  obtain rfl := Option.some.inj ha
  exact h

/-- A task adds a production job that the scanner blocks or that names a template only after it read
something that lets it. -/
theorem adds_if_warranted (task : Task) (hc : c.Scanned → truthy c.templateId = true) :
    (task.code env).Within (AddsNone c) (Unwarranted task c) := by
  have hq : ∀ o : Op, o.quiet = true → AddsNone c o := fun o ho => by
    simp [AddsNone, added_of_quiet ho]
  have create : ∀ data, AddsNone c (.scheduledCreate data) := fun data => by simp [AddsNone, Op.added?]
  have notify : ∀ dto protocol, NotifyAdds env (AddsNone c) (Unwarranted task c) dto protocol := by
    refine fun dto protocol => ⟨fun _ _ => hq _ rfl, fun _ ht hv id => ?_, fun _ ht found hg happ hv id =>
      ?_, fun _ id contact => addsNone_enqueue nofun⟩
    · refine addsNone_enqueue fun _ heq => ?_
      subst heq
      have ht' : truthy dto.templateId = true := hc hv
      rw [ht] at ht'
      cases ht'
    · refine addsNone_enqueue fun _ heq => ?_
      subst heq
      obtain ⟨k, hk, -⟩ := truthy_eq_true.1 ht
      have hid : dto.templateId = some (dto.templateId.getD []) := by rw [hk]; rfl
      exact hg happ hv hid rfl
  have campaign : ∀ id, CampaignAdds env (AddsNone c) (Unwarranted task c) id :=
    fun id campaign hg wallet hw id => addsNone_enqueue fun _ =>
      hg campaign rfl (List.ne_nil_of_mem hw)
  refine within_code (fun o ho => hq o (quiet_of_plain ho)) ?_
  cases task with
  | notify dto protocol => exact notify dto protocol
  | notifyBatch dto protocol => exact fun _ _ => notify _ protocol
  | systemBroadcast dto protocol => exact fun _ => notify _ protocol
  | broadcast dto protocol =>
    exact fun targets hg target ht id => addsNone_enqueue fun _ heq =>
      hg (List.ne_nil_of_mem ht) (congrArg some heq)
  | scheduleOnce => exact fun _ _ => create _
  | scheduleRecurring => exact fun _ _ _ _ => create _
  | launchCampaign id | enqueueCampaign id => exact campaign id
  | reconcile =>
    refine ⟨fun _ _ _ _ _ _ _ => by simp [AddsNone, Op.added?],
      fun now overdue hg row hrow hw id a ha _ => ?_⟩
    obtain rfl := Option.some.inj ha
    exact hg row hrow hw
  | deliver => exact attempts_of_quiet hq
  | deliverDigest => exact fun _ _ _ _ _ _ => dispatches_of_quiet hq
  | _ => trivial

/-! ### What was read -/

/-- An approved template that a lookup found is approved in the store. -/
theorem approved_of_found {choice : Choice} {id protocolId : JsString}
    (h : (World.handle env choice s (.templateFindFirst id protocolId)).1 = .ok (some .approved)) :
    Approved s id protocolId := by
  rw [handle_ok h] at h
  exact Except.ok.inj h

/-- What lets a task add a job of that content was admissible when it was read. -/
theorem admissible_of_read {task : Task} {e : GatewayEvent}
    (he : ∃ choice s o, e = (gateway env).handler.event choice s o)
    (hread : ReadsAdmissible task e.before e.op e.reply) (h : ¬ Unwarranted task c e.op e.reply) :
    c.Admissible e.before := by
  obtain ⟨choice, s, o, rfl⟩ := he
  change ¬ Unwarranted task c o (World.handle env choice s o).1 at h
  change ReadsAdmissible task s o (World.handle env choice s o).1 at hread
  change c.Admissible s
  cases hrep : (World.handle env choice s o).1 with
  | error err =>
    rw [hrep] at h
    cases o <;> exact absurd trivial h
  | ok a =>
    rw [hrep] at h hread
    cases o with
    | templateFindFirst id protocolId =>
      simp only [Unwarranted, Classical.not_imp, not_not] at h
      obtain ⟨happ, hscan, hid, rfl⟩ := h
      refine ⟨hscan, fun _ => ?_⟩
      cases a with
      | none => exact absurd rfl hread
      | some status =>
        obtain rfl := happ status rfl
        rw [hid]
        exact approved_of_found hrep
    | subscriptionFindMany protocolId =>
      simp only [Unwarranted, Classical.not_imp, not_not] at h
      exact hread h.1 c h.2
    | scheduledFindOverdue now =>
      simp only [Unwarranted, not_forall, not_not] at h
      obtain ⟨r, hr, hw, rfl⟩ := h
      exact hread r hr hw
    | campaignFindUnique id =>
      simp only [Unwarranted, not_forall, not_not] at h
      obtain ⟨k, hk, hw, rfl⟩ := h
      exact hread k hk hw
    | _ => exact absurd trivial h

/-! ### Approvals -/

/-- Approvals are kept. -/
def KeepsApprovals (s s' : World) : Prop :=
  ∀ id protocolId, Approved s id protocolId → Approved s' id protocolId

theorem Content.Admissible.mono (h : KeepsApprovals s s') (hc : c.Admissible s) : c.Admissible s' :=
  ⟨hc.1, fun ht => h _ _ (hc.2 ht)⟩

theorem keepsApprovals_of_eq (h : s'.templates = s.templates) : KeepsApprovals s s' := by
  intro id protocolId happ
  unfold Approved
  rw [h]
  exact happ

/-- It is enough to keep the approvals of the templates there are. -/
theorem keepsApprovals_of_rows
    (h : ∀ t ∈ s.templates, Approved s t.id t.protocolId → Approved s' t.id t.protocolId) :
    KeepsApprovals s s' := by
  intro id protocolId happ
  obtain ⟨t, ht, -⟩ := Option.map_eq_some_iff.1 happ
  have hkey := List.find?_some ht
  simp only [Bool.and_eq_true, beq_iff_eq] at hkey
  obtain ⟨rfl, rfl⟩ := hkey
  exact h t (List.mem_of_find?_eq_some ht) happ

/-! ### Runs -/

variable {p p' : GatewayPool} {l : GatewayLabel} {ls : List GatewayLabel}

/-- What holds in every pool that a run reaches. -/
structure GatingInvariant (env : Env) (p : GatewayPool) : Prop where
  traced : (gateway env).Traced p
  reads : System.Events (fun task e => ReadsAdmissible task e.before e.op e.reply) p
  /-- No approval was taken back since a task under way read something. -/
  kept : ∀ t ∈ p.threads, t.prog.running = true → ∀ e ∈ t.trace, KeepsApprovals e.before p.store
  gated : AddsGated p

theorem gatingInvariant_empty (s : World) : GatingInvariant env (Pool.empty s) :=
  ⟨System.traced_empty s, System.events_empty s, fun _ ht => absurd ht List.not_mem_nil,
    fun _ ht => absurd ht List.not_mem_nil⟩

/-- While a task is under way, a step keeps approvals. -/
theorem keepsApprovals_step (hok : Gated env p l) (h : (gateway env).step p l = some p')
    (hrun : ∃ t ∈ p.threads, t.prog.running = true) : KeepsApprovals p.store p'.store := by
  rcases System.store_cases h with hstore | ⟨i, c, t, o, k, -, -, -, hstore⟩ | ⟨e, rfl, he⟩
  · exact keepsApprovals_of_eq (congrArg World.templates hstore)
  · rw [hstore]
    exact keepsApprovals_of_eq handle_untouched.templates
  · cases e with
    | configure w =>
      obtain hw := Option.some.inj he
      rw [← hw]
      exact keepsApprovals_of_rows (hok hrun)
    | completeAdd i =>
      obtain ⟨j, -, hs⟩ := Option.map_eq_some_iff.1 he
      rw [← hs]
      refine keepsApprovals_of_eq ?_
      simp only [World.addJob]
      split <;> rfl
    | tick | removeJob =>
      obtain hs := Option.some.inj he
      rw [← hs]
      exact keepsApprovals_of_eq rfl

theorem answers_of_gated (hok : Gated env p l) : (gateway env).Answers ReadsAdmissible p l := by
  cases l with
  | arrive | pick => exact hok
  | outside => trivial

/-- A task under way that is about to add a production job adds an admissible one. -/
theorem admissible_of_next (hp : GatingInvariant env p) {t : GatewayThread} {i : Nat}
    (ht : p.threads[i]? = some t) {k : Except Err o.Res → Gateway Answer} (hprog : t.prog = .call o k) :
    ∀ a ∈ o.added?, a.1.production = true → a.1.content.Admissible p.store := by
  intro a ha hprod
  by_cases hc : a.1.content.Scanned → truthy a.1.content.templateId = true
  · have hrun := hp.traced i t ht
    rw [hprog] at hrun
    obtain ⟨e, he, hw⟩ := hrun.exists_reply (adds_if_warranted t.request hc)
      fun hno => hno a ha hprod rfl
    have hmem := List.mem_of_getElem? ht
    exact (admissible_of_read (hrun.event e he) (hp.reads t hmem e he) hw).mono
      (hp.kept t hmem (by rw [hprog]; rfl) e he)
  · rw [Classical.not_imp] at hc
    exact ⟨hc.1, fun ht => absurd ht hc.2⟩

theorem gatingInvariant_step (hok : Gated env p l) (h : (gateway env).step p l = some p')
    (hp : GatingInvariant env p) : GatingInvariant env p' := by
  refine ⟨hp.traced.step h, System.Events.answers (answers_of_gated hok) h hp.reads, ?_, ?_⟩
  · intro t' ht' hrun e he
    obtain ⟨i, hi⟩ := List.mem_iff_getElem?.1 ht'
    rcases System.thread_cases h hi with ht | ⟨r, -, -, -, rfl⟩ | ⟨t, c, k, -, ht, hprog, hs, rfl⟩ |
      ⟨t, c, o, k, -, ht, hprog, hs, rfl⟩
    · have hmem := List.mem_of_getElem? ht
      exact fun id pid happ => keepsApprovals_step hok h ⟨t', hmem, hrun⟩ id pid
        (hp.kept t' hmem hrun e he id pid happ)
    · cases he
    · rw [hs]
      exact hp.kept t (List.mem_of_getElem? ht) (by rw [hprog]; rfl) e he
    · have hmem := List.mem_of_getElem? ht
      have hstep := keepsApprovals_step hok h ⟨t, hmem, by rw [hprog]; rfl⟩
      rcases List.mem_append.1 he with he | he
      · exact fun id pid happ => hstep id pid
          (hp.kept t hmem (by rw [hprog]; rfl) e he id pid happ)
      · rw [List.mem_singleton.1 he]
        exact hstep
  · exact System.Events.step (P := fun _ => AddsAdmissible) h hp.gated
      fun i c t o k _ ht hprog => admissible_of_next hp ht hprog

/-- Where producers read only admissible content, and no approval is taken back under way, every
production job is admissible when it is put on the queue. -/
theorem adds_gated (hok : (gateway env).Keeps (Gated env) (Pool.empty s) ls)
    (hr : (gateway env).run (Pool.empty s) ls = some p) : AddsGated p :=
  (System.Keeps.induction (fun _ _ _ hok hp h => gatingInvariant_step hok h hp) hok hr
    (gatingInvariant_empty s)).gated

/-! ### Runs that keep and break it -/

/-- An installation with a subscriber and an approved template. -/
def gatedWorld : World :=
  { World.blank with
    subscriptions := [⟨some (js "w"), js "w", js "p", [js "email"], true, 0⟩]
    templates := [⟨js "t", js "p", .approved⟩] }

/-- A broadcast with the protocol's template. -/
def templatedBroadcast : BroadcastDto where
  subject := js "Margin"
  body := js "Add collateral."
  templateId := some (js "t")

/-- A notify request with the protocol's template. -/
def templatedRequest : NotifyDto where
  wallet := js "w"
  subject := js "Margin"
  body := js "Add collateral."
  templateId := some (js "t")

/-- A protocol sends a notification and then broadcasts, both with its approved template. -/
def templatedSends : List GatewayLabel :=
  .arrive (.notify templatedRequest (client .production)) :: proceeds 0 4 ++
    .arrive (.broadcast templatedBroadcast (client .production)) :: proceeds 1 6

theorem adds_gated_templatedSends : ∃ p ∈ replayFrom gatedWorld templatedSends, AddsGated p := by
  obtain ⟨hsome, hok⟩ : (replayFrom gatedWorld templatedSends).isSome ∧
      (gateway Env.transparent).Keeps (Gated Env.transparent) (Pool.empty gatedWorld) templatedSends := by
    decide +kernel
  obtain ⟨p, hp⟩ := Option.isSome_iff_exists.1 hsome
  exact ⟨p, hp, adds_gated hok hp⟩

/-- A protocol asks all its subscribers for their secrets. -/
def phishing : List GatewayLabel :=
  .arrive (.broadcast
      { subject := js "Verify", body := js "Enter your password and seed phrase." }
      (client .production)) :: proceeds 0 6

/-- The broadcast is put on the queue, though the scanner blocks what it says. -/
theorem phishing_enqueued : ∃ p ∈ replayFrom gatedWorld phishing, ¬ AddsGated p := by decide +kernel

end HeraldGateway
