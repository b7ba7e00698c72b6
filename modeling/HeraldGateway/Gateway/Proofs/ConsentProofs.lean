import HeraldGateway.Gateway.Consent
import HeraldGateway.Gateway.Proofs.FootprintProofs
import HeraldGateway.Gateway.Proofs.WorldProofs
import HeraldGateway.Async.Budget

/-!
# Consent where those who opted out have no contacts

The production path reads no opt-in flag: an attempt dispatches as soon as a contact was decrypted. So
consent is respected where the identities that opted out have no contact that decrypts.
-/

namespace HeraldGateway

open Async

variable {env : Env} {job : NotificationJobData}

/-! ### What an attempt calls -/

/-- No contact was decrypted. -/
def NoContact : Good
  | .decryptAllChannels _, .ok channels => channels.hasAny = false
  | _, _ => True

/-- An attempt dispatches only after it decrypted a contact. -/
theorem dispatches_if_contact (hj : job.production = true) :
    ((Task.deliver job).code env).Within (fun o => o.dispatches = false) NoContact := by
  have hp : ∀ o : Op, o.plain = true → o.dispatches = false := fun o ho => by
    cases o with
    | protocolAssetFindMany => cases ho
    | _ => rfl
  refine within_code hp ⟨fun _ => rfl, rfl, fun _ => rfl, fun _ _ => rfl, fun hs => ?_,
    fun _ _ channels hg hany => ?_⟩
  · rw [hj] at hs
    cases hs
  · rw [show channels.hasAny = false from hg] at hany
    cases hany

/-- Whether a call hands an identity to the enclave. -/
def Op.decrypts (o : Op) : Nat := if o.resolved?.isSome then 1 else 0

/-- An attempt hands at most one identity to the enclave. -/
theorem decrypts_once (hj : job.production = true) :
    Budget Op.decrypts 1 ((Task.deliver job).code env) := by
  have hp : ∀ o : Op, o.routine = true → o.decrypts = 0 := fun o ho => by
    cases o with
    | decryptAllChannels => cases ho
    | _ => rfl
  have hs : ∀ u, Op.decrypts (.notificationUpdate job.notificationId u) = 0 := fun _ => rfl
  have deliver : ∀ identity channels, Gateway.Within (fun o => o.decrypts = 0) (fun _ _ => True)
      (deliverDecrypted env job identity channels) := fun identity channels =>
    within_deliverDecrypted hp hs rfl identity ⟨rfl, fun _ _ => rfl, fun _ _ _ _ => rfl, fun _ _ => rfl, fun _ => rfl⟩
  have resolve : Budget Op.decrypts 1 (resolveAndDeliver env job) := by
    refine Budget.free_bind (within_resolveIdentity (of_untold hp) _) fun identity => ?_
    cases identity with
    | none => exact Budget.of_within (within_recordUnregistered hp fun u _ => hs u)
    | some identity =>
      refine Budget.bind_free (Budget.perform le_rfl) fun channels => Within.ite (fun _ => ?_) fun _ => ?_
      · exact within_call (hs _)
      · exact deliver identity channels
  refine Budget.bind_free ?_ fun _ => .ret _
  refine Budget.free_bind (within_call (hp _ rfl)) fun now => ?_
  refine Budget.free_bind (within_call (hs _)) fun _ => ?_
  rw [if_pos hj]
  refine Budget.tryCatch_free (Budget.ite (fun _ => ?_) fun _ => resolve) fun e =>
    within_recordError hp (fun u _ => hs u) e
  exact Budget.of_within (within_bufferJob hp (fun u _ => hs u) fun _ => rfl)

/-! ### Runs -/

variable {p₁ p p' p₂ : GatewayPool} {s : World} {l : GatewayLabel} {ls₁ ls₂ : List GatewayLabel}

/-- Whoever an attempt decrypts a contact of did not unsubscribe in `p₁` and did not opt out. -/
def Consents (p₁ : GatewayPool) (task : Task) : Good
  | .decryptAllChannels identity, .ok channels => ∀ job ∈ task.job?, job.production = true →
      channels.hasAny = true → (∀ u ∈ p₁.threads, ¬ Unsubscribes u job) ∧ ¬ OptedOut identity job.category
  | _, _ => True

theorem consents_reply {i : Nat} {c : Bool × Choice} {t : GatewayThread} {o : Op}
    {k : Except Err o.Res → Gateway Answer} (hok : ReachesConsenting env p₁ p (.pick i c))
    (hi : p₁.threads.length ≤ i) (ht : p.threads[i]? = some t) (hprog : t.prog = .call o k) :
    Consents p₁ t.request o (World.handle env c.2 p.store o).1 := by
  cases hrep : (World.handle env c.2 p.store o).1 with
  | error e => cases o <;> trivial
  | ok a =>
    cases o with
    | decryptAllChannels identity =>
      have hnone : c.2.fault = .none := by
        cases hf : c.2.fault with
        | none => rfl
        | refused | unheard | stalled =>
          simp only [World.handle, World.meet, hf] at hrep
          cases hrep
      rw [handle_ok hrep] at hrep
      obtain rfl := Except.ok.inj hrep
      exact fun job hjob hj hany => hok hi hnone t ht job hjob hj _ (by rw [hprog]; rfl) identity rfl hany
    | _ => trivial

theorem consents_step (hok : ReachesConsenting env p₁ p l) (h : (gateway env).step p l = some p')
    (hp : System.EventsFrom p₁.threads.length (fun task e => Consents p₁ task e.op e.reply) p) :
    System.EventsFrom p₁.threads.length (fun task e => Consents p₁ task e.op e.reply) p' := by
  refine hp.step h ?_
  rintro i c t o k hi rfl ht hprog
  exact consents_reply hok hi ht hprog

/-- An attempt that decrypts contacts only of those who consent respects consent. -/
theorem consent_of_trace {t : GatewayThread}
    (hr : Runs (gateway env).handler (t.request.code env) t.trace t.prog) (hjob : job ∈ t.request.job?)
    (hj : job.production = true) (hd : ∃ e ∈ t.trace, e.op.dispatches = true)
    (hc : ∀ e ∈ t.trace, Consents p₁ t.request e.op e.reply) :
    (∀ u ∈ p₁.threads, ¬ Unsubscribes u job) ∧
      ∀ e ∈ t.trace, ∀ identity ∈ e.op.resolved?, ¬ OptedOut identity job.category := by
  have htask : t.request = .deliver job := by
    cases ht : t.request with
    | deliver job' =>
      rw [ht] at hjob
      obtain rfl := Option.some.inj hjob
      rfl
    | _ =>
      rw [ht] at hjob
      cases hjob
  rw [htask] at hr
  obtain ⟨e, he, hdisp⟩ := hd
  obtain ⟨e₁, he₁, hcontact⟩ := hr.exists_reply_of_mem (dispatches_if_contact hj) he (by simp [hdisp])
  have honce := (hr.budget (decrypts_once hj)).1
  have hcons := hc e₁ he₁
  -- the identity whose contact was decrypted is the only one that was handed to the enclave
  obtain ⟨c, s, o, rep, s'⟩ := e₁
  cases o with
  | decryptAllChannels identity =>
    cases rep with
    | error err => exact absurd trivial hcontact
    | ok channels =>
      have hany : channels.hasAny = true := Bool.not_eq_false _ ▸ hcontact
      obtain ⟨hunsub, hopt⟩ := hcons job hjob hj hany
      refine ⟨hunsub, fun e₂ he₂ identity₂ hid => ?_⟩
      obtain rfl := eq_of_traceCost honce he₁ he₂ Nat.zero_lt_one (by
        rw [Op.decrypts, show e₂.op.resolved? = some identity₂ from hid]
        exact Nat.zero_lt_one)
      obtain rfl := Option.some.inj hid
      exact hopt
  | _ => exact absurd trivial hcontact

/-- Where those who unsubscribed or opted out have no contact that decrypts, consent is respected. -/
theorem consent_respected (hr₁ : (gateway env).run (Pool.empty s) ls₁ = some p₁)
    (hok : (gateway env).Keeps (ReachesConsenting env p₁) p₁ ls₂)
    (hr₂ : (gateway env).run p₁ ls₂ = some p₂) : ConsentRespected p₁ p₂ := by
  have hI : (gateway env).Traced p₂ ∧
      System.EventsFrom p₁.threads.length (fun task e => Consents p₁ task e.op e.reply) p₂ :=
    System.Keeps.induction (I := fun p => (gateway env).Traced p ∧
        System.EventsFrom p₁.threads.length (fun task e => Consents p₁ task e.op e.reply) p)
      (fun p l p' hok hp h => ⟨hp.1.step h, consents_step hok h hp.2⟩) hok hr₂
      ⟨System.traced_of_run hr₁, System.eventsFrom_length⟩
  intro t ht job hjob hj hd
  obtain ⟨j, hjth⟩ := List.mem_iff_getElem?.1 ht
  rw [List.getElem?_drop] at hjth
  exact consent_of_trace (hI.1 _ t hjth) hjob hj hd (hI.2 _ t (Nat.le_add_right _ _) hjth)

/-! ### Runs that keep and break it -/

/-- The portal user of a wallet, who opted in to everything. -/
def portalUser (walletHash : JsString) : PortalUser := ⟨walletHash, none, true, true, true, true, 0⟩

/-- An installation in which everybody but `w` opted out, and has no channel. -/
def consentWorld : World :=
  { World.blank with
    portalUsers := [portalUser (js "v"), portalUser (js "w")]
    chain := fun wallet =>
      if wallet = js "w" then some recipient
      else some { recipient with owner := wallet, optInAll := false, channelEmail := false } }

/-- A notify request to a wallet. -/
def requestTo (wallet : JsString) : NotifyDto where
  wallet := wallet
  subject := js "Margin"
  body := js "Add collateral."

/-- Its job, if it is the `n`-th request. -/
def jobTo (n : Nat) (wallet : JsString) : NotificationJobData :=
  productionJob Env.transparent (.uuid n) (requestTo wallet) (client .production)

/-- Requests to two wallets, of which `v` then unsubscribes. -/
def otherUnsubscribed : List GatewayLabel :=
  .arrive (.notify (requestTo (js "w")) (client .production)) :: proceeds 0 3 ++
    .arrive (.notify (requestTo (js "v")) (client .production)) :: proceeds 1 3 ++
    .arrive (.unsubscribe (js "v.v")) :: proceeds 2 5

/-- Workers attempt both. -/
def bothDelivered : List GatewayLabel :=
  .arrive (.deliver (jobTo 0 (js "w"))) :: proceeds 3 24 ++
    .arrive (.deliver (jobTo 1 (js "v"))) :: proceeds 4 7

theorem consent_respected_bothDelivered :
    ∃ p₁ ∈ replayFrom consentWorld otherUnsubscribed,
      ∃ p₂ ∈ (gateway Env.transparent).run p₁ bothDelivered, ConsentRespected p₁ p₂ := by
  obtain ⟨p₁, h₁, hok, hsome⟩ : ∃ p ∈ replayFrom consentWorld otherUnsubscribed,
      (gateway Env.transparent).Keeps (ReachesConsenting Env.transparent p) p bothDelivered ∧
        ((gateway Env.transparent).run p bothDelivered).isSome := by decide +kernel
  obtain ⟨p₂, h₂⟩ := Option.isSome_iff_exists.1 hsome
  exact ⟨p₁, h₁, p₂, h₂, consent_respected h₁ hok h₂⟩

/-- An installation in which everybody opted out, and still has an email channel. -/
def optedOutWorld : World :=
  { World.blank with chain := fun _ => some { recipient with optInAll := false } }

/-- A request to a wallet. -/
def requested : List GatewayLabel :=
  .arrive (.notify (requestTo (js "w")) (client .production)) :: proceeds 0 3

/-- The job of a wallet that opted out is dispatched, and so is that of a wallet that unsubscribed before
the worker took it up. -/
theorem optedOut_dispatched :
    (∃ p₁ ∈ replayFrom optedOutWorld requested,
      let delivered : List GatewayLabel := .arrive (.deliver (jobTo 0 (js "w"))) :: proceeds 1 24
      (gateway Env.transparent).Keeps Legal p₁ delivered ∧
        ∃ p₂ ∈ (gateway Env.transparent).run p₁ delivered, ¬ ConsentRespected p₁ p₂) ∧
    ∃ p₁ ∈ replayFrom consentWorld (requested ++ .arrive (.unsubscribe (js "w.w")) :: proceeds 1 5),
      let delivered : List GatewayLabel := .arrive (.deliver (jobTo 0 (js "w"))) :: proceeds 2 24
      (gateway Env.transparent).Keeps Legal p₁ delivered ∧
        ∃ p₂ ∈ (gateway Env.transparent).run p₁ delivered, ¬ ConsentRespected p₁ p₂ := by
  decide +kernel

end HeraldGateway
