import HeraldGateway.Gateway.Consent
import HeraldGateway.Gateway.Proofs.FootprintProofs
import HeraldGateway.Gateway.Proofs.WorldProofs

/-!
# Suppression where deliveries leave it alone

The dispatcher looks the suppression up before it sends an email, so as long as the row stays there is no
email. The mail worker deletes the row before it dispatches, and a digest is dispatched under a job whose
wallet nobody knows.
-/

namespace HeraldGateway

open Async

variable {env : Env} {walletHash : JsString} {s s' : World}

/-! ### What attempts call -/

/-- The suppression of the wallet is found, and digests have no address. -/
def Shields (walletHash : JsString) (task : Task) : Good
  | .suppressionFindUnique h, .ok found => h = walletHash → found ≠ none
  | .decryptAllChannels _, .ok channels => task.isDigest = true → truthy channels.email = false
  | _, _ => True

/-- An attempt to deliver to a shielded wallet sends no email. -/
theorem mails_none {task : Task} (hw : walletHash ≠ []) (hd : task.deliversTo walletHash = true) :
    (task.code env).Within (fun o => o.mails = false) (Shields walletHash task) := by
  have hp : ∀ o : Op, o.plain = true → o.mails = false := fun o ho => by
    cases o with
    | sendEmail => cases ho
    | _ => rfl
  refine within_code hp ?_
  cases task with
  | deliver job =>
    have hj : job.walletHash = some walletHash := eq_of_beq hd
    have dispatches : ∀ channels, Dispatches (fun o => o.mails = false)
        (Shields walletHash (.deliver job)) channels job := by
      refine fun channels => ⟨rfl, fun _ _ => rfl, fun _ hclear => ?_, fun _ _ => rfl, fun _ => rfl⟩
      rw [hj] at hclear
      rcases hclear with hnone | hclear
      · rw [truthy_eq_true.2 ⟨walletHash, rfl, hw⟩] at hnone
        cases hnone
      · exact absurd rfl (hclear rfl)
    exact ⟨fun _ => rfl, rfl, fun _ => rfl, fun _ _ => rfl, fun _ => dispatches _,
      fun _ _ channels _ _ => dispatches channels⟩
  | deliverDigest data =>
    refine fun identity channels job hg _ _ => ⟨rfl, fun _ _ => rfl, fun hmail => ?_, fun _ _ => rfl, fun _ => rfl⟩
    rw [hg rfl] at hmail
    cases hmail
  | _ => cases hd

/-! ### Rows -/

theorem suppressed_upsert {new : EmailSuppression} {rows : List EmailSuppression}
    (h : rows.any (·.walletHash == walletHash) = true) :
    (upsertSuppression new rows).any (·.walletHash == walletHash) = true := by
  unfold upsertSuppression
  split
  · obtain ⟨r, hr, hw⟩ := List.any_eq_true.1 h
    refine List.any_eq_true.2 ⟨_, List.mem_map.2 ⟨r, hr, rfl⟩, ?_⟩
    split
    · exact hw
    · exact hw
  · rw [List.any_append, h, Bool.true_or]

theorem suppressed_filter {h : JsString} {rows : List EmailSuppression} (hne : walletHash ≠ h)
    (hs : rows.any (·.walletHash == walletHash) = true) :
    (rows.filter (·.walletHash != h)).any (·.walletHash == walletHash) = true := by
  obtain ⟨r, hr, hw⟩ := List.any_eq_true.1 hs
  refine List.any_eq_true.2 ⟨r, List.mem_filter.2 ⟨hr, ?_⟩, hw⟩
  rw [eq_of_beq hw]
  exact bne_iff_ne.2 hne

/-- A call keeps the suppression of a wallet, unless it deletes it. -/
theorem suppressed_handle {c : Choice} {o : Op}
    (ho : ∀ h, o = .suppressionDeleteMany h → c.fault.applies = true → walletHash ≠ h)
    (hs : s.suppressed walletHash = true) :
    (World.handle env c s o).2.suppressed walletHash = true := by
  by_cases ht : o.table = .suppressions
  · cases o with
    | suppressionUpsert h reason n =>
      exact handle_rel (R := fun s s' => s.suppressed walletHash = true →
        s'.suppressed walletHash = true) id suppressed_upsert (fun _ => id) hs
    | suppressionDeleteMany h =>
      have hne := ho h rfl
      simp only [World.handle, World.meet]
      cases hf : c.fault with
      | none | unheard =>
        rw [hf] at hne
        exact suppressed_filter (hne rfl) hs
      | refused | stalled => exact hs
    | _ => cases ht
  · unfold World.suppressed
    rw [handle_untouched.suppressions ht]
    exact hs

/-- The suppression of a suppressed wallet is found. -/
theorem found_of_suppressed {c : Choice} {found : Option EmailSuppression}
    (h : (World.handle env c s (.suppressionFindUnique walletHash)).1 = .ok found)
    (hs : s.suppressed walletHash = true) : found ≠ none := by
  rw [handle_ok h] at h
  obtain rfl := Except.ok.inj h
  intro hnone
  rw [List.find?_eq_none] at hnone
  obtain ⟨r, hr, hw⟩ := List.any_eq_true.1 hs
  exact hnone r hr hw

/-! ### Runs -/

variable {p₁ p p' p₂ : GatewayPool} {l : GatewayLabel} {ls₁ ls₂ : List GatewayLabel}

/-- What holds in every pool that a run reaches from one in which a wallet is suppressed. -/
structure SuppressionInvariant (env : Env) (walletHash : JsString) (p₁ p : GatewayPool) : Prop where
  traced : (gateway env).Traced p
  suppressed : p.store.suppressed walletHash = true
  shields : System.EventsFrom p₁.threads.length (fun task e =>
    task.deliversTo walletHash = true → Shields walletHash task e.op e.reply) p

theorem suppressed_step (h₁ : p₁.store.suppressed walletHash = true) (hok : LeavesSuppressed env p₁ p l)
    (h : (gateway env).step p l = some p') (hs : p.store.suppressed walletHash = true) :
    p'.store.suppressed walletHash = true := by
  rcases System.store_cases h with hstore | ⟨i, c, t, o, k, rfl, ht, hprog, hstore⟩ | ⟨e, -, he⟩
  · rw [hstore]
    exact hs
  · rw [hstore]
    refine suppressed_handle ?_ hs
    rintro h rfl happ rfl
    have hclear : p₁.store.suppressed walletHash = false :=
      hok t ht (.suppressionDeleteMany walletHash) (by rw [hprog]; rfl) happ
    rw [h₁] at hclear
    cases hclear
  · unfold World.suppressed at hs ⊢
    rwa [(change_ownTables he).suppressions]

/-- The reply to an attempt that arrived since shields the wallet it delivers to. -/
theorem shields_reply {i : Nat} {c : Bool × Choice} {t : GatewayThread} {o : Op}
    {k : Except Err o.Res → Gateway Answer} (h₁ : p₁.store.suppressed walletHash = true)
    (hs : p.store.suppressed walletHash = true) (hok : LeavesSuppressed env p₁ p (.pick i c))
    (hi : p₁.threads.length ≤ i) (ht : p.threads[i]? = some t) (hprog : t.prog = .call o k)
    (hd : t.request.deliversTo walletHash = true) :
    Shields walletHash t.request o (World.handle env c.2 p.store o).1 := by
  have hclears := hok t ht o (by rw [hprog]; rfl)
  cases hrep : (World.handle env c.2 p.store o).1 with
  | error e => cases o <;> trivial
  | ok a =>
    cases o with
    | suppressionFindUnique h =>
      rintro rfl
      exact found_of_suppressed hrep hs
    | decryptAllChannels identity =>
      intro hdigest
      obtain ⟨r, hr, hw⟩ := List.any_eq_true.1 h₁
      have hmatch : ∃ r ∈ p₁.store.suppressions, t.request.deliversTo r.walletHash = true :=
        ⟨r, hr, by rw [eq_of_beq hw]; exact hd⟩
      have hnone : c.2.fault = .none := by
        cases hf : c.2.fault with
        | none => rfl
        | refused | unheard | stalled =>
          simp only [World.handle, World.meet, hf] at hrep
          cases hrep
      have hval := handle_ok hrep
      rw [hval] at hrep
      obtain rfl := Except.ok.inj hrep
      exact hclears hi hdigest hnone hmatch
    | _ => trivial

theorem suppressionInvariant_step (h₁ : p₁.store.suppressed walletHash = true)
    (hok : LeavesSuppressed env p₁ p l) (h : (gateway env).step p l = some p')
    (hp : SuppressionInvariant env walletHash p₁ p) : SuppressionInvariant env walletHash p₁ p' := by
  refine ⟨hp.traced.step h, suppressed_step h₁ hok h hp.suppressed, hp.shields.step h ?_⟩
  rintro i c t o k hi rfl ht hprog hd
  exact shields_reply h₁ hp.suppressed hok hi ht hprog hd

/-- A notification that was sent to the recipient as the message `m`. -/
def sentNotification : Notification where
  id := .uuid 0
  protocolId := js "p"
  walletHash := js "w"
  subjectHash := []
  status := .delivered
  category := js "defi"
  idempotencyKey := none
  writeReceipt := true
  queuedAt := 0
  sesMessageId := some (js "m")

/-- A digest for the recipient. -/
def queuedDigest : DigestJobData := ⟨js "w", [⟨0, js "p", js "Margin", js "defi", 0⟩]⟩

/-- An installation with a recipient who was sent a notification and has a digest queued. -/
def mailedWorld : World :=
  { World.blank with
    nextUuid := 1
    notifications := [sentNotification]
    digestQueue := [⟨queuedDigest, 0⟩]
    subscriptions := [⟨some (js "w"), js "w", js "p", [js "email"], true, 0⟩]
    chain := fun _ => some recipient }

/-- A notify request to the recipient. -/
def marginRequest : NotifyDto where
  wallet := js "w"
  subject := js "Margin"
  body := js "Add collateral."

/-- Its job. -/
def marginJob : NotificationJobData :=
  productionJob Env.transparent (.uuid 1) marginRequest (client .production)

/-- The message that was sent bounced. -/
def hardBounce : SesMessage where
  notificationType := js "Bounce"
  messageId := some (js "m")
  bounceType := some (js "Permanent")

/-- A request to the recipient is put on the queue, and then the earlier message bounces. -/
def bounced : List GatewayLabel :=
  .arrive (.notify marginRequest (client .production)) :: proceeds 0 3 ++
    .arrive (.sesMessage hardBounce) :: proceeds 1 5

/-- A worker attempts the request, and the database refuses the delete. -/
def guardedDelivery : List GatewayLabel :=
  .arrive (.deliver marginJob) :: proceeds 2 6 ++ [meets 2 (.refused ⟨js "timeout", none, none, none⟩)] ++
    proceeds 2 5

/-- A worker attempts the request. -/
def delivery : List GatewayLabel := .arrive (.deliver marginJob) :: proceeds 2 24

/-- A worker attempts the digest. -/
def digestDelivery : List GatewayLabel := .arrive (.deliverDigest queuedDigest) :: proceeds 2 20

end HeraldGateway
