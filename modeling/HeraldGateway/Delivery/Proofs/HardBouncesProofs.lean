import HeraldGateway.Delivery.Bounces
import HeraldGateway.Gateway.Proofs.SuppressionProofs

/-!
# Hard bounces suppress, where nothing is taken for a duplicate

The program of a hard bounce ends without an error only after it suppressed the wallet, or after it found a
bounce of its message; and nothing lifts a suppression.
-/

namespace HeraldGateway

open Async

variable {env : Env} {p p' : BouncePool} {tr : List GatewayEvent} {n : Notification} {o : Op} {s : World}
  {walletHash : JsString}

/-- A bounce that was found stands for a suppression. -/
def BounceLaw (tr : List GatewayEvent) (e : GatewayEvent) : Prop :=
  match e with
  | ⟨_, s, .bounceFindFirst _ none, .ok found, _⟩ =>
    found = true → ∀ n ∈ tr.filterMap foundNotification?, s.suppressed n.walletHash = true
  | _ => True

/-- The wallet of every notification that was found was suppressed around some call. -/
def BounceDone (tr : List GatewayEvent) (r : Except Err Unit) : Prop :=
  r = .ok () → ∀ n ∈ tr.filterMap foundNotification?,
    ∃ e ∈ tr, e.before.suppressed n.walletHash = true ∨ e.after.suppressed n.walletHash = true

/-- After a history, a program of an event ends in `Q`, where bounces that are found obey the law. -/
abbrev BounceLogs {α : Type} (env : Env) (Q : List GatewayEvent → Except Err α → Prop) (q : Gateway α)
    (tr : List GatewayEvent) : Prop :=
  Logs (S := Calls) (World.handle env) BounceLaw (fun _ => True) Q q tr

/-- The call looks a notification up by its message. -/
def Op.findsMessage : Op → Bool
  | .notificationFindBySesMessageId _ => true
  | _ => false

theorem foundNotification?_eq_none {c : Choice} (ho : o.findsMessage = false) :
    foundNotification? (Handler.event (World.handle env) c s o) = none := by
  cases o <;> first | rfl | cases ho

/-! ### The program of a hard bounce -/

/-- Other calls find no notification. -/
theorem bounceLogs_call (ho : o.findsMessage = false) (htr : tr.filterMap foundNotification? = [n]) :
    BounceLogs env (fun tr' _ => tr'.filterMap foundNotification? = [n]) (call o) tr :=
  Logs.perform fun c s _ => ⟨trivial, by
    rw [List.filterMap_append, htr, List.filterMap_cons_none (foundNotification?_eq_none ho)]
    rfl⟩

theorem suppressed_upsert_self {new : EmailSuppression} {rows : List EmailSuppression} :
    (upsertSuppression new rows).any (·.walletHash == new.walletHash) = true := by
  unfold upsertSuppression
  by_cases hany : rows.any (·.walletHash == new.walletHash) = true
  · rw [if_pos hany]
    obtain ⟨r, hr, hw⟩ := List.any_eq_true.1 hany
    refine List.any_eq_true.2 ⟨_, List.mem_map.2 ⟨r, hr, rfl⟩, ?_⟩
    rw [if_pos hw]
    exact hw
  · rw [if_neg hany, List.any_append, List.any_cons, beq_self_eq_true, Bool.true_or, Bool.or_true]

/-- The last call suppresses the wallet. -/
theorem bounceLogs_suppress (htr : tr.filterMap foundNotification? = [n]) :
    BounceLogs (α := Unit) env BounceDone (call (.suppressionUpsert n.walletHash .hardBounce n.id)) tr := by
  refine Logs.perform (S := Calls) (o := .suppressionUpsert n.walletHash .hardBounce n.id) (Q := BounceDone)
    fun c s _ => ⟨trivial, fun hok n' hn' => ?_⟩
  rw [List.filterMap_append, htr, List.filterMap_cons_none (foundNotification?_eq_none rfl)] at hn'
  obtain rfl : n' = n := List.mem_singleton.1 hn'
  refine ⟨_, List.mem_append_right _ List.mem_cons_self, .inr ?_⟩
  change (World.handle env c s (.suppressionUpsert n'.walletHash .hardBounce n'.id)).2.suppressed _ = true
  rw [handle_ok hok]
  exact suppressed_upsert_self

theorem suppressed_of_law {c : Choice} {m : JsString}
    (hl : BounceLaw tr (Handler.event (World.handle env) c s (.bounceFindFirst m none)))
    (hfound : (World.handle env c s (.bounceFindFirst m none)).1 = .ok true)
    (hn : n ∈ tr.filterMap foundNotification?) : s.suppressed n.walletHash = true := by
  simp only [BounceLaw, Handler.event, hfound] at hl
  exact hl trivial n hn

theorem bounceLogs_recordBounce {messageId : JsString} {code : Option JsString}
    (htr : tr.filterMap foundNotification? = [n]) :
    BounceLogs env BounceDone (recordBounce n .hard messageId code
      (call (.suppressionUpsert n.walletHash .hardBounce n.id))) tr := by
  refine Logs.bind (S := Calls) (Q := fun tr' (r : Except Err Bool) => tr'.filterMap foundNotification? = [n] ∧
      (r = .ok true → ∃ e ∈ tr', e.before.suppressed n.walletHash = true))
    (Logs.perform (S := Calls) (o := .bounceFindFirst messageId none) fun c s hl => ?_)
    (fun tr₁ found h₁ => ?_) fun tr₁ e _ => nofun
  · refine ⟨trivial, ?_, fun hfound => ⟨_, List.mem_append_right _ List.mem_cons_self, ?_⟩⟩
    · rw [List.filterMap_append, htr, List.filterMap_cons_none (foundNotification?_eq_none rfl)]
      rfl
    · exact suppressed_of_law hl hfound (htr ▸ List.mem_cons_self)
  · cases found with
    | true =>
      rintro - n' hn'
      rw [h₁.1] at hn'
      obtain rfl : n' = n := List.mem_singleton.1 hn'
      obtain ⟨e, he, hs⟩ := h₁.2 rfl
      exact ⟨e, he, .inl hs⟩
    | false =>
      refine (bounceLogs_call rfl h₁.1).bind (fun tr₂ _ h₂ => ?_) fun _ _ _ => nofun
      refine (bounceLogs_call rfl h₂).bind (fun tr₃ _ h₃ => ?_) fun _ _ _ => nofun
      exact bounceLogs_suppress h₃

/-- A look-up finds what its reply says. -/
theorem bounceLogs_find {m : JsString} :
    BounceLogs env (fun tr (r : Except Err (Option Notification)) =>
      ∀ found, r = .ok found → tr.filterMap foundNotification? = found.toList)
      (call (.notificationFindBySesMessageId m)) [] :=
  Logs.perform (S := Calls) (o := .notificationFindBySesMessageId m)
    fun c s _ => ⟨trivial, fun found hfound => by
    simp only [List.nil_append, List.filterMap_cons, List.filterMap_nil, foundNotification?,
      Handler.event, hfound]
    cases found <;> rfl⟩

/-- The program of a hard bounce. -/
theorem bounceLogs_code {task : BounceTask} (h : task.hardBounce?.isSome = true) :
    BounceLogs env BounceDone task.code [] := by
  have hnone : ∀ {tr r}, tr.filterMap foundNotification? = [] → BounceDone tr r := fun htr _ n hn => by
    rw [htr] at hn
    cases hn
  cases task with
  | resendEvent e =>
    have htype : e.eventType = js "email.bounced" := by
      by_contra hne
      rw [BounceTask.hardBounce?, if_neg hne] at h
      cases h
    unfold BounceTask.code processResendEvent
    by_cases htruthy : truthy (e.emailId <|> e.id) = true
    · simp only [htruthy, if_true]
      refine bounceLogs_find.bind (fun tr found hfound => ?_) fun _ _ _ => nofun
      cases found with
      | none => exact hnone (hfound none rfl)
      | some n =>
        simp only [applyResendEvent, htype, if_true]
        exact bounceLogs_recordBounce (hfound (some n) rfl)
    · simp only [htruthy]
      exact hnone rfl
  | sesMessage m =>
    obtain ⟨hbounce, hpermanent⟩ : m.notificationType = js "Bounce" ∧
      m.bounceType = some (js "Permanent") := by
      by_contra hne
      rw [BounceTask.hardBounce?, if_neg hne] at h
      cases h
    unfold BounceTask.code processSesBounce
    by_cases htruthy : truthy m.messageId = true
    · simp only [htruthy, if_true]
      refine bounceLogs_find.bind (fun tr found hfound => ?_) fun _ _ _ => nofun
      cases found with
      | none => exact hnone (hfound none rfl)
      | some n =>
        simp only [applySesMessage, hbounce, hpermanent, if_true]
        exact bounceLogs_recordBounce (hfound (some n) rfl)
    · simp only [htruthy]
      exact hnone rfl

/-! ### Runs -/

/-- No event lifts a suppression. -/
theorem within_bounce (task : BounceTask) :
    Gateway.Within (fun o => ∀ walletHash, o ≠ .suppressionDeleteMany walletHash)
    (fun _ _ => True) task.code := by
  have hp : ∀ o : Op, o.plain = true → ∀ walletHash, o ≠ .suppressionDeleteMany walletHash := by
    rintro o ho walletHash rfl
    cases ho
  cases task with
  | resendEvent e => exact within_processResendEvent hp e
  | sesMessage m => exact within_processSesBounce hp m

/-- Suppressions stay. -/
theorem suppressed_bounce_step {l : BounceLabel} (htr : (bounceHandling env).Traced p)
    (h : (bounceHandling env).step p l = some p') (hs : p.store.suppressed walletHash = true) :
    p'.store.suppressed walletHash = true := by
  rcases System.store_cases h with hstore | ⟨i, c, t, o, k, -, ht, hprog, hstore⟩ | ⟨e, -, he⟩
  · rw [hstore]
    exact hs
  · have hrun := htr i t ht
    rw [hprog] at hrun
    have hkeeps := (hrun.along (within_bounce t.request) fun _ _ => trivial).1.1
    rw [hstore]
    exact suppressed_handle (fun walletHash ho _ => absurd ho (hkeeps walletHash)) hs
  · have he : e.apply p.store = p'.store := Option.some.inj he
    rw [← he]
    cases e <;> exact hs

theorem bounceLaw_event {c : Choice} {o : Op} (h : ∀ m, o = .bounceFindFirst m none →
    (World.handle env c s (.bounceFindFirst m none)).1 = .ok true →
      ∀ n ∈ tr.filterMap foundNotification?, s.suppressed n.walletHash = true) :
    BounceLaw tr (Handler.event (World.handle env) c s o) := by
  cases o with
  | bounceFindFirst m bounceType =>
    cases bounceType with
    | some bounceType => trivial
    | none =>
      simp only [BounceLaw, Handler.event]
      split
      · next found heq =>
        rintro rfl
        injection heq with _ hs hop hreply _
        injection hop with hm
        subst hs hm
        exact h m rfl hreply
      · trivial
  | _ => trivial

/-- What holds in every pool whose attempts find no bounces of wallets that are not suppressed. -/
structure BounceInvariant (env : Env) (p : BouncePool) : Prop where
  traced : (bounceHandling env).Traced p
  lawful : System.Histories (fun task tr e => task.hardBounce?.isSome = true → BounceLaw tr e) p
  since : System.Since (fun s s' => ∀ walletHash, s.suppressed walletHash = true → s'.suppressed walletHash = true) p

theorem bounceInvariant_empty (s : World) : BounceInvariant env (Pool.empty s) :=
  ⟨System.traced_empty s, System.histories_empty s, System.since_empty s⟩

/-- A bounce that is found is recorded. -/
theorem recorded_of_found {c : Choice} {m : JsString}
    (h : (World.handle env c s (.bounceFindFirst m none)).1 = .ok true) :
    ∃ b ∈ s.bounces, b.sesMessageId = m := by
  rw [handle_ok h] at h
  obtain ⟨b, hb, heq⟩ := List.any_eq_true.1 (Except.ok.inj h)
  exact ⟨b, hb, eq_of_beq (Bool.and_eq_true_iff.1 heq).1⟩

theorem BounceInvariant.step {l : BounceLabel} (hp : BounceInvariant env p) (hl : FindsNoBounce p l)
    (h : (bounceHandling env).step p l = some p') : BounceInvariant env p' := by
  refine ⟨hp.traced.step h, hp.lawful.step h fun i c t o k hlab ht hprog hhard => ?_, hp.since.step h
    (fun _ _ hs => hs) (fun _ _ _ h₁ h₂ walletHash hs => h₂ walletHash (h₁ walletHash hs))
    fun _ => suppressed_bounce_step hp.traced h⟩
  subst hlab
  have hfinds := hl t ht hhard o (by rw [hprog]; rfl)
  refine bounceLaw_event fun m ho hfound n hn => ?_
  subst ho
  exact hfinds m rfl (recorded_of_found hfound) n hn

/-- Where no attempt at a hard bounce finds a bounce of its message while the wallet is not suppressed, hard
bounces that are done have suppressed their wallets. -/
theorem hard_bounces_suppress {s : World} {ls : List BounceLabel}
    (hok : (bounceHandling env).Keeps FindsNoBounce (Pool.empty s) ls)
    (hr : (bounceHandling env).run (Pool.empty s) ls = some p) : HardBouncesSuppress p := by
  have hp : BounceInvariant env p :=
    System.Keeps.induction (fun _ _ _ hl hp h => BounceInvariant.step hp hl h) hok hr (bounceInvariant_empty s)
  intro t ht hhard hdone n hn
  obtain ⟨i, hrun⟩ := hp.traced.of_mem ht
  have hlogs := (hrun.logs (bounceLogs_code hhard) trivial fun pre e post heq =>
    hp.lawful t ht pre e post heq hhard).2
  have hended : t.prog = .ret () := by
    have hres := Thread.answer?_eq_some.1 hdone
    cases hprog : t.prog with
    | ret a => rfl
    | throw | choose | call =>
      rw [hprog] at hres
      cases hres
  rw [hended] at hlogs
  obtain ⟨e, he, hs⟩ := hlogs rfl n hn
  rcases hs with hs | hs
  · exact (hp.since t ht e he).1 n.walletHash hs
  · exact (hp.since t ht e he).2 n.walletHash hs

/-- A permanent bounce of a message. -/
def permanentBounce : BounceTask :=
  .sesMessage { notificationType := js "Bounce", messageId := some (js "m"), bounceType := some (js "Permanent") }

/-- A transient bounce of a message. -/
def transientBounce : BounceTask :=
  .sesMessage { notificationType := js "Bounce", messageId := some (js "m"), bounceType := some (js "Transient") }

/-- An event is attempted, up to a number of calls. -/
def attempted (i : Nat) (task : BounceTask) (calls : Nat) : List BounceLabel :=
  .arrive task :: List.replicate calls (.pick i (true, {}))

/-- An installation with a notification whose message has an id. -/
def messagedWorld : World := { World.blank with notifications := [sentNotification] }

theorem hard_bounces_suppress_twice :
    ∃ p ∈ (bounceHandling Env.transparent).run (Pool.empty messagedWorld)
      (attempted 0 permanentBounce 5 ++ attempted 1 permanentBounce 2), HardBouncesSuppress p ∧
        p.threads.map (·.answer?) = [some (), some ()] := by
  obtain ⟨p, hp, hdone⟩ : ∃ p ∈ (bounceHandling Env.transparent).run (Pool.empty messagedWorld)
      (attempted 0 permanentBounce 5 ++ attempted 1 permanentBounce 2),
        p.threads.map (·.answer?) = [some (), some ()] := by decide +kernel
  exact ⟨p, hp, hard_bounces_suppress (by decide +kernel) hp, hdone⟩

/-- A hard bounce after a soft one of the same message is done without a suppression, and so is the second
attempt at one whose first attempt died after it recorded the bounce. -/
theorem hard_bounce_taken_for_duplicate :
    (∃ p ∈ (bounceHandling Env.transparent).run (Pool.empty messagedWorld)
      (attempted 0 transientBounce 7 ++ attempted 1 permanentBounce 2), ¬ HardBouncesSuppress p) ∧
    ∃ p ∈ (bounceHandling Env.transparent).run (Pool.empty messagedWorld)
      (attempted 0 permanentBounce 4 ++ attempted 1 permanentBounce 2), ¬ HardBouncesSuppress p := by
  decide +kernel

end HeraldGateway
