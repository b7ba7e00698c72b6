import HeraldGateway.Billing.Expiry
import HeraldGateway.Billing.Proofs.PeriodsProofs

/-!
# What the calls of the subscription services change
-/

namespace HeraldGateway

open Async

/-! ### Updates of rows -/

section rows

variable {α : Type} {p : α → Bool} {u : α → α} {rows : List α}

theorem updateWhere_of_none (h : rows.any p = false) : updateWhere p u rows = rows := by
  refine (List.map_congr_left fun r hr => ?_).trans (List.map_id rows)
  rw [if_neg (fun hp => ?_)]
  · rfl
  · rw [List.any_eq_false] at h
    exact h r hr hp

/-- A row after an update was there before, or is the update of one that was. -/
theorem mem_updateWhere {r : α} (h : r ∈ updateWhere p u rows) :
    (r ∈ rows ∧ p r = false) ∨ ∃ r' ∈ rows, p r' = true ∧ r = u r' := by
  obtain ⟨r', hr', rfl⟩ := List.mem_map.1 h
  by_cases hp : p r' = true
  · rw [if_pos hp]
    exact .inr ⟨r', hr', hp, rfl⟩
  · rw [if_neg hp]
    exact .inl ⟨hr', Bool.eq_false_iff.2 hp⟩

/-- An update that keeps a column of the rows that it changes keeps it altogether. -/
theorem map_updateWhere {β : Type} {f : α → β} (h : ∀ r ∈ rows, p r = true → f (u r) = f r) :
    (updateWhere p u rows).map f = rows.map f := by
  rw [updateWhere, List.map_map]
  refine List.map_congr_left fun r hr => ?_
  by_cases hp : p r = true
  · rw [Function.comp_apply, if_pos hp, h r hr hp]
  · rw [Function.comp_apply, if_neg hp]

/-- A row that an update leaves alone is found as before. -/
theorem find_updateWhere {q : α → Bool} (h : ∀ r ∈ rows, p r = true → q r = false ∧ q (u r) = false) :
    (updateWhere p u rows).find? q = rows.find? q := by
  induction rows with
  | nil => rfl
  | cons r rows ih =>
    have hrest := ih fun r' hr' => h r' (List.mem_cons_of_mem r hr')
    by_cases hp : p r = true
    · obtain ⟨hq, hqu⟩ := h r List.mem_cons_self hp
      rw [updateWhere, List.map_cons, if_pos hp, List.find?_cons, hqu, List.find?_cons, hq]
      exact hrest
    · rw [updateWhere, List.map_cons, if_neg hp, List.find?_cons, List.find?_cons]
      cases q r with
      | true => rfl
      | false => exact hrest

end rows

/-! ### Calls -/

namespace SubscriptionStore

variable {f : Fault} {s : SubscriptionStore} {o : SubscriptionOp} {id : JsString}

/-- A call leaves the stores alone, or takes effect as if it was answered. -/
theorem handle_cases : (handle f s o).2 = s ∨ f.applies = true ∧ (handle f s o).2 = (s.serve o).2 := by
  cases o with
  | billing o =>
    cases o with
    | now => exact .inl rfl
    | _ => exact Fault.meet_cases
  | _ => exact Fault.meet_cases

/-- A call that succeeds was answered. -/
theorem handle_ok {a : o.Res} (h : (handle f s o).1 = .ok a) : handle f s o = s.serve o := by
  cases o with
  | billing o =>
    cases o with
    | now => rfl
    | _ => exact Fault.meet_ok h
  | _ => exact Fault.meet_ok h

/-- Where no row is updated, the update changes nothing. -/
theorem updateSubscription_store {u : SubscriptionUpdate} : (s.updateSubscription id u).2 =
    s.setSubscriptions (updateWhere (·.protocolId == id) u.apply s.billing.subscriptions) := by
  unfold updateSubscription
  split
  · rfl
  · next hno => rw [updateWhere_of_none (Bool.eq_false_iff.2 hno)]; rfl

theorem updateProtocols_store {u : BillingProtocol → BillingProtocol} : (s.updateProtocols id u).2 =
    s.setProtocols (updateWhere (·.id == id) u s.billing.protocols) := by
  unfold updateProtocols
  split
  · rfl
  · next hno => rw [updateWhere_of_none (Bool.eq_false_iff.2 hno)]; rfl

/-- Metering changes both counters, or finds no protocol. -/
theorem meterSends_cases {g : Int → Int} : (s.meterSends id g).2 = s ∨ (s.meterSends id g).2 =
    (s.setProtocols (updateWhere (·.id == id) (fun r => { r with sendsThisPeriod := g r.sendsThisPeriod })
      s.billing.protocols)).setSubscriptions (updateWhere (·.protocolId == id)
        (fun r => { r with sendsThisPeriod := g r.sendsThisPeriod }) s.billing.subscriptions) := by
  unfold meterSends updateProtocols
  split
  · next h =>
    split at h
    · obtain ⟨-, rfl⟩ := Prod.mk.inj h
      exact .inr rfl
    · cases h
  · next h =>
    split
    · next hmem => exact (h _ _ (if_pos hmem)).elim
    · exact .inl rfl

end SubscriptionStore

/-! ### Programs -/

section programs

variable {α : Type} {allowed : SubscriptionOp → Prop} {good : (o : SubscriptionOp) → Except Err o.Res → Prop}
  {rest : Subscribing α} {o : SubscriptionOp} {id : JsString}

theorem within_subscriptionCall (ho : allowed o) :
    Within (S := SubscriptionCalls) (ε := Err) allowed good o.call :=
  Within.perform (S := SubscriptionCalls) ho

/-- A call that is not waited for is one more call. -/
theorem within_unawaited (ho : allowed o) (hrest : Within (S := SubscriptionCalls) allowed good rest) :
    Within (S := SubscriptionCalls) allowed good (o.unawaited rest) := by
  refine Within.andThen (Within.of_along (Along.par (within_subscriptionCall ho) hrest)) fun r => ?_
  split
  · trivial
  · trivial
  · trivial

theorem within_ignored (ho : allowed o) : Within (S := SubscriptionCalls) (ε := Err) allowed good o.ignored :=
  Within.andThen (within_subscriptionCall ho) fun _ => trivial

theorem within_updateSubscription {u : SubscriptionUpdate} (hu : allowed (.updateSubscription id u))
    (hdel : allowed (.cacheDel id)) (hrest : Within (S := SubscriptionCalls) allowed good rest) :
    Within (S := SubscriptionCalls) allowed good (updateSubscription id u rest) :=
  Within.bind (within_subscriptionCall hu) fun _ => within_unawaited hdel hrest

/-- Every task but that of expiry makes only calls that expire nothing. -/
theorem within_subscriptionTask
    (h : ∀ o : SubscriptionOp, o.expires = none → (∀ n, o ≠ .findExpired n) → allowed o)
    (hexpire : Within (S := SubscriptionCalls) allowed good expireStaleSubscriptions)
    (task : SubscriptionTask) :
    Within (S := SubscriptionCalls) allowed good task.code := by
  cases task with
  | activate payload => exact (Within.embed (fun o => h (.billing o) rfl nofun) _).bind fun _ => trivial
  | cancel id =>
    refine within_updateSubscription (h _ rfl nofun) (h _ rfl nofun) ?_
    refine Within.bind (within_subscriptionCall (h _ rfl nofun)) fun sub => ?_
    split
    · exact within_ignored (h _ rfl nofun)
    · trivial
  | expire => exact hexpire.bind fun _ => trivial
  | reset =>
    refine Within.bind (Within.bind (within_subscriptionCall (h _ rfl nofun)) fun now => ?_) fun _ => trivial
    refine Within.bind (within_subscriptionCall (h _ rfl nofun)) fun toReset => ?_
    refine Within.bind (Within.mapEach fun sub _ => ?_) fun _ => trivial
    refine Within.tryCatch (Within.bind (within_subscriptionCall (h _ rfl nofun)) fun now => ?_)
      fun _ => trivial
    refine within_updateSubscription (h _ rfl nofun) (h _ rfl nofun) ?_
    exact Within.bind (within_subscriptionCall (h _ rfl nofun)) fun _ => trivial
  | meter id count => exact within_ignored (h _ rfl nofun)
  | resetMeter id => exact within_ignored (h _ rfl nofun)
  | guard id tier =>
    have judged : ∀ sub, Within (S := SubscriptionCalls) allowed good (judge tier sub) := fun sub =>
      Within.bind (within_subscriptionCall (h _ rfl nofun)) fun now => by
        split
        · trivial
        · trivial
    refine Within.ite (fun _ => trivial) fun _ => ?_
    refine Within.bind (Within.tryCatch (within_subscriptionCall (h _ rfl nofun)) fun _ => trivial)
      fun cached => ?_
    split
    · exact judged _
    · refine Within.bind (within_subscriptionCall (h _ rfl nofun)) fun found => ?_
      split
      · exact within_unawaited (h _ rfl nofun) (judged _)
      · exact judged _

end programs

/-! ### Payments -/

variable {s s' : BillingStore} {a : Activation}

theorem upsertSubscription_rows {e : Int} (h : s.upsertSubscription a e = .ok s') :
    ∃ tier, s'.subscriptions =
        updateWhere (·.protocolId == a.protocolId) (fun _ => a.subscription tier e) s.subscriptions ∨
      (∀ r ∈ s.subscriptions, r.protocolId ≠ a.protocolId) ∧
        s'.subscriptions = s.subscriptions ++ [a.subscription tier e] := by
  unfold BillingStore.upsertSubscription at h
  cases htier : a.tier.smallInt with
  | none =>
    rw [htier] at h
    cases h
  | some tier =>
    simp only [htier] at h
    split at h
    · cases h
    · split at h
      · obtain rfl := Except.ok.inj h
        exact ⟨tier, .inl rfl⟩
      · next hno =>
        obtain rfl := Except.ok.inj h
        refine ⟨tier, .inr ⟨fun r hr heq => hno ?_, rfl⟩⟩
        exact List.any_eq_true.2 ⟨r, hr, beq_iff_eq.2 heq⟩

theorem updateProtocol_rows (h : s.updateProtocol a = .ok s') : ∃ tier, s'.protocols =
    updateWhere (·.id == a.protocolId)
    (fun r => { r with tier := tier, isActive := true, updatedAt := a.now })
      s.protocols := by
  unfold BillingStore.updateProtocol at h
  cases htier : a.tier.smallInt with
  | none =>
    rw [htier] at h
    cases h
  | some tier =>
    simp only [htier] at h
    split at h
    · exact ⟨tier, (Except.ok.inj h) ▸ rfl⟩
    · cases h

/-- What a transaction that commits does to subscriptions, protocols and clock. -/
theorem commit_rows (h : s.commit a = .ok s') : ∃ e tier tier', a.periodEnd = some e ∧
    (s'.subscriptions = updateWhere (·.protocolId == a.protocolId) (fun _ => a.subscription tier e) s.subscriptions ∨
      (∀ r ∈ s.subscriptions, r.protocolId ≠ a.protocolId) ∧
        s'.subscriptions = s.subscriptions ++ [a.subscription tier e]) ∧
    s'.protocols = updateWhere (·.id == a.protocolId)
      (fun r => { r with tier := tier', isActive := true, updatedAt := a.now }) s.protocols ∧
      s'.now = s.now := by
  obtain ⟨e, s₁, s₂, s₃, he, h₁, h₂, h₃, h₄⟩ := commit_steps h
  obtain ⟨tier, hrows⟩ := upsertSubscription_rows h₁
  obtain ⟨rows, rfl⟩ := upsertSubscription_eq h₁
  obtain ⟨-, payments, rfl⟩ := createPayment_eq h₂
  obtain ⟨tier', hprotocols⟩ := updateProtocol_rows h₃
  obtain ⟨protocols, rfl⟩ := updateProtocol_eq h₃
  obtain rfl := markProcessed_eq h₄
  exact ⟨e, tier, tier', he, hrows, hprotocols, rfl⟩

/-- Of the calls of a payment only the transaction changes subscriptions or protocols, and none the clock. -/
theorem serve_billing_cases {o : BillingOp} :
    ((s.serve o).2.subscriptions = s.subscriptions ∧ (s.serve o).2.protocols = s.protocols ∧
      (s.serve o).2.now = s.now) ∨
    ∃ a, o = .transaction a ∧ s.commit a = .ok (s.serve o).2 := by
  cases o with
  | transaction a =>
    rw [BillingStore.serve]
    cases hcommit : s.commit a with
    | ok s' => exact .inr ⟨a, rfl, hcommit⟩
    | error e => exact .inl ⟨rfl, rfl, rfl⟩
  | createEvent row =>
    simp only [BillingStore.serve]
    split
    · exact .inl ⟨rfl, rfl, rfl⟩
    · exact .inl ⟨rfl, rfl, rfl⟩
  | _ => exact .inl ⟨rfl, rfl, rfl⟩

end HeraldGateway
