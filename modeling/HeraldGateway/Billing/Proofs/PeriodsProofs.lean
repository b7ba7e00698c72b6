import HeraldGateway.Async.History
import HeraldGateway.Billing.Events
import HeraldGateway.Billing.Payments

/-!
# Payments and periods

What the calls of billing do, and what the transaction of a payment does to a period.
-/

namespace HeraldGateway

open Async

/-! ## Calls of billing -/

/-- A call leaves the store alone, or takes effect as if it was answered. -/
theorem BillingStore.handle_cases {f : Fault} {s : BillingStore} {o : BillingOp} :
    (BillingStore.handle f s o).2 = s ∨
      f.applies = true ∧ (BillingStore.handle f s o).2 = (s.serve o).2 := by
  cases o with
  | now => exact .inl rfl
  | _ => exact Fault.meet_cases

/-- A call keeps what is said of the history. -/
theorem logs_call {law : List BillingEvent → BillingEvent → Prop} {I : List BillingEvent → Prop}
    {o : BillingOp}
    {Q : List BillingEvent → Except Err o.Res → Prop} {tr : List BillingEvent}
    (h : ∀ f s, law tr ((BillingStore.handle).event f s o) → I (tr ++ [(BillingStore.handle).event f s o]) ∧
      Q (tr ++ [(BillingStore.handle).event f s o]) (BillingStore.handle f s o).1) :
    Logs BillingStore.handle law I Q o.call tr := Logs.perform (S := BillingCalls) (o := o) h

/-! ### The writes of a transaction -/

section transaction

variable {s s' : BillingStore} {a : Activation} {e : Int}

theorem upsertSubscription_eq (h : s.upsertSubscription a e = .ok s') :
    ∃ rows, s' = { s with subscriptions := rows } := by
  unfold BillingStore.upsertSubscription at h
  cases htier : a.tier.smallInt with
  | none =>
    rw [htier] at h
    cases h
  | some tier =>
    simp only [htier] at h
    split at h
    · cases h
    · split at h
      · exact ⟨_, (Except.ok.inj h).symm⟩
      · exact ⟨_, (Except.ok.inj h).symm⟩

theorem createPayment_eq (h : s.createPayment a e = .ok s') :
    (∃ m, a.months.smallInt = some m) ∧ ∃ rows, s' = { s with payments := rows } := by
  unfold BillingStore.createPayment at h
  cases hm : a.months.smallInt with
  | none =>
    rw [hm] at h
    cases h
  | some m =>
    simp only [hm] at h
    split at h
    · cases h
    · exact ⟨⟨m, rfl⟩, _, (Except.ok.inj h).symm⟩

theorem updateProtocol_eq (h : s.updateProtocol a = .ok s') : ∃ rows, s' = { s with protocols := rows } := by
  unfold BillingStore.updateProtocol at h
  cases htier : a.tier.smallInt with
  | none =>
    rw [htier] at h
    cases h
  | some tier =>
    simp only [htier] at h
    split at h
    · exact ⟨_, (Except.ok.inj h).symm⟩
    · cases h

/-- The row of an event that was processed. -/
def HelioWebhookEvent.done (now : Millis) (r : HelioWebhookEvent) : HelioWebhookEvent :=
  { r with processed := true, processedAt := some now }

theorem markProcessed_eq (h : s.markProcessed a = .ok s') : s' = { s with
    helioEvents := updateWhere (·.helioEventId == a.transactionId) (·.done a.now) s.helioEvents } := by
  unfold BillingStore.markProcessed at h
  split at h
  · exact (Except.ok.inj h).symm
  · cases h

/-- A transaction that commits made its writes one after another. -/
theorem commit_steps (h : s.commit a = .ok s') : ∃ e s₁ s₂ s₃, a.periodEnd = some e ∧
    s.upsertSubscription a e = .ok s₁ ∧ s₁.createPayment a e = .ok s₂ ∧ s₂.updateProtocol a = .ok s₃ ∧
      s₃.markProcessed a = .ok s' := by
  unfold BillingStore.commit at h
  cases he : a.periodEnd with
  | none =>
    rw [he] at h
    cases h
  | some e =>
    simp only [he, bind, Except.bind] at h
    split at h
    · cases h
    · next s₁ h₁ =>
      split at h
      · cases h
      · next s₂ h₂ =>
        split at h
        · cases h
        · next s₃ h₃ => exact ⟨e, s₁, s₂, s₃, rfl, h₁, h₂, h₃, h⟩

/-- What a transaction that commits does to events and queue. -/
theorem commit_events (h : s.commit a = .ok s') : s'.webhookQueue = s.webhookQueue ∧ s'.helioEvents =
    updateWhere (·.helioEventId == a.transactionId) (·.done a.now) s.helioEvents := by
  obtain ⟨e, s₁, s₂, s₃, -, h₁, h₂, h₃, h₄⟩ := commit_steps h
  obtain ⟨subscriptions, rfl⟩ := upsertSubscription_eq h₁
  obtain ⟨-, payments, rfl⟩ := createPayment_eq h₂
  obtain ⟨protocols, rfl⟩ := updateProtocol_eq h₃
  obtain rfl := markProcessed_eq h₄
  exact ⟨rfl, rfl⟩

end transaction

/-!
## Payments restart periods

The transaction of a paid event writes an end of the period that depends on the clock and the paid months
only, so paid time is kept exactly where none is left.
-/

section

variable {env : BillingEnv} {s s' : BillingStore} {a : Activation} {payload : HelioWebhookPayload}
  {tr : List BillingEvent}

/-! ### The end of a paid period -/

theorem smallInt_eq_some {n : JsNumber} {m : Int} (h : n.smallInt = some m) : n = .finite m := by
  cases n with
  | finite q =>
    simp only [JsNumber.smallInt] at h
    split at h
    · next hq =>
      obtain rfl := Option.some.inj h
      rw [Rat.coe_int_num_of_den_eq_one hq.1]
    · cases h
  | _ => cases h

theorem periodEnd_eq {now : Millis} {n : JsNumber} {m e : Int} (hn : n.smallInt = some m)
    (h : periodEnd now n = some e) : e = now + PAID_MONTH * m := by
  rw [smallInt_eq_some hn] at h
  have ht : (now : ℚ) + PAID_MONTH * (m : ℚ) = ((now + PAID_MONTH * m : Int) : ℚ) := by push_cast; rfl
  simp only [periodEnd, ht, Int.floor_intCast, Int.ceil_intCast, ite_self] at h
  split at h
  · exact (Option.some.inj h).symm
  · cases h

/-- A period that starts now carries over what was left exactly if nothing was. -/
theorem carries_iff {now : Millis} {months : Int} {before : Option Int} :
    Carries now months before (some (now + PAID_MONTH * months)) ↔ ∀ left ∈ before, left ≤ now := by
  unfold Carries
  cases before with
  | none => simp
  | some left =>
    simp only [Option.mem_def, Option.some.injEq, exists_eq_left', Option.getD_some, forall_eq']
    constructor
    · intro h
      omega
    · intro h
      omega

/-! ### The transaction -/

/-- The row of a protocol after its subscription is written. -/
theorem find_upserted {rows : List Subscription} {row : Subscription} {id : JsString}
    (hrow : row.protocolId = id) (hmem : rows.any (·.protocolId == id) = true) :
    (updateWhere (·.protocolId == id) (fun _ => row) rows).find? (·.protocolId == id) = some row := by
  induction rows with
  | nil => cases hmem
  | cons r rows ih =>
    by_cases hr : r.protocolId = id
    · simp [updateWhere, hr, hrow]
    · have hmem' : rows.any (·.protocolId == id) = true := by simpa [hr] using hmem
      simpa [updateWhere, hr] using ih hmem'

theorem find_other {rows : List Subscription} {row : Subscription} {id id' : JsString}
    (hrow : row.protocolId = id) (hne : id' ≠ id) :
    (updateWhere (·.protocolId == id) (fun _ => row) rows).find? (·.protocolId == id') =
      rows.find? (·.protocolId == id') := by
  unfold updateWhere
  induction rows with
  | nil => rfl
  | cons r rows ih =>
    by_cases hr : r.protocolId = id
    · have hrow' : (row.protocolId == id') = false := beq_eq_false_iff_ne.2 (hrow ▸ hne.symm)
      have hr' : (r.protocolId == id') = false := beq_eq_false_iff_ne.2 (hr ▸ hne.symm)
      rw [List.map_cons, if_pos (beq_iff_eq.2 hr), List.find?_cons, List.find?_cons, hrow', hr']
      exact ih
    · rw [List.map_cons, if_neg (mt beq_iff_eq.1 hr), List.find?_cons, List.find?_cons, ih]

theorem currentPeriodEnd_upsert {e : Int} (h : s.upsertSubscription a e = .ok s') :
    s'.currentPeriodEnd a.protocolId = some e ∧
      ∀ id ≠ a.protocolId, s'.currentPeriodEnd id = s.currentPeriodEnd id := by
  unfold BillingStore.upsertSubscription at h
  cases htier : a.tier.smallInt with
  | none =>
    rw [htier] at h
    cases h
  | some tier =>
    simp only [htier] at h
    split at h
    · cases h
    · split at h
      · next hmem =>
        obtain rfl := Except.ok.inj h
        have hrow : (a.subscription tier e).protocolId = a.protocolId := rfl
        refine ⟨?_, fun id hne => ?_⟩
        · unfold BillingStore.currentPeriodEnd
          rw [find_upserted hrow hmem]
          rfl
        · unfold BillingStore.currentPeriodEnd
          rw [find_other hrow hne]
      · next hno =>
        obtain rfl := Except.ok.inj h
        have hnone : s.subscriptions.find? (·.protocolId == a.protocolId) = none := by
          simpa [List.find?_eq_none] using hno
        refine ⟨?_, fun id hne => ?_⟩
        · simp [BillingStore.currentPeriodEnd, Activation.subscription, List.find?_append, hnone]
        · simp [BillingStore.currentPeriodEnd, Activation.subscription, List.find?_append, hne.symm]

/-- What a transaction that commits does to the periods. -/
theorem commit_cases (h : s.commit a = .ok s') : ∃ e m, a.periodEnd = some e ∧ a.months.smallInt = some m ∧
    s'.currentPeriodEnd a.protocolId = some e ∧
      ∀ id ≠ a.protocolId, s'.currentPeriodEnd id = s.currentPeriodEnd id := by
  obtain ⟨e, s₁, s₂, s₃, he, h₁, h₂, h₃, h₄⟩ := commit_steps h
  obtain ⟨⟨m, hm⟩, payments, rfl⟩ := createPayment_eq h₂
  obtain ⟨protocols, rfl⟩ := updateProtocol_eq h₃
  obtain rfl := markProcessed_eq h₄
  obtain ⟨hown, hothers⟩ := currentPeriodEnd_upsert h₁
  exact ⟨e, m, he, hm, hown, hothers⟩

/-! ### The calls of a paid event -/

/-- A transaction of a task says what the task read and was asked for. -/
structure Composed (payload : HelioWebhookPayload) (tr : List BillingEvent) (a : Activation) : Prop where
  months : a.months = monthsInt payload
  ends : a.periodEnd = periodEnd a.now (monthsInt payload)
  read : ∃ e ∈ tr, ReadsNow a.now e
  found : ∃ e ∈ tr, FindsProtocol payload.protocolPubkey a.protocolId e

/-- Every transaction of a history does. -/
def AllComposed (payload : HelioWebhookPayload) (tr : List BillingEvent) : Prop :=
  ∀ e ∈ tr, ∀ a, e.op = .transaction a → Composed payload tr a

theorem allComposed_nil : AllComposed payload [] := fun _ he => absurd he List.not_mem_nil

theorem Composed.append {e : BillingEvent} (h : Composed payload tr a) : Composed payload (tr ++ [e]) a :=
  ⟨h.months, h.ends, h.read.imp fun _ h => ⟨List.mem_append_left _ h.1, h.2⟩,
    h.found.imp fun _ h => ⟨List.mem_append_left _ h.1, h.2⟩⟩

theorem AllComposed.append {e : BillingEvent} (h : AllComposed payload tr)
    (he : ∀ a, e.op = .transaction a → Composed payload (tr ++ [e]) a) : AllComposed payload (tr ++ [e]) := by
  intro e' he' a ha
  rcases List.mem_append.1 he' with he' | he'
  · exact (h e' he' a ha).append
  · rw [List.mem_singleton.1 he'] at ha
    exact he a ha

/-- The task's own way of following its history. -/
abbrev LogsComposed {α : Type} (payload : HelioWebhookPayload)
    (Q : List BillingEvent → Except Err α → Prop) (p : Billing α) (tr : List BillingEvent) : Prop :=
  Logs BillingStore.handle (fun _ _ => True) (AllComposed payload) Q p tr

theorem logs_activate : LogsComposed payload (fun _ _ => True) (activateFromHelioPayment payload) [] := by
  unfold activateFromHelioPayment
  split
  · trivial
  · next amountUsdc _ =>
    -- what is handed on is what was found, and then also what was read
    have find : LogsComposed payload (fun tr r => AllComposed payload tr ∧ ∀ protocol, r = .ok (some protocol) →
        ∃ e ∈ tr, FindsProtocol payload.protocolPubkey protocol.id e)
        (BillingOp.findProtocol payload.protocolPubkey).call [] := by
      refine logs_call (o := .findProtocol payload.protocolPubkey) fun f s _ => ?_
      have hI : AllComposed payload [_] := allComposed_nil.append
        (e := BillingStore.handle.event f s (.findProtocol payload.protocolPubkey)) nofun
      refine ⟨hI, hI, fun protocol hr => ⟨_, List.mem_singleton.2 rfl, rfl, protocol, ?_, rfl⟩⟩
      have hserve := Fault.meet_ok (r := s.serve (.findProtocol payload.protocolPubkey)) hr
      exact Except.ok.inj ((congrArg Prod.fst hserve).symm.trans hr)
    refine find.bind (fun tr found h => ?_) fun _ _ _ => trivial
    cases found with
    | none => trivial
    | some protocol =>
      obtain ⟨hI, hfound⟩ := h
      have hfound := hfound protocol rfl
      have renew : LogsComposed payload (fun tr r => (∃ x, r = .ok x) ∧ AllComposed payload tr ∧
          ∃ e ∈ tr, FindsProtocol payload.protocolPubkey protocol.id e)
          (Prog.tryCatch (BillingOp.renewSubscription payload.protocolPubkey).call fun _ => .ret []) tr := by
        refine Logs.tryCatch (Q := fun tr _ => AllComposed payload tr ∧
          ∃ e ∈ tr, FindsProtocol payload.protocolPubkey protocol.id e)
          (logs_call (o := .renewSubscription payload.protocolPubkey) fun f s _ => ?_) (fun tr a h => ⟨⟨a, rfl⟩, h⟩)
          fun tr e h => ⟨⟨[], rfl⟩, h⟩
        have hI' := hI.append
          (e := BillingStore.handle.event f s (.renewSubscription payload.protocolPubkey)) nofun
        exact ⟨hI', hI', hfound.imp fun _ h => ⟨List.mem_append_left _ h.1, h.2⟩⟩
      refine renew.bind (fun tr _ h => ?_) fun _ _ h => nomatch h.1
      obtain ⟨-, hI, hfound⟩ := h
      have clock : LogsComposed payload (fun tr r => ∀ now, r = .ok now → AllComposed payload tr ∧
          (∃ e ∈ tr, FindsProtocol payload.protocolPubkey protocol.id e) ∧ ∃ e ∈ tr, ReadsNow now e)
          BillingOp.now.call tr := by
        refine logs_call (o := .now) fun f s _ => ?_
        have hI' := hI.append (e := BillingStore.handle.event f s .now) nofun
        refine ⟨hI', fun now hr => ⟨hI', hfound.imp fun _ h => ⟨List.mem_append_left _ h.1, h.2⟩, ?_⟩⟩
        exact ⟨_, List.mem_append_right _ (List.mem_singleton.2 rfl), rfl, Except.ok.inj hr⟩
      refine clock.bind (fun tr now h => ?_) fun _ _ _ => trivial
      obtain ⟨hI, hfound, hread⟩ := h now rfl
      refine Logs.bind (Q := fun _ _ => True) (logs_call (o := .transaction _) fun f s _ => ⟨?_, trivial⟩)
        (fun _ _ _ => trivial) fun _ _ _ => trivial
      refine hI.append fun a ha => Composed.append ?_
      obtain rfl := BillingOp.transaction.inj ha
      exact ⟨rfl, rfl, hread, hfound⟩

/-- A transaction that is composed of what its task read restarts the period. -/
theorem restartsPeriod_of_commit {f : Fault} {s₁ : BillingStore} (hc : Composed payload tr a)
    (h : s.commit a = .ok s₁) (hs : (BillingStore.handle f s (.transaction a)).2 = s₁) :
    ∃ now months protocolId, RestartsPeriod payload tr
      ((BillingStore.handle).event f s (.transaction a)) now months protocolId := by
  obtain ⟨e, m, he, hm, hown, hothers⟩ := commit_cases h
  rw [hc.months] at hm
  rw [hc.ends] at he
  obtain rfl := periodEnd_eq hm he
  refine ⟨a.now, m, a.protocolId, ?_⟩
  have hafter : ((BillingStore.handle).event f s (.transaction a)).after = s₁ := hs
  exact ⟨hc.read, hc.found, hm, by rw [hafter, hown], by rw [hafter, hown]; exact carries_iff, fun id hne => by
    rw [hafter]
    exact hothers id hne⟩

theorem paymentRestarts_of_composed (hI : AllComposed payload tr)
    (hev : ∀ e ∈ tr, ∃ f s o, e = (BillingStore.handle).event f s o) : PaymentRestarts payload tr := by
  intro e he
  obtain ⟨f, s, o, rfl⟩ := hev e he
  cases o with
  | transaction a =>
    have hc := hI _ he a rfl
    cases hcommit : s.commit a with
    | ok s₁ =>
      have hserve : s.serve (.transaction a) = (.ok (), s₁) := by simp only [BillingStore.serve, hcommit]
      have restarts := restartsPeriod_of_commit (f := f) hc hcommit
      refine ⟨?_, fun _ hok => restarts ?_⟩
      · rcases BillingStore.handle_cases (f := f) (s := s) (o := .transaction a) with h | ⟨-, h⟩
        · exact .inl (congrArg BillingStore.subscriptions h)
        · exact .inr (restarts (h.trans (congrArg Prod.snd hserve)))
      · obtain ⟨x, hx⟩ : ∃ x, (f.meet s (s.serve (.transaction a))).1 = .ok x := by
          revert hok
          change (f.meet s (s.serve (.transaction a))).1.isOk = true → _
          cases (f.meet s (s.serve (.transaction a))).1 with
          | ok x => exact fun _ => ⟨x, rfl⟩
          | error e => exact nofun
        exact (congrArg Prod.snd (Fault.meet_ok hx)).trans (congrArg Prod.snd hserve)
    | error e =>
      have hserve : s.serve (.transaction a) = (.error e, s) := by simp only [BillingStore.serve, hcommit]
      refine ⟨.inl ?_, fun _ hok => ?_⟩
      · change (BillingStore.handle f s (.transaction a)).2.subscriptions = s.subscriptions
        rcases BillingStore.handle_cases (f := f) (s := s) (o := .transaction a) with h | ⟨-, h⟩
        · rw [h]
        · rw [h, hserve]
      · change (f.meet s (s.serve (.transaction a))).1.isOk = true at hok
        rw [hserve] at hok
        cases f <;> cases hok
  | createEvent row =>
    refine ⟨.inl ?_, fun ⟨_, h⟩ => nomatch h⟩
    change (BillingStore.handle f s (.createEvent row)).2.subscriptions = s.subscriptions
    rcases BillingStore.handle_cases (f := f) (s := s) (o := .createEvent row) with h | ⟨-, h⟩
    · rw [h]
    · rw [h]
      simp only [BillingStore.serve]
      split <;> rfl
  | now => exact ⟨.inl rfl, fun ⟨_, h⟩ => nomatch h⟩
  | findByPayloadHash | queueAdd | findProtocol | renewSubscription =>
    refine ⟨.inl ?_, fun ⟨_, h⟩ => nomatch h⟩
    cases f <;> rfl

/-! ### Runs -/

variable {p : BillingPool} {ls : List BillingLabel}

/-- In every run, a payment restarts the period of its protocol or changes none. -/
theorem payment_restarts_period (hr : (billing env).run (Pool.empty s) ls = some p) :
    ∀ t ∈ p.threads, ∀ payload, t.request = .activate payload → PaymentRestarts payload t.trace := by
  intro t ht payload hreq
  obtain ⟨i, hrun⟩ := (System.traced_of_run hr).of_mem ht
  have hcode : (billing env).code t.request i = activateFromHelioPayment payload := by rw [hreq]; rfl
  rw [hcode] at hrun
  have hI := (hrun.logs logs_activate allComposed_nil fun _ _ _ _ => trivial).1
  exact paymentRestarts_of_composed hI hrun.event

/-! ### A renewal before the end -/

/-- Billing with two payments that are stored and enqueued. -/
def paidStore : BillingStore where
  now := 0
  protocols := [growthProtocol]
  subscriptions := []
  payments := []
  helioEvents := [⟨0, js "1", js "COMPLETED", some (js "p"), js "1", false, none⟩,
    ⟨1, js "2", js "COMPLETED", some (js "p"), js "2", false, none⟩]
  webhookQueue := [⟨0, paymentEvent "1" 3⟩, ⟨1, paymentEvent "2" 1⟩]

/-- Three months are paid for, and a day later another one. -/
def renewedEarly : List BillingLabel :=
  .arrive (.activate (paymentEvent "1" 3)) :: billed 0 4 ++
    .outside (.tick 86400000) :: .arrive (.activate (paymentEvent "2" 1)) :: billed 1 4

theorem payment_restarts_period_renewedEarly :
    ∃ p ∈ replayBilling paidStore renewedEarly,
      ∀ t ∈ p.threads, ∀ payload, t.request = .activate payload → PaymentRestarts payload t.trace := by
  obtain ⟨p, hp⟩ := Option.isSome_iff_exists.1
    (show (replayBilling paidStore renewedEarly).isSome by decide +kernel)
  exact ⟨p, hp, payment_restarts_period hp⟩

/-- The second payment shortens the subscription, from 90 days to 31. -/
theorem paid_time_forfeited :
    ∃ p ∈ replayBilling paidStore renewedEarly, ¬ PaidTimeKept p ∧
      p.store.currentPeriodEnd (js "p") = some (31 * 86400000) := by decide +kernel

end

end HeraldGateway
