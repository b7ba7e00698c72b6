import HeraldGateway.Billing.Expiry
import HeraldGateway.Billing.Proofs.SubscriptionsProofs

/-!
# Counters and passes

What metering, payments, resets and passes do to a subscription.
-/

namespace HeraldGateway

open Async

/-!
## The counters agree

Metering changes both counters alike. A payment or a reset sets that of the subscription to zero, so the other
one has to be zero by then.
-/

section

variable {s s' : SubscriptionStore} {o : SubscriptionOp} {f : Fault}

/-- The counters still agree if every row counts what a row of the same protocol did. -/
theorem CountersAgree.of_rows (h : CountersAgree s)
    (hq : ∀ q ∈ s'.billing.protocols, ∃ q₀ ∈ s.billing.protocols, q₀.id = q.id ∧ q₀.sendsThisPeriod = q.sendsThisPeriod)
    (hr : ∀ r ∈ s'.billing.subscriptions, ∃ r₀ ∈ s.billing.subscriptions, r₀.protocolId = r.protocolId ∧
      r₀.sendsThisPeriod = r.sendsThisPeriod) : CountersAgree s' := by
  intro q hmem r hmem' heq
  obtain ⟨q₀, hq₀, hid, hsends⟩ := hq q hmem
  obtain ⟨r₀, hr₀, hid', hsends'⟩ := hr r hmem'
  rw [← hsends, ← hsends']
  exact h q₀ hq₀ r₀ hr₀ (hid'.trans (heq.trans hid.symm))

/-- They do if the rows that are new count nothing, and their protocol neither. -/
theorem CountersAgree.of_restart {id : JsString} (h : CountersAgree s)
    (hq : ∀ q ∈ s'.billing.protocols, ∃ q₀ ∈ s.billing.protocols, q₀.id = q.id ∧ q₀.sendsThisPeriod = q.sendsThisPeriod)
    (hr : ∀ r ∈ s'.billing.subscriptions, r ∈ s.billing.subscriptions ∨ r.protocolId = id ∧ r.sendsThisPeriod = 0)
    (hunused : ∀ q ∈ s.billing.protocols, q.id = id → q.sendsThisPeriod = 0) : CountersAgree s' := by
  intro q hmem r hmem' heq
  obtain ⟨q₀, hq₀, hid, hsends⟩ := hq q hmem
  rw [← hsends]
  rcases hr r hmem' with hold | ⟨hrid, hzero⟩
  · exact h q₀ hq₀ r hold (heq.trans hid.symm)
  · rw [hzero]
    exact hunused q₀ hq₀ (hid.trans (heq.symm.trans hrid))

/-- Both counters of a protocol change alike. -/
theorem CountersAgree.meter {id : JsString} {g : Int → Int} (h : CountersAgree s) :
    CountersAgree (s.meterSends id g).2 := by
  rcases (SubscriptionStore.meterSends_cases : (s.meterSends id g).2 = s ∨ _) with hsame | hboth
  · rw [hsame]
    exact h
  · rw [hboth]
    intro q hmem r hmem' heq
    rcases mem_updateWhere hmem with ⟨hq, hqid⟩ | ⟨q₀, hq, hqid, rfl⟩
    · rcases mem_updateWhere hmem' with ⟨hr, -⟩ | ⟨r₀, -, hrid, rfl⟩
      · exact h q hq r hr heq
      · have heq' : r₀.protocolId = q.id := heq
        rw [beq_iff_eq.1 hrid] at heq'
        exact absurd heq'.symm (beq_eq_false_iff_ne.1 hqid)
    · rcases mem_updateWhere hmem' with ⟨hr, hrid⟩ | ⟨r₀, hr, -, rfl⟩
      · have heq' : r.protocolId = q₀.id := heq
        rw [beq_iff_eq.1 hqid] at heq'
        exact absurd heq' (beq_eq_false_iff_ne.1 hrid)
      · exact congrArg g (h q₀ hq r₀ hr heq)

/-- A call that restarts no period in which something was counted keeps the counters in agreement. -/
theorem CountersAgree.serve (h : CountersAgree s) (hunused : ∀ id ∈ o.restarts s, ∀ q ∈ s.billing.protocols,
    q.id = id → q.sendsThisPeriod = 0) : CountersAgree (s.serve o).2 := by
  have same : ∀ q ∈ s.billing.protocols, ∃ q₀ ∈ s.billing.protocols, q₀.id = q.id ∧
      q₀.sendsThisPeriod = q.sendsThisPeriod := fun q hq => ⟨q, hq, rfl, rfl⟩
  cases o with
  | billing o =>
    rcases serve_billing_cases (s := s.billing) (o := o) with ⟨hsubs, hprots, -⟩ | ⟨a, rfl, hcommit⟩
    · intro q hq r hr
      rw [SubscriptionStore.serve, hprots] at hq
      rw [SubscriptionStore.serve, hsubs] at hr
      exact h q hq r hr
    · obtain ⟨e, tier, tier', -, hsubs, hprots, -⟩ := commit_rows hcommit
      have hpays : a.protocolId ∈ SubscriptionOp.restarts s (.billing (.transaction a)) := by
        simp [SubscriptionOp.restarts, SubscriptionOp.pays, hcommit, Except.isOk, Except.toBool]
      refine h.of_restart (fun q hq => ?_) (fun r hr => ?_) (hunused _ hpays)
      · rw [SubscriptionStore.serve, hprots] at hq
        rcases mem_updateWhere hq with ⟨hq, -⟩ | ⟨q₀, hq₀, -, rfl⟩
        · exact ⟨q, hq, rfl, rfl⟩
        · exact ⟨q₀, hq₀, rfl, rfl⟩
      · rw [SubscriptionStore.serve] at hr
        rcases hsubs with hsubs | ⟨-, hsubs⟩
        · rw [hsubs] at hr
          rcases mem_updateWhere hr with ⟨hr, -⟩ | ⟨r₀, -, -, rfl⟩
          · exact .inl hr
          · exact .inr ⟨rfl, rfl⟩
        · rw [hsubs] at hr
          rcases List.mem_append.1 hr with hr | hr
          · exact .inl hr
          · rw [List.mem_singleton.1 hr]
            exact .inr ⟨rfl, rfl⟩
  | updateSubscription id u =>
    rw [SubscriptionStore.serve, SubscriptionStore.updateSubscription_store]
    cases u with
    | resetSends nextReset =>
      refine h.of_restart same (fun r hr => ?_) (hunused id rfl)
      rcases mem_updateWhere hr with ⟨hr, -⟩ | ⟨r₀, -, hrid, rfl⟩
      · exact .inl hr
      · exact .inr ⟨beq_iff_eq.1 hrid, rfl⟩
    | cancelAtPeriodEnd | expire =>
      refine h.of_rows same fun r hr => ?_
      rcases mem_updateWhere hr with ⟨hr, -⟩ | ⟨r₀, hr₀, -, rfl⟩
      · exact ⟨r, hr, rfl, rfl⟩
      · exact ⟨r₀, hr₀, rfl, rfl⟩
  | deactivateProtocol id =>
    rw [SubscriptionStore.serve, SubscriptionStore.updateProtocols_store]
    refine h.of_rows (fun q hq => ?_) fun r hr => ⟨r, hr, rfl, rfl⟩
    rcases mem_updateWhere hq with ⟨hq, -⟩ | ⟨q₀, hq₀, -, rfl⟩
    · exact ⟨q, hq, rfl, rfl⟩
    · exact ⟨q₀, hq₀, rfl, rfl⟩
  | incrementSends id count => exact h.meter
  | zeroSends id => exact h.meter
  | _ => exact h

/-! ### Runs -/

variable {p : SubscriptionPool} {ls : List SubscriptionLabel}

/-- In every run that restarts only periods in which nothing was counted at the protocol, the counters
agree. -/
theorem counters_agree (h0 : CountersAgree s) (hok : subscribing.Keeps RestartsUnused (Pool.empty s) ls)
    (hr : subscribing.run (Pool.empty s) ls = some p) : CountersAgree p.store := by
  refine System.Keeps.induction (I := fun p => CountersAgree p.store) (fun p l p' hl hI hs => ?_) hok hr h0
  rcases System.store_cases hs with hst | ⟨i, c, t, o, k, rfl, ht, hprog, hst⟩ | ⟨ms, -, hms⟩
  · rw [hst]
    exact hI
  · rw [hst]
    rcases SubscriptionStore.handle_cases (f := c.2) (s := p.store) (o := o) with hsame | ⟨happlies, hserve⟩
    · exact (congrArg CountersAgree hsame).mpr hI
    · exact (congrArg CountersAgree hserve).mpr (hI.serve (hl t ht o (by rw [hprog]; rfl) happlies))
  · rw [← Option.some.inj hms]
    exact hI

/-! ### A payment in the middle of a period -/

/-- Notifications are sent, both counters are set back, and the protocol pays. -/
def meteredThenReset : List SubscriptionLabel :=
  .arrive (.meter (js "p") 5) :: .pick 0 (true, .none) :: .arrive (.resetMeter (js "p")) :: .pick 1 (true, .none) ::
    .arrive (.activate (paymentEvent "1" 1)) :: answers 2 4

theorem counters_agree_meteredThenReset :
    ∃ p ∈ subscribing.run (Pool.empty (subscribedStore 100)) meteredThenReset, CountersAgree p.store := by
  obtain ⟨p, hp⟩ := Option.isSome_iff_exists.1
    (show (subscribing.run (Pool.empty (subscribedStore 100)) meteredThenReset).isSome by decide +kernel)
  exact ⟨p, hp, counters_agree (by decide +kernel) (by decide +kernel) hp⟩

/-- A protocol sends five notifications and then pays: its subscription has counted none, and the protocol
five. -/
theorem counters_part :
    ∃ p ∈ subscribing.run (Pool.empty (subscribedStore 100))
        (.arrive (.meter (js "p") 5) :: .pick 0 (true, .none) :: .arrive (.activate (paymentEvent "1" 1)) :: answers 1 4),
      CountersAgree (subscribedStore 100) ∧ ¬ CountersAgree p.store ∧
        p.store.billing.protocols.map (·.sendsThisPeriod) = [5] ∧
        p.store.billing.subscriptions.map (·.sendsThisPeriod) = [0] := by decide +kernel

end

/-!
## Passes and payments

What a pass lists has run out by then, and stays so as long as nobody pays for it. So a pass expires what is
not paid up if no payment commits before it is through.
-/

section

variable {s s' : SubscriptionStore} {o : SubscriptionOp} {f : Fault} {id : JsString}

/-! ### What calls do to the ends of periods -/

/-- The protocol was paid up before, if its rows end when they did and no time was won. -/
theorem PaidUp.of_rows (h : PaidUp s' id) (hnow : s.billing.now ≤ s'.billing.now)
    (hr : ∀ r ∈ s'.billing.subscriptions, r.protocolId = id → ∃ r₀ ∈ s.billing.subscriptions, r₀.protocolId = id ∧
      r₀.currentPeriodEnd = r.currentPeriodEnd) : PaidUp s id := by
  obtain ⟨r, hmem, hid, last, hlast, hlt⟩ := h
  obtain ⟨r₀, hmem₀, hid₀, hend⟩ := hr r hmem hid
  have hle : (s.billing.now : Int) ≤ s'.billing.now := Int.ofNat_le.2 hnow
  exact ⟨r₀, hmem₀, hid₀, last, hend ▸ hlast, Int.lt_of_le_of_lt hle hlt⟩

/-- An update of the subscription services leaves the ends of periods alone. -/
theorem SubscriptionUpdate.apply_kept (u : SubscriptionUpdate) (r : Subscription) :
    (u.apply r).protocolId = r.protocolId ∧ (u.apply r).currentPeriodEnd = r.currentPeriodEnd := by
  cases u with
  | cancelAtPeriodEnd | expire | resetSends => exact ⟨rfl, rfl⟩

/-- An update of some rows that leaves the ends of periods alone. -/
def KeepsEnds (rows rows' : List Subscription) : Prop :=
  ∃ p u, (∀ r : Subscription, (u r).protocolId = r.protocolId ∧ (u r).currentPeriodEnd = r.currentPeriodEnd) ∧
    rows' = updateWhere p u rows

theorem KeepsEnds.refl (rows : List Subscription) : KeepsEnds rows rows :=
  ⟨fun _ => false, fun r => r, fun _ => ⟨rfl, rfl⟩, (updateWhere_of_none (by simp)).symm⟩

/-- What a call does to the rows: it keeps their ends, or is a payment. None changes the clock. -/
theorem serve_rows : (s.serve o).2.billing.now = s.billing.now ∧
    (KeepsEnds s.billing.subscriptions (s.serve o).2.billing.subscriptions ∨
      ∃ a, o = .billing (.transaction a) ∧ s.billing.commit a = .ok (s.serve o).2.billing) := by
  have meter : ∀ protocolId g, (s.meterSends protocolId g).2.billing.now = s.billing.now ∧
      KeepsEnds s.billing.subscriptions (s.meterSends protocolId g).2.billing.subscriptions := by
    intro protocolId g
    rcases (SubscriptionStore.meterSends_cases : (s.meterSends protocolId g).2 = s ∨ _) with hs | hs
    · rw [hs]
      exact ⟨rfl, .refl _⟩
    · rw [hs]
      exact ⟨rfl, _, fun r => { r with sendsThisPeriod := g r.sendsThisPeriod }, fun _ => ⟨rfl, rfl⟩, rfl⟩
  cases o with
  | billing o =>
    rcases serve_billing_cases (s := s.billing) (o := o) with ⟨hsubs, -, hnow⟩ | ⟨a, rfl, hcommit⟩
    · refine ⟨hnow, .inl ?_⟩
      rw [SubscriptionStore.serve, hsubs]
      exact .refl _
    · obtain ⟨_, _, _, -, -, -, hnow⟩ := commit_rows hcommit
      exact ⟨hnow, .inr ⟨a, rfl, hcommit⟩⟩
  | updateSubscription protocolId u =>
    rw [SubscriptionStore.serve, SubscriptionStore.updateSubscription_store]
    exact ⟨rfl, .inl ⟨_, _, u.apply_kept, rfl⟩⟩
  | deactivateProtocol protocolId =>
    rw [SubscriptionStore.serve, SubscriptionStore.updateProtocols_store]
    exact ⟨rfl, .inl (.refl _)⟩
  | incrementSends protocolId count => exact ⟨(meter _ _).1, .inl (meter _ _).2⟩
  | zeroSends protocolId => exact ⟨(meter _ _).1, .inl (meter _ _).2⟩
  | _ => exact ⟨rfl, .inl (.refl _)⟩

/-- Only a payment makes a protocol paid up. -/
theorem PaidUp.serve (h : PaidUp (s.serve o).2 id) : PaidUp s id ∨ id ∈ o.pays s := by
  obtain ⟨hclock, hcases⟩ := serve_rows (s := s) (o := o)
  have hnow : s.billing.now ≤ (s.serve o).2.billing.now := Nat.le_of_eq hclock.symm
  rcases hcases with ⟨p, u, hu, hrows⟩ | ⟨a, rfl, hcommit⟩
  · refine .inl (h.of_rows hnow fun r hr hid => ?_)
    rw [hrows] at hr
    rcases mem_updateWhere hr with ⟨hr, -⟩ | ⟨r₀, hr₀, -, rfl⟩
    · exact ⟨r, hr, hid, rfl⟩
    · exact ⟨r₀, hr₀, (hu r₀).1.symm.trans hid, (hu r₀).2.symm⟩
  · by_cases hid : a.protocolId = id
    · right
      simp [SubscriptionOp.pays, hcommit, Except.isOk, Except.toBool, hid]
    · refine .inl (h.of_rows hnow fun r hr hrid => ?_)
      obtain ⟨e, tier, _, -, hrows, -, -⟩ := commit_rows hcommit
      have hnew : ∀ row : Subscription, row.protocolId = a.protocolId → row.protocolId ≠ id :=
        fun row hrow heq => hid (hrow.symm.trans heq)
      rcases hrows with hrows | ⟨-, hrows⟩
      · rw [hrows] at hr
        rcases mem_updateWhere hr with ⟨hr, -⟩ | ⟨_, -, -, rfl⟩
        · exact ⟨r, hr, hrid, rfl⟩
        · exact absurd hrid (hnew _ rfl)
      · rw [hrows] at hr
        rcases List.mem_append.1 hr with hr | hr
        · exact ⟨r, hr, hrid, rfl⟩
        · rw [List.mem_singleton.1 hr] at hrid
          exact absurd hrid (hnew _ rfl)

/-- Each protocol has at most one subscription. -/
def SubscriptionStore.Distinct (s : SubscriptionStore) : Prop :=
  (s.billing.subscriptions.map (·.protocolId)).Nodup

theorem SubscriptionStore.Distinct.serve (h : s.Distinct) : (s.serve o).2.Distinct := by
  unfold SubscriptionStore.Distinct at h ⊢
  rcases (serve_rows (s := s) (o := o)).2 with ⟨p, u, hu, hrows⟩ | ⟨a, rfl, hcommit⟩
  · rwa [hrows, map_updateWhere fun r _ _ => (hu r).1]
  · obtain ⟨e, tier, _, -, hrows | ⟨hnew, hrows⟩, -, -⟩ := commit_rows hcommit
    · have hkept : ∀ r ∈ s.billing.subscriptions, (r.protocolId == a.protocolId) = true →
          (a.subscription tier e).protocolId = r.protocolId := fun r _ hr => (beq_iff_eq.1 hr).symm
      rw [hrows, map_updateWhere hkept]
      exact h
    · rw [hrows, List.map_append, List.nodup_append]
      refine ⟨h, List.nodup_singleton _, fun x hx y hy => ?_⟩
      obtain ⟨r, hr, rfl⟩ := List.mem_map.1 hx
      rw [List.mem_singleton.1 hy]
      exact hnew r hr

/-- What a call lists has run out. -/
theorem not_paidUp_of_listed {now : Millis} (hs : s.Distinct) (hle : now ≤ s.billing.now)
    (h : id ∈ (SubscriptionOp.findExpired now).listed (SubscriptionStore.handle f s (.findExpired now)).1) :
    ¬ PaidUp s id := by
  rintro ⟨r', hr', hid', last, hlast, hlt⟩
  cases hreply : (SubscriptionStore.handle f s (.findExpired now)).1 with
  | error e =>
    rw [hreply] at h
    cases h
  | ok rows =>
    have hrows : rows = s.findActive fun r => r.currentPeriodEnd.any (· < (now : Int)) := by
      have hserve := congrArg Prod.fst (SubscriptionStore.handle_ok hreply)
      rw [hreply] at hserve
      exact Except.ok.inj hserve
    rw [hreply] at h
    obtain ⟨row, hrow, rfl⟩ := List.mem_map.1 h
    rw [hrows] at hrow
    obtain ⟨r, hr, rfl⟩ := List.mem_map.1 hrow
    obtain ⟨hmem, hcond⟩ := List.mem_filter.1 hr
    obtain rfl : r' = r := List.inj_on_of_nodup_map hs hr' hmem hid'
    have hended : r'.currentPeriodEnd.any (· < (now : Int)) = true := (Bool.and_eq_true_iff.1 hcond).2
    rw [Option.mem_def.1 hlast, Option.any_some, decide_eq_true_eq] at hended
    have hle' : (now : Int) ≤ s.billing.now := Int.ofNat_le.2 hle
    exact absurd (Int.lt_of_le_of_lt hle' hlt) (Int.not_lt.2 (Int.le_of_lt hended))

/-! ### What tasks wait for -/

/-- A task expires a protocol only after it listed it. -/
theorem expires_after_listed (task : SubscriptionTask) : Within (S := SubscriptionCalls) (ε := Err)
    (fun o => id ∉ o.expires) (fun o r => id ∉ o.listed r) task.code := by
  refine within_subscriptionTask (fun o h _ => by rw [h]; exact nofun) ?_ task
  refine Within.bind (within_subscriptionCall nofun) fun now => ?_
  refine Within.perform_bind (S := SubscriptionCalls) nofun fun expired hgood => ?_
  refine Within.bind (Within.mapEach fun sub hsub => ?_) fun _ => trivial
  have hne : sub.1.protocolId ≠ id := fun heq => hgood (heq ▸ List.mem_map_of_mem hsub)
  have hno : id ∉ some sub.1.protocolId := fun h => hne (Option.mem_some.1 h)
  refine Within.tryCatch (within_updateSubscription hno nofun ?_) fun _ => trivial
  exact Within.bind (within_subscriptionCall hno) fun _ => within_unawaited nofun trivial

/-- A call reads a time. -/
def SubscriptionOp.ReadsTime (now : Millis) : (o : SubscriptionOp) → Except Err o.Res → Prop
  | billing .now, .ok n => n = now
  | _, _ => False

/-- A task asks for what has expired at a time only after it read the time. -/
theorem lists_after_read {now : Millis} (task : SubscriptionTask) : Within (S := SubscriptionCalls) (ε := Err)
    (fun o => o ≠ .findExpired now) (fun o r => ¬ o.ReadsTime now r) task.code := by
  refine within_subscriptionTask (fun o _ h => h now) ?_ task
  refine Within.perform_bind (S := SubscriptionCalls) nofun fun n hgood => ?_
  have hne : n ≠ now := hgood
  refine Within.bind (within_subscriptionCall fun h => hne (SubscriptionOp.findExpired.inj h))
    fun expired => ?_
  refine Within.bind (Within.mapEach fun sub _ => ?_) fun _ => trivial
  refine Within.tryCatch (within_updateSubscription nofun nofun ?_) fun _ => trivial
  exact Within.bind (within_subscriptionCall nofun) fun _ => within_unawaited nofun trivial

/-! ### Steps -/

variable {p p' : SubscriptionPool} {l : SubscriptionLabel} {ls : List SubscriptionLabel}

/-- The clock is never set back. -/
theorem subscriptionClock_step (h : subscribing.step p l = some p') :
    p.store.billing.now ≤ p'.store.billing.now :=
  System.store_rel (R := fun s s' : SubscriptionStore => s.billing.now ≤ s'.billing.now) h (fun _ => Nat.le_refl _)
    (fun c s o => by
      rcases SubscriptionStore.handle_cases (f := c) (s := s) (o := o) with hs | ⟨-, hs⟩
      · exact Nat.le_of_eq (congrArg (·.billing.now) hs).symm
      · exact Nat.le_of_eq ((congrArg (·.billing.now) hs).trans serve_rows.1).symm)
    fun ms s s' hs => by
      rw [← Option.some.inj hs]
      exact Nat.le_add_right _ _

/-- A pass that is pending after a step was pending before, or has just listed. -/
theorem pending_step (h : subscribing.step p l = some p') (hp : PassPending p' id) : PassPending p id ∨
    ∃ i c t o k, l = .pick i c ∧ p.threads[i]? = some t ∧ t.prog = .call o k ∧
      id ∈ o.listed (SubscriptionStore.handle c.2 p.store o).1 ∧
      p'.store = (SubscriptionStore.handle c.2 p.store o).2 := by
  obtain ⟨u, hu, hrunning, e, he, hlisted⟩ := hp
  obtain ⟨i, hi⟩ := List.mem_iff_getElem?.1 hu
  rcases System.thread_cases h hi with ht | ⟨r, -, -, -, rfl⟩ | ⟨t, c, k, -, ht, hprog, -, rfl⟩ |
    ⟨t, c, o, k, hl, ht, hprog, hst, rfl⟩
  · exact .inl ⟨u, List.mem_of_getElem? ht, hrunning, e, he, hlisted⟩
  · cases he
  · exact .inl ⟨t, List.mem_of_getElem? ht, by rw [hprog]; rfl, e, he, hlisted⟩
  · rcases List.mem_append.1 he with he | he
    · exact .inl ⟨t, List.mem_of_getElem? ht, by rw [hprog]; rfl, e, he, hlisted⟩
    · rw [List.mem_singleton.1 he] at hlisted
      exact .inr ⟨i, c, t, o, k, hl, ht, hprog, hlisted, hst⟩

/-- What holds throughout a run in which nobody pays for what a pass has listed. -/
structure PassesSafe (p : SubscriptionPool) : Prop where
  traced : subscribing.Traced p
  clock : System.Since (fun s s' : SubscriptionStore => s.billing.now ≤ s'.billing.now) p
  distinct : p.store.Distinct
  unpaid : ∀ id, PassPending p id → ¬ PaidUp p.store id
  safe : NeverExpiresPaid p

theorem passesSafe_empty (h : s.Distinct) : PassesSafe (Pool.empty s) where
  traced := System.traced_empty s
  clock := System.since_empty s
  distinct := h
  unpaid _ hpend := absurd hpend.choose_spec.1 List.not_mem_nil
  safe _ ht := absurd ht List.not_mem_nil

/-- The time at which a call lists what has expired has come. -/
theorem PassesSafe.listed_at {i : Nat} {t : SubscriptionThread} {now : Millis}
    {k : Except Err (List OwnedSubscription) → Subscribing Unit} (hp : PassesSafe p)
    (ht : p.threads[i]? = some t)
    (hprog : t.prog = @Prog.call SubscriptionCalls Err Unit (.findExpired now) k) :
    now ≤ p.store.billing.now := by
  have hruns := hp.traced i t ht
  rw [hprog] at hruns
  obtain ⟨e, he, hread⟩ := hruns.exists_reply (lists_after_read t.request) (not_not.2 rfl)
  obtain ⟨c, s, o, rfl⟩ := hruns.event e he
  have hle := (hp.clock t (List.mem_of_getElem? ht) _ he).1
  have hread := not_not.1 hread
  cases o with
  | billing o =>
    cases o with
    | now =>
      obtain rfl : s.billing.now = now := hread
      exact hle
    | _ => cases hread
  | _ => cases hread

theorem PassesSafe.step (hp : PassesSafe p) (hok : PaysBetweenPasses p l)
    (h : subscribing.step p l = some p') :
    PassesSafe p' where
  traced := System.Traced.step h hp.traced
  clock := hp.clock.step h (fun _ => Nat.le_refl _) (fun _ _ _ => Nat.le_trans) (subscriptionClock_step h)
  distinct := by
    rcases System.store_cases h with hst | ⟨i, c, t, o, k, -, -, -, hst⟩ | ⟨ms, -, hms⟩
    · rw [hst]
      exact hp.distinct
    · rw [hst]
      rcases SubscriptionStore.handle_cases (f := c.2) (s := p.store) (o := o) with hsame | ⟨-, hserve⟩
      · exact (congrArg SubscriptionStore.Distinct hsame).mpr hp.distinct
      · exact (congrArg SubscriptionStore.Distinct hserve).mpr hp.distinct.serve
    · rw [← Option.some.inj hms]
      exact hp.distinct
  unpaid := by
    intro id hpend hpaid
    rcases pending_step h hpend with hpend | ⟨i, c, t, o, k, -, ht, hprog, hlisted, hst⟩
    · have hunpaid := hp.unpaid id hpend
      rcases System.store_cases h with hst | ⟨i, c, t, o, k, rfl, ht, hprog, hst⟩ | ⟨ms, -, hms⟩
      · rw [hst] at hpaid
        exact hunpaid hpaid
      · rw [hst] at hpaid
        rcases SubscriptionStore.handle_cases (f := c.2) (s := p.store) (o := o) with
          hsame | ⟨happlies, hserve⟩
        · exact hunpaid ((congrArg (PaidUp · id) hsame).mp hpaid)
        · rcases ((congrArg (PaidUp · id) hserve).mp hpaid).serve with hpaid | hpays
          · exact hunpaid hpaid
          · exact hok t ht o (by rw [hprog]; rfl) happlies id hpays hpend
      · rw [← Option.some.inj hms] at hpaid
        exact hunpaid (hpaid.of_rows (Nat.le_add_right _ _) fun r hr hid => ⟨r, hr, hid, rfl⟩)
    · cases o with
      | findExpired now =>
        have hsame : p'.store = p.store := by
          rw [hst]
          rcases SubscriptionStore.handle_cases (f := c.2) (s := p.store) (o := .findExpired now) with
            hs | ⟨-, hs⟩
          · exact hs
          · exact hs
        rw [hsame] at hpaid
        exact not_paidUp_of_listed hp.distinct (hp.listed_at ht hprog) hlisted hpaid
      | _ => cases hlisted
  safe := by
    refine System.Events.step (P := fun _ (e : SubscriptionEvent) =>
      e.choice.applies = true → ∀ id ∈ e.op.expires, ¬ PaidUp e.before id) h hp.safe ?_
    intro i c t o k _ ht hprog _ id hid
    have hruns := hp.traced i t ht
    rw [hprog] at hruns
    obtain ⟨e, he, hlisted⟩ := hruns.exists_reply (@expires_after_listed id t.request) (not_not.2 hid)
    exact hp.unpaid id ⟨t, List.mem_of_getElem? ht, by rw [hprog]; rfl, e, he, not_not.1 hlisted⟩

/-- In every run in which payments commit between the passes that list their protocols, nobody who is paid up
is expired or deactivated. -/
theorem paid_never_expired (hdistinct : s.Distinct)
    (hok : subscribing.Keeps PaysBetweenPasses (Pool.empty s) ls)
    (hr : subscribing.run (Pool.empty s) ls = some p) : NeverExpiresPaid p :=
  (System.Keeps.induction (fun _ _ _ hl hp hs => PassesSafe.step hp hl hs) hok hr (passesSafe_empty hdistinct)).safe

/-! ### A payment in the middle of a pass -/

/-- A subscription runs out; a pass expires it, and then the protocol pays. -/
def expiredThenPaid : List SubscriptionLabel :=
  .outside 200 :: .arrive .expire :: answers 0 7 ++ .arrive (.activate (paymentEvent "1" 1)) :: answers 1 4

-- The pass deactivates whoever has not paid.
example : (subscribing.run (Pool.empty (subscribedStore 100)) (.outside 200 :: .arrive .expire :: answers 0 7)).map
    (fun p => p.store.billing.protocols.map (·.isActive)) = some [false] := by decide +kernel

theorem paid_never_expired_expiredThenPaid :
    ∃ p ∈ subscribing.run (Pool.empty (subscribedStore 100)) expiredThenPaid, NeverExpiresPaid p := by
  obtain ⟨p, hp⟩ := Option.isSome_iff_exists.1
    (show (subscribing.run (Pool.empty (subscribedStore 100)) expiredThenPaid).isSome by decide +kernel)
  exact ⟨p, hp, paid_never_expired (s := subscribedStore 100) (List.nodup_singleton (js "p")) (by decide +kernel) hp⟩

/-- A pass lists the subscription, the protocol pays for a month, and the pass goes on to expire and
deactivate it. -/
theorem paid_month_expired :
    ∃ p ∈ subscribing.run (Pool.empty (subscribedStore 100))
    (.outside 200 :: .arrive .expire :: answers 0 2 ++
        .arrive (.activate (paymentEvent "1" 1)) :: answers 1 4 ++ answers 0 5),
      ¬ NeverExpiresPaid p ∧
        p.store.billing.subscriptions.map (fun r => (r.status, r.currentPeriodEnd)) =
          [(js "expired", some (200 + 30 * 86400000))] ∧
        p.store.billing.protocols.map (·.isActive) = [false] := by decide +kernel

end

end HeraldGateway
