import HeraldGateway.Billing.Guard

/-!
# Two checks of one quota

The guard refuses from the sends on that its own table includes, and knows of no overage; the limiter has
another table, and lets through what is paid for as overage.
-/

namespace HeraldGateway

variable {tier used : Nat} {subscription : Option Subscription} {now : Millis} {view : ProtocolView}
  {limits : TierLimits} {headers : Headers}

/-- The table of the guard includes no more sends than that of the limiter. -/
theorem tierSendLimit_le : tierSendLimit tier ≤ monthlyQuota tier := by
  match tier with
  | 0 | 1 | 2 | 3 => decide
  | n + 4 =>
    have hguard : tierSendLimit (n + 4) = 1000 := rfl
    have hlimiter : monthlyQuota (n + 4) = 1000 := rfl
    omega

/-- Of an active subscription the guard compares the sends with the limit. -/
theorem checkSubscription_of_live {s : Subscription} (hlive : s.LiveAt now) :
    checkSubscription tier (some s) now = if s.sendsThisPeriod ≥ tierSendLimit tier then
      .error (.quotaExceeded s.sendsThisPeriod (tierSendLimit tier) s.periodResetAt) else .ok () := by
  have hlasts : ¬ s.currentPeriodEnd.any (· < (now : Int)) = true := fun hended => by
    cases hlast : s.currentPeriodEnd with
    | none =>
      rw [hlast] at hended
      cases hended
    | some last =>
      rw [hlast, Option.any_some, decide_eq_true_eq] at hended
      have hle := hlive.lasts last hlast
      omega
  rw [checkSubscription, if_neg (not_not.2 hlive.active), if_neg hlasts]

/-- Any other it refuses for another reason. -/
theorem live_of_deniesForQuota (h : DeniesForQuota (checkSubscription tier subscription now)) :
    ∃ s ∈ subscription, s.LiveAt now := by
  obtain ⟨used, limit, resetAt, h⟩ := h
  cases subscription with
  | none => cases h
  | some s =>
    simp only [checkSubscription] at h
    split at h
    · cases h
    · next hactive =>
      split at h
      · cases h
      · next hlasts =>
        refine ⟨s, rfl, not_not.1 hactive, fun last hlast => ?_⟩
        rw [Option.mem_def.1 hlast, Option.any_some, decide_eq_true_eq] at hlasts
        omega

/-- The guard denies for quota what it finds to have reached the limit of its table. -/
theorem guardDecision_deniesForQuota : DeniesForQuota (guardDecision tier subscription now) ↔
    tier ≠ 0 ∧ ∃ s ∈ subscription, s.LiveAt now ∧ (tierSendLimit tier : Int) ≤ s.sendsThisPeriod := by
  by_cases hfree : tier = 0
  · rw [guardDecision, if_pos hfree]
    constructor
    · rintro ⟨_, _, _, h⟩
      cases h
    · exact fun h => absurd hfree h.1
  rw [guardDecision, if_neg hfree]
  constructor
  · intro h
    obtain ⟨s, rfl, hlive⟩ := live_of_deniesForQuota h
    rw [checkSubscription_of_live hlive] at h
    by_cases hfull : (tierSendLimit tier : Int) ≤ s.sendsThisPeriod
    · exact ⟨hfree, s, rfl, hlive, hfull⟩
    · rw [if_neg hfull] at h
      obtain ⟨_, _, _, h⟩ := h
      cases h
  · rintro ⟨-, s, rfl, hlive, hfull⟩
    rw [checkSubscription_of_live hlive, if_pos hfull]
    exact ⟨_, _, _, rfl⟩

/-- The limiter denies what does not fit into the month, unless overages are paid for. -/
theorem checkMonthlyQuota_denies {count : Nat} :
    (checkMonthlyQuota view count limits headers).allowed = false ↔
    limits.sendsPerMonth < view.sendsThisPeriod.getD 0 + count ∧ view.overageEnabled ≠ some true := by
  unfold checkMonthlyQuota
  by_cases hover : limits.sendsPerMonth < view.sendsThisPeriod.getD 0 + count
  · by_cases hpaid : view.overageEnabled = some true
    · simp [hover, hpaid]
    · simp [hover, hpaid]
  · simp [hover]

/-- Both checks count the same sends: they agree exactly below the limit of the guard, and from that of the
limiter on if no overage is paid for; where the guard does not look at its quota, below the limit of the
limiter or with overages. -/
theorem quota_checks_agree_iff {protocol : AuthenticatedProtocol}
    (hused : ∀ s ∈ subscription, s.sendsThisPeriod = (protocol.sendsThisPeriod.getD 0 : Nat)) :
    ((DeniesForQuota (guardDecision protocol.tier subscription now) ↔
      (checkMonthlyQuota protocol.view 1 (getTierLimits (some protocol.tier)) headers).allowed = false) ↔
    (ReachesQuota protocol.tier subscription now ∧ (protocol.sendsThisPeriod.getD 0 < tierSendLimit protocol.tier ∨
      monthlyQuota protocol.tier ≤ protocol.sendsThisPeriod.getD 0 ∧ protocol.overageEnabled ≠ some true)) ∨
    ¬ ReachesQuota protocol.tier subscription now ∧
    (protocol.sendsThisPeriod.getD 0 < monthlyQuota protocol.tier ∨
      protocol.overageEnabled = some true)) := by
  have hle : tierSendLimit protocol.tier ≤ monthlyQuota protocol.tier := tierSendLimit_le
  have hguard : DeniesForQuota (guardDecision protocol.tier subscription now) ↔
      ReachesQuota protocol.tier subscription now ∧
        tierSendLimit protocol.tier ≤ protocol.sendsThisPeriod.getD 0 := by
    rw [guardDecision_deniesForQuota]
    constructor
    · rintro ⟨htier, s, hs, hlive, hfull⟩
      have := hused s hs
      exact ⟨⟨htier, s, hs, hlive⟩, by omega⟩
    · rintro ⟨⟨htier, s, hs, hlive⟩, hfull⟩
      have := hused s hs
      exact ⟨htier, s, hs, hlive, by omega⟩
  have hlimiter : (checkMonthlyQuota protocol.view 1 (getTierLimits (some protocol.tier)) headers).allowed = false ↔
      monthlyQuota protocol.tier < protocol.sendsThisPeriod.getD 0 + 1 ∧
        protocol.overageEnabled ≠ some true :=
    checkMonthlyQuota_denies
  rw [hguard, hlimiter]
  by_cases hreach : ReachesQuota protocol.tier subscription now
  · by_cases hpaid : protocol.overageEnabled = some true
    · simp only [hreach, hpaid, true_and, not_true_eq_false, ne_eq, and_false, false_and, or_false, iff_false]
      omega
    · simp only [hreach, hpaid, true_and, not_true_eq_false, not_false_eq_true, ne_eq, and_true,
        false_and, or_false]
      omega
  · simp only [hreach, false_and, false_iff, false_or, not_false_eq_true, true_and, not_and, ne_eq, not_not]
    by_cases hpaid : protocol.overageEnabled = some true
    · simp [hpaid]
    · simp only [hpaid, or_false, imp_false]
      omega

/-! ### A growth plan within its quota -/

/-- A protocol of the growth tier that has sent ten thousand notifications. -/
def growthCaller : AuthenticatedProtocol where
  protocolId := js "p"
  protocolPubkey := js "key"
  apiKeyId := js "k"
  tier := 1
  environment := .production
  sendsThisPeriod := some 10000
  overageEnabled := some false

/-- Its subscription. -/
def growthSubscription : Subscription := ⟨js "p", 1, js "active", none, none, some 1, 10000, 1, false⟩

theorem quota_checks_agree_iff_growthCaller :
    (DeniesForQuota (guardDecision growthCaller.tier (some growthSubscription) 0) ↔
      (checkMonthlyQuota growthCaller.view 1 (getTierLimits (some growthCaller.tier)) []).allowed = false) ↔
    (ReachesQuota growthCaller.tier (some growthSubscription) 0 ∧
      (growthCaller.sendsThisPeriod.getD 0 < tierSendLimit growthCaller.tier ∨
        monthlyQuota growthCaller.tier ≤ growthCaller.sendsThisPeriod.getD 0 ∧
          growthCaller.overageEnabled ≠ some true)) ∨
    ¬ ReachesQuota growthCaller.tier (some growthSubscription) 0 ∧
      (growthCaller.sendsThisPeriod.getD 0 < monthlyQuota growthCaller.tier ∨ growthCaller.overageEnabled = some true) :=
  quota_checks_agree_iff (by decide)

/-- The guard denies what the limiter has 40,000 sends left for, also where overages are paid for. -/
theorem quota_denied_within_limit :
    DeniesForQuota (guardDecision growthCaller.tier (some growthSubscription) 0) ∧
      (checkMonthlyQuota growthCaller.view 1 (getTierLimits (some growthCaller.tier)) []).allowed = true ∧
      (checkMonthlyQuota { growthCaller with overageEnabled := some true }.view 1
        (getTierLimits (some growthCaller.tier)) []).allowed = true :=
  ⟨⟨10000, 10000, 1, rfl⟩, rfl, rfl⟩

end HeraldGateway
