import HeraldGateway.Limits.Windows

/-!
# When overage is charged for what is above the limit

A request over the limit is charged for all of its sends. So its charge is right unless it begins below the
limit, and as no request is charged too little, the charges of a period are right if every single one is.
-/

namespace HeraldGateway

variable {protocol : ProtocolView} {limits : TierLimits} {used limit count : Nat}

theorem overagePrice_pos (tier : Option Nat) : 0 < overagePricePerNotification tier := by
  match tier with
  | none | some 0 | some 1 | some 2 | some 3 => decide
  | some (_ + 4) => exact (by decide : 0 < 500)

/-! ### A request -/

/-- A protocol that pays is charged for all the sends of a request that goes over the limit. -/
theorem overageCharge_eq (hpaid : protocol.overageEnabled = some true) (headers : Headers) :
    overageCharge protocol limits count headers =
      if limits.sendsPerMonth < protocol.used + count then
        count * overagePricePerNotification protocol.tier
      else 0 := by
  unfold overageCharge checkMonthlyQuota ProtocolView.used
  dsimp only
  by_cases hover : limits.sendsPerMonth < protocol.sendsThisPeriod.getD 0 + count
  · rw [if_pos hover, if_pos hpaid, if_pos hover]
    rfl
  · rw [if_neg hover, if_neg hover]
    rfl

theorem sendsAbove_le : sendsAbove used limit count ≤ count := by
  unfold sendsAbove
  omega

theorem sendsAbove_eq_zero (h : used + count ≤ limit) : sendsAbove used limit count = 0 := by
  unfold sendsAbove
  omega

/-- All sends of a request over the limit are above it unless it begins below. -/
theorem sendsAbove_eq_iff (h : limit < used + count) :
    sendsAbove used limit count = count ↔ ¬ Straddles used limit count := by
  unfold sendsAbove Straddles
  omega

/-- The sends of two requests above the limit. -/
theorem sendsAbove_add {more : Nat} : sendsAbove used limit (count + more) =
    sendsAbove used limit count + sendsAbove (used + count) limit more := by
  unfold sendsAbove
  omega

/-- No request is charged too little. -/
theorem le_overageCharge (hpaid : protocol.overageEnabled = some true) (headers : Headers) :
    overagePricePerNotification protocol.tier * sendsAbove protocol.used limits.sendsPerMonth count ≤
      overageCharge protocol limits count headers := by
  rw [overageCharge_eq hpaid]
  by_cases hover : limits.sendsPerMonth < protocol.used + count
  · rw [if_pos hover, Nat.mul_comm count]
    exact Nat.mul_le_mul_left _ sendsAbove_le
  · rw [if_neg hover, sendsAbove_eq_zero (Nat.not_lt.1 hover), Nat.mul_zero]

/-- A request is charged for what is above the limit unless it straddles it. -/
theorem chargesAbove_iff (hpaid : protocol.overageEnabled = some true) (headers : Headers) :
    ChargesAbove protocol limits count headers ↔
      ¬ Straddles protocol.used limits.sendsPerMonth count := by
  unfold ChargesAbove
  rw [overageCharge_eq hpaid]
  by_cases hover : limits.sendsPerMonth < protocol.used + count
  · rw [if_pos hover, ← sendsAbove_eq_iff hover, Nat.mul_comm count,
      Nat.mul_right_inj (Nat.ne_of_gt (overagePrice_pos _))]
    exact eq_comm
  · rw [if_neg hover, sendsAbove_eq_zero (Nat.not_lt.1 hover), Nat.mul_zero]
    exact iff_of_true rfl fun h => hover h.2

/-! ### A period -/

/-- The charges of a period are at least the price of its sends above the limit, and equal to it exactly
if no request straddles the limit. -/
theorem period_charges (requests : List (Nat × Headers)) : ∀ {protocol : ProtocolView},
    protocol.overageEnabled = some true →
    overagePricePerNotification protocol.tier *
        sendsAbove protocol.used limits.sendsPerMonth (requests.map (·.1)).sum ≤
      (periodCharges limits protocol requests).sum ∧
    (PeriodChargesAbove protocol limits requests ↔ ∀ i : Fin requests.length,
      ¬ Straddles (protocol.used + ((requests.take i).map (·.1)).sum) limits.sendsPerMonth
        requests[i].1) := by
  induction requests with
  | nil =>
    intro protocol hpaid
    have hzero : sendsAbove protocol.used limits.sendsPerMonth 0 = 0 := by simp [sendsAbove]
    refine ⟨?_, iff_of_true ?_ nofun⟩
    · simp [hzero, periodCharges]
    · simp [PeriodChargesAbove, hzero, periodCharges]
  | cons request rest ih =>
    intro protocol hpaid
    obtain ⟨count, headers⟩ := request
    obtain ⟨hle, hiff⟩ := @ih (protocol.afterSends count) hpaid
    have hused : (protocol.afterSends count).used = protocol.used + count := rfl
    have htier : (protocol.afterSends count).tier = protocol.tier := rfl
    rw [hused, htier] at hle
    have hfirst := @le_overageCharge protocol limits count hpaid headers
    have hfirst_iff := @chargesAbove_iff protocol limits count hpaid headers
    have hsum : sendsAbove protocol.used limits.sendsPerMonth (((count, headers) :: rest).map (·.1)).sum =
        sendsAbove protocol.used limits.sendsPerMonth count +
          sendsAbove (protocol.used + count) limits.sendsPerMonth (rest.map (·.1)).sum := by
      rw [List.map_cons, List.sum_cons, sendsAbove_add]
    have hcharges : (periodCharges limits protocol ((count, headers) :: rest)).sum =
        overageCharge protocol limits count headers +
          (periodCharges limits (protocol.afterSends count) rest).sum := by
      rw [periodCharges, List.sum_cons]
    rw [hsum, hcharges, Nat.mul_add]
    refine ⟨Nat.add_le_add hfirst hle, ?_⟩
    have hsplit : PeriodChargesAbove protocol limits ((count, headers) :: rest) ↔
        ChargesAbove protocol limits count headers ∧
          PeriodChargesAbove (protocol.afterSends count) limits rest := by
      unfold PeriodChargesAbove ChargesAbove
      rw [hsum, hcharges, Nat.mul_add, hused, htier]
      omega
    rw [hsplit, hfirst_iff, hiff]
    refine (and_congr ?_ (forall_congr' fun i => ?_)).trans Fin.forall_fin_succ.symm
    · simp
    · simp [hused, Nat.add_assoc]

/-- Overage is charged for exactly what is above the limit by a request, and over a period, exactly if no
request straddles the limit. -/
theorem overage_charged_iff (limits : TierLimits) (hpaid : protocol.overageEnabled = some true) :
    (∀ count headers, ChargesAbove protocol limits count headers ↔
      ¬ Straddles protocol.used limits.sendsPerMonth count) ∧
    ∀ requests, PeriodChargesAbove protocol limits requests ↔ ∀ i : Fin requests.length,
      ¬ Straddles (protocol.used + ((requests.take i).map (·.1)).sum) limits.sendsPerMonth requests[i].1 :=
  ⟨fun _ headers => chargesAbove_iff hpaid headers, fun requests => (period_charges requests hpaid).2⟩

/-- A protocol of the lowest tier that pays for overage, near its limit. -/
def nearLimit : ProtocolView := ⟨some (js "p"), some 0, some .production, some 995, some true⟩

/-- Two requests of ten: the first straddles the limit. -/
theorem overage_charged_twoRequests :
    ¬ ChargesAbove nearLimit developerLimits 10 [] ∧ ChargesAbove nearLimit developerLimits 5 [] ∧
      ChargesAbove (nearLimit.afterSends 10) developerLimits 10 [] :=
  ⟨fun h => ((overage_charged_iff developerLimits rfl).1 10 []).1 h (by unfold Straddles; decide),
    ((overage_charged_iff developerLimits rfl).1 5 []).2 (by unfold Straddles; decide),
    ((overage_charged_iff developerLimits rfl).1 10 []).2 (by unfold Straddles; decide)⟩

/-- Ten sends from 995 on are charged for as ten, though five of them are above the limit of 1000. -/
theorem straddling_overcharged :
    (checkMonthlyQuota nearLimit 10 (getTierLimits (some 0)) []).overagePrice = some 5000 ∧
    (checkMonthlyQuota nearLimit 10 (getTierLimits (some 0)) []).overageCount = some 5 ∧
    sendsAbove nearLimit.used (getTierLimits (some 0)).sendsPerMonth 10 = 5 ∧
    ¬ ChargesAbove nearLimit (getTierLimits (some 0)) 10 [] ∧
    ¬ PeriodChargesAbove nearLimit (getTierLimits (some 0)) [(10, [])] := by
  unfold ChargesAbove PeriodChargesAbove
  decide +kernel

end HeraldGateway
