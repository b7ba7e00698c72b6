import HeraldGateway.Limits.RateLimit
import Mathlib.Data.List.Induction

/-!
# When limits are isolated

The interceptor takes the URL scheme for the protocol, so everybody shares one window and has the limits
of the lowest tier. What a window counts is the number of requests of its second, so a request meets its
own limits exactly if the shared window and the default limits decide as its own would.
-/

namespace HeraldGateway

/-! ### Keys -/

/-- Reading a decimal number back. -/
def readDecimal (s : JsString) : Nat := s.foldl (fun n d => n * 10 + (d.toNat - 48)) 0

theorem decimal_of_lt {n : Nat} (h : n < 10) : decimal n = [48 + UInt16.ofNat n] := by
  have : ∀ n : Fin 10, decimal n = [48 + UInt16.ofNat n] := by decide
  exact this ⟨n, h⟩

theorem decimal_append {n : Nat} (h : 10 ≤ n) : decimal n = decimal (n / 10) ++ decimal (n % 10) := by
  unfold decimal js
  rw [Nat.toString_eq_repr, Nat.toString_eq_repr, Nat.toString_eq_repr, Nat.repr_eq_repr_append_repr h,
    String.toList_append, List.flatMap_append]

theorem readDecimal_decimal (n : Nat) : readDecimal (decimal n) = n := by
  induction n using Nat.strong_induction_on with
  | _ n ih =>
    by_cases h : n < 10
    · have : ∀ n : Fin 10, readDecimal (decimal n) = n := by decide
      exact this ⟨n, h⟩
    · have hlt : n % 10 < 10 := Nat.mod_lt n (by omega)
      have hdigit : ∀ d : Fin 10, (48 + UInt16.ofNat d).toNat - 48 = d.val := by decide
      have hq := ih (n / 10) (by omega)
      unfold readDecimal at hq ⊢
      rw [decimal_append (by omega), decimal_of_lt hlt, List.foldl_append, hq, List.foldl_cons,
        List.foldl_nil, hdigit ⟨n % 10, hlt⟩]
      exact Nat.div_add_mod' n 10

theorem decimal_injective {m n : Nat} (h : decimal m = decimal n) : m = n := by
  rw [← readDecimal_decimal m, h, readDecimal_decimal]

/-- The windows of one protocol are told apart by their seconds. -/
theorem windowKey_eq_iff {protocolId : Option JsString} {t t' : Millis} :
    windowKey protocolId t = windowKey protocolId t' ↔ t / 1000 = t' / 1000 := by
  refine ⟨fun h => decimal_injective (List.append_cancel_left h), fun h => ?_⟩
  unfold windowKey
  rw [h]

/-! ### Windows -/

section windows

variable {read : Attribute} {a : Arrival} {as : List Arrival} {protocolId : Option JsString}
  {s : Counters}

/-- What a request does to the counters. -/
theorem admission_counters {v : ProtocolView} (hv : read a.authenticated = some v) :
    (admission read s a).2 = if a.fault.applies then
      (rateLimitLua s (windowKey v.protocolId a.now) 1000 a.now).2 else s := by
  change (intercept read s a.now a.fault a.authenticated).2 = _
  unfold intercept
  rw [hv]
  dsimp only
  split <;> rfl

/-- How many requests were counted in a second. -/
def countIn (as : List Arrival) (second : Nat) : Nat :=
  as.countP fun b => b.now / 1000 == second && b.fault.applies

/-- The entry of a window after some requests: their number, which lasts for the rest of the second. -/
def Entry (n second : Nat) : Option (Timed Nat) → Prop
  | none => n = 0
  | some e => e.value = n ∧ 0 < n ∧ second * 1000 + 1000 ≤ e.expiresAt

theorem mem_second {t t' : Nat} (h : t / 1000 = t' / 1000) :
    t' / 1000 * 1000 ≤ t ∧ t < t' / 1000 * 1000 + 1000 := by omega

/-- A script counts its request in its window, which lasts for the rest of the second. -/
theorem entry_rateLimitLua {n : Nat} {t : Millis} {key : JsString} (h : Entry n (t / 1000) (s key)) :
    Entry (n + 1) (t / 1000) ((rateLimitLua s key 1000 t).2 key) := by
  simp only [rateLimitLua, if_true]
  cases he : s key with
  | none =>
    rw [he] at h
    have h0 : n = 0 := h
    exact ⟨by simp [Timed.live, h0], Nat.succ_pos _, Nat.add_le_add_right (mem_second rfl).1 1000⟩
  | some e =>
    rw [he] at h
    obtain ⟨hval, hpos, hexp⟩ := h
    have hlive : t < e.expiresAt := (mem_second rfl).2.trans_le hexp
    simp only [Timed.live, if_pos hlive]
    exact ⟨by rw [hval], Nat.succ_pos _, hexp⟩

/-- A script leaves the other windows alone. -/
theorem rateLimitLua_of_ne {t : Millis} {key other : JsString} (h : other ≠ key) :
    (rateLimitLua s key 1000 t).2 other = s other := if_neg h

/-- Requests that go for one protocol are counted in the windows of their seconds. -/
theorem entry_countersAfter (hread : ∀ a ∈ as, ∃ v, read a.authenticated = some v ∧
    v.protocolId = protocolId) (t : Millis) :
    Entry (countIn as (t / 1000)) (t / 1000) (countersAfter read as (windowKey protocolId t)) := by
  induction as using List.reverseRecOn with
  | nil => rfl
  | append_singleton as a ih =>
    have ih := ih fun b hb => hread b (List.mem_append_left _ hb)
    obtain ⟨v, hv, rfl⟩ := hread a (List.mem_append_right _ (List.mem_singleton.2 rfl))
    have hcount : countIn (as ++ [a]) (t / 1000) = countIn as (t / 1000) +
        if a.now / 1000 = t / 1000 ∧ a.fault.applies = true then 1 else 0 := by
      simp [countIn, List.countP_append, List.countP_cons]
    have hafter : countersAfter read (as ++ [a]) = (admission read (countersAfter read as) a).2 := by
      simp [countersAfter]
    rw [hcount, hafter, admission_counters hv]
    by_cases happ : a.fault.applies = true
    · by_cases hsec : a.now / 1000 = t / 1000
      · rw [if_pos happ, if_pos ⟨hsec, happ⟩, ← hsec, windowKey_eq_iff.2 hsec.symm]
        rw [← hsec, windowKey_eq_iff.2 hsec.symm] at ih
        exact entry_rateLimitLua ih
      · rw [if_pos happ, if_neg fun h => hsec h.1]
        rw [rateLimitLua_of_ne fun h => hsec (windowKey_eq_iff.1 h).symm]
        exact ih
    · rw [if_neg happ, if_neg fun h => happ h.2]
      exact ih

/-- The number that a window gives to the next request. -/
theorem current_of_entry {n : Nat} {t : Millis} {key : JsString} (h : Entry n (t / 1000) (s key)) :
    (rateLimitLua s key 1000 t).1.1 = n + 1 := by
  unfold rateLimitLua
  cases he : s key with
  | none =>
    rw [he] at h
    rw [show n = 0 from h]
    rfl
  | some e =>
    rw [he] at h
    obtain ⟨hval, -, hexp⟩ := h
    have hlive : t < e.expiresAt := (mem_second rfl).2.trans_le hexp
    simp only [Timed.live, if_pos hlive, hval]

end windows

/-! ### Verdicts -/

/-- What becomes of the `n`-th request of a window under the limits of a protocol. -/
def verdict (v : ProtocolView) (r : LimitedRequest) (n : Nat) : Except (Option JsString) Unit :=
  if v.burst < n then .error (some (js "RATE_LIMIT_EXCEEDED"))
  else if r.isBatch = true ∧ (getTierLimits v.tier).maxBatchSize < r.batchCount then
    .error (some (js "BATCH_SIZE_EXCEEDED"))
  else if v.isSandbox = true ∨ v.overageEnabled = some true ∨
      v.sendsThisPeriod.getD 0 + r.batchCount ≤ (getTierLimits v.tier).sendsPerMonth then .ok ()
  else .error (some (js "QUOTA_EXCEEDED"))

/-- What becomes of a result. -/
def RateLimitCheckResult.decision (r : RateLimitCheckResult) : Except (Option JsString) Unit :=
  if r.allowed then .ok () else .error r.error

theorem quota_decision {v : ProtocolView} {count : Nat} {headers : Headers} :
    (checkMonthlyQuota v count (getTierLimits v.tier) headers).decision =
      if v.overageEnabled = some true ∨
        v.sendsThisPeriod.getD 0 + count ≤ (getTierLimits v.tier).sendsPerMonth then .ok ()
      else .error (some (js "QUOTA_EXCEEDED")) := by
  unfold checkMonthlyQuota
  dsimp only
  by_cases hover : v.sendsThisPeriod.getD 0 + count > (getTierLimits v.tier).sendsPerMonth
  · by_cases hpaid : v.overageEnabled = some true
    · rw [if_pos hover, if_pos hpaid, if_pos (.inl hpaid)]
      rfl
    · rw [if_pos hover, if_neg hpaid, if_neg fun h => h.elim hpaid (Nat.not_le.2 hover)]
      rfl
  · rw [if_neg hover, if_pos (.inr (Nat.not_lt.1 hover))]
    rfl

/-- A check that hears from Redis gives the verdict on the number of the request. -/
theorem checkAllLimits_decision {s : Counters} {now : Millis} {v : ProtocolView} {r : LimitedRequest} :
    (checkAllLimits s now .none v r.isBatch r.batchCount).1.decision =
      verdict v r (rateLimitLua s (windowKey v.protocolId now) 1000 now).1.1 := by
  simp only [checkAllLimits, checkPerSecondLimit, perSecondResult, verdict]
  by_cases hburst : v.burst < (rateLimitLua s (windowKey v.protocolId now) 1000 now).1.1
  · simp [hburst, RateLimitCheckResult.decision]
  · simp only [gt_iff_lt, hburst, if_false, Bool.not_true, Bool.false_eq_true]
    by_cases hbatch : r.isBatch = true ∧ (getTierLimits v.tier).maxBatchSize < r.batchCount
    · simp [hbatch, RateLimitCheckResult.decision, batchSizeExceeded]
    · rw [if_neg (by simpa using hbatch), if_neg hbatch]
      cases hsandbox : v.isSandbox with
      | true => rfl
      | false =>
        simp only [Bool.not_false, if_true, quota_decision, Bool.false_eq_true, false_or]

theorem admission_decision {read : Attribute} {s : Counters} {a : Arrival} {v : ProtocolView}
    (hv : read a.authenticated = some v) :
    (admission read s a).1 = (checkAllLimits s a.now a.fault v a.authenticated.isBatch
      a.authenticated.batchCount).1.decision := by
  change decisionOf (intercept read s a.now a.fault a.authenticated).1 = _
  unfold intercept RateLimitCheckResult.decision
  rw [hv]
  dsimp only
  cases (checkAllLimits s a.now a.fault v a.authenticated.isBatch
    a.authenticated.batchCount).1.allowed <;> rfl

/-- Where the interceptor takes one protocol for all, a request that Redis answers gets the verdict on
its number in the second. -/
theorem decisionAfter_eq {read : Attribute} {before : List Arrival} {a : Arrival} {v : ProtocolView}
    (hv : read a.authenticated = some v) (hnone : a.fault = .none)
    (hread : ∀ b ∈ before, ∃ w, read b.authenticated = some w ∧ w.protocolId = v.protocolId) :
    decisionAfter read before a = verdict v a.request (countedInSecond before a) := by
  have hcurrent := current_of_entry (entry_countersAfter hread a.now)
  rw [decisionAfter, admission_decision hv, hnone, checkAllLimits_decision, hcurrent]
  rfl

/-- A request that Redis does not answer is rejected. -/
theorem decisionAfter_fault {read : Attribute} {before : List Arrival} {a : Arrival} {v : ProtocolView}
    (hv : read a.authenticated = some v) (hfault : a.fault ≠ .none) :
    decisionAfter read before a = .error (some (js "RATE_LIMIT_UNAVAILABLE")) := by
  rw [decisionAfter, admission_decision hv]
  simp only [checkAllLimits, checkPerSecondLimit]
  cases hf : a.fault with
  | none => exact absurd hf hfault
  | refused | unheard | stalled => rfl

/-! ### The default limits and one's own -/

theorem default_le_none : 10 ≤ developerLimits.burstLimit ∧ 10 ≤ developerLimits.maxBatchSize := by
  decide

/-- No tier has lower limits than the lowest. -/
theorem default_le (tier : Option Nat) :
    10 ≤ (getTierLimits tier).burstLimit ∧ 10 ≤ (getTierLimits tier).maxBatchSize := by
  match tier with
  | none | some 0 | some 1 | some 2 | some 3 => exact ⟨by decide, by decide⟩
  | some (_ + 4) => exact default_le_none

theorem default_le_burst (v : ProtocolView) : 10 ≤ v.burst := by
  unfold ProtocolView.burst
  split
  · exact le_rfl
  · exact (default_le v.tier).1

/-- The quota of the default limits does not reject what its batch limit lets through. -/
theorem batchCount_le {r : LimitedRequest} (h : r.isBatch = true → r.batchCount ≤ 10) :
    r.batchCount ≤ 1000 := by
  cases hb : r.isBatch with
  | true => exact (h hb).trans (by decide)
  | false => simp [LimitedRequest.batchCount, hb]

/-- The verdict on the `n`-th request of all under the default limits. -/
theorem verdict_default {r : LimitedRequest} {n : Nat} :
    verdict stringView r n =
      if 10 < n then .error (some (js "RATE_LIMIT_EXCEEDED"))
      else if r.isBatch = true ∧ 10 < r.batchCount then .error (some (js "BATCH_SIZE_EXCEEDED"))
      else .ok () := by
  have hburst : stringView.burst = 10 := rfl
  have hbatch : (getTierLimits stringView.tier).maxBatchSize = 10 := rfl
  unfold verdict
  rw [hburst, hbatch]
  by_cases h : r.isBatch = true ∧ 10 < r.batchCount
  · rw [if_pos h, if_pos h]
  · have hquota : stringView.isSandbox = true ∨ stringView.overageEnabled = some true ∨
        stringView.sendsThisPeriod.getD 0 + r.batchCount ≤
          (getTierLimits stringView.tier).sendsPerMonth := by
      refine .inr (.inr ((Nat.zero_add _).trans_le ?_))
      exact batchCount_le fun hb => Nat.not_lt.1 fun hlt => h ⟨hb, hlt⟩
    rw [if_neg h, if_neg h, if_pos hquota]

/-- The shared window and the default limits decide as the own ones exactly if the request meets its own
limits. -/
theorem verdict_eq_iff {a : Arrival} {n m : Nat} (hm : m ≤ n) :
    verdict stringView a.request n = verdict a.caller.view a.request m ↔
      if n ≤ 10 then
        a.oversized = true ∨ (a.request.isBatch = true → a.request.batchCount ≤ 10) ∧ a.affordable = true
      else a.caller.view.burst < m := by
  have hburst := default_le_burst a.caller.view
  have hover : a.oversized = true ↔ a.request.isBatch = true ∧
      (getTierLimits a.caller.view.tier).maxBatchSize < a.request.batchCount := by
    simp [Arrival.oversized, AuthenticatedProtocol.view]
  have hafford : a.affordable = true ↔ a.caller.view.isSandbox = true ∨
      a.caller.view.overageEnabled = some true ∨ a.caller.view.sendsThisPeriod.getD 0 +
        a.request.batchCount ≤ (getTierLimits a.caller.view.tier).sendsPerMonth := by
    simp [Arrival.affordable, AuthenticatedProtocol.view, ProtocolView.isSandbox, or_assoc]
  rw [verdict_default, hafford, hover]
  unfold verdict
  by_cases hn : n ≤ 10
  · have hshared : ¬ 10 < n := Nat.not_lt.2 hn
    have hown : ¬ a.caller.view.burst < m := by omega
    rw [if_pos hn, if_neg hshared, if_neg hown]
    have hmax := (default_le a.caller.view.tier).2
    by_cases ho : a.request.isBatch = true ∧
        (getTierLimits a.caller.view.tier).maxBatchSize < a.request.batchCount
    · rw [if_pos ⟨ho.1, hmax.trans_lt ho.2⟩, if_pos ho]
      simp [ho]
    · rw [if_neg ho]
      by_cases hb : a.request.isBatch = true ∧ 10 < a.request.batchCount
      · rw [if_pos hb]
        have hbig : ¬ (a.request.isBatch = true → a.request.batchCount ≤ 10) := fun h =>
          absurd (h hb.1) (Nat.not_le.2 hb.2)
        simp only [ho, hbig, false_and, or_self, iff_false]
        split
        · exact nofun
        · exact fun h => absurd (Option.some.inj (Except.error.inj h)) (by decide)
      · rw [if_neg hb]
        have hsmall : a.request.isBatch = true → a.request.batchCount ≤ 10 := fun h =>
          Nat.not_lt.1 fun hlt => hb ⟨h, hlt⟩
        simp only [ho, false_or]
        split
        · next h => exact iff_of_true rfl ⟨hsmall, h⟩
        · next h => exact iff_of_false nofun fun hr => h hr.2
  · have hshared : 10 < n := Nat.not_le.1 hn
    rw [if_neg hn, if_pos hshared]
    by_cases hb : a.caller.view.burst < m
    · simp [hb]
    · rw [if_neg hb]
      simp only [hb, iff_false]
      split
      · exact fun h => absurd (Option.some.inj (Except.error.inj h)) (by decide)
      · split
        · exact nofun
        · exact fun h => absurd (Option.some.inj (Except.error.inj h)) (by decide)

/-! ### Isolation -/

theorem schemeAttribute_eq (a : Arrival) : schemeAttribute a.authenticated = some stringView := by
  unfold schemeAttribute Arrival.authenticated
  cases a.request.protocol <;> rfl

theorem ownArrivals_le {before : List Arrival} {a : Arrival} :
    countedInSecond (ownArrivals a before) a ≤ countedInSecond before a :=
  Nat.add_le_add_right (List.filter_sublist.countP_le) 1

/-- One request is decided as if its protocol were alone exactly if it meets its own limits. -/
theorem decision_own_iff {before : List Arrival} {a : Arrival} :
    decisionAfter schemeAttribute before a = decisionAfter authAttribute (ownArrivals a before) a ↔
      MeetsOwnLimits before a := by
  have hown : authAttribute a.authenticated = some a.caller.view := rfl
  unfold MeetsOwnLimits
  by_cases hf : a.fault = .none
  · have hread : ∀ b ∈ ownArrivals a before, ∃ w, authAttribute b.authenticated = some w ∧
        w.protocolId = a.caller.view.protocolId := fun b hb =>
      ⟨b.caller.view, rfl, congrArg some (eq_of_beq (List.mem_filter.1 hb).2)⟩
    rw [decisionAfter_eq (schemeAttribute_eq a) hf fun b _ => ⟨_, schemeAttribute_eq b, rfl⟩,
      decisionAfter_eq hown hf hread, verdict_eq_iff ownArrivals_le]
    exact ⟨fun h _ => h, fun h => h hf⟩
  · rw [decisionAfter_fault (schemeAttribute_eq a) hf, decisionAfter_fault hown hf]
    exact ⟨fun _ h => absurd h hf, fun _ => rfl⟩

/-- Every request is let through or rejected as if its protocol were alone, under its own limits. -/
def LimitsIsolated (as : List Arrival) : Prop :=
  ∀ i : Fin as.length, decisionAfter schemeAttribute (as.take i) as[i] =
    decisionAfter authAttribute (ownArrivals as[i] (as.take i)) as[i]

/-- Limits are isolated in a run exactly if every request of it meets its own limits. -/
theorem limits_isolated_iff (as : List Arrival) :
    LimitsIsolated as ↔ ∀ i : Fin as.length, MeetsOwnLimits (as.take i) as[i] :=
  forall_congr' fun _ => decision_own_iff

/-! ### A run that breaks it -/

/-- A notify request of a protocol of the second tier. -/
def growthRequest (protocolId : JsString) : Arrival where
  request := { protocol := .https, url := some (js "/v1/notify") }
  caller :=
    { protocolId := protocolId, protocolPubkey := protocolId, apiKeyId := js "key", tier := 1,
      environment := .production }
  now := 0

/-- Ten requests of one protocol use up the window of another one's first request. -/
theorem window_shared :
    ¬ LimitsIsolated (List.replicate 10 (growthRequest (js "b")) ++ [growthRequest (js "a")]) := by
  unfold LimitsIsolated
  decide +kernel

end HeraldGateway
