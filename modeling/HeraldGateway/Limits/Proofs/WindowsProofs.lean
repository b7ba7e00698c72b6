import HeraldGateway.Limits.Windows
import HeraldGateway.Limits.Proofs.RateLimitProofs

/-!
# What a window lets through

The counter of a second begins with its first script and lasts for a second from there, so it is there for
every script of the second. The `n`-th script of a second is therefore told `n`, in whatever order the
gateways' scripts run.
-/

namespace HeraldGateway

variable {protocolId : Option JsString} {burstLimit : Nat} {isSandbox : Bool} {s : Counters}

/-! ### Counting -/

/-- The window of a second, in milliseconds. -/
def windowOf (protocolId : Option JsString) (s : Counters) (second : Nat) : Option (Timed Nat) :=
  s (windowKey protocolId (second * 1000))

theorem windowOf_eq {t : Millis} : windowOf protocolId s (t / 1000) = s (windowKey protocolId t) := by
  have hkey : windowKey protocolId (t / 1000 * 1000) = windowKey protocolId t :=
    windowKey_eq_iff.2 (Nat.mul_div_cancel _ (by decide))
  rw [windowOf, hkey]

/-- The next script of a second is told the number of scripts before it and one. -/
theorem check_current {c : LimiterCall} {n : Nat} (htime : c.InTime)
    (h : Entry n (c.ran / 1000) (windowOf protocolId s (c.ran / 1000))) :
    (rateLimitLua s (windowKey protocolId c.computed) 1000 c.ran).1.1 = n + 1 := by
  rw [← htime, windowOf_eq, htime] at h
  exact current_of_entry h

/-- A script is counted in its second, and in no other one. -/
theorem entry_check {c : LimiterCall} {counts : Nat → Nat} (htime : c.InTime)
    (h : ∀ second, Entry (counts second) second (windowOf protocolId s second)) (second : Nat) :
    Entry (if c.ran / 1000 = second then counts second + 1 else counts second) second
      (windowOf protocolId (c.check s protocolId burstLimit isSandbox).2 second) := by
  have hstate : (c.check s protocolId burstLimit isSandbox).2 =
      (rateLimitLua s (windowKey protocolId c.computed) 1000 c.ran).2 := rfl
  rw [hstate]
  by_cases hsec : c.ran / 1000 = second
  · subst hsec
    have hafter : windowOf protocolId (rateLimitLua s (windowKey protocolId c.computed) 1000 c.ran).2
        (c.ran / 1000) = (rateLimitLua s (windowKey protocolId c.computed) 1000 c.ran).2
          (windowKey protocolId c.computed) := by
      rw [← htime, windowOf_eq]
    have hbefore := h (c.ran / 1000)
    rw [← htime, windowOf_eq, htime] at hbefore
    rw [if_pos rfl, hafter]
    exact entry_rateLimitLua hbefore
  · have hkey : windowKey protocolId (second * 1000) ≠ windowKey protocolId c.computed := by
      intro heq
      have hdiv := windowKey_eq_iff.1 heq
      rw [Nat.mul_div_cancel _ (by decide)] at hdiv
      exact hsec (htime.symm.trans hdiv.symm)
    rw [if_neg hsec, windowOf, rateLimitLua_of_ne hkey]
    exact h second

/-! ### The answers of a second -/

theorem perSecondResult_allowed {current resetAt : Nat} :
    (perSecondResult burstLimit current resetAt isSandbox).allowed = decide (current ≤ burstLimit) := by
  unfold perSecondResult
  by_cases h : burstLimit < current
  · simp [h]
  · simp [h, Nat.not_lt.1 h]

theorem perSecondResult_remaining {current resetAt : Nat} (h : current ≤ burstLimit) :
    (perSecondResult burstLimit current resetAt isSandbox).remaining =
      some (decimal (burstLimit - current)) := by
  have hnot : ¬ current > burstLimit := Nat.not_lt.2 h
  unfold perSecondResult RateLimitCheckResult.remaining
  simp only [if_neg hnot]
  have hlimit : (js "X-RateLimit-Limit" == js "X-RateLimit-Remaining") = false := by decide
  rw [List.find?_cons_of_neg (by simp [hlimit]), List.find?_cons_of_pos (by simp)]
  rfl

/-- The remaining quotas of the requests let through in a second, which follow `n` others in it, count down
from where these left off. -/
theorem remaining_of_counts {calls : List LimiterCall} : ∀ {s : Counters} {counts : Nat → Nat},
    (∀ c ∈ calls, c.InTime) →
    (∀ second, Entry (counts second) second (windowOf protocolId s second)) → ∀ second,
    (allowedIn (limiterRun protocolId burstLimit isSandbox s calls) second).map (·.remaining) =
      (List.range' (counts second)
        (min (counts second + ranIn calls second) burstLimit - counts second)).map
          fun i => some (decimal (burstLimit - 1 - i)) := by
  induction calls with
  | nil =>
    intro s counts _ _ second
    have hnone : min (counts second + ranIn [] second) burstLimit - counts second = 0 := by
      simp only [ranIn, List.countP_nil]
      omega
    rw [hnone]
    rfl
  | cons c calls ih =>
    intro s counts htime h second
    obtain ⟨hc, hrest⟩ := List.forall_mem_cons.1 htime
    have ih := ih hrest (@entry_check _ burstLimit isSandbox _ _ _ hc h) second
    have hcurrent := check_current hc (h (c.ran / 1000))
    rw [limiterRun]
    by_cases hsec : c.ran / 1000 = second
    · subst hsec
      have hran : ranIn (c :: calls) (c.ran / 1000) = ranIn calls (c.ran / 1000) + 1 := by
        simp [ranIn]
      have hresult : (c.check s protocolId burstLimit isSandbox).1 = perSecondResult burstLimit
          (counts (c.ran / 1000) + 1) ((c.heard +
            (rateLimitLua s (windowKey protocolId c.computed) 1000 c.ran).1.2 + 999) / 1000)
          isSandbox := by
        rw [← hcurrent]
        rfl
      rw [if_pos rfl] at ih
      rw [hran]
      by_cases hroom : counts (c.ran / 1000) + 1 ≤ burstLimit
      · have hallowed : (c.check s protocolId burstLimit isSandbox).1.allowed = true := by
          rw [hresult, perSecondResult_allowed, decide_eq_true hroom]
        have hremaining : (c.check s protocolId burstLimit isSandbox).1.remaining =
            some (decimal (burstLimit - 1 - counts (c.ran / 1000))) := by
          rw [hresult, perSecondResult_remaining hroom, Nat.sub_sub, Nat.add_comm 1]
        have hlength : min (counts (c.ran / 1000) + (ranIn calls (c.ran / 1000) + 1)) burstLimit -
            counts (c.ran / 1000) = min (counts (c.ran / 1000) + 1 + ranIn calls (c.ran / 1000))
              burstLimit - (counts (c.ran / 1000) + 1) + 1 := by omega
        have hhead : allowedIn ((c, (c.check s protocolId burstLimit isSandbox).1) ::
            limiterRun protocolId burstLimit isSandbox (c.check s protocolId burstLimit isSandbox).2 calls)
              (c.ran / 1000) = (c.check s protocolId burstLimit isSandbox).1 ::
            allowedIn (limiterRun protocolId burstLimit isSandbox
              (c.check s protocolId burstLimit isSandbox).2 calls) (c.ran / 1000) := by
          simp [allowedIn, hallowed]
        rw [hhead, List.map_cons, ih, hremaining, hlength, List.range'_succ, List.map_cons]
      · have hallowed : (c.check s protocolId burstLimit isSandbox).1.allowed = false := by
          rw [hresult, perSecondResult_allowed, decide_eq_false hroom]
        have htail : allowedIn ((c, (c.check s protocolId burstLimit isSandbox).1) ::
            limiterRun protocolId burstLimit isSandbox (c.check s protocolId burstLimit isSandbox).2 calls)
              (c.ran / 1000) = allowedIn (limiterRun protocolId burstLimit isSandbox
                (c.check s protocolId burstLimit isSandbox).2 calls) (c.ran / 1000) := by
          simp [allowedIn, hallowed]
        have hlength : min (counts (c.ran / 1000) + (ranIn calls (c.ran / 1000) + 1)) burstLimit -
            counts (c.ran / 1000) = 0 := by omega
        have hlength' : min (counts (c.ran / 1000) + 1 + ranIn calls (c.ran / 1000)) burstLimit -
            (counts (c.ran / 1000) + 1) = 0 := by omega
        rw [htail, ih, hlength, hlength']
        rfl
    · have hran : ranIn (c :: calls) second = ranIn calls second := by simp [ranIn, hsec]
      have htail : allowedIn ((c, (c.check s protocolId burstLimit isSandbox).1) ::
          limiterRun protocolId burstLimit isSandbox (c.check s protocolId burstLimit isSandbox).2 calls)
            second = allowedIn (limiterRun protocolId burstLimit isSandbox
              (c.check s protocolId burstLimit isSandbox).2 calls) second := by
        simp [allowedIn, hsec]
      rw [if_neg hsec] at ih
      rw [hran, htail, ih]

/-! ### Windows from the start -/

section run

variable {calls : List LimiterCall} (htime : ∀ c ∈ calls, c.InTime)

include htime

/-- The answers to calls that find no counters. -/
theorem remaining_fresh (second : Nat) :
    (allowedIn (limiterRun protocolId burstLimit isSandbox (fun _ => none) calls) second).map (·.remaining) =
      (List.range (min (ranIn calls second) burstLimit)).map
        fun i => some (decimal (burstLimit - 1 - i)) := by
  have h := @remaining_of_counts protocolId burstLimit isSandbox calls (fun _ => none) (fun _ => 0) htime
    (fun _ => rfl) second
  rw [h, List.range_eq_range', Nat.zero_add, Nat.sub_zero]

theorem allowed_fresh (second : Nat) :
    (allowedIn (limiterRun protocolId burstLimit isSandbox (fun _ => none) calls) second).length =
      min (ranIn calls second) burstLimit := by
  have h := congrArg List.length (@remaining_fresh protocolId burstLimit isSandbox calls htime second)
  rwa [List.length_map, List.length_map, List.length_range] at h

end run

theorem remaining_nodup {n : Nat} :
    ((List.range (min n burstLimit)).map fun i => some (decimal (burstLimit - 1 - i))).Nodup := by
  refine List.Nodup.map_on (fun i hi j hj h => ?_) List.nodup_range
  have heq := decimal_injective (Option.some.inj h)
  have hi := List.mem_range.1 hi
  have hj := List.mem_range.1 hj
  omega

theorem two_windows {t r : Nat} (h : t ≤ r) (h' : r ≤ t + 1000) :
    r / 1000 = t / 1000 ∨ r / 1000 = t / 1000 + 1 := by omega

/-- What happens within a second happens in one of two windows. -/
theorem allowedFrom_le (answers : List (LimiterCall × RateLimitCheckResult)) (t : Millis) :
    allowedFrom answers t ≤
      (allowedIn answers (t / 1000)).length + (allowedIn answers (t / 1000 + 1)).length := by
  unfold allowedFrom allowedIn
  rw [List.length_map, List.length_map, ← List.countP_eq_length_filter, ← List.countP_eq_length_filter]
  induction answers with
  | nil => exact Nat.le_refl _
  | cons a answers ih =>
    simp only [List.countP_cons]
    cases ha : a.2.allowed with
    | false => simpa using ih
    | true =>
      simp only [Bool.and_true, beq_iff_eq, decide_eq_true_eq]
      by_cases hwithin : t ≤ a.1.ran ∧ a.1.ran ≤ t + 1000
      · have hwindow := two_windows hwithin.1 hwithin.2
        rw [if_pos hwithin]
        rcases hwindow with hwindow | hwindow <;> rw [if_pos hwindow] <;> omega
      · rw [if_neg hwithin]
        omega

/-- Of the scripts of a second, as many are let through as the limit allows. Their remaining quotas count
down from the limit, and within any second no more than twice the limit are let through. -/
theorem fixed_window_exact (protocolId : Option JsString) (burstLimit : Nat) (isSandbox : Bool)
    {calls : List LimiterCall} (htime : ∀ c ∈ calls, c.InTime) :
    (∀ second,
      let allowed := allowedIn (limiterRun protocolId burstLimit isSandbox (fun _ => none) calls) second
      allowed.length = min (ranIn calls second) burstLimit ∧
      (allowed.map (·.remaining)).Nodup ∧
      allowed.map (·.remaining) = (List.range (min (ranIn calls second) burstLimit)).map
        fun i => some (decimal (burstLimit - 1 - i))) ∧
    ∀ t, allowedFrom (limiterRun protocolId burstLimit isSandbox (fun _ => none) calls) t ≤
      2 * burstLimit := by
  refine ⟨fun second => ⟨allowed_fresh htime second, ?_, remaining_fresh htime second⟩, fun t => ?_⟩
  · rw [remaining_fresh htime second]
    exact remaining_nodup
  · have hwindows := allowedFrom_le (limiterRun protocolId burstLimit isSandbox (fun _ => none) calls) t
    rw [allowed_fresh htime, allowed_fresh htime] at hwindows
    omega

/-- Three calls around the end of a second, under a limit of one. -/
theorem fixed_window_threeCalls :
    let calls : List LimiterCall := [⟨1990, 1995, 1999⟩, ⟨1998, 1999, 2003⟩, ⟨2000, 2001, 2001⟩]
    (allowedIn (limiterRun (some (js "p")) 1 false (fun _ => none) calls) 1).length = 1 ∧
      allowedFrom (limiterRun (some (js "p")) 1 false (fun _ => none) calls) 1995 ≤ 2 := by
  have htime : ∀ c ∈ ([⟨1990, 1995, 1999⟩, ⟨1998, 1999, 2003⟩, ⟨2000, 2001, 2001⟩] : List LimiterCall),
      c.InTime := by
    unfold LimiterCall.InTime
    decide
  have h := fixed_window_exact (some (js "p")) 1 false htime
  exact ⟨(h.1 1).1, h.2 1995⟩

end HeraldGateway
