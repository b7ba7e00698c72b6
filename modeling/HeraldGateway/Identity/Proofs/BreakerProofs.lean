import HeraldGateway.Identity.Breaker
import HeraldGateway.Identity.Proofs.FailoverProofs

/-!
# What the breaker does

One invariant, preserved by each of the three calls, ties the breaker to the active endpoint and the tally to
the counter. The time from which recovery counts is that of the last failure, whichever endpoint failed.
-/

namespace HeraldGateway

variable {config : RpcConfig} {w : WatchedManager} {m : RpcManagerService}

namespace RpcManagerService

/-! ### What each call does to the breaker -/

/-- A connection that is asked for closes the breaker and restarts the counter, or changes nothing. -/
theorem getConnection_cases (now : Millis) :
    m.getConnection config now = m ∨
      m.circuitBreakerOpen = true ∧ m.recoveryDue now = true ∧
        m.getConnection config now =
          { m with circuitBreakerOpen := false, failureCount := 0, activeEndpoint := config.primaryUrl } := by
  unfold getConnection
  by_cases hopen : m.circuitBreakerOpen = true
  · by_cases hdue : m.recoveryDue now = true
    · right
      simp [hopen, hdue]
    · left
      simp [hdue]
  · left
    simp [hopen]

/-- A failure opens the breaker at the sixth count if there is a fallback, or just counts. -/
theorem recordFailure_cases (now : Millis) :
    5 < m.failureCount + 1 ∧ truthy config.fallbackUrl = true ∧
        m.recordFailure config now =
          { m with
            circuitBreakerOpen := true, failureCount := 0, lastFailureAt := some now
            activeEndpoint := config.fallbackUrl.getD [] } ∨
      (m.failureCount + 1 ≤ 5 ∨ truthy config.fallbackUrl = false) ∧
        m.recordFailure config now =
          { m with failureCount := m.failureCount + 1, lastFailureAt := some now } := by
  unfold recordFailure
  by_cases hcount : 5 < m.failureCount + 1
  · by_cases hfallback : truthy config.fallbackUrl = true
    · left
      simp [hcount, hfallback]
    · right
      simp [hfallback]
  · right
    simp only [gt_iff_lt, hcount, decide_false, Bool.false_and]
    exact ⟨.inl (by omega), rfl⟩

/-- A success counts down, and changes nothing else. -/
theorem recordSuccess_eq : m.recordSuccess = { m with failureCount := m.failureCount - 1 } := by
  unfold recordSuccess
  split
  · rfl
  · next hzero =>
    have hcount : m.failureCount - 1 = m.failureCount := by omega
    rw [hcount]

/-- A failure is always noted down with its time. -/
theorem lastFailureAt_recordFailure (now : Millis) :
    (m.recordFailure config now).lastFailureAt = some now := by
  rcases @recordFailure_cases config m now with ⟨-, -, heq⟩ | ⟨-, heq⟩ <;> rw [heq]

end RpcManagerService

/-! ### The invariant -/

namespace WatchedManager

theorem after_concat (calls : List TimedCall) (c : TimedCall) :
    after config (calls ++ [c]) = (after config calls).step config c := by
  unfold after
  rw [List.foldl_concat]

/-- What every call preserves. -/
structure Invariant (config : RpcConfig) (w : WatchedManager) : Prop where
  manager : ManagerInvariant config w.manager
  fallback : w.manager.circuitBreakerOpen = true → truthy config.fallbackUrl = true
  bounded : truthy config.fallbackUrl = true → w.manager.failureCount ≤ 5
  tallied : w.manager.circuitBreakerOpen = false → w.tally = w.manager.failureCount

theorem invariant_getConnection (h : Invariant config w) (now : Millis) :
    Invariant config (w.step config ⟨now, .getConnection⟩) := by
  have hmanager := managerInvariant_getConnection h.manager now
  rcases @RpcManagerService.getConnection_cases config w.manager now with
    hsame | ⟨hopen, -, hclosed⟩
  · refine ⟨hmanager, ?_, ?_, ?_⟩
    · simp only [step, RpcManagerService.answer, hsame]
      exact h.fallback
    · simp only [step, RpcManagerService.answer, hsame]
      exact h.bounded
    · simp only [step, RpcManagerService.answer, hsame, if_true]
      exact h.tallied
  · refine ⟨hmanager, ?_, ?_, ?_⟩
    · simp only [step, RpcManagerService.answer, hclosed]
      intro h
      cases h
    · simp only [step, RpcManagerService.answer, hclosed]
      intro _
      omega
    · simp only [step, RpcManagerService.answer, hclosed, hopen]
      intro _
      rfl

theorem invariant_recordFailure (h : Invariant config w) (now : Millis) :
    Invariant config (w.step config ⟨now, .recordFailure⟩) := by
  have hmanager := managerInvariant_recordFailure h.manager now
  rcases @RpcManagerService.recordFailure_cases config w.manager now with
    ⟨-, hfallback, heq⟩ | ⟨hfew, heq⟩
  · refine ⟨hmanager, fun _ => hfallback, ?_, ?_⟩
    · simp only [step, RpcManagerService.answer, heq]
      intro _
      omega
    · simp only [step, RpcManagerService.answer, heq]
      exact nofun
  · refine ⟨hmanager, ?_, ?_, ?_⟩
    · simp only [step, RpcManagerService.answer, heq]
      exact h.fallback
    · simp only [step, RpcManagerService.answer, heq]
      intro hfallback
      exact hfew.resolve_right (by rw [hfallback]; decide)
    · simp only [step, RpcManagerService.answer, heq, if_true, count]
      intro hclosed
      rw [h.tallied hclosed]

theorem invariant_recordSuccess (h : Invariant config w) (now : Millis) :
    Invariant config (w.step config ⟨now, .recordSuccess⟩) := by
  refine ⟨managerInvariant_recordSuccess h.manager, ?_, ?_, ?_⟩
  · simp only [step, RpcManagerService.answer, RpcManagerService.recordSuccess_eq]
    exact h.fallback
  · simp only [step, RpcManagerService.answer, RpcManagerService.recordSuccess_eq]
    intro hfallback
    have hbound := h.bounded hfallback
    omega
  · simp only [step, RpcManagerService.answer, RpcManagerService.recordSuccess_eq, if_true, count]
    intro hclosed
    rw [h.tallied hclosed]

theorem invariant_step (h : Invariant config w) (c : TimedCall) : Invariant config (w.step config c) := by
  obtain ⟨now, call⟩ := c
  cases call with
  | getConnection => exact invariant_getConnection h now
  | recordFailure => exact invariant_recordFailure h now
  | recordSuccess => exact invariant_recordSuccess h now

theorem invariant_after (calls : List TimedCall) : Invariant config (after config calls) := by
  induction calls using List.reverseRecOn with
  | nil => exact ⟨⟨fun _ => rfl, nofun⟩, nofun, fun _ => Nat.zero_le 5, fun _ => rfl⟩
  | append_singleton calls c ih =>
    rw [after_concat]
    exact invariant_step ih c

/-- The breaker tells whether the fallback is active. -/
theorem Invariant.active_iff (h : Invariant config w)
    (hdistinct : config.fallbackUrl ≠ some config.primaryUrl) :
    config.fallbackUrl = some w.manager.activeEndpoint ↔ w.manager.circuitBreakerOpen = true := by
  constructor
  · intro hactive
    by_contra hclosed
    rw [h.manager.closed (Bool.eq_false_iff.2 hclosed)] at hactive
    exact hdistinct hactive
  · exact h.manager.opened

/-- Of a closed breaker, the sixth failure in the tally opens it, if there is a fallback, and nothing else. -/
theorem Invariant.opens_iff (h : Invariant config w) (hclosed : w.manager.circuitBreakerOpen = false)
    (c : TimedCall) :
    Opens config w.manager c ↔
      truthy config.fallbackUrl = true ∧ c.call = .recordFailure ∧ w.tally + 1 = 6 := by
  obtain ⟨now, call⟩ := c
  have htally := h.tallied hclosed
  cases call with
  | getConnection =>
    have hstays : w.manager.getConnection config now = w.manager := by
      unfold RpcManagerService.getConnection
      rw [hclosed]
      rfl
    simp [Opens, RpcManagerService.answer, hstays, hclosed]
  | recordFailure =>
    rcases @RpcManagerService.recordFailure_cases config w.manager now with
      ⟨hcount, hfallback, heq⟩ | ⟨hfew, heq⟩
    · have hbound := h.bounded hfallback
      have hsix : w.tally + 1 = 6 := by omega
      simp [Opens, RpcManagerService.answer, heq, hclosed, hfallback, hsix]
    · simp only [Opens, RpcManagerService.answer, heq, hclosed]
      constructor
      · rintro ⟨-, hopen⟩
        cases hopen
      · rintro ⟨hfallback, -, hsix⟩
        rcases hfew with hfew | hnone
        · omega
        · rw [hfallback] at hnone
          cases hnone
  | recordSuccess =>
    simp [Opens, RpcManagerService.answer, RpcManagerService.recordSuccess_eq, hclosed]

end WatchedManager

/-- In every state that the manager reaches, the fallback is active exactly while the breaker is open, which
takes a fallback and keeps the counter below six, and the sixth failure in the tally is what opens it. -/
theorem breaker_holds (config : RpcConfig) (hdistinct : config.fallbackUrl ≠ some config.primaryUrl)
    (calls : List TimedCall) :
    let w := WatchedManager.after config calls
    (config.fallbackUrl = some w.manager.activeEndpoint ↔ w.manager.circuitBreakerOpen = true) ∧
      (w.manager.circuitBreakerOpen = true → truthy config.fallbackUrl = true) ∧
      (truthy config.fallbackUrl = true → w.manager.failureCount ≤ 5) ∧
      (w.manager.circuitBreakerOpen = false → ∀ c, WatchedManager.Opens config w.manager c ↔
        truthy config.fallbackUrl = true ∧ c.call = .recordFailure ∧ w.tally + 1 = 6) := by
  intro w
  have h : w.Invariant config := WatchedManager.invariant_after calls
  exact ⟨h.active_iff hdistinct, h.fallback, h.bounded, h.opens_iff⟩

/-- Six failures of an installation with a fallback. -/
def sixFailures : List TimedCall := List.replicate 6 ⟨0, .recordFailure⟩

theorem breaker_of_two_endpoints :
    (WatchedManager.after twoEndpoints sixFailures).manager.circuitBreakerOpen = true ∧
      twoEndpoints.fallbackUrl =
        some (WatchedManager.after twoEndpoints sixFailures).manager.activeEndpoint :=
  have hopen : (WatchedManager.after twoEndpoints sixFailures).manager.circuitBreakerOpen = true := rfl
  ⟨hopen, (breaker_holds twoEndpoints (by decide) sixFailures).1.2 hopen⟩

/-! ### Recovery -/

namespace WatchedManager

theorem lastFailure_concat (calls : List TimedCall) (c : TimedCall) :
    lastFailure (calls ++ [c]) = if c.call = .recordFailure then some c.now else lastFailure calls := by
  unfold lastFailure
  by_cases hc : c.call = .recordFailure
  · simp [List.filter_append, hc]
  · simp [List.filter_append, hc]

/-- The manager remembers the last failure, and an open breaker has had one. -/
theorem remembers_after (calls : List TimedCall) :
    (after config calls).manager.lastFailureAt = lastFailure calls ∧
      ((after config calls).manager.circuitBreakerOpen = true → lastFailure calls ≠ none) := by
  induction calls using List.reverseRecOn with
  | nil => exact ⟨rfl, nofun⟩
  | append_singleton calls c ih =>
    obtain ⟨hlast, hopen⟩ := ih
    obtain ⟨now, call⟩ := c
    rw [after_concat, lastFailure_concat]
    cases call with
    | getConnection =>
      rcases @RpcManagerService.getConnection_cases config (after config calls).manager now with
        hsame | ⟨-, -, hclosed⟩
      · simpa [step, RpcManagerService.answer, hsame] using ⟨hlast, hopen⟩
      · simpa [step, RpcManagerService.answer, hclosed] using hlast
    | recordFailure =>
      simp [step, RpcManagerService.answer, RpcManagerService.lastFailureAt_recordFailure]
    | recordSuccess =>
      simpa [step, RpcManagerService.answer, RpcManagerService.recordSuccess_eq] using ⟨hlast, hopen⟩

/-- A connection that is asked for is a primary one exactly if the breaker is closed, or its last failure is
half a minute old, or the fallback is no other endpoint. -/
theorem Invariant.primary_iff (h : Invariant config w) (now : Millis) :
    (w.manager.getConnection config now).activeEndpoint = config.primaryUrl ↔
      w.manager.circuitBreakerOpen = false ∨ w.manager.recoveryDue now = true ∨
        config.fallbackUrl = some config.primaryUrl := by
  unfold RpcManagerService.getConnection
  by_cases hopen : w.manager.circuitBreakerOpen = true
  · have hfallback := h.manager.opened hopen
    by_cases hdue : w.manager.recoveryDue now = true
    · simp [hopen, hdue]
    · simp [hopen, hdue, hfallback]
  · have hclosed := Bool.eq_false_iff.2 hopen
    simp [hclosed, h.manager.closed hclosed]

end WatchedManager

/-- The breaker recovers within half a minute of each opening exactly in the runs whose failures pause for
that long before a connection is asked for of a breaker still open, unless the endpoints are the same. -/
theorem recovers_iff (config : RpcConfig) (calls : List TimedCall) :
    Recovers config calls ↔
      config.fallbackUrl = some config.primaryUrl ∨ FailuresPause config calls := by
  constructor
  · intro h
    by_cases hsame : config.fallbackUrl = some config.primaryUrl
    · exact .inl hsame
    · refine .inr fun pre now post heq hopen t ht hlate failed hfailed => ?_
      have hprimary := h pre now post heq t ht hlate
      rw [(WatchedManager.invariant_after pre).primary_iff now] at hprimary
      rcases hprimary with hclosed | hdue | hno
      · rw [hopen] at hclosed
        exact absurd hclosed nofun
      · unfold RpcManagerService.recoveryDue at hdue
        rw [(WatchedManager.remembers_after pre).1, hfailed] at hdue
        exact of_decide_eq_true hdue
      · exact absurd hno hsame
  · intro h pre now post heq t ht hlate
    rw [(WatchedManager.invariant_after pre).primary_iff now]
    rcases h with hsame | hpause
    · exact .inr (.inr hsame)
    · by_cases hopen : (WatchedManager.after config pre).manager.circuitBreakerOpen = true
      · refine .inr (.inl ?_)
        obtain ⟨hlast, hfailure⟩ := @WatchedManager.remembers_after config pre
        obtain ⟨failed, hfailed⟩ := Option.ne_none_iff_exists'.1 (hfailure hopen)
        unfold RpcManagerService.recoveryDue
        rw [hlast, hfailed]
        exact decide_eq_true (hpause pre now post heq hopen t ht hlate failed hfailed)
      · exact .inl (Bool.eq_false_iff.2 hopen)

/-- A failure of the fallback every twenty seconds, each followed by a success. -/
def trickle (n : Nat) : List TimedCall :=
  (List.range n).flatMap fun i => [⟨20000 * (i + 1), .recordFailure⟩, ⟨20000 * (i + 1), .recordSuccess⟩]

/-- However long the trickle lasts, the breaker that opened before it is open and the fallback in use. -/
theorem trickle_keeps_open (n : Nat) :
    WatchedManager.after twoEndpoints (sixFailures ++ trickle n) =
      ⟨⟨js "https://fallback", true, 0, some (20000 * n)⟩, 0, some 0⟩ := by
  induction n with
  | zero => rfl
  | succ n ih =>
    have hsplit : sixFailures ++ trickle (n + 1) =
        sixFailures ++ trickle n ++ [⟨20000 * (n + 1), .recordFailure⟩] ++
          [⟨20000 * (n + 1), .recordSuccess⟩] := by
      simp [trickle, List.range_succ]
    rw [hsplit, WatchedManager.after_concat, WatchedManager.after_concat, ih]
    rfl

/-- The breaker opens, and a minute of such failures later the fallback is still what lookups get. -/
def postponed : List TimedCall := sixFailures ++ trickle 3 ++ [⟨60000, .getConnection⟩]

theorem recovery_postponed : ¬ Recovers twoEndpoints postponed := by
  intro h
  have hprimary := h (sixFailures ++ trickle 3) 60000 [] rfl 0 rfl (by decide)
  revert hprimary
  decide

/-! ### Lookups of queued wallets -/

section Lookups

variable {toBase58 : JsString → JsString}

/-- A failure is never without a trace in the manager. -/
theorem RpcManagerService.recordFailure_ne (m : RpcManagerService) (now : Millis) :
    m.recordFailure config now ≠ m := by
  intro hsame
  have hcount := congrArg (·.failureCount) hsame
  rcases @recordFailure_cases config m now with ⟨hmany, -, heq⟩ | ⟨-, heq⟩
  · rw [heq] at hcount
    simp only at hcount
    omega
  · rw [heq] at hcount
    simp only at hcount
    omega

/-- A lookup changes the manager by the outcome of its request exactly if it is answered from the cache or its
wallet is a public key. -/
theorem RpcManagerService.reports_iff (m : RpcManagerService) (l : QueuedLookup config toBase58) :
    (m.resolveIdentity l).1 = m.report config l.now (m.resolveIdentity l).2 ↔
      l.cached = true ∨ config.isPublicKey l.queued.wallet = true := by
  unfold resolveIdentity
  by_cases hcached : l.cached = true
  · simp [hcached, report]
  · by_cases hkey : config.isPublicKey l.queued.wallet = true
    · cases hsucceeds : l.succeeds <;> simp [hcached, hkey, fetchIdentityAccount, report]
    · simpa [hcached, hkey, fetchIdentityAccount, report] using m.recordFailure_ne l.now

theorem countsOutcomes_of_forall {lookups : List (QueuedLookup config toBase58)}
    (h : ∀ l ∈ lookups, l.cached = true ∨ config.isPublicKey l.queued.wallet = true) :
    CountsOutcomes lookups := by
  intro pre l post heq
  have hl : l ∈ lookups := by rw [heq]; simp
  exact (RpcManagerService.reports_iff _ l).2 (h l hl)

/-- What `POST /v1/notify` puts on the queue is always counted right. -/
theorem notify_counts {lookups : List (QueuedLookup config toBase58)}
    (h : ∀ l ∈ lookups, l.queued.source = .notify) :
    CountsOutcomes lookups := by
  refine countsOutcomes_of_forall fun l hl => ?_
  have hproduced := l.queued.produced
  rw [h l hl] at hproduced
  exact .inr (Bool.and_eq_true_iff.1 hproduced).1

/-- The manager of a run counts the outcomes of requests alone exactly if each lookup is answered from the
cache or of a public key. -/
theorem counts_outcomes_iff (config : RpcConfig) (toBase58 : JsString → JsString)
    (lookups : List (QueuedLookup config toBase58)) :
    CountsOutcomes lookups ↔
      ∀ l ∈ lookups, l.cached = true ∨ config.isPublicKey l.queued.wallet = true := by
  constructor
  · intro h l hl
    obtain ⟨pre, post, heq⟩ := List.append_of_mem hl
    exact (RpcManagerService.reports_iff _ l).1 (h pre l post heq)
  · exact countsOutcomes_of_forall

end Lookups

/-- A scheduled notification for a wallet that is no public key. -/
def misspelled : QueuedWallet ⟨js "https://rpc", some (js "https://fallback"), fun _ => false⟩ id :=
  ⟨.scheduled, js "w", rfl⟩

/-- Its lookup, six times. -/
def misspelledLookups :
    List (QueuedLookup ⟨js "https://rpc", some (js "https://fallback"), fun _ => false⟩ id) :=
  List.replicate 6 ⟨misspelled, 0, false, true⟩

/-- They open the breaker, though no request is ever sent. -/
theorem misspelled_trips_breaker :
    (RpcManagerService.resolved misspelledLookups).circuitBreakerOpen = true ∧
    ¬ CountsOutcomes misspelledLookups := by
  refine ⟨by decide, fun h => ?_⟩
  have hfirst := h [] ⟨misspelled, 0, false, true⟩ (List.replicate 5 ⟨misspelled, 0, false, true⟩) rfl
  revert hfirst
  decide

end HeraldGateway
