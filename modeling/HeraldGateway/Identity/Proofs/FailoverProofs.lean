import HeraldGateway.Identity.Failover
import Mathlib.Data.List.Induction

/-!
# Where lookups go

The client keeps the endpoint of its construction, which is the primary, while the manager designates the
fallback exactly as long as its breaker is open and recovery is not due.
-/

namespace HeraldGateway

variable {config : RpcConfig} {start : Millis} {s : SolanaService}

/-- The breaker tells the active endpoint. -/
structure ManagerInvariant (config : RpcConfig) (m : RpcManagerService) : Prop where
  closed : m.circuitBreakerOpen = false → m.activeEndpoint = config.primaryUrl
  opened : m.circuitBreakerOpen = true → config.fallbackUrl = some m.activeEndpoint

theorem managerInvariant_getConnection {m : RpcManagerService} (h : ManagerInvariant config m)
    (now : Millis) :
    ManagerInvariant config (m.getConnection config now) := by
  unfold RpcManagerService.getConnection
  split
  · exact h
  · split
    · exact ⟨fun _ => rfl, nofun⟩
    · exact h

theorem managerInvariant_recordFailure {m : RpcManagerService} (h : ManagerInvariant config m)
    (now : Millis) :
    ManagerInvariant config (m.recordFailure config now) := by
  unfold RpcManagerService.recordFailure
  simp only
  split
  · next hopen =>
    obtain ⟨-, hfallback⟩ := Bool.and_eq_true_iff.1 hopen
    obtain ⟨url, hurl, -⟩ := truthy_eq_true.1 hfallback
    exact ⟨nofun, fun _ => by simp [hurl]⟩
  · exact ⟨h.closed, h.opened⟩

theorem managerInvariant_recordSuccess {m : RpcManagerService} (h : ManagerInvariant config m) :
    ManagerInvariant config m.recordSuccess := by
  unfold RpcManagerService.recordSuccess
  split
  · exact ⟨h.closed, h.opened⟩
  · exact h

/-- What holds of the services at any time. -/
structure ServiceInvariant (config : RpcConfig) (s : SolanaService) : Prop where
  manager : ManagerInvariant config s.rpcManager
  client : s.readClientUrl = config.primaryUrl

theorem serviceInvariant_step (h : ServiceInvariant config s) (e : RpcEvent) :
    ServiceInvariant config (s.step config e) := by
  cases e with
  | fetchIdentityAccount wallet =>
    by_cases hkey : config.isPublicKey wallet = true
    · rw [SolanaService.step, if_pos hkey]
      exact h
    · rw [SolanaService.step, if_neg hkey]
      exact ⟨managerInvariant_recordFailure h.manager s.now, h.client⟩
  | reported success =>
    cases success with
    | true => exact ⟨managerInvariant_recordSuccess h.manager, h.client⟩
    | false => exact ⟨managerInvariant_recordFailure h.manager s.now, h.client⟩
  | connected => exact ⟨managerInvariant_getConnection h.manager s.now, h.client⟩
  | elapse ms => exact ⟨h.manager, h.client⟩

theorem serviceInvariant_after (events : List RpcEvent) :
    ServiceInvariant config (SolanaService.after config start events) := by
  have hstart : ServiceInvariant config (SolanaService.construct config start) :=
    ⟨⟨fun _ => rfl, nofun⟩, rfl⟩
  unfold SolanaService.after
  induction events using List.reverseRecOn with
  | nil => exact hstart
  | append_singleton events e ih =>
    rw [List.foldl_concat]
    exact serviceInvariant_step ih e

/-- The client's endpoint is the designated one exactly where the manager designates the primary. -/
theorem designated_iff_onPrimary (h : ServiceInvariant config s) :
    s.readClientUrl = s.designated config ↔ s.OnPrimary config := by
  unfold SolanaService.designated SolanaService.OnPrimary RpcManagerService.getConnection
  rw [h.client]
  by_cases hopen : s.rpcManager.circuitBreakerOpen = true
  · have hfallback := h.manager.opened hopen
    by_cases hdue : s.rpcManager.recoveryDue s.now = true
    · simp [hopen, hdue]
    · simp only [hopen, hdue, hfallback, Option.some.injEq]
      simp [eq_comm]
  · have hclosed := Bool.eq_false_iff.2 hopen
    simp [hclosed, h.manager.closed hclosed]

/-- Lookups follow the manager exactly where it designates the primary at each of them. -/
theorem lookups_follow_iff (config : RpcConfig) (start : Millis) (events : List RpcEvent) :
    FollowsManager config start events ↔ AtLookups config start events fun s => s.OnPrimary config := by
  constructor
  · intro h pre wallet post heq hkey
    exact (designated_iff_onPrimary (serviceInvariant_after pre)).1 (h pre wallet post heq hkey)
  · intro h pre wallet post heq hkey
    exact (designated_iff_onPrimary (serviceInvariant_after pre)).2 (h pre wallet post heq hkey)

/-- An installation with a fallback. -/
def twoEndpoints : RpcConfig := ⟨js "https://rpc", some (js "https://fallback"), fun w => !w.isEmpty⟩

/-- Six lookups fail, and another one follows. -/
def failedOver : List RpcEvent :=
  (List.replicate 6 [.fetchIdentityAccount (js "w"), .reported false]).flatten ++
    [.fetchIdentityAccount (js "w")]

theorem lookup_past_failover : ¬ FollowsManager twoEndpoints 0 failedOver := by
  intro h
  have hlast :=
    h ((List.replicate 6 [.fetchIdentityAccount (js "w"), .reported false]).flatten) (js "w") [] rfl
    rfl
  revert hlast
  decide

end HeraldGateway
