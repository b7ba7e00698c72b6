import HeraldGateway.Async.Budget
import HeraldGateway.Delivery.Proofs.FanoutProofs
import HeraldGateway.Limits.BroadcastQuota

/-!
# Broadcasts that fit into the quota

A broadcast enqueues no more jobs than it found subscribers, and nothing else about it has to do with the
quota.
-/

namespace HeraldGateway

open Async

variable {env : Env} {view : ProtocolView} {protocol : AuthenticatedProtocol} {dto : BroadcastDto}

/-! ### One broadcast -/

/-- What a call costs of the jobs that a broadcast may enqueue. -/
def addCost (o : Op) : Nat := if o.adds then 1 else 0

theorem jobsQueued_le (e : GatewayEvent) : jobsQueued e ≤ addCost e.op := by
  obtain ⟨c, s, o, r, s'⟩ := e
  unfold jobsQueued queuedIds
  split
  · cases o with
    | notificationAdd => exact Nat.le_refl 1
    | _ => exact Nat.zero_le _
  · exact Nat.zero_le _

theorem jobsQueued_le_traceCost {tr : List GatewayEvent} : traceWeight jobsQueued tr ≤ traceCost addCost tr :=
  show traceWeight jobsQueued tr ≤ traceWeight (fun e => addCost e.op) tr from traceWeight_le
    fun e _ => jobsQueued_le e

/-- A broadcast adds a job for each subscriber that it found. -/
theorem budget_enqueueBroadcast (targets : List ProtocolSubscription) :
    Budget (S := Calls) addCost targets.length (enqueueBroadcast env dto protocol targets) := by
  have hdraw : Gateway.Within (fun o => addCost o = 0) (fun _ _ => True) (Prog.mapEach drawId targets) :=
    Within.mapEach fun _ _ => Within.bind (within_call rfl) fun _ => .ret _
  refine (Budget.bind_along (Budget.of_within (n := 0) hdraw)
    (Along.mapEach_length fun _ => trivial) fun rows hrows => ?_).mono (Nat.zero_add _).le
  refine Budget.free_bind (within_call rfl) fun _ => Budget.bind_free ?_ fun _ => .ret _
  have hadds : ∀ p ∈ rows.map fun r => enqueueNotification (broadcastJob dto protocol r.1 r.2),
      Budget (S := Calls) addCost 1 p := by
    intro p hp
    obtain ⟨row, -, rfl⟩ := List.mem_map.1 hp
    exact Budget.perform (S := Calls) (ε := Err) (Nat.le_refl 1)
  refine (Budget.allSettled_const hadds).mono ?_
  rw [List.length_map, hrows rows rfl, Nat.mul_one]

/-- What a broadcast that was admitted weighs. -/
theorem queued_le_found {tr : List GatewayEvent} {q : Gateway BroadcastResponseDto}
    (hr : Runs (World.handle env) (limitedBroadcast env view protocol dto) tr q) :
    traceWeight jobsQueued tr ≤ traceWeight targetsFound tr := by
  unfold limitedBroadcast at hr
  split at hr
  · rcases Runs.perform_bind_cases hr with rfl | ⟨c, s, ⟨e, -, rfl⟩ | ⟨id, tr₁, -, rfl, hr₁⟩⟩
    · exact Nat.le_refl 0
    · exact jobsQueued_le_traceCost.trans (Nat.zero_le _)
    rcases Runs.perform_bind_cases hr₁ with rfl | ⟨c', s', ⟨e, -, rfl⟩ | ⟨targets, tr₂, hfound, rfl, hr₂⟩⟩
    · exact jobsQueued_le_traceCost.trans (Nat.zero_le _)
    · exact jobsQueued_le_traceCost.trans (Nat.zero_le _)
    have hrest : Budget (S := Calls) addCost targets.length ((call (.subscriptionCount protocol.protocolId)).bind
        fun total => if targets.isEmpty then Prog.ret (⟨id, 0, total, total - targets.length, 0⟩ : BroadcastResponseDto)
          else (enqueueBroadcast env dto protocol targets).bind fun queued =>
            .ret ⟨id, queued, total, total - targets.length, (queued + 9) / 10⟩) := by
      refine Budget.free_bind (within_call rfl) fun total => Budget.ite (fun _ => trivial) fun _ => ?_
      exact Budget.bind_free (budget_enqueueBroadcast targets) fun _ => .ret _
    have hcost := (Runs.budget hr₂ hrest).1
    have hqueued : traceWeight jobsQueued tr₂ ≤ traceCost addCost tr₂ := jobsQueued_le_traceCost
    have hweight : targetsFound ((World.handle env).event c' s' (.subscriptionFindMany protocol.protocolId)) =
        targets.length := by
      unfold targetsFound Handler.event
      rw [hfound]
      rfl
    have hfirst := jobsQueued_le ((World.handle env).event c s .uuid)
    have hsecond := jobsQueued_le ((World.handle env).event c' s' (.subscriptionFindMany protocol.protocolId))
    simp only [traceWeight_cons, hweight]
    change _ ≤ 0 at hfirst
    change _ ≤ 0 at hsecond
    omega
  · rw [(hr.ended rfl).1]
    exact Nat.le_refl 0

/-! ### Runs -/

variable {s : World} {p p' : BroadcastPool} {l : BroadcastLabel} {ls : List BroadcastLabel}

/-- What was found fits into what the quota leaves. -/
def FoundFits (protocol : AuthenticatedProtocol) (p : BroadcastPool) : Prop :=
  protocol.overageEnabled ≠ some true → 0 < p.weight targetsFound →
    protocol.sendsUsed + p.weight targetsFound ≤ protocol.sendsLimit

theorem foundFits_step (hok : FitsQuota env protocol p l)
    (h : (broadcasts env view protocol).step p l = some p') (hp : FoundFits protocol p) :
    FoundFits protocol p' := by
  intro hno hpos
  rcases System.weight_step (w := targetsFound) h with hsame | ⟨i, c, t, o, k, rfl, ht, hprog, hadd⟩
  · rw [hsame] at hpos ⊢
    exact hp hno hpos
  · have hnext : (0 : Nat) < targetsFound ((World.handle env).event c.2 p.store o) →
        protocol.sendsUsed + p.weight targetsFound + targetsFound ((World.handle env).event c.2 p.store o) ≤
          protocol.sendsLimit := hok hno t ht o (by rw [hprog]; rfl)
    have hadd : p'.weight targetsFound =
        p.weight targetsFound + targetsFound ((World.handle env).event c.2 p.store o) := hadd
    rcases Nat.eq_zero_or_pos (targetsFound ((World.handle env).event c.2 p.store o)) with hzero | hfound
    · rw [hzero, Nat.add_zero] at hadd
      rw [hadd] at hpos ⊢
      exact hp hno hpos
    · have hfits := hnext hfound
      omega

/-- Where the subscribers that broadcasts find fit into the quota, it is respected. -/
theorem broadcasts_respect_quota
    (hok : (broadcasts env view protocol).Keeps (FitsQuota env protocol) (Pool.empty s) ls)
    (hr : (broadcasts env view protocol).run (Pool.empty s) ls = some p) : QuotaRespected protocol p := by
  have hfits : FoundFits protocol p := System.Keeps.induction
    (fun _ _ _ hl hp h => foundFits_step hl h hp) hok hr fun _ hpos => absurd hpos (Nat.lt_irrefl 0)
  have hqueued : p.weight jobsQueued ≤ p.weight targetsFound := System.weight_le fun t ht => by
    obtain ⟨i, hrun⟩ := (System.traced_of_run hr).of_mem ht
    exact queued_le_found hrun
  refine ⟨fun hno t ht hover => ?_, fun hno hpos => ?_⟩
  · have hpart : traceWeight targetsFound t.trace ≤ p.weight targetsFound :=
      List.single_le_sum (fun _ _ => Nat.zero_le _) _ (List.mem_map_of_mem ht)
    have hall := hfits hno (by omega)
    omega
  · have hall := hfits hno (by omega)
    omega

/-! ### Runs that keep and break it -/

/-- A protocol of the smallest tier that used some of its sends. -/
def developer (used : Nat) : AuthenticatedProtocol :=
  { client .production with tier := 0, sendsThisPeriod := some used }

/-- A broadcast to two subscribers. -/
def oneBroadcast : List BroadcastLabel := .arrive templatedBroadcast :: proceeds 0 9

theorem broadcasts_respect_quota_oneBroadcast :
    ∃ p ∈ (broadcasts Env.transparent stringView (developer 998)).run (Pool.empty twoSubscribers) oneBroadcast,
      QuotaRespected (developer 998) p := by
  obtain ⟨p, hp⟩ :=
    Option.isSome_iff_exists.1 (show ((broadcasts Env.transparent stringView (developer 998)).run
    (Pool.empty twoSubscribers) oneBroadcast).isSome by decide +kernel)
  exact ⟨p, hp, broadcasts_respect_quota (by decide +kernel) hp⟩

/-- A broadcast to two subscribers goes out though one send is left, also where the limiter looks at the
protocol itself. -/
theorem broadcast_exceeds_quota :
    ∃ p ∈ (broadcasts Env.transparent (developer 999).view (developer 999)).run (Pool.empty twoSubscribers) oneBroadcast,
      ¬ QuotaRespected (developer 999) p := by decide +kernel

end HeraldGateway
