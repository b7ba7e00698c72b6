import HeraldGateway.Async.Totals
import HeraldGateway.Delivery.Fanout
import HeraldGateway.Limits.RateLimit

/-!
# Broadcasts and the monthly quota

The limiter counts a broadcast as one send. What a broadcast enqueues for the subscribers that it finds should
fit into what the quota of its protocol leaves, whatever other broadcasts of the protocol there are.
-/

namespace HeraldGateway

open Async

/-- What the limiter takes for the protocol of a request has quota for one send. -/
def ProtocolView.admits (view : ProtocolView) : Bool :=
  view.isSandbox || (checkMonthlyQuota view 1 (getTierLimits view.tier) []).allowed

/-- A broadcast behind the limiter. -/
def limitedBroadcast (env : Env) (view : ProtocolView) (protocol : AuthenticatedProtocol)
    (dto : BroadcastDto) :
    Gateway BroadcastResponseDto :=
  if view.admits then queueBroadcast env dto protocol else .throw (.http 429 (js "QUOTA_EXCEEDED"))

/-- The broadcasts of a protocol, over a world in which everything else may change at any time. -/
def broadcasts (env : Env) (view : ProtocolView) (protocol : AuthenticatedProtocol) :
    System Calls Err BroadcastResponseDto BroadcastDto World Choice World where
  handler := World.handle env
  code dto _ := limitedBroadcast env view protocol dto
  outside w _ := some w

/-- A pool of broadcasts. -/
abbrev BroadcastPool := Pool Calls Err BroadcastResponseDto BroadcastDto World Choice

/-- A step of a pool of broadcasts. -/
abbrev BroadcastLabel := Label BroadcastDto Choice World

/-- The sends of the period so far. -/
def AuthenticatedProtocol.sendsUsed (protocol : AuthenticatedProtocol) : Nat :=
  protocol.sendsThisPeriod.getD 0

/-- The sends that the tier includes. -/
def AuthenticatedProtocol.sendsLimit (protocol : AuthenticatedProtocol) : Nat :=
  (getTierLimits (some protocol.tier)).sendsPerMonth

/-- How many subscribers a call found. -/
def targetsFound (e : GatewayEvent) : Nat := (targetRows e.op e.reply).length

/-- How many jobs a call put on the queue. -/
def jobsQueued (e : GatewayEvent) : Nat := (queuedIds e).length

/-- Unless overages are paid for, a broadcast to more subscribers than there are sends left is rejected before
it stores or enqueues anything, and what broadcasts enqueue stays within the limit. -/
structure QuotaRespected (protocol : AuthenticatedProtocol) (p : BroadcastPool) : Prop where
  rejected : protocol.overageEnabled ≠ some true → ∀ t ∈ p.threads,
    protocol.sendsLimit - protocol.sendsUsed < traceWeight targetsFound t.trace →
      t.answer? = none ∧ ∀ e ∈ t.trace, storedIds e = [] ∧ e.op.adds = false
  within : protocol.overageEnabled ≠ some true → 0 < p.weight jobsQueued →
    protocol.sendsUsed + p.weight jobsQueued ≤ protocol.sendsLimit

/-- The subscribers that a broadcast finds fit into what the quota leaves of those that others found. -/
def FitsQuota (env : Env) (protocol : AuthenticatedProtocol) (p : BroadcastPool) : BroadcastLabel → Prop
  | .pick i c => protocol.overageEnabled ≠ some true → ∀ t ∈ p.threads[i]?, ∀ o ∈ t.prog.next?,
      let found := (targetRows o (World.handle env c.2 p.store o).1).length
      0 < found → protocol.sendsUsed + p.weight targetsFound + found ≤ protocol.sendsLimit
  | _ => True

instance (protocol : AuthenticatedProtocol) (p : BroadcastPool) : Decidable (QuotaRespected protocol p) :=
  decidable_of_iff ((protocol.overageEnabled ≠ some true → ∀ t ∈ p.threads,
    protocol.sendsLimit - protocol.sendsUsed < traceWeight targetsFound t.trace →
      t.answer?.isNone = true ∧ ∀ e ∈ t.trace, storedIds e = [] ∧ e.op.adds = false) ∧
    (protocol.overageEnabled ≠ some true → 0 < p.weight jobsQueued →
      protocol.sendsUsed + p.weight jobsQueued ≤ protocol.sendsLimit))
    (by simp only [Option.isNone_iff_eq_none]; exact ⟨fun h => ⟨h.1, h.2⟩, fun h => ⟨h.1, h.2⟩⟩)

instance (env : Env) (protocol : AuthenticatedProtocol) (p : BroadcastPool) (l : BroadcastLabel) :
    Decidable (FitsQuota env protocol p l) := by unfold FitsQuota; split <;> infer_instance

end HeraldGateway
