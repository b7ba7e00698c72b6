import HeraldGateway.Async.Along
import HeraldGateway.Billing.Guard
import HeraldGateway.Billing.Payments
import HeraldGateway.Operations

/-!
# Subscriptions

`subscription.service.ts`, `subscription.scheduler.ts`, `subscription.repository.ts`,
`overage-metering.service.ts` and `subscription.guard.ts`: everything that writes a subscription besides the
payments, and the guard that reads it through a cache. A cached row is removed by the repository; what else
writes a subscription leaves the cache alone.
-/

namespace HeraldGateway

open Async

/-! ### Operations -/

/-- What `subscription.update` of the repository is asked to write. -/
inductive SubscriptionUpdate where
  | cancelAtPeriodEnd
  | expire
  | resetSends (nextReset : Int)
  deriving DecidableEq, Repr

/-- An update of a row. -/
def SubscriptionUpdate.apply (s : Subscription) : SubscriptionUpdate → Subscription
  | cancelAtPeriodEnd => { s with cancelAtPeriodEnd := true }
  | expire => { s with status := js "expired" }
  | resetSends nextReset => { s with sendsThisPeriod := 0, periodResetAt := nextReset }

/-- A subscription with the key of its protocol. -/
abbrev OwnedSubscription := Subscription × JsString

/-- The calls of the subscription services. -/
inductive SubscriptionOp where
  /-- A call that a payment makes too. -/
  | billing (o : BillingOp)
  | findSubscription (protocolId : JsString)
  | findExpired (now : Millis)
  | findDueForReset (now : Millis)
  | updateSubscription (protocolId : JsString) (u : SubscriptionUpdate)
  | deactivateProtocol (protocolId : JsString)
  | incrementSends (protocolId : JsString) (count : Nat)
  | zeroSends (protocolId : JsString)
  | cacheGet (protocolId : JsString)
  | cacheSetex (protocolId : JsString) (ttl : Nat) (subscription : Subscription)
  | cacheDel (protocolId : JsString)
  | deactivateOnChain (protocolPubkey : JsString)
  | resetSendsOnChain (protocolPubkey : JsString)
  | cancelHelioSubscription (helioSubscriptionId : JsString)

/-- What these calls give. -/
def SubscriptionOp.Res : SubscriptionOp → Type
  | billing o => o.Res
  | findSubscription _ | cacheGet _ => Option Subscription
  | findExpired _ | findDueForReset _ => List OwnedSubscription
  | _ => Unit

/-- The calls of the subscription services. -/
abbrev SubscriptionCalls : Signature := ⟨SubscriptionOp, SubscriptionOp.Res⟩

/-- A function of the subscription services. -/
abbrev Subscribing (α : Type) := Prog SubscriptionCalls Err α

/-- Make a call. -/
def SubscriptionOp.call (o : SubscriptionOp) : Subscribing o.Res := @Prog.perform SubscriptionCalls Err o

/-- The calls of a payment are calls of the subscription services. -/
def billingCalls : Embedding BillingCalls SubscriptionCalls where
  op := .billing
  res _ r := r

/-! ### Stores -/

/-- The tables of billing and the cache of the guard. -/
structure SubscriptionStore where
  billing : BillingStore
  cache : JsString → Option (Timed Subscription)

namespace SubscriptionStore

/-- Replace the subscriptions. -/
def setSubscriptions (s : SubscriptionStore) (rows : List Subscription) : SubscriptionStore :=
  { s with billing := { s.billing with subscriptions := rows } }

/-- Replace the protocols. -/
def setProtocols (s : SubscriptionStore) (rows : List BillingProtocol) : SubscriptionStore :=
  { s with billing := { s.billing with protocols := rows } }

/-- Set an entry of the cache. -/
def setCache (s : SubscriptionStore) (protocolId : JsString) (v : Option (Timed Subscription)) :
    SubscriptionStore :=
  { s with cache := fun id => if id = protocolId then v else s.cache id }

/-- The subscription of a protocol. -/
def subscription (s : SubscriptionStore) (protocolId : JsString) : Option Subscription :=
  s.billing.subscriptions.find? (·.protocolId == protocolId)

/-- What the cache has for a protocol at present. -/
def cached (s : SubscriptionStore) (protocolId : JsString) : Option Subscription :=
  Timed.live s.billing.now (s.cache protocolId)

/-- A subscription with the key of its protocol. -/
def owned (s : SubscriptionStore) (r : Subscription) : OwnedSubscription :=
  (r, ((s.billing.protocols.find? (·.id == r.protocolId)).map (·.protocolPubkey)).getD [])

/-- The active subscriptions that satisfy a condition. -/
def findActive (s : SubscriptionStore) (p : Subscription → Bool) : List OwnedSubscription :=
  (s.billing.subscriptions.filter fun r => r.status == js "active" && p r).map s.owned

/-- `subscription.update` -/
def updateSubscription (s : SubscriptionStore) (protocolId : JsString) (u : SubscriptionUpdate) :
    Except Err Unit × SubscriptionStore :=
  if s.billing.subscriptions.any (·.protocolId == protocolId) then
    (.ok (), s.setSubscriptions (updateWhere (·.protocolId == protocolId) u.apply s.billing.subscriptions))
  else (.error .recordNotFound, s)

/-- `protocol.update` -/
def updateProtocols (s : SubscriptionStore) (protocolId : JsString) (u : BillingProtocol → BillingProtocol) :
    Except Err Unit × SubscriptionStore :=
  if s.billing.protocols.any (·.id == protocolId) then
    (.ok (), s.setProtocols (updateWhere (·.id == protocolId) u s.billing.protocols))
  else (.error .recordNotFound, s)

/-- The transaction of the metering service, which changes both counters of a protocol. -/
def meterSends (s : SubscriptionStore) (protocolId : JsString) (f : Int → Int) :
    Except Err Unit × SubscriptionStore :=
  match s.updateProtocols protocolId fun r => { r with sendsThisPeriod := f r.sendsThisPeriod } with
  | (.ok _, s') =>
    (.ok (), s'.setSubscriptions (updateWhere (·.protocolId == protocolId)
      (fun r => { r with sendsThisPeriod := f r.sendsThisPeriod }) s'.billing.subscriptions))
  | r => r

/-- A call that is answered. -/
def serve (s : SubscriptionStore) : (o : SubscriptionOp) → Except Err o.Res × SubscriptionStore
  | .billing o => ((s.billing.serve o).1, { s with billing := (s.billing.serve o).2 })
  | .findSubscription id => (.ok (s.subscription id), s)
  | .findExpired now => (.ok (s.findActive fun r => r.currentPeriodEnd.any (· < (now : Int))), s)
  | .findDueForReset now => (.ok (s.findActive fun r => r.periodResetAt < now), s)
  | .updateSubscription id u => s.updateSubscription id u
  | .deactivateProtocol id => s.updateProtocols id fun r => { r with isActive := false }
  | .incrementSends id count => s.meterSends id (· + count)
  | .zeroSends id => s.meterSends id fun _ => 0
  | .cacheGet id => (.ok (s.cached id), s)
  | .cacheSetex id ttl row => (.ok (), s.setCache id (some ⟨row, s.billing.now + ttl * 1000⟩))
  | .cacheDel id => (.ok (), s.setCache id none)
  | .deactivateOnChain _ | .resetSendsOnChain _ | .cancelHelioSubscription _ => (.ok (), s)

/-- A call under a fault. The clock does not fail. -/
def handle : Handler SubscriptionCalls Err SubscriptionStore Fault := fun f s o =>
  match o with
  | .billing .now => s.serve (.billing .now)
  | o => f.meet s (s.serve o)

example {f : Fault} {s : SubscriptionStore} : (handle f s (.billing .now)).1 = .ok s.billing.now := by
  rw [handle, serve]
  rfl

end SubscriptionStore

/-! ### The repository -/

/-- `new Date()` -/
def currentTime : Subscribing Millis := (SubscriptionOp.billing .now).call

/-- A call whose failure is ignored. -/
def SubscriptionOp.ignored (o : SubscriptionOp) : Subscribing Unit := Prog.andThen o.call fun _ => .ret ()

/-- A call that what follows does not wait for. -/
def SubscriptionOp.unawaited {α : Type} (o : SubscriptionOp) (rest : Subscribing α) : Subscribing α :=
  (o.call.par rest).andThen fun
    | .ok (_, .ok a) => .ret a
    | .ok (_, .error e) | .error e => .throw e

/-- `update`, and what follows it. -/
def updateSubscription {α : Type} (protocolId : JsString) (u : SubscriptionUpdate) (rest : Subscribing α) :
    Subscribing α := do
  let _ ← (SubscriptionOp.updateSubscription protocolId u).call
  (SubscriptionOp.cacheDel protocolId).unawaited rest

/-- `resetSends`, and what follows it. -/
def resetSends {α : Type} (protocolId : JsString) (rest : Subscribing α) : Subscribing α := do
  let now ← currentTime
  updateSubscription protocolId (.resetSends (now + 30 * 86400000)) rest

/-! ### The service and its scheduler -/

/-- Cancel what Helio knows of a subscription. -/
def cancelAtHelio (protocolId : JsString) : Subscribing Unit := do
  let sub ← (SubscriptionOp.findSubscription protocolId).call
  match Option.bind sub (·.helioSubscriptionId) with
  | some (a :: id) => (SubscriptionOp.cancelHelioSubscription (a :: id)).ignored
  | _ => return ()

/-- `scheduleCancellation` -/
def scheduleCancellation (protocolId : JsString) : Subscribing Unit :=
  updateSubscription protocolId .cancelAtPeriodEnd (cancelAtHelio protocolId)

/-- Deactivate the protocol of a subscription that has expired. -/
def deactivateExpired (sub : OwnedSubscription) : Subscribing Bool := do
  let _ ← (SubscriptionOp.deactivateProtocol sub.1.protocolId).call
  (SubscriptionOp.deactivateOnChain sub.2).unawaited (.ret true)

/-- One round of `expireStaleSubscriptions`, and whether it succeeded. -/
def expireStale (sub : OwnedSubscription) : Subscribing Bool :=
  Prog.tryCatch (updateSubscription sub.1.protocolId .expire (deactivateExpired sub)) fun _ => return false

/-- `expireStaleSubscriptions` -/
def expireStaleSubscriptions : Subscribing Nat := do
  let now ← currentTime
  let expired ← (SubscriptionOp.findExpired now).call
  let results ← Prog.mapEach expireStale expired
  return results.count true

/-- Reset what the chain counts. -/
def resetOnChain (sub : OwnedSubscription) : Subscribing Bool := do
  let _ ← (SubscriptionOp.resetSendsOnChain sub.2).call
  return true

/-- One round of `resetPeriodSends`, and whether it succeeded. -/
def resetPeriod (sub : OwnedSubscription) : Subscribing Bool :=
  Prog.tryCatch (resetSends sub.1.protocolId (resetOnChain sub)) fun _ => return false

/-- `resetPeriodSends` -/
def resetPeriodSends : Subscribing Nat := do
  let now ← currentTime
  let toReset ← (SubscriptionOp.findDueForReset now).call
  let results ← Prog.mapEach resetPeriod toReset
  return results.count true

/-- `incrementSendsThisPeriod` -/
def incrementSendsThisPeriod (protocolId : JsString) (count : Nat) : Subscribing Unit :=
  (SubscriptionOp.incrementSends protocolId count).ignored

/-- `resetSendsThisPeriod` -/
def resetSendsThisPeriod (protocolId : JsString) : Subscribing Unit :=
  (SubscriptionOp.zeroSends protocolId).ignored

/-! ### The guard -/

/-- `CACHE_TTL` of the guard -/
def SUBSCRIPTION_CACHE_TTL : Nat := 30

/-- Let the request pass, or throw. -/
def judge (tier : Nat) (subscription : Option Subscription) : Subscribing Unit := do
  let now ← currentTime
  match checkSubscription tier subscription now with
  | .ok _ => return ()
  | .error r => .throw (.http r.status r.error)

/-- `canActivate` of the subscription guard: it decides with what is cached, or else with what is stored,
which it then caches. -/
def subscriptionGuard (protocolId : JsString) (tier : Nat) : Subscribing Unit :=
  if tier = 0 then .ret ()
  else do
    let cached ← Prog.tryCatch (SubscriptionOp.cacheGet protocolId).call fun _ => .ret none
    match (cached : Option Subscription) with
    | some s => judge tier (some s)
    | none => do
      let found ← (SubscriptionOp.findSubscription protocolId).call
      match (found : Option Subscription) with
      | some s =>
        (SubscriptionOp.cacheSetex protocolId SUBSCRIPTION_CACHE_TTL s).unawaited (judge tier (some s))
      | none => judge tier none

/-! ### Runs -/

/-- What the subscription services are asked to do. -/
inductive SubscriptionTask where
  | activate (payload : HelioWebhookPayload)
  | cancel (protocolId : JsString)
  | expire
  | reset
  | meter (protocolId : JsString) (count : Nat)
  | resetMeter (protocolId : JsString)
  | guard (protocolId : JsString) (tier : Nat)
  deriving DecidableEq, Repr

/-- The program of a task. -/
def SubscriptionTask.code : SubscriptionTask → Subscribing Unit
  | activate payload => ((activateFromHelioPayment payload).embed billingCalls).bind fun _ => .ret ()
  | cancel protocolId => scheduleCancellation protocolId
  | expire => expireStaleSubscriptions.bind fun _ => .ret ()
  | reset => resetPeriodSends.bind fun _ => .ret ()
  | meter protocolId count => incrementSendsThisPeriod protocolId count
  | resetMeter protocolId => resetSendsThisPeriod protocolId
  | guard protocolId tier => subscriptionGuard protocolId tier

/-- Any number of tasks over the stores, while time passes. -/
def subscribing : System SubscriptionCalls Err Unit SubscriptionTask SubscriptionStore Fault Nat where
  handler := SubscriptionStore.handle
  code task _ := task.code
  outside ms s := some { s with billing := { s.billing with now := s.billing.now + ms } }

/-- A pool of tasks. -/
abbrev SubscriptionPool := Pool SubscriptionCalls Err Unit SubscriptionTask SubscriptionStore Fault

/-- A task that runs, or has run. -/
abbrev SubscriptionThread := Thread SubscriptionCalls Err Unit SubscriptionTask SubscriptionStore Fault

/-- A call that was answered. -/
abbrev SubscriptionEvent := Event SubscriptionCalls Err SubscriptionStore Fault

/-- A step of a pool. -/
abbrev SubscriptionLabel := Label SubscriptionTask Fault Nat

/-! ### Replays -/

/-- The next `n` calls of the `i`-th task are answered. -/
def answers (i n : Nat) : List SubscriptionLabel := List.replicate n (.pick i (true, .none))

/-- A protocol whose growth subscription ends at a time. -/
def subscribedStore (periodEnd : Nat) : SubscriptionStore where
  billing :=
    { now := 0
      protocols := [{ growthProtocol with tier := 1, isActive := true }]
      subscriptions := [⟨js "p", 1, js "active", some (js "0"), some 0, some periodEnd, 0, periodEnd, false⟩]
      payments := []
      helioEvents := [⟨0, js "1", js "COMPLETED", some (js "p"), js "1", false, none⟩]
      webhookQueue := [] }
  cache _ := none

end HeraldGateway
