import HeraldGateway.Async.Log
import HeraldGateway.Billing.Subscriptions

/-!
# Subscriptions over runs

What should hold of the counters of a subscription, of its expiry, and of what the guard has cached of it.
-/

namespace HeraldGateway

open Async

/-!
## Two counters of one usage

The sends of a period are counted at the protocol, for the limiter, and at its subscription, for the guard.
Metering changes both counters; a payment and the reset of a period set only that of the subscription back.
-/

/-- A protocol and its subscription have counted the same sends. -/
def CountersAgree (s : SubscriptionStore) : Prop :=
  ∀ q ∈ s.billing.protocols, ∀ r ∈ s.billing.subscriptions, r.protocolId = q.id →
    q.sendsThisPeriod = r.sendsThisPeriod

instance (s : SubscriptionStore) : Decidable (CountersAgree s) := by unfold CountersAgree; infer_instance

/-- The protocol whose payment a call commits. -/
def SubscriptionOp.pays (s : SubscriptionStore) : SubscriptionOp → Option JsString
  | billing (.transaction a) => if (s.billing.commit a).isOk then some a.protocolId else none
  | _ => none

/-- The protocol of whose counters a call sets one back. -/
def SubscriptionOp.restarts (s : SubscriptionStore) : SubscriptionOp → Option JsString
  | updateSubscription id (.resetSends _) => some id
  | o => o.pays s

/-- A period is restarted only where its protocol has counted nothing in it. -/
def RestartsUnused (p : SubscriptionPool) : SubscriptionLabel → Prop
  | .pick i c => ∀ t ∈ p.threads[i]?, ∀ o ∈ t.prog.next?, c.2.applies = true → ∀ id ∈ o.restarts p.store,
      ∀ q ∈ p.store.billing.protocols, q.id = id → q.sendsThisPeriod = 0
  | _ => True

instance (p : SubscriptionPool) (l : SubscriptionLabel) : Decidable (RestartsUnused p l) := by
  unfold RestartsUnused; split <;> infer_instance

/-!
## Expiry and payment

A pass lists the subscriptions that have run out, and then expires them one by one, whatever was paid for in
the meantime.
-/

/-- The subscription of a protocol has not run out. -/
def PaidUp (s : SubscriptionStore) (protocolId : JsString) : Prop :=
  ∃ r ∈ s.billing.subscriptions, r.protocolId = protocolId ∧
    ∃ last ∈ r.currentPeriodEnd, (s.billing.now : Int) < last

instance (s : SubscriptionStore) (protocolId : JsString) : Decidable (PaidUp s protocolId) := by
  unfold PaidUp; infer_instance

/-- The protocol that a call expires or deactivates. -/
def SubscriptionOp.expires : SubscriptionOp → Option JsString
  | updateSubscription id .expire | deactivateProtocol id => some id
  | _ => none

/-- No call that took effect expires or deactivates a protocol that is paid up. -/
def NeverExpiresPaid (p : SubscriptionPool) : Prop :=
  ∀ t ∈ p.threads, ∀ e ∈ t.trace, e.choice.applies = true → ∀ id ∈ e.op.expires, ¬ PaidUp e.before id

instance (p : SubscriptionPool) : Decidable (NeverExpiresPaid p) := by unfold NeverExpiresPaid; infer_instance

/-- The protocols whose subscriptions a call found to have run out. -/
def SubscriptionOp.listed : (o : SubscriptionOp) → Except Err o.Res → List JsString
  | findExpired _, .ok rows => List.map (fun r : OwnedSubscription => r.1.protocolId) rows
  | _, _ => []

/-- A pass is running that listed a protocol. -/
def PassPending (p : SubscriptionPool) (protocolId : JsString) : Prop :=
  ∃ u ∈ p.threads, u.prog.running = true ∧ ∃ e ∈ u.trace, protocolId ∈ e.op.listed e.reply

instance (p : SubscriptionPool) (protocolId : JsString) : Decidable (PassPending p protocolId) := by
  unfold PassPending; infer_instance

/-- A payment for a protocol commits only while no pass that listed it is running. -/
def PaysBetweenPasses (p : SubscriptionPool) : SubscriptionLabel → Prop
  | .pick i c =>
    ∀ t ∈ p.threads[i]?, ∀ o ∈ t.prog.next?, c.2.applies = true → ∀ id ∈ o.pays p.store, ¬ PassPending p id
  | _ => True

instance (p : SubscriptionPool) (l : SubscriptionLabel) : Decidable (PaysBetweenPasses p l) := by
  unfold PaysBetweenPasses; split <;> infer_instance

/-!
## The cache of the guard

The guard reads a subscription from its cache for half a minute. The repository removes what is cached when it
changes a row, without waiting for it; payments and metering change the row alone.
-/

/-- What is found in the cache for a protocol. -/
def SubscriptionOp.hit : (o : SubscriptionOp) → Except Err o.Res → Option (JsString × Subscription)
  | cacheGet id, .ok (some v) => some (id, v)
  | _, _ => none

/-- The call changed the subscription of a protocol. -/
def Changes (protocolId : JsString) (e : SubscriptionEvent) : Prop :=
  e.after.subscription protocolId ≠ e.before.subscription protocolId

instance (protocolId : JsString) (e : SubscriptionEvent) : Decidable (Changes protocolId e) := by
  unfold Changes; infer_instance

/-- A row was stored at some time after the `m`-th call and no later than before the `n`-th. -/
def StoredBetween (log : List (Nat × SubscriptionEvent)) (m n : Nat) (protocolId : JsString)
    (row : Subscription) : Prop :=
  ∃ k < n + 1, m < k ∧ ∃ x ∈ log[k]?, x.2.before.subscription protocolId = some row

instance (log : List (Nat × SubscriptionEvent)) (m n : Nat) (protocolId : JsString) (row : Subscription) :
    Decidable (StoredBetween log m n protocolId row) := by unfold StoredBetween; infer_instance

/-- What a guard finds in the cache was stored at some time since every change that was made before. -/
def Coherent (log : List (Nat × SubscriptionEvent)) : Prop :=
  ∀ n < log.length, ∀ m < n, ∀ y ∈ log[n]?, ∀ found ∈ y.2.op.hit y.2.reply, ∀ x ∈ log[m]?,
    Changes found.1 x.2 →
    StoredBetween log m n found.1 found.2

instance (log : List (Nat × SubscriptionEvent)) : Decidable (Coherent log) := by
  unfold Coherent; infer_instance

/-- What a call leaves to be removed from the cache for a protocol, given whether there was something to be
removed. -/
def SubscriptionOp.owing (protocolId : JsString) (owing : Bool) :
    (o : SubscriptionOp) → Except Err o.Res → Bool
  | updateSubscription id _, .ok _ => owing || id == protocolId
  | cacheDel id, _ => owing && id != protocolId
  | _, _ => owing

/-- A row is written, and what is cached of it is yet to be removed. -/
def owes (protocolId : JsString) (tr : List SubscriptionEvent) : Bool :=
  tr.foldl (fun owing e => e.op.owing protocolId owing e.reply) false

/-- What a call has to mind lest the cache be older than its row. -/
def Careful (p : SubscriptionPool) (f : Fault) : SubscriptionOp → Prop
  -- a removal that was caused is awaited before the cache is read
  | .cacheGet id => (p.store.cached id).isSome = true → ∀ t ∈ p.threads, owes id t.trace = false
  -- only what is still stored is cached
  | .cacheSetex id _ row => f.applies = true → p.store.subscription id = some row
  | .cacheDel id => f.applies = true ∨ p.store.cached id = none
  -- the caller hears of a change, and goes on to remove what is cached, unless nothing is
  | .updateSubscription id _ => f = .none ∨ f.applies = false ∨ p.store.cached id = none
  -- what removes nothing changes a row of which nothing is cached
  | .billing (.transaction a) =>
    f.applies = true → (p.store.billing.commit a).isOk = true → p.store.cached a.protocolId = none
  | .incrementSends id _ | .zeroSends id => f.applies = true → p.store.cached id = none
  | _ => True

instance (p : SubscriptionPool) (f : Fault) (o : SubscriptionOp) : Decidable (Careful p f o) := by
  unfold Careful; split <;> infer_instance

/-- Every call of a run minds what it has to. -/
def KeepsCache (p : SubscriptionPool) : SubscriptionLabel → Prop
  | .pick i c => ∀ t ∈ p.threads[i]?, ∀ o ∈ t.prog.next?, Careful p c.2 o
  | _ => True

instance (p : SubscriptionPool) (l : SubscriptionLabel) : Decidable (KeepsCache p l) := by
  unfold KeepsCache; split <;> infer_instance

/-- What is cached is what is stored. -/
def Fresh (s : SubscriptionStore) : Prop := ∀ id, ∀ v ∈ s.cached id, s.subscription id = some v

end HeraldGateway
