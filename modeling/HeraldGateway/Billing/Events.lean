import HeraldGateway.Async.Totals
import HeraldGateway.Billing.Payments

/-!
# Payments over runs

What should become of a payment: the period that it pays for, its event, and its activation.
-/

namespace HeraldGateway

open Async

/-!
## Paid periods

What a payment does to the period of a subscription. One might expect that the months it pays for are
added to the time that is left; instead the period starts anew.
-/

/-- The end of the period of a protocol. -/
def BillingStore.currentPeriodEnd (s : BillingStore) (protocolId : JsString) : Option Int :=
  (s.subscriptions.find? (·.protocolId == protocolId)).bind (·.currentPeriodEnd)

/-- The end of a period is late enough for the time that was left at `now` and for the paid months. -/
def Carries (now : Millis) (months : Int) (before after : Option Int) : Prop :=
  ∃ e ∈ after, max (now : Int) (before.getD now) + PAID_MONTH * months ≤ e

instance (now : Millis) (months : Int) (before after : Option Int) :
    Decidable (Carries now months before after) := by unfold Carries; infer_instance

/-- The call did not forfeit paid time: if it is a transaction that succeeded, the new period ends late
enough. -/
def KeepsPaidTime (e : BillingEvent) : Prop :=
  match e.op with
  | .transaction a => e.reply.isOk = true → ∃ months ∈ a.months.smallInt,
      Carries a.now months (e.before.currentPeriodEnd a.protocolId) (e.after.currentPeriodEnd a.protocolId)
  | _ => True

instance (e : BillingEvent) : Decidable (KeepsPaidTime e) := by unfold KeepsPaidTime; split <;> infer_instance

/-- No payment forfeits paid time. -/
def PaidTimeKept (p : BillingPool) : Prop := ∀ t ∈ p.threads, ∀ e ∈ t.trace, KeepsPaidTime e

instance (p : BillingPool) : Decidable (PaidTimeKept p) := by unfold PaidTimeKept; infer_instance

/-- The call read the clock. -/
def ReadsNow (now : Millis) (e : BillingEvent) : Prop := e.op = .now ∧ e.before.now = now

/-- The call found the protocol of a key. -/
def FindsProtocol (protocolPubkey protocolId : JsString) (e : BillingEvent) : Prop :=
  e.op = .findProtocol protocolPubkey ∧
    ∃ r ∈ e.before.protocols.find? (·.protocolPubkey == protocolPubkey), r.id = protocolId

/-- A paid event started the period of its protocol anew, at the time that its task read, for the months
that it pays. What was left of the period before is carried over only if nothing was left. -/
structure RestartsPeriod (payload : HelioWebhookPayload) (tr : List BillingEvent) (e : BillingEvent)
    (now : Millis) (months : Int) (protocolId : JsString) : Prop where
  read : ∃ e' ∈ tr, ReadsNow now e'
  found : ∃ e' ∈ tr, FindsProtocol payload.protocolPubkey protocolId e'
  paid : (monthsInt payload).smallInt = some months
  restarted : e.after.currentPeriodEnd protocolId = some (now + PAID_MONTH * months)
  carried : Carries now months (e.before.currentPeriodEnd protocolId) (e.after.currentPeriodEnd protocolId) ↔
    ∀ left ∈ e.before.currentPeriodEnd protocolId, left ≤ now
  others : ∀ id ≠ protocolId, e.after.currentPeriodEnd id = e.before.currentPeriodEnd id

/-- The calls of a paid event restart its period or leave all periods as they are; the transaction that
succeeds restarts it. -/
def PaymentRestarts (payload : HelioWebhookPayload) (tr : List BillingEvent) : Prop :=
  ∀ e ∈ tr, (e.after.subscriptions = e.before.subscriptions ∨
      ∃ now months protocolId, RestartsPeriod payload tr e now months protocolId) ∧
    ((∃ a, e.op = .transaction a) → e.reply.isOk = true →
      ∃ now months protocolId, RestartsPeriod payload tr e now months protocolId)

/-!
## Payment events

The handler of the webhook stores an event under the identifier of its transaction and then enqueues it,
without a transaction around both. A payment should be activated in the end, so an event that was
acknowledged should be enqueued, and one that was only stored should be enqueued when it is delivered
again.
-/

/-- The event of a transaction is enqueued. -/
def BillingStore.enqueued (s : BillingStore) (transactionId : JsString) : Bool :=
  s.webhookQueue.any (·.payload.transactionId == transactionId)

/-- Delivered again while nothing fails, a stored event is enqueued. -/
def Redeliverable (env : BillingEnv) (s : BillingStore) (r : HelioWebhookEvent) : Prop :=
  ∀ req body, helioWebhookGuard env req = .ok body → env.sha256 body = r.payloadHash →
    ((BillingStore.handle).exec .none (handleWebhook env req) s).2.enqueued r.helioEventId = true

/-- The event that a call stored, if it heard of it. -/
def storedEvent : (o : BillingOp) → Except Err o.Res → Option HelioWebhookEvent
  | .createEvent _, .ok r => some r
  | _, _ => none

/-- The call stored the event of a transaction. -/
def Stores (transactionId : JsString) (e : BillingEvent) : Prop :=
  ∃ r ∈ storedEvent e.op e.reply, r.helioEventId = transactionId

/-- What was acknowledged is enqueued, and so is what is stored, unless its handler still runs or it can be
delivered again. -/
structure EventsActivatable (env : BillingEnv) (p : BillingPool) : Prop where
  acknowledged : ∀ t ∈ p.threads, ∀ req body, t.request = .webhook req →
    helioWebhookGuard env req = .ok body →
    t.answer? = some .received → p.store.enqueued (env.parseBody body).transactionId = true
  stored : ∀ r ∈ p.store.helioEvents, p.store.enqueued r.helioEventId = true ∨
    (∃ t ∈ p.threads, t.prog.running = true ∧ ∃ e ∈ t.trace, Stores r.helioEventId e) ∨
      Redeliverable env p.store r

/-- What is stored was delivered, and is enqueued. -/
def BillingStore.InOrder (env : BillingEnv) (s : BillingStore) : Prop :=
  ∀ r ∈ s.helioEvents, s.enqueued r.helioEventId = true ∧
    ∃ body, env.sha256 body = r.payloadHash ∧ (env.parseBody body).transactionId = r.helioEventId

/-- The handler hears that its event was stored, and what it adds to the queue gets there. -/
def HandlerGoesOn (o : BillingOp) (f : Fault) : Prop :=
  match o with
  | .createEvent _ => f.applies = true → f = .none
  | .queueAdd .. => f.applies = true
  | _ => True

instance (o : BillingOp) (f : Fault) : Decidable (HandlerGoesOn o f) := by
  unfold HandlerGoesOn; split <;> infer_instance

/-- No handler fails between storing its event and enqueuing it, and workers activate what is enqueued. -/
def Unbroken (p : BillingPool) : BillingLabel → Prop
  | .arrive (.activate payload) => p.store.enqueued payload.transactionId = true
  | .pick i c => ∀ t ∈ p.threads[i]?, ∀ o ∈ t.prog.next?, HandlerGoesOn o c.2
  | _ => True

instance (p : BillingPool) (l : BillingLabel) : Decidable (Unbroken p l) := by
  unfold Unbroken; split <;> infer_instance

/-!
## One payment, activated again

The event of a payment may be processed any number of times. The transaction that activates it succeeds at
most once; the renewal on the chain goes out before it, each time.
-/

/-- The transaction of a payment. -/
def HelioWebhookPayload.activation (payload : HelioWebhookPayload) (protocolId : JsString) (amountUsdc : Int)
    (now : Millis) : Activation where
  protocolId := protocolId
  tier := payload.tier.toNumber
  months := monthsInt payload
  amountUsdc := amountUsdc
  transactionId := payload.transactionId
  solanaTxSignature := payload.solanaTxSignature
  now := now
  periodEnd := periodEnd now (monthsInt payload)

/-- Any number of executions for one payment, while time passes. -/
def activations (payload : HelioWebhookPayload) :
    System BillingCalls Err BillingAnswer Unit BillingStore Fault Nat where
  handler := BillingStore.handle
  code _ _ := activateFromHelioPayment payload
  outside ms s := some { s with now := s.now + ms }

/-- A pool of executions. -/
abbrev ActivationPool := Pool BillingCalls Err BillingAnswer Unit BillingStore Fault

/-- A step of a pool of executions. -/
abbrev ActivationLabel := Label Unit Fault Nat

/-- The stores, whatever the time. -/
def BillingStore.database (s : BillingStore) : BillingStore := { s with now := 0 }

/-- One execution of a payment took the stores from one state to another. -/
def Activates (payload : HelioWebhookPayload) (s s' : BillingStore) : Prop :=
  ∃ protocol amountUsdc now, s.protocols.find? (·.protocolPubkey == payload.protocolPubkey) = some protocol ∧
    (payload.amountUsdc.or (.number 0)).toNumber.floorInt = some amountUsdc ∧
      (s.commit (payload.activation protocol.id amountUsdc now)).map (·.database) = .ok s'.database

/-- A payment is stored. -/
def BillingStore.IsPaid (s : BillingStore) (transactionId : JsString) : Prop :=
  ∃ r ∈ s.payments, r.helioTransactionId = some transactionId

/-- A call submitted a renewal to the chain. -/
def submits (e : BillingEvent) : Nat :=
  match e.op with
  | .renewSubscription _ => if e.choice.applies then 1 else 0
  | _ => 0

/-- However often a payment is executed, the stores are those after one execution once it succeeded, later
executions leave them alone, and the renewal went out at most once. -/
structure Idempotent (payload : HelioWebhookPayload) (s : BillingStore) (p : ActivationPool) : Prop where
  once : (∃ t ∈ p.threads, t.answer? = some .activated) → Activates payload s p.store
  settled : ∀ t ∈ p.threads, ∀ e ∈ t.trace, e.before.IsPaid payload.transactionId →
    e.after.database = e.before.database
  submitted : p.weight submits ≤ 1

/-- The lookup of a protocol succeeded. -/
def BillingOp.finds : (o : BillingOp) → Except Err o.Res → Bool
  | findProtocol _, .ok (some _) => true
  | _, _ => false

/-- The renewals that an execution has submitted or is about to, after a call that met a fault. -/
def BillingOp.renewals (n : Nat) (f : Fault) : (o : BillingOp) → Except Err o.Res → Nat
  | findProtocol _, .ok (some _) => n + 1
  | renewSubscription _, _ => if f.applies then n else n - 1
  | _, _ => n

/-- The renewals that an execution has submitted or is about to. -/
def renewals (tr : List BillingEvent) : Nat := tr.foldl (fun n e => e.op.renewals n e.choice e.reply) 0

/-- An execution finds its protocol only while none has submitted a renewal or is about to. -/
def FindsAlone (p : ActivationPool) : ActivationLabel → Prop
  | .pick i c =>
    ∀ t ∈ p.threads[i]?, ∀ o ∈ t.prog.next?, o.finds (BillingStore.handle c.2 p.store o).1 = true →
      p.total renewals = 0
  | _ => True

instance (p : ActivationPool) (l : ActivationLabel) : Decidable (FindsAlone p l) := by
  unfold FindsAlone; split <;> infer_instance

end HeraldGateway
