import HeraldGateway.Async.Pool
import HeraldGateway.Js
import HeraldGateway.Operations

/-!
# Billing: tables and operations

What the billing module calls: its tables, the queue of payment events, and the renewal on the chain. A
call may be refused, for a reason that its handler does not know either, such as a column that is too
narrow.
-/

namespace HeraldGateway

open Async

/-- `HelioWebhookPayload`, as far as it is read. -/
structure HelioWebhookPayload where
  event : JsString
  transactionId : JsString
  protocolPubkey : JsString
  tier : JsValue
  months : JsValue
  amountUsdc : JsValue
  solanaTxSignature : Option JsString
  deriving DecidableEq, Repr

/-- A row of `protocols`, as far as billing looks at it. -/
structure BillingProtocol where
  id : JsString
  protocolPubkey : JsString
  tier : Int
  isActive : Bool
  updatedAt : Millis
  sendsThisPeriod : Int
  deriving DecidableEq, Repr

/-- A row of `subscriptions`. -/
structure Subscription where
  protocolId : JsString
  tier : Int
  status : JsString
  helioSubscriptionId : Option JsString
  currentPeriodStart : Option Int
  currentPeriodEnd : Option Int
  sendsThisPeriod : Int
  periodResetAt : Int
  cancelAtPeriodEnd : Bool
  deriving DecidableEq, Repr

/-- A row of `payments`. -/
structure Payment where
  protocolId : JsString
  amountUsdc : Int
  tokenSymbol : JsString
  paymentSource : JsString
  helioTransactionId : Option JsString
  solanaTxSignature : Option JsString
  periodsPaid : Int
  periodStart : Int
  periodEnd : Int
  status : JsString
  deriving DecidableEq, Repr

/-- A row of `helio_webhook_events`. -/
structure HelioWebhookEvent where
  id : Nat
  helioEventId : JsString
  eventType : JsString
  protocolId : Option JsString
  payloadHash : JsString
  processed : Bool
  processedAt : Option Int := none
  deriving DecidableEq, Repr

/-- A job on the queue `billing-webhooks`, which keeps every job. -/
structure HelioJob where
  eventRecordId : Nat
  payload : HelioWebhookPayload
  deriving DecidableEq, Repr

/-- The stores of billing. -/
structure BillingStore where
  now : Millis
  protocols : List BillingProtocol
  subscriptions : List Subscription
  payments : List Payment
  helioEvents : List HelioWebhookEvent
  webhookQueue : List HelioJob
  deriving DecidableEq, Repr

/-- What a paid event writes in one transaction. -/
structure Activation where
  protocolId : JsString
  tier : JsNumber
  months : JsNumber
  amountUsdc : Int
  transactionId : JsString
  solanaTxSignature : Option JsString
  now : Millis
  /-- `none` is an invalid date. -/
  periodEnd : Option Int
  deriving DecidableEq, Repr

/-- The operations of billing. -/
inductive BillingOp where
  | now
  | findByPayloadHash (payloadHash : JsString)
  | createEvent (row : Nat → HelioWebhookEvent)
  | queueAdd (eventRecordId : Nat) (payload : HelioWebhookPayload)
  | findProtocol (protocolPubkey : JsString)
  | renewSubscription (protocolPubkey : JsString)
  | transaction (a : Activation)

/-- What the operations of billing give. -/
def BillingOp.Res : BillingOp → Type
  | now => Millis
  | findByPayloadHash _ => Option HelioWebhookEvent
  | createEvent _ => HelioWebhookEvent
  | findProtocol _ => Option BillingProtocol
  | renewSubscription _ => JsString
  | queueAdd .. | transaction _ => Unit

/-- The calls of billing. -/
abbrev BillingCalls : Signature := ⟨BillingOp, BillingOp.Res⟩

/-- A function of billing. -/
abbrev Billing (α : Type) := Prog BillingCalls Err α

/-- Make a call. -/
def BillingOp.call (o : BillingOp) : Billing o.Res := @Prog.perform BillingCalls Err o

/-- An argument that the database client does not take. -/
def Err.validation : Err := .error (js "Invalid value provided")

/-- The subscription that a paid event writes, whether or not there was one. -/
def Activation.subscription (a : Activation) (tier periodEnd : Int) : Subscription where
  protocolId := a.protocolId
  tier := tier
  status := js "active"
  helioSubscriptionId := some a.transactionId
  currentPeriodStart := some a.now
  currentPeriodEnd := some periodEnd
  sendsThisPeriod := 0
  periodResetAt := periodEnd
  cancelAtPeriodEnd := false

namespace BillingStore

/-- `subscription.upsert`, where the end of the period is a date. -/
def upsertSubscription (s : BillingStore) (a : Activation) (periodEnd : Int) :
    Except Err BillingStore := do
  let some tier := a.tier.smallInt | throw .validation
  if s.subscriptions.any fun r =>
      r.protocolId != a.protocolId && r.helioSubscriptionId == some a.transactionId then
    throw .uniqueViolation
  if s.subscriptions.any (·.protocolId == a.protocolId) then
    return { s with
      subscriptions := updateWhere (·.protocolId == a.protocolId) (fun _ => a.subscription tier periodEnd)
        s.subscriptions }
  else
    return { s with subscriptions := s.subscriptions ++ [a.subscription tier periodEnd] }

/-- `payment.create` -/
def createPayment (s : BillingStore) (a : Activation) (periodEnd : Int) : Except Err BillingStore := do
  let some periodsPaid := a.months.smallInt | throw .validation
  if s.payments.any (·.helioTransactionId == some a.transactionId) then
    throw .uniqueViolation
  return { s with payments := s.payments ++ [{
    protocolId := a.protocolId
    amountUsdc := a.amountUsdc
    tokenSymbol := js "USDC"
    paymentSource := js "helio"
    helioTransactionId := some a.transactionId
    solanaTxSignature := a.solanaTxSignature
    periodsPaid := periodsPaid
    periodStart := a.now
    periodEnd := periodEnd
    status := js "completed" }] }

/-- `protocol.update` -/
def updateProtocol (s : BillingStore) (a : Activation) : Except Err BillingStore := do
  let some tier := a.tier.smallInt | throw .validation
  if s.protocols.any (·.id == a.protocolId) then
    return { s with
      protocols := updateWhere (·.id == a.protocolId)
        (fun r => { r with tier := tier, isActive := true, updatedAt := a.now }) s.protocols }
  else throw .recordNotFound

/-- `helioWebhookEvent.update` -/
def markProcessed (s : BillingStore) (a : Activation) : Except Err BillingStore :=
  if s.helioEvents.any (·.helioEventId == a.transactionId) then
    return { s with
      helioEvents := updateWhere (·.helioEventId == a.transactionId)
        (fun r => { r with processed := true, processedAt := some a.now }) s.helioEvents }
  else throw .recordNotFound

/-- The four writes of a transaction. -/
def commit (s : BillingStore) (a : Activation) : Except Err BillingStore := do
  let some periodEnd := a.periodEnd | throw .validation
  let s ← s.upsertSubscription a periodEnd
  let s ← s.createPayment a periodEnd
  let s ← s.updateProtocol a
  s.markProcessed a

/-- A call that is answered. -/
def serve (s : BillingStore) : (o : BillingOp) → Except Err o.Res × BillingStore
  | .now => (.ok s.now, s)
  | .findByPayloadHash h => (.ok (s.helioEvents.find? (·.payloadHash == h)), s)
  | .createEvent row =>
    let r := row s.helioEvents.length
    if s.helioEvents.any (·.helioEventId == r.helioEventId) then (.error .uniqueViolation, s)
    else (.ok r, { s with helioEvents := s.helioEvents ++ [r] })
  | .queueAdd id payload => (.ok (), { s with webhookQueue := s.webhookQueue ++ [⟨id, payload⟩] })
  | .findProtocol k => (.ok (s.protocols.find? (·.protocolPubkey == k)), s)
  | .renewSubscription _ => (.ok (js "signature"), s)
  | .transaction a => match s.commit a with
    | .ok s' => (.ok (), s')
    | .error e => (.error e, s)

/-- A call under a fault. The clock does not fail. -/
def handle : Handler BillingCalls Err BillingStore Fault := fun f s o =>
  match o with
  | .now => s.serve .now
  | o => f.meet s (s.serve o)

example {f : Fault} {s : BillingStore} : handle f s .now = (.ok s.now, s) := by rw [handle, serve]

end BillingStore

end HeraldGateway
