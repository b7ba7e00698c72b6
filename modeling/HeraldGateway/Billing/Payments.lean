import HeraldGateway.Billing.Operations

/-!
# Payments by Helio

`helio.webhook.guard.ts`, `helio.webhook.controller.ts` and `subscription.service.ts`: a signed webhook is
stored and enqueued, and the job of a paid event activates the subscription that was paid for. The
processor of these jobs is not part of the gateway, so any activation may be asked for.
-/

namespace HeraldGateway

open Async

/-- What billing computes from configuration. -/
structure BillingEnv where
  /-- `createHash('sha256').update(s).digest('hex')` -/
  sha256 : JsString → JsString
  /-- The HMAC of a body under `HELIO_WEBHOOK_SECRET`, in hex. -/
  webhookDigest : JsString → JsString
  /-- What the body parser makes of a raw body. -/
  parseBody : JsString → HelioWebhookPayload

/-- A request to the webhook. -/
structure WebhookRequest where
  rawBody : Option JsString
  /-- The header `x-helio-signature`. -/
  signature : Option JsString
  deriving DecidableEq, Repr

/-- What a task of billing returns. -/
inductive BillingAnswer where
  | received
  | activated
  deriving DecidableEq, Repr

variable (env : BillingEnv)

/-- `HelioWebhookGuard.canActivate`, which gives the raw body of a request that it lets through. -/
def helioWebhookGuard (req : WebhookRequest) : Except Err JsString :=
  if !truthy req.signature then .error (.http 401 (js "Missing X-Helio-Signature header"))
  else match req.rawBody with
    | none => .error (.http 401 (js "Missing request raw body"))
    | some body =>
      if env.webhookDigest body = req.signature.getD [] then .ok body
      else .error (.http 401 (js "Invalid webhook signature"))

/-- The row in which the event of a payload is stored. -/
def webhookEvent (payload : HelioWebhookPayload) (protocol : Option BillingProtocol) (payloadHash : JsString)
    (id : Nat) : HelioWebhookEvent where
  id := id
  helioEventId := payload.transactionId
  eventType := payload.event
  protocolId := protocol.map (·.id)
  payloadHash := payloadHash
  processed := false

/-- Store the event of a payload and enqueue it. -/
def storeAndEnqueue (payload : HelioWebhookPayload) (payloadHash : JsString) : Billing BillingAnswer := do
  let protocol ← (BillingOp.findProtocol payload.protocolPubkey).call
  let eventRecord ← (BillingOp.createEvent (webhookEvent payload protocol payloadHash)).call
  (BillingOp.queueAdd eventRecord.id payload).call
  return .received

/-- `handleWebhook`, behind its guard. -/
def handleWebhook (req : WebhookRequest) : Billing BillingAnswer :=
  match helioWebhookGuard env req with
  | .error e => .throw e
  | .ok body => do
    let existing ← (BillingOp.findByPayloadHash (env.sha256 body)).call
    if existing.any (·.processed) then return .received
    else storeAndEnqueue (env.parseBody body) (env.sha256 body)

/-- The milliseconds of a paid month. -/
def PAID_MONTH : Nat := 30 * 24 * 60 * 60 * 1000

/-- `Number(months || 1)` -/
def monthsInt (payload : HelioWebhookPayload) : JsNumber := (payload.months.or (.number 1)).toNumber

/-- `new Date(now + 30 * 24 * 60 * 60 * 1000 * months)`: the fraction of a millisecond is dropped, and
what is too far away is no date. -/
def periodEnd (now : Millis) : JsNumber → Option Int
  | .finite q =>
    let t := (now : ℚ) + PAID_MONTH * q
    if -8640000000000000 ≤ t ∧ t ≤ 8640000000000000 then some (if t < 0 then ⌈t⌉ else ⌊t⌋) else none
  | _ => none

/-- `activateFromHelioPayment`. The renewal on the chain may fail. -/
def activateFromHelioPayment (payload : HelioWebhookPayload) : Billing BillingAnswer := do
  match (payload.amountUsdc.or (.number 0)).toNumber.floorInt with
  | none => .throw (.error (js "cannot be converted to a BigInt"))
  | some amountUsdc =>
    match ← (BillingOp.findProtocol payload.protocolPubkey).call with
    | none => .throw (.error (js "Protocol not found for pubkey " ++ payload.protocolPubkey))
    | some protocol =>
      let _ ← Prog.tryCatch (BillingOp.renewSubscription payload.protocolPubkey).call fun _ => return []
      let now ← BillingOp.now.call
      (BillingOp.transaction {
        protocolId := protocol.id
        tier := payload.tier.toNumber
        months := monthsInt payload
        amountUsdc := amountUsdc
        transactionId := payload.transactionId
        solanaTxSignature := payload.solanaTxSignature
        now := now
        periodEnd := periodEnd now (monthsInt payload) }).call
      return .activated

example {payload : HelioWebhookPayload} (h : (payload.amountUsdc.or (.number 0)).toNumber.floorInt = none) :
    activateFromHelioPayment payload = .throw (.error (js "cannot be converted to a BigInt")) := by
  unfold activateFromHelioPayment
  split
  · rfl
  · next hsome =>
    rw [h] at hsome
    cases hsome

/-- What billing is asked to do. -/
inductive BillingTask where
  | webhook (req : WebhookRequest)
  | activate (payload : HelioWebhookPayload)
  deriving DecidableEq, Repr

/-- The program of a task. -/
def BillingTask.code : BillingTask → Billing BillingAnswer
  | webhook req => handleWebhook env req
  | activate payload => activateFromHelioPayment payload

/-- What happens to the stores between the calls of these tasks. -/
inductive BillingChange where
  /-- Time passes. -/
  | tick (ms : Nat)
  /-- Others change protocols, subscriptions and payments. -/
  | configure (protocols : List BillingProtocol) (subscriptions : List Subscription)
      (payments : List Payment)
  deriving DecidableEq, Repr

/-- A change of the stores. -/
def BillingChange.apply (s : BillingStore) : BillingChange → BillingStore
  | tick ms => { s with now := s.now + ms }
  | configure protocols subscriptions payments =>
    { s with protocols := protocols, subscriptions := subscriptions, payments := payments }

/-- Any number of tasks of billing over its stores. -/
def billing : System BillingCalls Err BillingAnswer BillingTask BillingStore Fault BillingChange where
  handler := BillingStore.handle
  code task _ := task.code env
  outside e s := some (e.apply s)

/-- A pool of tasks of billing. -/
abbrev BillingPool := Pool BillingCalls Err BillingAnswer BillingTask BillingStore Fault

/-- A task of billing that runs, or has run. -/
abbrev BillingThread := Thread BillingCalls Err BillingAnswer BillingTask BillingStore Fault

/-- A call of billing that was answered. -/
abbrev BillingEvent := Event BillingCalls Err BillingStore Fault

/-- A step of a pool. -/
abbrev BillingLabel := Label BillingTask Fault BillingChange

/-! ### Replays -/

/-- A protocol. -/
def growthProtocol : BillingProtocol := ⟨js "p", js "key", 0, false, 0, 0⟩

/-- The event of a payment for some months. -/
def paymentEvent (transactionId : String) (months : Nat) : HelioWebhookPayload where
  event := js "COMPLETED"
  transactionId := js transactionId
  protocolPubkey := js "key"
  tier := .number 1
  months := .number months
  amountUsdc := .number 99
  solanaTxSignature := none

/-- Configuration in which hashes can be read, and a body is the identifier of its transaction. -/
def BillingEnv.transparent : BillingEnv where
  sha256 s := s
  webhookDigest s := s
  parseBody s := { paymentEvent "" 1 with transactionId := s }

/-- A replay of billing. -/
def replayBilling (s : BillingStore) (ls : List BillingLabel) : Option BillingPool :=
  (billing BillingEnv.transparent).run (Pool.empty s) ls

/-- The next `n` calls of the `i`-th task are answered. -/
def billed (i n : Nat) : List BillingLabel := List.replicate n (.pick i (true, .none))

end HeraldGateway
