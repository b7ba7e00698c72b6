import HeraldGateway.Limits.RateLimit

/-!
# What the limits count

The sends above a monthly quota, and the calls in a window of a second.
-/

namespace HeraldGateway

/-!
## Overage

What the monthly quota charges a protocol that pays for its sends above the limit, against the sends of a
period that are above it.
-/

/-- The usage of a protocol in this period. -/
def ProtocolView.used (protocol : ProtocolView) : Nat := protocol.sendsThisPeriod.getD 0

/-- The protocol after `count` more sends. -/
def ProtocolView.afterSends (protocol : ProtocolView) (count : Nat) : ProtocolView :=
  { protocol with sendsThisPeriod := some (protocol.used + count) }

/-- What a request is charged. -/
def overageCharge (protocol : ProtocolView) (limits : TierLimits) (count : Nat) (headers : Headers) : Nat :=
  (checkMonthlyQuota protocol count limits headers).overagePrice.getD 0

/-- What the requests of a period are charged, each of which sees the usage left by the ones before it. -/
def periodCharges (limits : TierLimits) : ProtocolView → List (Nat × Headers) → List Nat
  | _, [] => []
  | protocol, (count, headers) :: rest =>
    overageCharge protocol limits count headers :: periodCharges limits (protocol.afterSends count) rest

/-- How many of `count` sends are above a limit of which `used` are used. -/
def sendsAbove (used limit count : Nat) : Nat := (used + count - limit) - (used - limit)

/-- A request begins below the limit and ends above it. -/
def Straddles (used limit count : Nat) : Prop := used < limit ∧ limit < used + count

/-- The charge of every single request is the price of its sends above the limit. -/
def ChargesAbove (protocol : ProtocolView) (limits : TierLimits) (count : Nat) (headers : Headers) : Prop :=
  overageCharge protocol limits count headers =
    overagePricePerNotification protocol.tier * sendsAbove protocol.used limits.sendsPerMonth count

/-- The charges of a period are the price of its sends above the limit. -/
def PeriodChargesAbove (protocol : ProtocolView) (limits : TierLimits) (requests : List (Nat × Headers)) :
    Prop :=
  (periodCharges limits protocol requests).sum = overagePricePerNotification protocol.tier *
    sendsAbove protocol.used limits.sendsPerMonth (requests.map (·.1)).sum

/-!
## Windows of a second

The calls that several gateways make to the limit script for one protocol. A call looks at the clock three
times: for its key, in Redis, and when it has heard the answer. Redis runs the scripts one after another.
-/

/-- One call of the script. -/
structure LimiterCall where
  /-- When the key was computed. -/
  computed : Millis
  /-- When the script ran. -/
  ran : Millis
  /-- When the answer was read. -/
  heard : Millis
  deriving DecidableEq, Repr

/-- `checkPerSecondLimit` of a call that Redis answers. -/
def LimiterCall.check (c : LimiterCall) (s : Counters) (protocolId : Option JsString) (burstLimit : Nat)
    (isSandbox : Bool) : RateLimitCheckResult × Counters :=
  let ((current, ttlMs), s') := rateLimitLua s (windowKey protocolId c.computed) 1000 c.ran
  (perSecondResult burstLimit current ((c.heard + ttlMs + 999) / 1000) isSandbox, s')

/-- The answers to calls whose scripts run in this order. -/
def limiterRun (protocolId : Option JsString) (burstLimit : Nat) (isSandbox : Bool) :
    Counters → List LimiterCall → List (LimiterCall × RateLimitCheckResult)
  | _, [] => []
  | s, c :: calls =>
    (c, (c.check s protocolId burstLimit isSandbox).1) ::
      limiterRun protocolId burstLimit isSandbox (c.check s protocolId burstLimit isSandbox).2 calls

/-- A script runs in the second that its key was computed for. -/
def LimiterCall.InTime (c : LimiterCall) : Prop := c.computed / 1000 = c.ran / 1000

/-- How many scripts run in a second. -/
def ranIn (calls : List LimiterCall) (second : Nat) : Nat := calls.countP (·.ran / 1000 == second)

/-- The answers of a second that let their requests through. -/
def allowedIn (answers : List (LimiterCall × RateLimitCheckResult)) (second : Nat) :
    List RateLimitCheckResult :=
  (answers.filter fun a => a.1.ran / 1000 == second && a.2.allowed).map (·.2)

/-- How many requests are let through from `t` to a second later. -/
def allowedFrom (answers : List (LimiterCall × RateLimitCheckResult)) (t : Millis) : Nat :=
  answers.countP fun a => decide (t ≤ a.1.ran ∧ a.1.ran ≤ t + 1000) && a.2.allowed

/-- The header of the remaining quota. -/
def RateLimitCheckResult.remaining (r : RateLimitCheckResult) : Option JsString :=
  (r.headers.find? (·.1 == js "X-RateLimit-Remaining")).map (·.2)

/-- A call at one time is the call of the limiter. -/
theorem check_eq {s : Counters} {now : Millis} {protocolId : Option JsString} {burstLimit : Nat}
    {isSandbox : Bool} : (⟨now, now, now⟩ : LimiterCall).check s protocolId burstLimit isSandbox =
      checkPerSecondLimit s now .none protocolId burstLimit isSandbox := rfl

end HeraldGateway
