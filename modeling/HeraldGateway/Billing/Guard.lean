import HeraldGateway.Billing.Operations
import HeraldGateway.Limits.RateLimit

/-!
# The decision of the subscription guard

`subscription.guard.ts`, once it has the subscription of a protocol: whether a request may send. The sends
that a tier includes are those of `billing.service.ts`; the limiter has a table of its own.
-/

namespace HeraldGateway

/-- `TIER_SEND_LIMITS` -/
def TIER_SEND_LIMITS : Nat → Option Nat
  | 0 => some 1000
  | 1 => some 10000
  | 2 => some 100000
  | 3 => some 1000000
  | _ => none

/-- `tierLimits` -/
def tierSendLimit (tier : Nat) : Nat := (TIER_SEND_LIMITS tier).getD 1000

/-- What the guard throws, without the URL of a checkout. -/
inductive GuardRefusal where
  | inactive
  | expired (expiredAt : Int)
  | quotaExceeded (sendsUsed : Int) (sendsLimit : Nat) (periodResetAt : Int)
  deriving DecidableEq, Repr

namespace GuardRefusal

/-- `error` -/
def error : GuardRefusal → JsString
  | inactive => js "SUBSCRIPTION_INACTIVE"
  | expired _ => js "SUBSCRIPTION_EXPIRED"
  | quotaExceeded .. => js "QUOTA_EXCEEDED"

/-- `message` -/
def message : GuardRefusal → JsString
  | inactive => js "Subscribe to start sending notifications."
  | expired _ => js "Your subscription has expired. Renew to continue sending."
  | quotaExceeded _ sendsLimit _ =>
    js "Monthly send limit reached (" ++ localeString sendsLimit ++ js " sends)."

/-- The status of the answer. -/
def status : GuardRefusal → Nat
  | inactive | expired _ => 402
  | quotaExceeded .. => 429

end GuardRefusal

/-- Whether the guard lets a request of a paid tier pass, given the subscription that it found. -/
def checkSubscription (tier : Nat) (subscription : Option Subscription) (now : Millis) :
    Except GuardRefusal Unit :=
  match subscription with
  | none => .error .inactive
  | some s =>
    if s.status ≠ js "active" then .error .inactive
    else if s.currentPeriodEnd.any (· < (now : Int)) then .error (.expired (s.currentPeriodEnd.getD 0))
    else if s.sendsThisPeriod ≥ tierSendLimit tier then
      .error (.quotaExceeded s.sendsThisPeriod (tierSendLimit tier) s.periodResetAt)
    else .ok ()

/-- Tier 0 is free: its subscription is not looked at. -/
def guardDecision (tier : Nat) (subscription : Option Subscription) (now : Millis) :
    Except GuardRefusal Unit :=
  if tier = 0 then .ok () else checkSubscription tier subscription now

/-- The guard refuses a request because its quota is used up. -/
def DeniesForQuota (r : Except GuardRefusal Unit) : Prop :=
  ∃ used limit resetAt, r = .error (.quotaExceeded used limit resetAt)

/-- A subscription that is active at a time. -/
structure Subscription.LiveAt (s : Subscription) (now : Millis) : Prop where
  active : s.status = js "active"
  lasts : ∀ last ∈ s.currentPeriodEnd, (now : Int) ≤ last

/-- The guard gets as far as the quota of a subscription. -/
def ReachesQuota (tier : Nat) (subscription : Option Subscription) (now : Millis) : Prop :=
  tier ≠ 0 ∧ ∃ s ∈ subscription, s.LiveAt now

/-- The sends that the limiter allows in a month. -/
def monthlyQuota (tier : Nat) : Nat := (getTierLimits (some tier)).sendsPerMonth

end HeraldGateway
