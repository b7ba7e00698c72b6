import HeraldGateway.World
import HeraldGateway.Operations

/-!
# Rate limits

`auth.guard.ts`, `rate-limit.interceptor.ts`, `rate-limit.service.ts` and `rate-limit.constants.ts`: the
guard attaches the caller's protocol to a request, and the interceptor checks the limits of the protocol
that it finds there. Which attribute the interceptor looks at is a parameter, so that what it does can be
compared with what each protocol is promised.

A request is one step, as only the call of the Redis script waits for anything. The clocks of Redis and of
the gateway agree.
-/

namespace HeraldGateway

/-! ### Tiers -/

/-- `TierLimits` -/
structure TierLimits where
  name : JsString
  sendsPerMonth : Nat
  burstLimit : Nat
  maxBatchSize : Nat
  deriving DecidableEq, Repr

/-- `TIER_LIMITS` -/
def TIER_LIMITS : Nat → Option TierLimits
  | 0 => some ⟨js "Developer", 1000, 10, 10⟩
  | 1 => some ⟨js "Growth", 50000, 100, 100⟩
  | 2 => some ⟨js "Scale", 250000, 500, 100⟩
  | 3 => some ⟨js "Enterprise", 1000000, 2000, 1000⟩
  | _ => none

/-- The limits where there is no tier, or an unknown one. -/
def developerLimits : TierLimits := ⟨js "Developer", 1000, 10, 10⟩

/-- `getTierLimits` -/
def getTierLimits (tier : Option Nat) : TierLimits := (tier.bind TIER_LIMITS).getD developerLimits

/-- `OVERAGE_PRICE_PER_NOTIFICATION`, or the price where the tier has none. -/
def overagePricePerNotification : Option Nat → Nat
  | some 0 => 500
  | some 1 => 400
  | some 2 => 300
  | some 3 => 200
  | _ => 500

/-! ### Requests -/

/-- The URL scheme of a request, which the framework keeps in `request.protocol`. -/
inductive Scheme where
  | http
  | https
  deriving DecidableEq, Repr

/-- The scheme as a string. -/
def Scheme.text : Scheme → JsString
  | http => js "http"
  | https => js "https"

/-- A request, as guard and interceptor see it. -/
structure LimitedRequest where
  protocol : Scheme
  authProtocol : Option AuthenticatedProtocol := none
  url : Option JsString
  /-- The length of `body.notifications`. -/
  notifications : Option Nat := none
  deriving DecidableEq, Repr

/-- What the limiter reads of the value it takes for a protocol. -/
structure ProtocolView where
  protocolId : Option JsString
  tier : Option Nat
  environment : Option Environment
  sendsThisPeriod : Option Nat
  overageEnabled : Option Bool
  deriving DecidableEq, Repr

/-- The properties of a protocol. -/
def AuthenticatedProtocol.view (p : AuthenticatedProtocol) : ProtocolView where
  protocolId := some p.protocolId
  tier := some p.tier
  environment := some p.environment
  sendsThisPeriod := p.sendsThisPeriod
  overageEnabled := p.overageEnabled

/-- The properties of a string: it has none of these. -/
def stringView : ProtocolView := ⟨none, none, none, none, none⟩

/-- What is found at an attribute of a request, unless it is falsy. -/
abbrev Attribute := LimitedRequest → Option ProtocolView

/-- `request.protocol` -/
def schemeAttribute : Attribute := fun r => if r.protocol.text.isEmpty then none else some stringView

/-- `request.authProtocol` -/
def authAttribute : Attribute := fun r => r.authProtocol.map (·.view)

/-- A request that arrives: which protocol its key belongs to, when, and what the call of the script
meets. -/
structure Arrival where
  request : LimitedRequest
  caller : AuthenticatedProtocol
  now : Millis
  fault : Fault := .none
  deriving DecidableEq, Repr

/-- `canActivate` for a valid key: attach its protocol. -/
def Arrival.authenticated (a : Arrival) : LimitedRequest := { a.request with authProtocol := some a.caller }

/-! ### The limiter -/

/-- The counters in Redis. -/
abbrev Counters := JsString → Option (Timed Nat)

/-- `RATE_LIMIT_LUA`: count a request in a window that starts with the first one. -/
def rateLimitLua (s : Counters) (key : JsString) (windowMs : Nat) (now : Millis) :
    (Nat × Nat) × Counters :=
  let entry : Timed Nat := match Timed.live now (s key), s key with
    | some n, some t => ⟨n + 1, t.expiresAt⟩
    | _, _ => ⟨1, now + windowMs⟩
  ((entry.value, entry.expiresAt - now), fun k => if k = key then some entry else s k)

/-- The headers of an answer. -/
abbrev Headers := List (JsString × JsString)

/-- `RateLimitCheckResult` -/
structure RateLimitCheckResult where
  allowed : Bool
  error : Option JsString := none
  message : Option JsString := none
  httpStatus : Option Nat := none
  isOverage : Bool := false
  overageCount : Option Nat := none
  overagePrice : Option Nat := none
  headers : Headers
  retryAfter : Option Nat := none
  deriving DecidableEq, Repr

/-- Set a header, which replaces one of the same name. -/
def setHeader (hs : Headers) (name value : JsString) : Headers :=
  if hs.any (·.1 == name) then hs.map fun h => if h.1 == name then (name, value) else h
  else hs ++ [(name, value)]

/-- The key of the window of a second. -/
def windowKey (protocolId : Option JsString) (now : Millis) : JsString :=
  js "rl:" ++ protocolId.getD (js "undefined") ++ js ":" ++ decimal (now / 1000)

/-- The answer where Redis fails. -/
def limiterUnavailable : RateLimitCheckResult where
  allowed := false
  error := some (js "RATE_LIMIT_UNAVAILABLE")
  message := some (js "Rate limiting service is temporarily unavailable.")
  httpStatus := some 503
  headers := [(js "X-RateLimit-Limit", js "0"), (js "X-RateLimit-Remaining", js "0"),
    (js "X-RateLimit-Reset", js "0")]

/-- The answer to the `current`-th request of a window. -/
def perSecondResult (burstLimit current resetAt : Nat) (isSandbox : Bool) : RateLimitCheckResult :=
  let headers : Headers := [(js "X-RateLimit-Limit", decimal burstLimit),
    (js "X-RateLimit-Remaining", decimal (burstLimit - current)),
    (js "X-RateLimit-Reset", decimal resetAt),
    (js "X-Herald-Environment", if isSandbox then js "sandbox" else js "production")]
  if current > burstLimit then
    { allowed := false
      error := some (js "RATE_LIMIT_EXCEEDED")
      message := some (js "Rate limit exceeded. Limit: " ++ decimal burstLimit ++
        js " req/s. Retry after 1 second.")
      httpStatus := some 429
      retryAfter := some 1
      headers := setHeader (setHeader headers (js "X-RateLimit-Remaining") (js "0")) (js "Retry-After")
        (js "1") }
  else { allowed := true, headers := headers }

/-- `checkPerSecondLimit` -/
def checkPerSecondLimit (s : Counters) (now : Millis) (fault : Fault) (protocolId : Option JsString)
    (burstLimit : Nat) (isSandbox : Bool) : RateLimitCheckResult × Counters :=
  let ((current, ttlMs), s') := rateLimitLua s (windowKey protocolId now) 1000 now
  let result := match fault with
    | .none => perSecondResult burstLimit current ((now + ttlMs + 999) / 1000) isSandbox
    | _ => limiterUnavailable
  (result, if fault.applies then s' else s)

/-- `n.toLocaleString()` -/
def localeString (n : Nat) : JsString :=
  if n < 1000 then decimal n
  else if n < 1000000 then decimal (n / 1000) ++ js "," ++ sliceLast 3 (js "00" ++ decimal (n % 1000))
  else decimal (n / 1000000) ++ js "," ++ sliceLast 3 (js "00" ++ decimal (n / 1000 % 1000)) ++ js "," ++
    sliceLast 3 (js "00" ++ decimal (n % 1000))

/-- The headers of the monthly quota, with a warning from 80% on. -/
def quotaHeaders (used limit : Nat) (existing : Headers) : Headers :=
  let headers := setHeader (setHeader (setHeader existing (js "X-Herald-Quota-Used") (decimal used))
    (js "X-Herald-Quota-Limit") (decimal limit)) (js "X-Herald-Quota-Remaining") (decimal (limit - used))
  let usagePercent := (200 * used + limit) / (2 * limit)
  if usagePercent ≥ 80 then
    setHeader (setHeader headers (js "X-Herald-Quota-Warning") (js "true")) (js "X-Herald-Upgrade-Url")
      (js "https://app.useherald.xyz/billing/upgrade")
  else headers

/-- `checkMonthlyQuota` -/
def checkMonthlyQuota (protocol : ProtocolView) (count : Nat) (limits : TierLimits)
    (existingHeaders : Headers) : RateLimitCheckResult :=
  let used := protocol.sendsThisPeriod.getD 0
  let limit := limits.sendsPerMonth
  let headers := quotaHeaders used limit existingHeaders
  if used + count > limit then
    if protocol.overageEnabled = some true then
      let totalOveragePrice := count * overagePricePerNotification protocol.tier
      { allowed := true
        isOverage := true
        overageCount := some (used + count - limit)
        overagePrice := some totalOveragePrice
        headers := setHeader (setHeader headers (js "X-Herald-Overage") (js "true"))
          (js "X-Herald-Overage-Price") (decimal totalOveragePrice) }
    else
      { allowed := false
        error := some (js "QUOTA_EXCEEDED")
        message := some (js "Monthly quota reached (" ++ localeString limit ++ js " sends/" ++ limits.name ++
          js " tier). Upgrade at app.useherald.xyz/billing/upgrade or enable overages.")
        httpStatus := some 429
        headers := setHeader headers (js "X-Herald-Quota-Remaining") (js "0") }
  else { allowed := true, headers := headers }

/-- A batch that is too large. -/
def batchSizeExceeded (batchCount : Nat) (limits : TierLimits) (headers : Headers) :
    RateLimitCheckResult where
  allowed := false
  error := some (js "BATCH_SIZE_EXCEEDED")
  message := some (js "Batch size " ++ decimal batchCount ++ js " exceeds " ++ limits.name ++
    js " tier limit of " ++ decimal limits.maxBatchSize)
  httpStatus := some 422
  headers := headers

/-- Whether the limits of the sandbox apply. -/
def ProtocolView.isSandbox (protocol : ProtocolView) : Bool := protocol.environment == some .sandbox

/-- The requests per second of a protocol. -/
def ProtocolView.burst (protocol : ProtocolView) : Nat :=
  if protocol.isSandbox then 10 else (getTierLimits protocol.tier).burstLimit

/-- `checkAllLimits` -/
def checkAllLimits (s : Counters) (now : Millis) (fault : Fault) (protocol : ProtocolView)
    (isBatch : Bool) (batchCount : Nat) : RateLimitCheckResult × Counters :=
  let limits := getTierLimits protocol.tier
  let (perSec, s') := checkPerSecondLimit s now fault protocol.protocolId protocol.burst protocol.isSandbox
  let result :=
    if !perSec.allowed then perSec
    else if isBatch && batchCount > limits.maxBatchSize then
      batchSizeExceeded batchCount limits perSec.headers
    else if !protocol.isSandbox then checkMonthlyQuota protocol batchCount limits perSec.headers
    else
      { allowed := true
        headers := setHeader perSec.headers (js "X-Herald-Environment") (js "sandbox") }
  (result, s')

/-! ### The interceptor -/

/-- Whether a request is a batch. -/
def LimitedRequest.isBatch (r : LimitedRequest) : Bool := r.url.any (includes (js "/batch"))

/-- How many notifications a request is counted as. -/
def LimitedRequest.batchCount (r : LimitedRequest) : Nat := if r.isBatch then r.notifications.getD 1 else 1

/-- The body of the answer to a request over a limit. -/
structure LimitRejection where
  error : Option JsString
  message : Option JsString
  statusCode : Nat
  retryAfter : Option Nat
  deriving DecidableEq, Repr

/-- `intercept`: the result of the check, where one is made, if the request goes on. -/
def intercept (read : Attribute) (s : Counters) (now : Millis) (fault : Fault) (r : LimitedRequest) :
    Except LimitRejection (Option RateLimitCheckResult) × Counters :=
  match read r with
  | none => (.ok none, s)
  | some protocol =>
    let (result, s') := checkAllLimits s now fault protocol r.isBatch r.batchCount
    if !result.allowed then
      (.error ⟨result.error, result.message, result.httpStatus.getD 429, result.retryAfter⟩, s')
    else (.ok (some result), s')

/-- What becomes of a request: let through, or the error of its rejection. -/
def decisionOf {α : Type} : Except LimitRejection α → Except (Option JsString) Unit
  | .ok _ => .ok ()
  | .error e => .error e.error

/-- A request, once its key was found valid. -/
def admission (read : Attribute) (s : Counters) (a : Arrival) :
    Except (Option JsString) Unit × Counters :=
  let (r, s') := intercept read s a.now a.fault a.authenticated
  (decisionOf r, s')

/-- The counters after some requests. -/
def countersAfter (read : Attribute) (as : List Arrival) : Counters :=
  as.foldl (fun s a => (admission read s a).2) fun _ => none

/-- What becomes of a request after others. -/
def decisionAfter (read : Attribute) (before : List Arrival) (a : Arrival) :
    Except (Option JsString) Unit :=
  (admission read (countersAfter read before) a).1

/-! ### Isolation -/

/-- The requests of the protocol of `a`. -/
def ownArrivals (a : Arrival) (as : List Arrival) : List Arrival :=
  as.filter (·.caller.protocolId == a.caller.protocolId)

/-- How many requests were counted in the second of `a`, with `a` itself. -/
def countedInSecond (as : List Arrival) (a : Arrival) : Nat :=
  as.countP (fun b => b.now / 1000 == a.now / 1000 && b.fault.applies) + 1

/-- A batch that the limits of the tier reject. -/
def Arrival.oversized (a : Arrival) : Bool :=
  a.request.isBatch && a.request.batchCount > (getTierLimits (some a.caller.tier)).maxBatchSize

/-- The quota of the protocol has room for the request, or overages are paid for. -/
def Arrival.affordable (a : Arrival) : Bool :=
  a.caller.environment == .sandbox || a.caller.overageEnabled == some true ||
    a.caller.sendsThisPeriod.getD 0 + a.request.batchCount ≤
      (getTierLimits (some a.caller.tier)).sendsPerMonth

/-- The request meets the same limits as it would alone: at most ten requests of everybody are counted in
its second, and it is neither a batch of more than ten notifications that its tier allows nor over its
quota, or its protocol alone is over its burst limit. -/
def MeetsOwnLimits (before : List Arrival) (a : Arrival) : Prop :=
  a.fault = .none →
    if countedInSecond before a ≤ 10 then
      a.oversized = true ∨ (a.request.isBatch = true → a.request.batchCount ≤ 10) ∧ a.affordable = true
    else a.caller.view.burst < countedInSecond (ownArrivals a before) a

instance (before : List Arrival) (a : Arrival) : Decidable (MeetsOwnLimits before a) := by
  unfold MeetsOwnLimits; infer_instance

end HeraldGateway
