import HeraldGateway.Operations

/-!
# Sandbox keys and devnet resolution

`sandbox.service.ts` (the daily quota of a test key) and `resolveDevnetWallet` of
`sandbox-routing.service.ts`.
-/

namespace HeraldGateway

open Async

/-- `SandboxValidationResult`, as far as the notify path reads it. -/
structure SandboxValidationResult where
  allowed : Bool
  errorCode : Option JsString := none
  dailyLimit : Nat
  remainingToday : Nat
  deriving DecidableEq, Repr

/-- What a daily counter that was read counts. -/
def countOf (count : Option JsString) : Nat := if truthy count then parseCount (count.getD []) else 0

/-- Read a daily counter. -/
def readCounter (key : RedisKey) : Gateway Nat := do
  let count ← call (.redisGet key)
  return countOf count

/-- `getTodayCount` -/
def getTodayCount (apiKeyId : JsString) : Gateway Nat := readCounter (.sandboxDaily apiKeyId)

/-- `validateSandboxKey` -/
def validateSandboxKey (apiKeyId : JsString) : Gateway SandboxValidationResult := do
  let apiKey ← call (.apiKeyFindUnique apiKeyId)
  match apiKey with
  | none =>
    return { allowed := false, errorCode := some (js "AUTH_INVALID_KEY"), dailyLimit := 0, remainingToday := 0 }
  | some key =>
    if key.isRevoked then
      return { allowed := false, errorCode := some (js "AUTH_KEY_REVOKED"), dailyLimit := 0, remainingToday := 0 }
    else
      let now ← call .now
      if key.expiresAt.any (· < now) then
        return { allowed := false, errorCode := some (js "SANDBOX_KEY_EXPIRED"), dailyLimit := 0, remainingToday := 0 }
      else
        let today ← getTodayCount apiKeyId
        if key.testDailyLimit - today = 0 then
          return {
            allowed := false
            errorCode := some (js "SANDBOX_LIMIT_EXCEEDED")
            dailyLimit := key.testDailyLimit
            remainingToday := 0 }
        else
          return { allowed := true, dailyLimit := key.testDailyLimit, remainingToday := key.testDailyLimit - today }

/-- The seconds to the next midnight (UTC), rounded up. -/
def secondsToMidnight (now : Millis) : Nat := (86400000 - now % 86400000 + 999) / 1000

/-- Count one more until midnight. -/
def bumpCounter (key : RedisKey) : Gateway Unit := do
  let now ← call .now
  call (.redisIncr key)
  call (.redisExpire key (secondsToMidnight now))

/-- `incrementUsage` -/
def incrementUsage (apiKeyId : JsString) : Gateway Unit := do
  let apiKey ← call (.apiKeyFindUnique apiKeyId)
  if apiKey.any (·.isTestKey) then
    bumpCounter (.sandboxDaily apiKeyId)
  else
    return ()

/-! ### The playground -/

/-- `SandboxService.PLAYGROUND_DAILY_LIMIT` -/
def PLAYGROUND_DAILY_LIMIT : Nat := 25

/-- What `checkPlaygroundLimit` returns. -/
structure PlaygroundLimit where
  allowed : Bool
  remaining : Nat
  dailyLimit : Nat
  deriving DecidableEq, Repr

/-- `getPlaygroundTodayCount` -/
def getPlaygroundTodayCount (apiKeyId : JsString) : Gateway Nat := readCounter (.sandboxPlayground apiKeyId)

/-- `checkPlaygroundLimit` -/
def checkPlaygroundLimit (apiKeyId : JsString) : Gateway PlaygroundLimit := do
  let today ← getPlaygroundTodayCount apiKeyId
  let remaining := PLAYGROUND_DAILY_LIMIT - today
  return { allowed := 0 < remaining, remaining := remaining, dailyLimit := PLAYGROUND_DAILY_LIMIT }

/-- `incrementPlaygroundUsage` -/
def incrementPlaygroundUsage (apiKeyId : JsString) : Gateway Unit := bumpCounter (.sandboxPlayground apiKeyId)

/-- The parameters of `recordSandboxReceipt`. -/
structure SandboxReceiptParams where
  apiKeyId : JsString
  notificationId : Option NotificationId := none
  walletHash : JsString
  subject : Option JsString := none
  status : Option JsString := none
  devnetTx : Option JsString := none
  channel : Option JsString := none
  deriving DecidableEq, Repr

/-- `recordSandboxReceipt` -/
def recordSandboxReceipt (params : SandboxReceiptParams) : Gateway Unit := do
  let now ← call .now
  call (.sandboxReceiptCreate
    { apiKeyId := params.apiKeyId
      notificationId := params.notificationId
      walletHash := params.walletHash
      subject := params.subject
      status := if truthy params.status then params.status.getD [] else js "delivered"
      devnetTx := params.devnetTx
      channel := params.channel
      deliveredAt := now })

/-! ### Devnet -/

/-- `DevnetResolutionResult` -/
structure DevnetResolutionResult where
  resolved : Bool
  channels : DecryptedChannels
  identity : Option IdentityAccount
  deriving DecidableEq, Repr

/-- Nothing was resolved. -/
def DevnetResolutionResult.unresolved : DevnetResolutionResult := ⟨false, {}, none⟩

/-- `resolveDevnetWallet` -/
def resolveDevnetWallet (env : Env) (wallet : JsString) : Gateway DevnetResolutionResult :=
  if env.devnetClient then
    Prog.tryCatch (do
      let identity ← call (.fetchDevnetIdentity wallet)
      match identity with
      | none => return .unresolved
      | some i =>
        let channels ← call (.decryptAllChannels i)
        return ⟨channels.hasAny, channels, some i⟩)
      fun _ => return .unresolved
  else
    return .unresolved

/-- `addTestPrefix` -/
def addTestPrefix (subject : JsString) : JsString := js "[HERALD TEST] " ++ subject

end HeraldGateway
