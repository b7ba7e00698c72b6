import HeraldGateway.Operations

/-!
# Unsubscribing

`unsubscribe.service.ts`: a signed token names a wallet and a category, and executing it turns off the
wallet's opt-in flag in the portal.
-/

namespace HeraldGateway

open Async

variable (env : Env)

/-- What `validateAndExecute` answers. -/
structure UnsubscribeResult where
  success : Bool
  payload : Option JsonPayload := none
  error : Option JsString := none
  deriving DecidableEq, Repr

/-- A token that was refused. -/
def UnsubscribeResult.refused (error : String) : UnsubscribeResult where
  success := false
  error := some (js error)

/-! ### Tokens -/

/-- `tokenTtlSeconds` -/
def tokenTtlSeconds : Nat := 7 * 24 * 60 * 60

/-- `generateToken`. Storing the token is not waited for. -/
def generateToken (walletHash : JsString) (category protocolId : Option JsString) : Gateway JsString := do
  let now ← call .now
  let payload := env.encodePayload {
    walletHash := walletHash
    category := category
    protocolId := protocolId
    expiresAt := now / 1000 + tokenTtlSeconds }
  let token := payload ++ js "." ++ env.unsubscribeSign payload
  swallow (call (.unsubscribeTokenCreate (env.tokenHash token)))
  return token

/-- `payload.expiresAt < seconds`, unless it throws. -/
def JsonPayload.expired (payload : JsonPayload) (seconds : Nat) : Option Bool :=
  match payload with
  | .null => none
  | .value _ _ _ expiresAt => expiresAt.map (·.lessThan seconds)

/-- What that throws. -/
def JsonPayload.typeError : JsonPayload → Err
  | .null => .error (js "Cannot read properties of null")
  | .value .. => .error (js "Cannot convert object to primitive value")

/-- `decodeToken` -/
def decodeToken (token : JsString) : Gateway (Option JsonPayload) :=
  match splitOn 46 token with
  | [payloadStr, signature] =>
    if env.base64url signature = env.base64url (env.unsubscribeSign payloadStr) then
      match env.decodePayload payloadStr with
      | none => return none
      | some payload => do
        let now ← call .now
        match payload.expired (now / 1000) with
        | some false => return some payload
        | some true | none => return none
    else return none
  | _ => return none

/-! ### Executing -/

/-- Turn off an opt-in flag of a portal user. -/
def optOut (walletHash : JsString) (clear : PortalUser → PortalUser) : Gateway Unit := do
  let now ← call .now
  call (.portalUserUpdate walletHash fun u => { clear u with updatedAt := now })

/-- Turn off the flag of a category, if it has one. -/
def optOutCategory (walletHash : JsString) (category : JsValue) : Gateway Unit :=
  if category = .string (js "defi") then optOut walletHash fun u => { u with optInDefi := false }
  else if category = .string (js "governance") then optOut walletHash
    fun u => { u with optInGovernance := false }
  else if category = .string (js "marketing") then optOut walletHash
    fun u => { u with optInMarketing := false }
  else return ()

/-- Turn off the flag that a category stands for, of the portal user of a wallet, if there is one. -/
def unsubscribeWallet (walletHash : JsString) (category : JsValue) : Gateway Unit := do
  match ← call (.portalUserFindUnique walletHash) with
  | none => return ()
  | some _ =>
    if !category.truthy || category == .string (js "all") then
      optOut walletHash fun u => { u with optInAll := false }
    else
      optOutCategory walletHash category

/-- `executeUnsubscribe`. The database client wants a string to look a user up by. -/
def executeUnsubscribe (payload : JsonPayload) : Gateway Unit :=
  match payload with
  | .value (.string walletHash) category _ _ => unsubscribeWallet walletHash category
  | _ => .throw (.error (js "Invalid value for argument walletHash"))

/-- Mark the token as used, if it is stored. -/
def useToken (tokenHash : JsString) (existing : Option UnsubscribeTokenRow) : Gateway Unit :=
  if existing.isSome then do
    let now ← call .now
    call (.unsubscribeTokenUpdate tokenHash now)
  else
    return ()

/-- Execute the payload of a token that has not expired. -/
def executeToken (token : JsString) (payload : JsonPayload) : Gateway UnsubscribeResult := do
  let existing ← call (.unsubscribeTokenFindUnique (env.tokenHash token))
  if existing.any (·.usedAt.isSome) then
    return .refused "Token already used"
  else
    executeUnsubscribe payload
    useToken (env.tokenHash token) existing
    return { success := true, payload := some payload }

/-- Execute the payload of a token that verifies, unless it has expired. -/
def executeUnexpired (token : JsString) (payload : JsonPayload) : Gateway UnsubscribeResult := do
  let now ← call .now
  match payload.expired (now / 1000) with
  | some true => return .refused "Token expired"
  | some false => executeToken env token payload
  | none => .throw payload.typeError

/-- `validateAndExecute` -/
def validateAndExecute (token : JsString) : Gateway UnsubscribeResult :=
  match splitOn 46 token with
  | [payloadStr, signature] =>
    if env.base64url signature = env.base64url (env.unsubscribeSign payloadStr) then
      match env.decodePayload payloadStr with
      | none => return .refused "Invalid payload"
      | some payload => executeUnexpired env token payload
    else return .refused "Invalid signature"
  | _ => return .refused "Invalid token format"

end HeraldGateway
