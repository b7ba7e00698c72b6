import HeraldGateway.Async.Pool
import HeraldGateway.Operations
import HeraldGateway.Text.Encodings

/-!
# API keys

`auth.guard.ts`, `auth.service.ts` and `auth.controller.ts`: a request is authenticated by its API key,
from the cache or from the database. Requests of the administration that need no key are left out.
-/

namespace HeraldGateway

section

open Async

/-- A row of `api_keys`. -/
structure AuthKey where
  id : JsString
  protocolId : JsString
  keyHash : JsString
  environment : JsString
  scopes : List JsString
  isRevoked : Bool
  expiresAt : Option Millis
  isTestKey : Bool
  testKeyType : Option JsString
  deriving DecidableEq, Repr

/-- A row of `protocols` with its settings, as far as authentication looks at it. -/
structure AuthAccount where
  id : JsString
  protocolPubkey : JsString
  nameEncrypted : List UInt8
  customFromName : Option JsString
  tier : Int
  isActive : Bool
  isSuspended : Bool
  sendsThisPeriod : Int
  overageEnabled : Bool
  verificationStatus : JsString
  deriving DecidableEq, Repr

/-- A big integer, or the text that a cached one becomes. -/
inductive MaybeBigInt where
  | bigint (n : Int)
  | text (s : JsString)
  deriving DecidableEq, Repr

/-- What authentication attaches to a request. -/
structure KeyContext where
  protocolId : JsString
  protocolPubkey : JsString
  apiKeyId : JsString
  tier : Int
  scopes : List JsString
  environment : JsString
  isActive : Bool
  sendsThisPeriod : MaybeBigInt
  overageEnabled : Bool
  name : JsString
  isTestKey : Bool
  testKeyType : Option JsString
  verificationStatus : JsString
  deriving DecidableEq, Repr

/-- `n.toString()` for a big integer -/
def bigIntText (n : Int) : JsString := js (toString n)

/-- What is left of a context that was written as JSON and read again. -/
def KeyContext.cached (c : KeyContext) : KeyContext :=
  { c with
    sendsThisPeriod := match c.sendsThisPeriod with
      | .bigint n => .text (bigIntText n)
      | .text s => .text s }

/-- The stores that authentication looks at. -/
structure AuthStore where
  now : Millis
  keys : List AuthKey
  accounts : List AuthAccount
  /-- The entries `auth:key:<hash>`. -/
  cache : JsString → Option (Timed KeyContext)
  /-- The hash `auth:last_used`. -/
  lastUsed : JsString → Option Millis

/-- The operations of authentication. -/
inductive AuthOp where
  | now
  | cacheGet (keyHash : JsString)
  | cacheSetex (keyHash : JsString) (seconds : Nat) (context : KeyContext)
  | cacheDel (keyHash : JsString)
  | findKey (keyHash : JsString)
  | lastUsedSet (apiKeyId : JsString) (at_ : Millis)

/-- What they give. -/
def AuthOp.Res : AuthOp → Type
  | now => Millis
  | cacheGet _ => Option KeyContext
  | findKey _ => Option (AuthKey × AuthAccount)
  | cacheSetex .. | cacheDel _ | lastUsedSet .. => Unit

/-- The calls of authentication. -/
abbrev AuthCalls : Signature := ⟨AuthOp, AuthOp.Res⟩

/-- A function of authentication. -/
abbrev Auth (α : Type) := Prog AuthCalls Err α

/-- Make a call. -/
def AuthOp.call (o : AuthOp) : Auth o.Res := @Prog.perform AuthCalls Err o

namespace AuthStore

/-- `apiKey.findFirst` of a key that is not revoked, with its protocol. -/
def findKey (s : AuthStore) (keyHash : JsString) : Option (AuthKey × AuthAccount) := do
  let key ← s.keys.find? fun k => k.keyHash == keyHash && !k.isRevoked
  let account ← s.accounts.find? (·.id == key.protocolId)
  return (key, account)

/-- A call that is answered. -/
def serve (s : AuthStore) : (o : AuthOp) → Except Err o.Res × AuthStore
  | .now => (.ok s.now, s)
  | .cacheGet h => (.ok (Timed.live s.now (s.cache h)), s)
  | .cacheSetex h seconds context => (.ok (), { s with
      cache := fun h' => if h' = h then some ⟨context, s.now + 1000 * seconds⟩ else s.cache h' })
  | .cacheDel h => (.ok (), { s with cache := fun h' => if h' = h then none else s.cache h' })
  | .findKey h => (.ok (s.findKey h), s)
  | .lastUsedSet id time =>
    (.ok (), { s with lastUsed := fun id' => if id' = id then some time else s.lastUsed id' })

/-- A call under a fault. The clock does not fail. -/
def handle : Handler AuthCalls Err AuthStore Fault := fun f s o =>
  match o with
  | .now => s.serve .now
  | o => f.meet s (s.serve o)

end AuthStore

/-! ### Authentication -/

/-- What authentication computes from configuration. -/
structure AuthEnv where
  /-- `hashKey` -/
  hashKey : JsString → JsString
  /-- `decryptProtocolName` -/
  decryptProtocolName : List UInt8 → JsString

/-- `CACHE_TTL_SECONDS` -/
def CACHE_TTL_SECONDS : Nat := 300

/-- A letter of base 58. -/
def isBase58 (u : UInt16) : Bool :=
  (49 ≤ u && u ≤ 57) || (65 ≤ u && u ≤ 72) || (74 ≤ u && u ≤ 78) || (80 ≤ u && u ≤ 90) ||
    (97 ≤ u && u ≤ 107) || (109 ≤ u && u ≤ 122)

/-- `isValidKeyFormat`: `/^hrld_(live|test)_[1-9A-HJ-NP-Za-km-z]{30,60}$/` -/
def isValidKeyFormat (key : JsString) : Bool :=
  (key.take 10 == js "hrld_live_" || key.take 10 == js "hrld_test_") &&
    let suffix := key.drop 10
    30 ≤ suffix.length && suffix.length ≤ 60 && suffix.all isBase58

variable (env : AuthEnv)

/-- The context of a key. -/
def keyContext (key : AuthKey) (account : AuthAccount) : KeyContext where
  protocolId := account.id
  protocolPubkey := account.protocolPubkey
  apiKeyId := key.id
  tier := account.tier
  scopes := key.scopes
  environment := key.environment
  isActive := account.isActive
  sendsThisPeriod := .bigint account.sendsThisPeriod
  overageEnabled := account.overageEnabled
  name := if truthy account.customFromName then account.customFromName.getD []
    else env.decryptProtocolName account.nameEncrypted
  isTestKey := key.isTestKey
  testKeyType := if truthy key.testKeyType then key.testKeyType else none
  verificationStatus := account.verificationStatus

/-- Refuse a test key that has expired. The expiry of other keys is not looked at. -/
def checkExpiry (key : AuthKey) : Auth Unit :=
  match key.expiresAt with
  | some expiresAt =>
    if key.isTestKey then do
      let now : Millis ← AuthOp.now.call
      if now > expiresAt then .throw (.http 401 (js "SANDBOX_KEY_EXPIRED")) else return ()
    else return ()
  | none => return ()

/-- Cache the context of a key and note that it was used. -/
def rememberKey (keyHash : JsString) (context : KeyContext) : Auth Unit := do
  let _ ← (AuthOp.cacheSetex keyHash CACHE_TTL_SECONDS context.cached).call.settle
  let now ← AuthOp.now.call
  let _ ← (AuthOp.lastUsedSet context.apiKeyId now).call.settle
  return ()

/-- Look a key up in the database. -/
def lookUpKey (keyHash : JsString) : Auth (Option KeyContext) := do
  match ← (AuthOp.findKey keyHash).call with
  | none => return none
  | some (key, account) =>
    if account.isSuspended then .throw (.http 401 (js "AUTH_ACCOUNT_SUSPENDED"))
    else if !account.isActive then .throw (.http 401 (js "AUTH_ACCOUNT_INACTIVE"))
    else
      checkExpiry key
      rememberKey keyHash (keyContext env key account)
      return some (keyContext env key account)

/-- `validateApiKey` -/
def validateApiKey (plainTextKey : JsString) : Auth (Option KeyContext) :=
  if !isValidKeyFormat plainTextKey then return none
  else do
    match ← (AuthOp.cacheGet (env.hashKey plainTextKey)).call.settle with
    | .ok (some context) => return some context
    | _ => lookUpKey env (env.hashKey plainTextKey)

/-- The key in an `Authorization` header. -/
def bearerKey (header : Option JsString) : Option JsString :=
  match header with
  | some header => if js "Bearer " <+: header then some (header.drop 7) else none
  | none => none

/-- `AuthGuard.canActivate` -/
def authGuard (header : Option JsString) : Auth KeyContext :=
  match bearerKey header with
  | none => .throw (.http 401 (js "AUTH_INVALID_KEY"))
  | some key => do
    match ← validateApiKey env key with
    | none => .throw (.http 401 (js "AUTH_INVALID_KEY"))
    | some context => return context

/-! ### Runs -/

/-- What authentication is asked to do. -/
inductive AuthTask where
  | authenticate (header : Option JsString)
  /-- `DELETE internal/auth/cache/:keyHash` -/
  | invalidateCache (keyHash : JsString)
  deriving DecidableEq, Repr

/-- The program of a task. -/
def AuthTask.code : AuthTask → Auth (Option KeyContext)
  | authenticate header => do
    let context ← authGuard env header
    return some context
  | invalidateCache keyHash => do
    (AuthOp.cacheDel keyHash).call
    return none

/-- What happens to the stores between the calls. -/
inductive AuthChange where
  /-- Time passes. -/
  | tick (ms : Nat)
  /-- Keys are created, revoked and given expiries, and protocols activated or suspended. -/
  | configure (keys : List AuthKey) (accounts : List AuthAccount)

/-- A change of the stores. -/
def AuthChange.apply (s : AuthStore) : AuthChange → AuthStore
  | tick ms => { s with now := s.now + ms }
  | configure keys accounts => { s with keys := keys, accounts := accounts }

/-- Any number of requests over the stores of authentication. -/
def authentication : System AuthCalls Err (Option KeyContext) AuthTask AuthStore Fault AuthChange where
  handler := AuthStore.handle
  code task _ := task.code env
  outside e s := some (e.apply s)

/-- A pool of requests. -/
abbrev AuthPool := Pool AuthCalls Err (Option KeyContext) AuthTask AuthStore Fault

/-- A request that runs, or has run. -/
abbrev AuthThread := Thread AuthCalls Err (Option KeyContext) AuthTask AuthStore Fault

/-- A call that was answered. -/
abbrev AuthEvent := Event AuthCalls Err AuthStore Fault

/-- A step of a pool. -/
abbrev AuthLabel := Label AuthTask Fault AuthChange

end

/-!
## Issuing keys

`generateApiKey` of `auth.service.ts` and `createTestKey` of `sandbox.service.ts`: thirty-two random bytes
become the text of a key. The limit of test keys per address, and the columns of a row that do not come from
the key, are left out.
-/

section

open Text

/-- `randomBytes(32)` -/
abbrev KeyBytes := { b : List UInt8 // b.length = 32 }

/-- `GeneratedApiKey` -/
structure GeneratedApiKey where
  plainText : JsString
  hash : JsString
  keyPrefix : JsString
  deriving DecidableEq, Repr

variable (hashKey : JsString → JsString)

/-- A text as a key, with its hash and its first letters. -/
def GeneratedApiKey.ofText (plainText : JsString) : GeneratedApiKey :=
  ⟨plainText, hashKey plainText, plainText.take 16⟩

/-- `generateApiKey` -/
def generateApiKey (environment : Environment) (random : KeyBytes) : GeneratedApiKey :=
  let env := if environment = .production then js "live" else js "test"
  .ofText hashKey (js "hrld_" ++ env ++ js "_" ++ Base58.encode random.1)

/-- The columns that `createTestKey` makes from the key. -/
structure TestKeyColumns where
  keyHash : JsString
  keyPrefix : JsString
  environment : JsString
  isTestKey : Bool
  isRevoked : Bool
  deriving DecidableEq, Repr

/-- The text of the key of `createTestKey`. -/
def testKeyText (random : KeyBytes) : JsString := js "hrld_test_" ++ Base58.encode random.1

/-- `createTestKey`, as far as the key goes -/
def createTestKey (random : KeyBytes) : TestKeyColumns where
  keyHash := hashKey (testKeyText random)
  keyPrefix := (testKeyText random).take 16
  environment := js "sandbox"
  isTestKey := true
  isRevoked := false

/-- A key that is issued. -/
inductive IssuedKey where
  | apiKey (environment : Environment) (random : KeyBytes)
  | testKey (random : KeyBytes)

namespace IssuedKey

/-- The text of a key. -/
def plainText : IssuedKey → JsString
  | apiKey environment random => (generateApiKey hashKey environment random).plainText
  | testKey random => testKeyText random

/-- The hash that is stored for it. -/
def storedHash : IssuedKey → JsString
  | apiKey environment random => (generateApiKey hashKey environment random).hash
  | testKey random => (createTestKey hashKey random).keyHash

/-- Where a key is for. -/
def environment : IssuedKey → Environment
  | apiKey environment _ => environment
  | testKey _ => .sandbox

/-- The bytes it was made of. -/
def random : IssuedKey → KeyBytes
  | apiKey _ random => random
  | testKey random => random

end IssuedKey

end

end HeraldGateway
