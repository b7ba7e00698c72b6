import HeraldGateway.MailWorker
import HeraldGateway.Text.Encodings
import HeraldGateway.Text.Json

/-!
# The identity cache

`routing.service.ts` stores the identity of a wallet in Redis as JSON text, its byte arrays in base64, and
reads it back on a hit. What a hit gives should be what the chain gave.
-/

namespace HeraldGateway

open Text Text.Json

/-- `IdentityAccount` with all its fields; those of the notification key hold values of type `κ`. -/
structure Identity (κ : Type) where
  owner : JsString
  encryptedEmail : List UInt8
  emailHash : List UInt8
  nonce : List UInt8
  registeredAt : Int
  optInAll : Bool
  optInDefi : Bool
  optInGovernance : Bool
  optInMarketing : Bool
  digestMode : Bool
  channelEmail : Bool
  channelTelegram : Bool
  channelSms : Bool
  encryptedTelegramId : List UInt8
  telegramIdHash : List UInt8
  nonceTelegram : List UInt8
  encryptedPhone : List UInt8
  phoneHash : List UInt8
  nonceSms : List UInt8
  sealedX25519Pubkey : κ
  senderX25519Pubkey : κ
  notificationNonce : κ
  notificationKeyVersion : Int
  notificationKeyUpdatedAt : Int
  notificationKeyRotationCount : Int
  deriving DecidableEq, Repr

/-- What a field that is declared as a byte array may hold. -/
inductive Held where
  /-- A `Uint8Array`. -/
  | array (bytes : List UInt8)
  /-- A value that came out of `JSON.parse`. -/
  | plain (v : Value)
  deriving DecidableEq, Repr

/-- What `fetchIdentityAccount` returns: all byte arrays are there, if need be empty. -/
abbrev ChainIdentity := Identity (List UInt8)

/-- An identity of the chain, as its consumers see it. -/
def ChainIdentity.held (i : ChainIdentity) : Identity Held :=
  { i with
    sealedX25519Pubkey := .array i.sealedX25519Pubkey
    senderX25519Pubkey := .array i.senderX25519Pubkey
    notificationNonce := .array i.notificationNonce }

/-- A byte array, if the field holds one. Of other values no consumer finds a `length`. -/
def Held.array? : Held → Option (List UInt8)
  | array bytes => some bytes
  | plain _ => none

/-- What the gateway's functions read of an identity. -/
def Identity.account (i : Identity Held) : IdentityAccount where
  owner := i.owner
  encryptedEmail := i.encryptedEmail
  emailHash := i.emailHash
  nonce := i.nonce
  registeredAt := i.registeredAt.toNat
  optInAll := i.optInAll
  optInDefi := i.optInDefi
  optInGovernance := i.optInGovernance
  optInMarketing := i.optInMarketing
  digestMode := i.digestMode
  channelEmail := i.channelEmail
  channelTelegram := i.channelTelegram
  channelSms := i.channelSms
  encryptedTelegramId := i.encryptedTelegramId
  telegramIdHash := i.telegramIdHash
  nonceTelegram := i.nonceTelegram
  encryptedPhone := i.encryptedPhone
  phoneHash := i.phoneHash
  nonceSms := i.nonceSms
  senderX25519Pubkey := i.senderX25519Pubkey.array?

/-! ### Serialization -/

/-- What `JSON.stringify` makes of a `Uint8Array`: an object with the indices as properties. -/
def indexed (bytes : List UInt8) : Value :=
  .object (.ofList (bytes.zipIdx.map fun b => (decimal b.2, .number b.1.toNat)))

/-- `Buffer.from(bytes).toString('base64')` -/
def base64 (bytes : List UInt8) : Value := .string (Base64url.encodeStandard bytes)

/-- The properties of what `serializeForCache` returns, as `JSON.stringify` sees them. -/
def cachedProperties (i : ChainIdentity) : List (JsString × Value) := [
  (js "owner", .string i.owner),
  (js "encryptedEmail", base64 i.encryptedEmail),
  (js "emailHash", base64 i.emailHash),
  (js "nonce", base64 i.nonce),
  (js "registeredAt", .number i.registeredAt),
  (js "optInAll", .bool i.optInAll),
  (js "optInDefi", .bool i.optInDefi),
  (js "optInGovernance", .bool i.optInGovernance),
  (js "optInMarketing", .bool i.optInMarketing),
  (js "digestMode", .bool i.digestMode),
  (js "channelEmail", .bool i.channelEmail),
  (js "channelTelegram", .bool i.channelTelegram),
  (js "channelSms", .bool i.channelSms),
  (js "encryptedTelegramId", base64 i.encryptedTelegramId),
  (js "telegramIdHash", base64 i.telegramIdHash),
  (js "nonceTelegram", base64 i.nonceTelegram),
  (js "encryptedPhone", base64 i.encryptedPhone),
  (js "phoneHash", base64 i.phoneHash),
  (js "nonceSms", base64 i.nonceSms),
  (js "sealedX25519Pubkey", indexed i.sealedX25519Pubkey),
  (js "senderX25519Pubkey", indexed i.senderX25519Pubkey),
  (js "notificationNonce", indexed i.notificationNonce),
  (js "notificationKeyVersion", .number i.notificationKeyVersion),
  (js "notificationKeyUpdatedAt", .number i.notificationKeyUpdatedAt),
  (js "notificationKeyRotationCount", .number i.notificationKeyRotationCount)]

/-- `serializeForCache` -/
def serializeForCache (i : ChainIdentity) : Value := .object (.ofList (cachedProperties i))

/-- A property that is a string. -/
def stringAt (parsed : Entries) (name : String) : Option JsString :=
  match parsed.get? (js name) with
  | some (.string s) => some s
  | _ => none

/-- A property that is a number. -/
def numberAt (parsed : Entries) (name : String) : Option Int :=
  match parsed.get? (js name) with
  | some (.number n) => some n
  | _ => none

/-- A property that is a flag. -/
def flagAt (parsed : Entries) (name : String) : Option Bool :=
  match parsed.get? (js name) with
  | some (.bool b) => some b
  | _ => none

/-- `new Uint8Array(Buffer.from(parsed.name, 'base64'))` -/
def bytesAt (parsed : Entries) (name : String) : Option (List UInt8) :=
  (stringAt parsed name).map Base64url.decode

/-- `deserializeCached`: the byte arrays are decoded, the other properties are taken as they are. An entry
that lacks a property or has it with another type is not modelled. -/
def deserializeEntries (parsed : Entries) : Option (Identity Held) := do
  return {
    owner := ← stringAt parsed "owner"
    encryptedEmail := ← bytesAt parsed "encryptedEmail"
    emailHash := ← bytesAt parsed "emailHash"
    nonce := ← bytesAt parsed "nonce"
    registeredAt := ← numberAt parsed "registeredAt"
    optInAll := ← flagAt parsed "optInAll"
    optInDefi := ← flagAt parsed "optInDefi"
    optInGovernance := ← flagAt parsed "optInGovernance"
    optInMarketing := ← flagAt parsed "optInMarketing"
    digestMode := ← flagAt parsed "digestMode"
    channelEmail := ← flagAt parsed "channelEmail"
    channelTelegram := ← flagAt parsed "channelTelegram"
    channelSms := ← flagAt parsed "channelSms"
    encryptedTelegramId := ← bytesAt parsed "encryptedTelegramId"
    telegramIdHash := ← bytesAt parsed "telegramIdHash"
    nonceTelegram := ← bytesAt parsed "nonceTelegram"
    encryptedPhone := ← bytesAt parsed "encryptedPhone"
    phoneHash := ← bytesAt parsed "phoneHash"
    nonceSms := ← bytesAt parsed "nonceSms"
    sealedX25519Pubkey := .plain (← parsed.get? (js "sealedX25519Pubkey"))
    senderX25519Pubkey := .plain (← parsed.get? (js "senderX25519Pubkey"))
    notificationNonce := .plain (← parsed.get? (js "notificationNonce"))
    notificationKeyVersion := ← numberAt parsed "notificationKeyVersion"
    notificationKeyUpdatedAt := ← numberAt parsed "notificationKeyUpdatedAt"
    notificationKeyRotationCount := ← numberAt parsed "notificationKeyRotationCount" }

/-- What is read on a hit after an identity was cached. -/
def cachedCopy (i : ChainIdentity) : Option (Identity Held) :=
  match parse (serializeForCache i).text with
  | some (.object parsed) => deserializeEntries parsed
  | _ => none

/-- A hit is as good as a miss: it gives the identity itself, of which as much is decrypted and for whom
bodies are encrypted as well. -/
structure CacheTransparent (env : Env) (i : ChainIdentity) : Prop where
  equal : cachedCopy i = some i.held
  contacts : ∀ j ∈ cachedCopy i, env.decryptAllChannels j.account = env.decryptAllChannels i.held.account
  bodies : ∀ j ∈ cachedCopy i, ∀ job, encryptedBody env job j.account = encryptedBody env job i.held.account

end HeraldGateway
