import HeraldGateway.Text.Encodings
import HeraldGateway.Types

/-!
# Webhooks

The secret of a webhook, and a delivery to it.
-/

namespace HeraldGateway

/-!
## Webhook secrets

`webhook-crypto.ts` with the `create` of the webhook controller and the worker's use of the secret: a random
secret is shown to its owner once, stored encrypted, and decrypted to sign deliveries.
-/

section

open Text

/-- AES-256-GCM. -/
structure Gcm where
  /-- The ciphertext and the tag of a plaintext, under a key and an initialisation vector. -/
  encrypt : List UInt8 → List UInt8 → List UInt8 → List UInt8 × List UInt8
  /-- The plaintext, unless the tag does not fit. -/
  decrypt : List UInt8 → List UInt8 → List UInt8 → List UInt8 → Option (List UInt8)

/-- Decryption undoes encryption, a ciphertext is as long as its plaintext, and a tag has 16 bytes. -/
structure Gcm.Sound (G : Gcm) : Prop where
  decrypt_encrypt : ∀ key iv plaintext,
    G.decrypt key iv (G.encrypt key iv plaintext).1 (G.encrypt key iv plaintext).2 = some plaintext
  ciphertext_length : ∀ key iv plaintext, (G.encrypt key iv plaintext).1.length = plaintext.length
  tag_length : ∀ key iv plaintext, (G.encrypt key iv plaintext).2.length = 16

/-- The process environment of `getKey`. -/
structure WebhookConfig where
  /-- `WEBHOOK_ENCRYPTION_KEY` -/
  encryptionKey : Option JsString
  /-- `NODE_ENV === 'production'` -/
  production : Bool

/-- `getKey` -/
def getKey (config : WebhookConfig) : Except Err (List UInt8) :=
  if truthy config.encryptionKey then
    let key := Hex.decode (config.encryptionKey.getD [])
    if key.length = 32 then .ok key
    else .error (.error (js "WEBHOOK_ENCRYPTION_KEY must be a 64-char hex string (32 bytes)"))
  else if config.production then .error (.error (js "WEBHOOK_ENCRYPTION_KEY must be set in production"))
  else .ok (List.replicate 32 0)

/-- The bytes of a string of ASCII. -/
def asciiBytes (s : JsString) : List UInt8 := s.map (·.toUInt8)

/-- `encryptWebhookSecret` with a given initialisation vector. -/
def encryptWebhookSecret (G : Gcm) (config : WebhookConfig) (iv : List UInt8) (plaintext : JsString) :
    Except Err JsString := do
  let key ← getKey config
  let (encrypted, tag) := G.encrypt key iv (asciiBytes plaintext)
  return Hex.encode iv ++ js "." ++ Hex.encode encrypted ++ js "." ++ Hex.encode tag

/-- The text of a plaintext, if the tag fits. -/
def decryptedText : Option (List UInt8) → Except Err JsString
  | some plaintext => .ok (plaintext.map (·.toUInt16))
  | none => .error (.error (js "Unsupported state or unable to authenticate data"))

/-- `decryptWebhookSecret` -/
def decryptWebhookSecret (G : Gcm) (config : WebhookConfig) (ciphertext : JsString) : Except Err JsString :=
  do
  let key ← getKey config
  match splitOn 46 ciphertext with
  | [ivHex, encHex, tagHex] =>
    decryptedText (G.decrypt key (Hex.decode ivHex) (Hex.decode encHex) (Hex.decode tagHex))
  | _ => throw (.error (js "Invalid webhook secret ciphertext format"))

/-- `isEncrypted` -/
def isEncrypted (value : JsString) : Bool :=
  match splitOn 46 value with
  | [iv, _, _] => iv.length == 24
  | _ => false

/-- The secret that the worker signs with. -/
def signingSecret (G : Gcm) (config : WebhookConfig) (secret : JsString) : Except Err JsString :=
  if isEncrypted secret then decryptWebhookSecret G config secret else .ok secret

/-- `secretHash String @map("secret_hash") @db.VarChar(64)` -/
def secretHashWidth : Nat := 64

/-- What `create` stores for some random bytes, and what it shows. The database rejects a value that is too
long for its column. -/
def createSecret (G : Gcm) (config : WebhookConfig) (random iv : List UInt8) :
    Except Err (JsString × JsString) := do
  let secret := Base58.encode random
  let encryptedSecret ← encryptWebhookSecret G config iv secret
  if encryptedSecret.length ≤ secretHashWidth then return (encryptedSecret, secret)
  else throw (.error (js "The provided value for the column is too long for the column's type"))

/-- A secret is stored, recognised, and decrypted to what was shown to its owner. -/
def SecretSurvives (G : Gcm) (config : WebhookConfig) (random iv : List UInt8) : Prop :=
  ∃ stored shown, createSecret G config random iv = .ok (stored, shown) ∧ stored.length ≤ secretHashWidth ∧
    isEncrypted stored = true ∧ decryptWebhookSecret G config stored = .ok shown ∧
      signingSecret G config stored = .ok shown

end

/-!
## Webhook deliveries

`webhook.worker.ts`: a delivery looks the host up and checks the range of its address, then leaves it to the
HTTP client to resolve the host again, to connect, and to follow redirects.
-/

/-- The surroundings of the worker. -/
structure WebhookEnv where
  gcm : Gcm
  config : WebhookConfig
  /-- `ALLOW_LOCAL_WEBHOOKS` -/
  allowLocal : Bool
  autoDisableThreshold : Nat
  /-- `new URL(url).hostname`, unless it is no URL. -/
  hostname : JsString → Option JsString
  /-- `ipaddr.parse(address).range()`, unless it is no address. -/
  range : JsString → Option JsString
  /-- The range of the address that an IPv6 address maps. -/
  mappedRange : JsString → JsString
  /-- The HMAC of a text under a secret, in hexadecimal. -/
  hmac : JsString → JsString → JsString

/-- What the worker reads of a webhook. -/
structure WebhookRow where
  isActive : Bool
  failureCount : Nat
  deriving DecidableEq, Repr

/-- `WebhookPayload` with its JSON text. -/
structure WebhookPayload where
  eventId : JsString
  eventType : JsString
  bodyString : JsString
  notificationId : Option JsString
  deriving DecidableEq, Repr

/-- `WebhookJobData` -/
structure WebhookJobData where
  webhookId : JsString
  url : JsString
  secret : JsString
  payload : WebhookPayload
  attemptsMade : Nat := 0
  deriving DecidableEq, Repr

/-! ### The network -/

/-- What a server answers to a request. -/
inductive HttpAnswer where
  | final (status : Nat)
  | redirect
  | failed
  deriving DecidableEq, Repr

/-- One request of the HTTP client: the address that it resolves the host to, which may fail, and the
answer. -/
structure Exchange where
  address : Option JsString
  answer : HttpAnswer
  deriving DecidableEq, Repr

/-- What the network does during a delivery: the answer to the lookup of the check, and the requests of the
client, each but the first one to where the answer before redirects. -/
structure Network where
  lookup : Option JsString
  exchanges : List Exchange
  deriving DecidableEq, Repr

/-- How many redirects the HTTP client follows. -/
def maxRedirects : Nat := 21

/-- The requests that the client makes. -/
def followed : Nat → List Exchange → List Exchange
  | _, [] => []
  | redirects, e :: es =>
    match e.address, e.answer, redirects with
    | some _, .redirect, redirects + 1 => e :: followed redirects es
    | _, _, _ => [e]

/-- The addresses that the client connects to. -/
def connections (exchanges : List Exchange) : List JsString :=
  (followed maxRedirects exchanges).filterMap (·.address)

/-- The status that the client answers with, unless the request fails. -/
def finalStatus (exchanges : List Exchange) : Option Nat :=
  match (followed maxRedirects exchanges).getLast? with
  | some ⟨some _, .final status⟩ => some status
  | _ => none

/-! ### Delivery -/

/-- The range that is checked: that of the address, or of the address that it maps. -/
def checkedRange (env : WebhookEnv) (address : JsString) : Option JsString :=
  (env.range address).map fun range => if range = js "ipv4Mapped" then env.mappedRange address else range

/-- The address that passes the check, if local webhooks are disallowed. -/
def checkedAddress (env : WebhookEnv) (net : Network) : Except Err (Option JsString) :=
  if env.allowLocal then .ok none
  else
    match net.lookup with
    | none => .error (.error (js "SSRF_BLOCKED"))
    | some address =>
      if checkedRange env address = some (js "unicast") then .ok (some address)
      else .error (.error (js "SSRF_BLOCKED"))

/-- A request of the worker. -/
structure DeliveryRequest where
  url : JsString
  body : JsString
  signature : JsString
  timestamp : JsString
  event : JsString
  delivery : JsString
  deriving DecidableEq, Repr

/-- A row of `webhook_deliveries`. -/
structure WebhookDelivery where
  webhookId : JsString
  event : JsString
  httpStatus : Option Nat
  attempt : Nat
  success : Bool
  notificationId : Option JsString
  deriving DecidableEq, Repr

/-- What a delivery does. -/
structure WebhookEffects where
  /-- The addresses whose range was found to be unicast. -/
  checked : List JsString := []
  /-- The request, and the addresses that were connected to. -/
  request : Option DeliveryRequest := none
  connections : List JsString := []
  recorded : Option WebhookDelivery := none
  /-- The webhook, where it is changed. -/
  row : Option WebhookRow := none
  /-- What the job throws. -/
  error : Option Err := none
  deriving DecidableEq, Repr

/-- The signed request. -/
def webhookRequest (env : WebhookEnv) (job : WebhookJobData) (plaintextSecret : JsString) (now : Nat) :
    DeliveryRequest :=
  let timestamp := decimal (now / 1000)
  { url := job.url
    body := job.payload.bodyString
    signature := env.hmac plaintextSecret (timestamp ++ js "." ++ job.payload.bodyString)
    timestamp := timestamp
    event := job.payload.eventType
    delivery := job.payload.eventId }

/-- Send the request and record what came of it. -/
def sendWebhook (env : WebhookEnv) (job : WebhookJobData) (row : WebhookRow) (net : Network) (now : Nat)
    (plaintextSecret : JsString) (checked : List JsString) : WebhookEffects :=
  let httpStatus := finalStatus net.exchanges
  let success := httpStatus.any fun status => 200 ≤ status && status < 300
  { checked := checked
    request := some (webhookRequest env job plaintextSecret now)
    connections := connections net.exchanges
    recorded := some {
      webhookId := job.webhookId
      event := job.payload.eventType
      httpStatus := httpStatus
      attempt := job.attemptsMade + 1
      success := success
      notificationId := job.payload.notificationId }
    row := some { row with failureCount := if success then 0 else row.failureCount + 1 }
    error := if success then none else some (.error (js "Request failed")) }

/-- `process` -/
def processWebhook (env : WebhookEnv) (job : WebhookJobData) (row : Option WebhookRow) (net : Network)
    (now : Nat) :
    WebhookEffects :=
  match row with
  | none => {}
  | some row =>
    if !row.isActive then {}
    else if row.failureCount ≥ env.autoDisableThreshold then { row := some { row with isActive := false } }
    else
      match signingSecret env.gcm env.config job.secret with
      | .error e => { error := some e }
      | .ok plaintextSecret =>
        if (env.hostname job.url).isNone then {}
        else
          match checkedAddress env net with
          | .error e => { error := some e }
          | .ok checked => sendWebhook env job row net now plaintextSecret checked.toList

/-- Each connection goes to an address that was checked to be unicast. -/
def WebhookEffects.ConnectsChecked (effects : WebhookEffects) : Prop :=
  ∀ address ∈ effects.connections, address ∈ effects.checked

instance (effects : WebhookEffects) : Decidable effects.ConnectsChecked := by
  unfold WebhookEffects.ConnectsChecked; infer_instance

/-- The delivery comes to its request: the webhook is active and not failing, its secret can be read, its URL
is one, and the address of the lookup is unicast. -/
def ReachesRequest (env : WebhookEnv) (job : WebhookJobData) (row : Option WebhookRow)
    (net : Network) : Prop :=
  ∃ r, row = some r ∧ r.isActive = true ∧ r.failureCount < env.autoDisableThreshold ∧
    (∃ secret, signingSecret env.gcm env.config job.secret = .ok secret) ∧
      (env.hostname job.url).isSome = true ∧
    ∃ address, net.lookup = some address ∧ checkedRange env address = some (js "unicast")

end HeraldGateway
