import HeraldGateway.Identity.Cache
import HeraldGateway.Operations
import HeraldGateway.Text.Encodings

/-!
# The enclave without the enclave

Contacts that are decrypted with a private key at hand, and the two ways to a notification key.
-/

namespace HeraldGateway

/-!
## Direct decryption of contacts

`enclave.service.ts` with a private key at hand: the contacts on chain are NaCl boxes, alone behind their
sender's key, or for the gateway and the user behind a magic prefix. The gateway tells the two formats
apart by that prefix.
-/

abbrev Bytes := List UInt8

/-- A key of 32 bytes. -/
abbrev Key := { k : Bytes // k.length = 32 }

/-- A nonce of 24 bytes. -/
abbrev Nonce := { n : Bytes // n.length = 24 }

/-- The functions of `tweetnacl` that encrypt. -/
structure Nacl where
  /-- `nacl.box.keyPair.fromSecretKey(secretKey).publicKey` -/
  publicKey : Key → Key
  /-- `nacl.box(message, nonce, theirPublicKey, mySecretKey)` -/
  box : Bytes → Nonce → Key → Key → Bytes
  /-- `nacl.box.open(box, nonce, theirPublicKey, mySecretKey)`, for keys and a nonce of the right size -/
  boxOpen : Bytes → Nonce → Key → Key → Option Bytes

/-- A box is opened by its recipient, and is 16 bytes longer than what it opens to. -/
structure Nacl.Sound (N : Nacl) : Prop where
  open_box : ∀ message nonce mine theirs,
    N.boxOpen (N.box message nonce (N.publicKey theirs) mine) nonce (N.publicKey mine) theirs = some message
  box_length : ∀ message nonce theirs mine, (N.box message nonce theirs mine).length = message.length + 16
  open_length : ∀ box nonce theirs mine message,
    N.boxOpen box nonce theirs mine = some message → box.length = message.length + 16

/-- `nacl.box.open`, which throws at keys and nonces of a wrong size. -/
def Nacl.open (N : Nacl) (box nonce publicKey : Bytes) (secretKey : Key) : Except Err (Option Bytes) :=
  if hk : publicKey.length = 32 then
    if hn : nonce.length = 24 then .ok (N.boxOpen box ⟨nonce, hn⟩ ⟨publicKey, hk⟩ secretKey)
    else .error (.error (js "bad nonce size"))
  else .error (.error (js "bad public key size"))

/-- `decodeUTF8` of `tweetnacl-util`: the bytes of a text. -/
def decodeUTF8 (text : String) : Bytes := text.toByteArray.data.toList

/-- `encodeUTF8` of `tweetnacl-util`: the text of some bytes. -/
def encodeUTF8 (bytes : Bytes) : Except Err String :=
  match String.fromUTF8? ⟨bytes.toArray⟩ with
  | some text => .ok text
  | none => .error (.error (js "URI malformed"))

/-- `bytes.slice(start, start + length)` -/
def slice (bytes : Bytes) (start length : Nat) : Bytes := (bytes.drop start).take length

/-- `new RoutingUnavailableException()` -/
def routingUnavailable : Err := .http 503 (js "ROUTING_UNAVAILABLE")

/-- The text of an opened box. -/
def openedText : Option Bytes → Except Err String
  | some decrypted => encodeUTF8 decrypted
  | none => .error routingUnavailable

/-- `directNaclBoxDecrypt` -/
def directNaclBoxDecrypt (N : Nacl) (directPrivKey : Option Key) (encryptedBlob nonce : Bytes) :
    Except Err String :=
  match directPrivKey with
  | none => .error routingUnavailable
  | some secretKey =>
    if encryptedBlob[0]? = some 0xAA ∧ encryptedBlob[1]? = some 0xBB then
      let ephemeralPubkey := slice encryptedBlob 2 32
      let len := ((encryptedBlob[34]?.getD 0).toNat <<< 8) ||| (encryptedBlob[35]?.getD 0).toNat
      let gatewayCiphertext := slice encryptedBlob 36 len
      (N.open gatewayCiphertext nonce ephemeralPubkey secretKey).bind openedText
    else if encryptedBlob.length ≥ 33 then
      (N.open (encryptedBlob.drop 32) nonce (encryptedBlob.take 32) secretKey).bind openedText
    else
      .error routingUnavailable

/-- A deployment that decrypts contacts in process. -/
def Env.direct (env : Env) (N : Nacl) (secretKey : Key) : Env :=
  { env with
    decrypt := fun blob nonce => (directNaclBoxDecrypt N (some secretKey) blob nonce).toOption.map js }

/-! ### The formats -/

/-- The legacy format: a sender's key and a box for the gateway. -/
def legacyBlob (N : Nacl) (ephemeral gatewayKey : Key) (nonce : Nonce) (text : String) : Bytes :=
  (N.publicKey ephemeral).val ++ N.box (decodeUTF8 text) nonce gatewayKey ephemeral

/-- Two bytes, the high one first. -/
def uint16 (n : Nat) : Bytes := [UInt8.ofNat (n / 256), UInt8.ofNat (n % 256)]

/-- The dual format: magic, a sender's key, the length of a box, a box for the gateway, another sender's key
and a box for the user. -/
def dualBlob (N : Nacl) (ephemeral1 ephemeral2 gatewayKey userKey : Key) (nonce : Nonce) (text : String) :
    Bytes :=
  let gatewayCipher := N.box (decodeUTF8 text) nonce gatewayKey ephemeral1
  let userCipher := N.box (decodeUTF8 text) nonce userKey ephemeral2
  [0xAA, 0xBB] ++ (N.publicKey ephemeral1).val ++ uint16 gatewayCipher.length ++ gatewayCipher ++
    (N.publicKey ephemeral2).val ++ userCipher

/-- Both formats of a text are undone, the dual one where the length of a box fits its field. -/
structure UndoesBoth (N : Nacl) (secretKey ephemeral : Key) (nonce : Nonce) (text : String) : Prop where
  legacy : directNaclBoxDecrypt N (some secretKey)
    (legacyBlob N ephemeral (N.publicKey secretKey) nonce text) nonce = .ok text
  dual : ∀ ephemeral2 userKey, (decodeUTF8 text).length + 16 < 2 ^ 16 →
    directNaclBoxDecrypt N (some secretKey)
      (dualBlob N ephemeral ephemeral2 (N.publicKey secretKey) userKey nonce text) nonce = .ok text

/-- Encryption in which everybody's keys are the same and a box is its text behind a tag of both keys. -/
def Nacl.tagging : Nacl where
  publicKey := id
  box message _ theirs mine := (List.zipWith (· ^^^ ·) theirs.val mine.val).take 16 ++ message
  boxOpen box _ theirs mine :=
    if box.length ≥ 16 ∧ box.take 16 = (List.zipWith (· ^^^ ·) theirs.val mine.val).take 16 then
      some (box.drop 16)
    else none

/-- A key of two given bytes and zeros. -/
def keyFrom (a b : UInt8) : Key := ⟨a :: b :: List.replicate 30 0, rfl⟩

/-!
## The two notification-key paths

Whether a user has a notification key is decided twice. The mail worker encrypts a body with the
`enclave.service.ts` of the routing module, for the key in the sender's field of the identity. The one of the
enclave module unseals the key from the sealed field. Each of the two loads the gateway's key for itself.
-/

section

open Text Text.Json

/-! ### The gateway's keys -/

/-- The configuration that the two services read, and what KMS decrypts. -/
structure KeyConfig where
  /-- `HERALD_X25519_PRIV_HEX` -/
  plainHex : Option JsString
  /-- `AWS_KMS_KEY_ID` -/
  kmsKeyId : Option JsString
  /-- `HERALD_X25519_PRIV_CIPHERTEXT` -/
  encryptedHex : Option JsString
  /-- The `Plaintext` that KMS answers for a key and a ciphertext, unless it fails. -/
  kmsDecrypt : JsString → Bytes → Option Bytes

/-- Bytes as a key, if there are 32 of them. -/
def keyOf? (bytes : Bytes) : Option Key := if h : bytes.length = 32 then some ⟨bytes, h⟩ else none

/-- `loadDirectKey` of the routing module. -/
def KeyConfig.loadDirectKey (config : KeyConfig) : Option Key :=
  if truthy config.plainHex then keyOf? (Hex.decode (config.plainHex.getD [])) else none

/-- `onModuleInit` of the enclave module: the key of KMS goes first, even where KMS fails. -/
def KeyConfig.onModuleInit (config : KeyConfig) : Option Key :=
  if truthy config.kmsKeyId && truthy config.encryptedHex then
    (config.kmsDecrypt (config.kmsKeyId.getD []) (Hex.decode (config.encryptedHex.getD []))).bind keyOf?
  else if truthy config.plainHex then keyOf? (Hex.decode (config.plainHex.getD []))
  else none

/-! ### The worker's path -/

/-- `EncryptedPayload`, in hexadecimal. -/
structure EncryptedPayload where
  ciphertext : JsString
  nonce : JsString
  gatewayPubkey : JsString
  deriving DecidableEq, Repr

/-- `encryptForUser`, with the nonce that is drawn for it. -/
def encryptForUser (N : Nacl) (directPrivKey : Option Key) (nonce : Nonce) (userX25519PubkeyHex : JsString)
    (body : Value) : Option EncryptedPayload :=
  match directPrivKey, keyOf? (Hex.decode userX25519PubkeyHex) with
  | some secretKey, some userPubkey => some {
      ciphertext := Hex.encode (N.box (Utf8.encode body.text) nonce userPubkey secretKey)
      nonce := Hex.encode nonce.val
      gatewayPubkey := Hex.encode (N.publicKey secretKey).val }
  | _, _ => none

/-- The object that the worker has encrypted; it has no `actionUrl` where there is none. -/
def portalBody (subject message : JsString) (actionUrl : Option JsString) : Value :=
  .object (.ofList ([(js "subject", .string subject), (js "message", .string message)] ++
    actionUrl.toList.map fun url => (js "actionUrl", .string url)))

/-- A deployment whose worker encrypts with a key that was loaded. -/
def Env.encrypting (env : Env) (N : Nacl) (directPrivKey : Option Key) (nonce : Nonce) : Env :=
  { env with
    encryptForUser := fun key subject message actionUrl =>
      (HeraldGateway.encryptForUser N directPrivKey nonce (Hex.encode key)
        (portalBody subject message actionUrl)).map fun e => (e.ciphertext, e.nonce) }

/-- The identity a worker goes on with: on a hit it is the copy in the cache. -/
def ChainIdentity.resolved (i : ChainIdentity) (hit : Bool) : Identity Held :=
  if hit then (cachedCopy i).getD i.held else i.held

/-- An update stores a ciphertext for the portal. -/
def NotificationUpdate.Stores (u : NotificationUpdate) (ciphertext nonce : JsString) : Prop :=
  u.ciphertext = some (some ciphertext) ∧ u.nonce = some (some nonce)

/-! ### The enclave module's path -/

/-- `unsealRecipientKey`, for the identity that is fetched. -/
def unsealRecipientKey (N : Nacl) (enclaveKeypair : Option Key) (identity : Option ChainIdentity) :
    Except Err (Option Bytes) :=
  match enclaveKeypair, identity with
  | some secretKey, some identity =>
    if identity.sealedX25519Pubkey.all (· == 0) then .ok none
    else N.open identity.sealedX25519Pubkey identity.notificationNonce identity.senderX25519Pubkey secretKey
  | _, _ => .ok none

/-! ### Agreement -/

/-- What was delivered: subject, body and action link of a job. -/
def NotificationJobData.delivered (job : NotificationJobData) : Value :=
  let actionUrl := (job.templateVariables.getD []).lookup (js "action_url")
  portalBody job.subject job.body (if truthy actionUrl then actionUrl else none)

/-- The value whose text is in an opened box. -/
def readBody : Except Err (Option Bytes) → Option Value
  | .ok (some bytes) => (Utf8.decode? bytes).bind parse
  | _ => none

/-- The two paths agree on an identity, when the worker records a delivery with `u`: a ciphertext is stored
if and only if a key is unsealed, and whoever has that key opens the ciphertext to what was delivered. -/
structure PathsAgree (N : Nacl) (config : KeyConfig) (i : ChainIdentity) (job : NotificationJobData)
    (u : NotificationUpdate) : Prop where
  together : (∃ ciphertext nonce, u.Stores ciphertext nonce) ↔
    ∃ key, unsealRecipientKey N config.onModuleInit (some i) = .ok (some key)
  opened : ∀ ciphertext nonce key, u.Stores ciphertext nonce →
    unsealRecipientKey N config.onModuleInit (some i) = .ok (some key) →
    ∀ gateway ∈ config.loadDirectKey,
      readBody (N.open (Hex.decode ciphertext) (Hex.decode nonce) key gateway) = some job.delivered
  openedByUser : ∀ ciphertext nonce key, u.Stores ciphertext nonce →
    unsealRecipientKey N config.onModuleInit (some i) = .ok (some key) →
    ∀ gateway ∈ config.loadDirectKey, ∀ user : Key, (N.publicKey user).val = key →
      readBody (N.open (Hex.decode ciphertext) (Hex.decode nonce) (N.publicKey gateway).val user) =
        some job.delivered

/-- Boxes are sealed with a key that both sides share, `nacl.box.before`: a box opens to a message if it is
the box of that message, and two boxes are different if their shared keys are. -/
structure Nacl.Keyed (N : Nacl) (before : Key → Key → Key) : Prop where
  before_comm : ∀ mine theirs, before (N.publicKey theirs) mine = before (N.publicKey mine) theirs
  open_iff : ∀ {box nonce theirs mine message},
    N.boxOpen box nonce theirs mine = some message ↔ box = N.box message nonce theirs mine
  box_congr : ∀ {theirs mine theirs' mine'} message nonce, before theirs mine = before theirs' mine' →
    N.box message nonce theirs mine = N.box message nonce theirs' mine'
  box_inj : ∀ {theirs mine theirs' mine' message message' nonce},
    N.box message nonce theirs mine = N.box message' nonce theirs' mine' →
    before theirs mine = before theirs' mine'

/-- The key that two sides share in `Nacl.tagging`: the tag of their boxes, and zeros. -/
def taggingBefore (theirs mine : Key) : Key :=
  ⟨(List.zipWith (· ^^^ ·) theirs.val mine.val).take 16 ++ List.replicate 16 0, by
    simp [theirs.property, mine.property]⟩

/-- The worker has what it takes to encrypt: a loaded key, and an identity from the chain with the sender's
key. -/
def Encrypts (config : KeyConfig) (i : ChainIdentity) (hit : Bool) (gateway sender : Key) : Prop :=
  config.loadDirectKey = some gateway ∧ hit = false ∧ i.senderX25519Pubkey = sender.val

/-- The sealed field holds a key: it is not just zeros, and a box of the key, from the sender to the key that
the enclave module loaded. -/
def Seals (N : Nacl) (config : KeyConfig) (i : ChainIdentity) (key : Bytes) : Prop :=
  ∃ (enclave sender : Key) (nonce : Nonce), config.onModuleInit = some enclave ∧
    i.senderX25519Pubkey = sender.val ∧ i.notificationNonce = nonce.val ∧
    i.sealedX25519Pubkey = N.box key nonce sender enclave ∧ ∃ b ∈ i.sealedX25519Pubkey, b ≠ 0

/-- Where the worker encrypts, the sealed field holds a key that shares with the gateway what the sender's
key does. Where it does not, the sealed field holds none. -/
structure KeysMatch (N : Nacl) (before : Key → Key → Key) (config : KeyConfig) (i : ChainIdentity)
    (hit : Bool) : Prop where
  keyed : ∀ gateway sender, Encrypts config i hit gateway sender →
    ∃ key : Key, Seals N config i key.val ∧ before key gateway = before sender gateway
  keyless : (∀ gateway sender, ¬ Encrypts config i hit gateway sender) → ∀ key, ¬ Seals N config i key

end

end HeraldGateway
