import HeraldGateway.Identity.Cache
import HeraldGateway.Operations
import HeraldGateway.Text.Proofs.EncodingsProofs
import HeraldGateway.Text.Proofs.JsonProofs

/-!
# What survives the cache

Every field but the three of the notification key comes back as it was. Those come back as plain objects,
which have no length.
-/

namespace HeraldGateway

open Text Text.Json

variable {env : Env} {i : ChainIdentity}

/-- Every property is found that was serialized. -/
theorem get?_cached {n : Nat} {name : JsString} {v : Value} (h : (cachedProperties i)[n]? = some (name, v)) :
    (Entries.ofList (cachedProperties i)).get? name = some v := by
  have hnodup : ((cachedProperties i).map Prod.fst).Nodup := by
    unfold cachedProperties
    simp only [List.map_cons, List.map_nil]
    decide +kernel
  exact Entries.get?_ofList hnodup (List.mem_of_getElem? h)

theorem stringAt_cached {n : Nat} {name : String} {s : JsString}
    (h : (cachedProperties i)[n]? = some (js name, .string s)) :
    stringAt (.ofList (cachedProperties i)) name = some s := by
  rw [stringAt, get?_cached h]

theorem numberAt_cached {n : Nat} {name : String} {k : Int}
    (h : (cachedProperties i)[n]? = some (js name, .number k)) :
    numberAt (.ofList (cachedProperties i)) name = some k := by
  rw [numberAt, get?_cached h]

theorem flagAt_cached {n : Nat} {name : String} {b : Bool}
    (h : (cachedProperties i)[n]? = some (js name, .bool b)) :
    flagAt (.ofList (cachedProperties i)) name = some b := by
  rw [flagAt, get?_cached h]

/-- Bytes come back from base64. -/
theorem bytesAt_cached {n : Nat} {name : String} {bytes : List UInt8}
    (h : (cachedProperties i)[n]? = some (js name, base64 bytes)) :
    bytesAt (.ofList (cachedProperties i)) name = some bytes := by
  rw [bytesAt, stringAt_cached h, Option.map_some, Base64url.decode_encodeStandard]

/-- What is read on a hit. -/
theorem cachedCopy_eq (i : ChainIdentity) : cachedCopy i = some { i.held with
    sealedX25519Pubkey := .plain (indexed i.sealedX25519Pubkey)
    senderX25519Pubkey := .plain (indexed i.senderX25519Pubkey)
    notificationNonce := .plain (indexed i.notificationNonce) } := by
  unfold cachedCopy
  rw [parse_text]
  change deserializeEntries (.ofList (cachedProperties i)) = _
  unfold deserializeEntries
  rw [stringAt_cached (n := 0) rfl, bytesAt_cached (n := 1) rfl, bytesAt_cached (n := 2) rfl,
    bytesAt_cached (n := 3) rfl, numberAt_cached (n := 4) rfl, flagAt_cached (n := 5) rfl,
    flagAt_cached (n := 6) rfl, flagAt_cached (n := 7) rfl, flagAt_cached (n := 8) rfl,
    flagAt_cached (n := 9) rfl, flagAt_cached (n := 10) rfl, flagAt_cached (n := 11) rfl,
    flagAt_cached (n := 12) rfl, bytesAt_cached (n := 13) rfl, bytesAt_cached (n := 14) rfl,
    bytesAt_cached (n := 15) rfl, bytesAt_cached (n := 16) rfl, bytesAt_cached (n := 17) rfl,
    bytesAt_cached (n := 18) rfl, get?_cached (n := 19) rfl, get?_cached (n := 20) rfl,
    get?_cached (n := 21) rfl, numberAt_cached (n := 22) rfl, numberAt_cached (n := 23) rfl,
    numberAt_cached (n := 24) rfl]
  rfl

/-- To the gateway's functions a hit looks as they model it: the sender's key is gone. -/
theorem account_of_cachedCopy : ∀ j ∈ cachedCopy i, j.account = deserializeCached i.held.account := by
  rw [cachedCopy_eq]
  rintro _ ⟨⟩
  rfl

/-- On a hit as much is decrypted as on a miss. -/
theorem contacts_of_cachedCopy :
    ∀ j ∈ cachedCopy i, env.decryptAllChannels j.account = env.decryptAllChannels i.held.account := by
  intro j hj
  rw [account_of_cachedCopy j hj]
  rfl

/-- On a hit no body is encrypted for the portal, whoever registered a key. -/
theorem bodies_of_cachedCopy {job : NotificationJobData} :
    ∀ j ∈ cachedCopy i, encryptedBody env job j.account = none := by
  intro j hj
  rw [account_of_cachedCopy j hj]
  rfl

/-- Whatever the identity is, a hit gives another one: the byte arrays of the notification key, even where
they are empty, come back as plain objects. -/
theorem cache_not_transparent (env : Env) (i : ChainIdentity) : ¬ CacheTransparent env i := by
  intro h
  have hequal := h.equal
  rw [cachedCopy_eq] at hequal
  have hsealed := congrArg Identity.sealedX25519Pubkey (Option.some.inj hequal)
  cases hsealed

/-! ### A user with a notification key -/

/-- The recipient's identity with a notification key. -/
def keyedIdentity : ChainIdentity where
  owner := js "w"
  encryptedEmail := recipient.encryptedEmail
  emailHash := []
  nonce := []
  registeredAt := 0
  optInAll := true
  optInDefi := true
  optInGovernance := true
  optInMarketing := true
  digestMode := false
  channelEmail := true
  channelTelegram := false
  channelSms := false
  encryptedTelegramId := []
  telegramIdHash := []
  nonceTelegram := []
  encryptedPhone := []
  phoneHash := []
  nonceSms := []
  sealedX25519Pubkey := List.replicate 48 1
  senderX25519Pubkey := List.replicate 32 2
  notificationNonce := List.replicate 24 3
  notificationKeyVersion := 1
  notificationKeyUpdatedAt := 0
  notificationKeyRotationCount := 0

/-- A job for its wallet. -/
def keyedJob : NotificationJobData where
  notificationId := .uuid 0
  protocolId := js "p"
  protocolPubkey := js "pk"
  protocolName := js "P"
  wallet := js "w"
  subject := js "Margin"
  body := js "Add collateral."
  category := js "defi"
  writeReceipt := false
  digestMode := false

/-- Its user is shown the body of a notification after a miss, and after a hit is not. -/
theorem body_lost_on_hit : ¬ CacheTransparent Env.transparent keyedIdentity := by
  intro h
  obtain ⟨j, hj⟩ : ∃ j, j ∈ cachedCopy keyedIdentity := ⟨_, cachedCopy_eq keyedIdentity⟩
  have hbody := h.bodies j hj keyedJob
  rw [bodies_of_cachedCopy j hj] at hbody
  cases hbody

end HeraldGateway
