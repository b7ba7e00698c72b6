import HeraldGateway.Text.Proofs.EncodingsProofs
import HeraldGateway.Webhooks.Delivery

/-!
# Webhooks, proved
-/

namespace HeraldGateway

/-!
## Encrypted secrets do not fit their column

Encryption, detection and decryption fit together. But a secret in base 58 has at least as many letters as
bytes, so what is stored of it has more than twice as many, and the column has 64.
-/

section

open Text

variable {G : Gcm} {config : WebhookConfig} {random iv : List UInt8} {plaintext stored : JsString}

/-- What is stored of a secret. -/
theorem encrypt_eq_ok (h : encryptWebhookSecret G config iv plaintext = .ok stored) :
    ∃ key, getKey config = .ok key ∧ stored = Hex.encode iv ++ 46 ::
      (Hex.encode (G.encrypt key iv (asciiBytes plaintext)).1 ++ 46 ::
        Hex.encode (G.encrypt key iv (asciiBytes plaintext)).2) := by
  unfold encryptWebhookSecret at h
  cases hkey : getKey config with
  | error err =>
    rw [hkey] at h
    cases h
  | ok key =>
    rw [hkey] at h
    refine ⟨key, rfl, (Except.ok.inj h).symm.trans ?_⟩
    simp only [List.append_assoc]
    rfl

/-- How long it is. -/
theorem length_of_encrypt (hG : G.Sound) (h : encryptWebhookSecret G config iv plaintext = .ok stored) :
    stored.length = 2 * iv.length + 2 * plaintext.length + 34 := by
  obtain ⟨key, -, rfl⟩ := encrypt_eq_ok h
  simp only [List.length_append, List.length_cons, Hex.length_encode, hG.ciphertext_length, hG.tag_length]
  rw [asciiBytes, List.length_map]
  omega

/-- It is recognised, where the initialisation vector has 12 bytes. -/
theorem isEncrypted_of_encrypt (hiv : iv.length = 12)
    (h : encryptWebhookSecret G config iv plaintext = .ok stored) :
    isEncrypted stored = true := by
  obtain ⟨key, -, rfl⟩ := encrypt_eq_ok h
  unfold isEncrypted
  rw [splitOn_append (Hex.dot_not_mem_encode _), splitOn_append (Hex.dot_not_mem_encode _),
    splitOn_of_not_mem (Hex.dot_not_mem_encode _)]
  dsimp only
  rw [Hex.length_encode, hiv]
  rfl

/-- It is decrypted to the secret. -/
theorem decrypt_of_encrypt (hG : G.Sound) (hascii : ∀ u ∈ plaintext, u < 128)
    (h : encryptWebhookSecret G config iv plaintext = .ok stored) :
    decryptWebhookSecret G config stored = .ok plaintext := by
  obtain ⟨key, hkey, rfl⟩ := encrypt_eq_ok h
  unfold decryptWebhookSecret
  rw [hkey, splitOn_append (Hex.dot_not_mem_encode _), splitOn_append (Hex.dot_not_mem_encode _),
    splitOn_of_not_mem (Hex.dot_not_mem_encode _)]
  change decryptedText (G.decrypt key (Hex.decode (Hex.encode iv)) (Hex.decode (Hex.encode _))
    (Hex.decode (Hex.encode _))) = _
  rw [Hex.decode_encode, Hex.decode_encode, Hex.decode_encode, hG.decrypt_encrypt]
  exact congrArg Except.ok (ascii_bytes hascii)

/-- The database rejects what is to be stored of a secret of 32 bytes. -/
theorem create_rejected {shown : JsString} (hG : G.Sound) (hrandom : random.length = 32) :
    createSecret G config random iv ≠ .ok (stored, shown) := by
  intro hcreate
  have hletters := Base58.length_le random
  unfold createSecret at hcreate
  cases henc : encryptWebhookSecret G config iv (Base58.encode random) with
  | error err =>
    simp only [henc] at hcreate
    cases hcreate
  | ok encrypted =>
    have hlen := length_of_encrypt hG henc
    have hlong : ¬ encrypted.length ≤ secretHashWidth := by
      unfold secretHashWidth
      omega
    simp only [henc] at hcreate
    change (if encrypted.length ≤ secretHashWidth then _ else _) = _ at hcreate
    rw [if_neg hlong] at hcreate
    cases hcreate

/-- No secret survives, since none is stored. -/
theorem no_secret_survives (hG : G.Sound) (hrandom : random.length = 32) :
    ¬ SecretSurvives G config random iv := by
  rintro ⟨stored, shown, hcreate, -⟩
  exact create_rejected hG hrandom hcreate

/-- But for the width of the column, every secret would survive. -/
theorem secret_recovered (hG : G.Sound) (hiv : iv.length = 12)
    (h : encryptWebhookSecret G config iv (Base58.encode random) = .ok stored) :
    isEncrypted stored = true ∧ signingSecret G config stored = .ok (Base58.encode random) := by
  have hrec := isEncrypted_of_encrypt hiv h
  refine ⟨hrec, ?_⟩
  rw [signingSecret, if_pos hrec]
  exact decrypt_of_encrypt hG Base58.encode_lt h

/-! ### A secret -/

/-- Encryption that leaves the plaintext as it is. -/
def Gcm.plain : Gcm where
  encrypt _ _ plaintext := (plaintext, List.replicate 16 0)
  decrypt _ _ ciphertext tag := if tag = List.replicate 16 0 then some ciphertext else none

theorem plain_sound : Gcm.plain.Sound where
  decrypt_encrypt _ _ _ := by
    unfold Gcm.plain
    dsimp only
    rw [if_pos rfl]
  ciphertext_length _ _ _ := rfl
  tag_length _ _ _ := rfl

/-- A development environment without a key. -/
def devConfig : WebhookConfig := ⟨none, false⟩

theorem no_secret_survives_plain :
    ¬ SecretSurvives Gcm.plain devConfig (List.replicate 32 7) (List.replicate 12 9) :=
  no_secret_survives plain_sound rfl

/-- The database rejects even the shortest secret. -/
theorem first_secret_rejected :
    ¬ SecretSurvives Gcm.plain devConfig (List.replicate 32 0) (List.replicate 12 0) := by
  rintro ⟨stored, shown, hcreate, -⟩
  exact create_rejected plain_sound rfl hcreate

end

/-!
## Where webhooks connect to

The check resolves the host once and its answer is not handed on, so a delivery is safe exactly if everything
the client resolves by itself comes to the same address.
-/

section

variable {env : WebhookEnv} {job : WebhookJobData} {row : Option WebhookRow} {net : Network} {now : Nat}

/-- The check passes the address of the lookup, or fails. -/
theorem checkedAddress_cases (hlocal : env.allowLocal = false) :
    (∃ address, net.lookup = some address ∧ checkedRange env address = some (js "unicast") ∧
      checkedAddress env net = .ok (some address)) ∨ ∃ e, checkedAddress env net = .error e := by
  unfold checkedAddress
  rw [if_neg (by rw [hlocal]; decide)]
  cases hlookup : net.lookup with
  | none => exact .inr ⟨_, rfl⟩
  | some address =>
    dsimp only
    by_cases hrange : checkedRange env address = some (js "unicast")
    · exact .inl ⟨address, rfl, hrange, if_pos hrange⟩
    · exact .inr ⟨_, if_neg hrange⟩

/-- The request is made after the check of one address. -/
theorem processWebhook_of_reaches (hlocal : env.allowLocal = false) (h : ReachesRequest env job row net) :
    ∃ address, net.lookup = some address ∧ (processWebhook env job row net now).checked = [address] ∧
      (processWebhook env job row net now).connections = connections net.exchanges := by
  obtain ⟨r, rfl, hactive, hcount, ⟨secret, hsecret⟩, hurl, address, hlookup, hrange⟩ := h
  have hcheck : checkedAddress env net = .ok (some address) := by
    rw [checkedAddress, if_neg (by rw [hlocal]; decide), hlookup]
    exact if_pos hrange
  have hnone : (env.hostname job.url).isNone = false := by rw [← Option.not_isSome, hurl]; rfl
  have hsend : processWebhook env job (some r) net now = sendWebhook env job r net now secret [address] := by
    simp only [processWebhook, hactive, ge_iff_le, Nat.not_le.2 hcount, hsecret, hcheck, hnone, Bool.not_true,
      Bool.false_eq_true, if_false, Option.toList_some]
  exact ⟨address, hlookup, by rw [hsend]; rfl, by rw [hsend]; rfl⟩

/-- A delivery that does not come to its request connects to nothing. -/
theorem connections_of_not_reaches (hlocal : env.allowLocal = false) (h : ¬ReachesRequest env job row net) :
    (processWebhook env job row net now).connections = [] := by
  unfold processWebhook
  cases row with
  | none => rfl
  | some r =>
    dsimp only
    by_cases hactive : r.isActive = true
    · rw [if_neg (by rw [hactive]; decide)]
      by_cases hcount : r.failureCount ≥ env.autoDisableThreshold
      · rw [if_pos hcount]
      · rw [if_neg hcount]
        cases hsecret : signingSecret env.gcm env.config job.secret with
        | error e => rfl
        | ok secret =>
          dsimp only
          by_cases hurl : (env.hostname job.url).isNone = true
          · rw [if_pos hurl]
          · rw [if_neg hurl]
            obtain ⟨address, hlookup, hrange, -⟩ | ⟨e, hcheck⟩ := @checkedAddress_cases _ net hlocal
            · have hsome : (env.hostname job.url).isSome = true := by
                rwa [← Option.not_isNone, Bool.not_eq_true', ← Bool.not_eq_true]
              exact absurd ⟨r, rfl, hactive, Nat.not_le.1 hcount, ⟨secret, hsecret⟩, hsome, address, hlookup, hrange⟩ h
            · rw [hcheck]
    · have hfalse : (!r.isActive) = true := by rwa [Bool.not_eq_true', ← Bool.not_eq_true]
      rw [if_pos hfalse]

/-- A worker without webhooks that are local, for which one address is unicast. -/
def publicOnly : WebhookEnv where
  gcm :=
    { encrypt := fun _ _ plaintext => (plaintext, []), decrypt := fun _ _ ciphertext _ => some ciphertext }
  config := { encryptionKey := none, production := false }
  allowLocal := false
  autoDisableThreshold := 10
  hostname _ := some (js "hooks.acme.io")
  range address := some (if address = js "93.184.216.34" then js "unicast" else js "linkLocal")
  mappedRange _ := js "unicast"
  hmac _ text := text

end

end HeraldGateway
