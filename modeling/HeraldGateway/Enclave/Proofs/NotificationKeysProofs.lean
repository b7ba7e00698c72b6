import HeraldGateway.Enclave.NotificationKeys
import HeraldGateway.Identity.Proofs.CacheProofs
import HeraldGateway.Text.Proofs.EncodingsProofs

/-!
# The enclave without the enclave, proved
-/

namespace HeraldGateway

/-!
## Direct decryption undoes both formats unless a key looks like the magic prefix

A dual blob is cut where it was put together. A legacy blob is cut behind its first 32 bytes, unless the
sender's key begins with the magic prefix: then the blob is cut as a dual one, and what is left for the
gateway's box is too short to be a box of the text.
-/

section

variable {N : Nacl} {secretKey ephemeral ephemeral2 gatewayKey userKey : Key} {nonce : Nonce} {text : String}

/-! ### Text -/

/-- The bytes that are read as a text are those of the text. -/
theorem encodeUTF8_eq_ok {bytes : Bytes} : encodeUTF8 bytes = .ok text ↔ bytes = decodeUTF8 text := by
  unfold encodeUTF8 decodeUTF8 String.fromUTF8?
  refine ⟨fun h => ?_, ?_⟩
  · split at h
    · next t ht =>
      split at ht
      · next hvalid =>
        obtain rfl := Except.ok.inj h
        obtain rfl := Option.some.inj ht
        rfl
      · cases ht
    · cases h
  · rintro rfl
    rw [Array.toArray_toList, dif_pos text.isValidUTF8]
    rfl

/-! ### Cutting blobs -/

theorem open_of_sizes (c : Bytes) (k : Key) :
    N.open c nonce.val k.val secretKey = .ok (N.boxOpen c nonce k secretKey) := by
  unfold Nacl.open
  rw [dif_pos k.property, dif_pos nonce.property]

/-- A length that fits its field is read as it was written. -/
theorem uint16_read {n : Nat} (h : n < 2 ^ 16) :
    ((UInt8.ofNat (n / 256)).toNat <<< 8) ||| (UInt8.ofNat (n % 256)).toNat = n := by
  have hhigh : (UInt8.ofNat (n / 256)).toNat = n / 256 := Nat.mod_eq_of_lt (by omega)
  have hlow : (UInt8.ofNat (n % 256)).toNat = n % 256 := Nat.mod_eq_of_lt (by omega)
  rw [hhigh, hlow, ← Nat.shiftLeft_add_eq_or_of_lt (Nat.mod_lt _ (by decide)), Nat.shiftLeft_eq]
  omega

/-- A blob behind the magic prefix is cut into a key, a length and a box of that length. -/
theorem decrypt_magic {eph rest : Bytes} {high low : UInt8} (heph : eph.length = 32) :
    directNaclBoxDecrypt N (some secretKey) ([0xAA, 0xBB] ++ (eph ++ ([high, low] ++ rest))) nonce.val =
      (N.open (rest.take ((high.toNat <<< 8) ||| low.toNat)) nonce.val eph secretKey).bind openedText := by
  have hkey : slice ([0xAA, 0xBB] ++ (eph ++ ([high, low] ++ rest))) 2 32 = eph := by
    rw [← heph]
    exact List.take_left
  have hfield : ∀ i < 2, ([0xAA, 0xBB] ++ (eph ++ ([high, low] ++ rest)))[34 + i]? =
      ([high, low] ++ rest)[i]? := by
    intro i hi
    rw [List.getElem?_append_right (Nat.le_add_right_of_le (by decide)),
      List.getElem?_append_right (by simp; omega), heph]
    exact congrArg (fun n => ([high, low] ++ rest)[n]?) (by simp; omega)
  have hbox : ∀ n, slice ([0xAA, 0xBB] ++ (eph ++ ([high, low] ++ rest))) 36 n = rest.take n := by
    intro n
    have hdrop : List.drop 34 (eph ++ ([high, low] ++ rest)) = rest := by
      rw [← List.append_assoc]
      exact List.drop_left' (by simp [heph])
    exact congrArg (List.take n) hdrop
  unfold directNaclBoxDecrypt
  dsimp only
  rw [if_pos ⟨rfl, rfl⟩, hkey, hbox]
  rw [show ([0xAA, 0xBB] ++ (eph ++ ([high, low] ++ rest)))[34]? = some high from hfield 0 (by decide),
    show ([0xAA, 0xBB] ++ (eph ++ ([high, low] ++ rest)))[35]? = some low from hfield 1 (by decide)]
  rfl

/-- A dual blob is undone. -/
theorem decrypt_dualBlob (hN : N.Sound) (hfits : (decodeUTF8 text).length + 16 < 2 ^ 16) :
    directNaclBoxDecrypt N (some secretKey)
      (dualBlob N ephemeral ephemeral2 (N.publicKey secretKey) userKey nonce text) nonce = .ok text := by
  have hfits' := (hN.box_length (decodeUTF8 text) nonce (N.publicKey secretKey) ephemeral).trans_lt hfits
  unfold dualBlob uint16
  simp only [List.append_assoc]
  rw [decrypt_magic (N.publicKey ephemeral).property, uint16_read hfits', List.take_left, open_of_sizes,
    hN.open_box]
  exact encodeUTF8_eq_ok.2 rfl

/-- A legacy blob is undone whose key does not look like the magic prefix. -/
theorem decrypt_legacyBlob (hN : N.Sound) (hkey : ¬ [0xAA, 0xBB] <+: (N.publicKey ephemeral).val) :
    directNaclBoxDecrypt N (some secretKey)
      (legacyBlob N ephemeral (N.publicKey secretKey) nonce text) nonce = .ok text := by
  have heph := (N.publicKey ephemeral).property
  have hbox := hN.box_length (decodeUTF8 text) nonce (N.publicKey secretKey) ephemeral
  have hopen := hN.open_box (decodeUTF8 text) nonce ephemeral secretKey
  unfold legacyBlob directNaclBoxDecrypt
  generalize N.box (decodeUTF8 text) nonce (N.publicKey secretKey) ephemeral = c at hbox hopen
  dsimp only
  have hmagic : ¬ (((N.publicKey ephemeral).val ++ c)[0]? = some 0xAA ∧
      ((N.publicKey ephemeral).val ++ c)[1]? = some 0xBB) := by
    rw [List.getElem?_append_left (by omega), List.getElem?_append_left (by omega)]
    rintro ⟨h0, h1⟩
    refine hkey (List.prefix_iff_getElem?.2 fun i hi => ?_)
    match i, hi with
    | 0, _ => exact h0
    | 1, _ => exact h1
  rw [if_neg hmagic, if_pos (by rw [List.length_append, heph, hbox]; omega), List.drop_left' heph,
    List.take_left' heph, open_of_sizes, hopen]
  exact encodeUTF8_eq_ok.2 rfl

/-- A legacy blob whose key looks like the magic prefix is not undone: the box that is cut out of it is
too short. -/
theorem not_decrypt_legacyBlob (hN : N.Sound) (hkey : [0xAA, 0xBB] <+: (N.publicKey ephemeral).val) :
    directNaclBoxDecrypt N (some secretKey)
      (legacyBlob N ephemeral gatewayKey nonce text) nonce ≠ .ok text := by
  have heph := (N.publicKey ephemeral).property
  have hbox := hN.box_length (decodeUTF8 text) nonce gatewayKey ephemeral
  obtain ⟨tail, htail⟩ := hkey
  unfold legacyBlob
  generalize N.box (decodeUTF8 text) nonce gatewayKey ephemeral = c at hbox
  rw [← htail] at heph ⊢
  have hlen : (tail ++ c).length = (decodeUTF8 text).length + 46 := by
    have htail : tail.length = 30 := by simpa using heph
    rw [List.length_append, htail, hbox]
    omega
  obtain ⟨high, low, rest, hrest⟩ : ∃ high low rest, (tail ++ c).drop 32 = [high, low] ++ rest := by
    match h : (tail ++ c).drop 32 with
    | high :: low :: rest => exact ⟨high, low, rest, rfl⟩
    | [_] | [] =>
      have hdrop := congrArg List.length h
      simp only [List.length_drop, hlen, List.length_cons, List.length_nil] at hdrop
      omega
  have hrestlen := congrArg List.length hrest
  rw [List.length_drop, hlen, List.length_append, List.length_cons, List.length_singleton] at hrestlen
  rw [List.append_assoc, ← List.take_append_drop 32 (tail ++ c), hrest,
    decrypt_magic (List.length_take_of_le (by omega))]
  intro h
  unfold Nacl.open at h
  split at h
  · split at h
    · next hk hn =>
      revert h
      dsimp only [Except.bind]
      match hopen : N.boxOpen _ _ _ _ with
      | none => exact nofun
      | some message =>
        intro h
        have hopen := hN.open_length _ _ _ _ _ hopen
        rw [encodeUTF8_eq_ok.1 h, List.length_take] at hopen
        omega
    · cases h
  · cases h

/-- Both formats are undone unless the sender's key begins with the magic prefix. -/
theorem both_undone_iff (hN : N.Sound) : UndoesBoth N secretKey ephemeral nonce text ↔
    ¬ [0xAA, 0xBB] <+: (N.publicKey ephemeral).val :=
  ⟨fun h hkey => not_decrypt_legacyBlob hN hkey h.legacy,
    fun hkey => ⟨decrypt_legacyBlob hN hkey, fun _ _ hfits => decrypt_dualBlob hN hfits⟩⟩

/-- What a deployment with the key decrypts of an identity whose email is a dual blob. -/
theorem email_of_dualBlob {env : Env} {i : IdentityAccount} (hN : N.Sound) (hactive : i.channelEmail = true)
    (hfits : (decodeUTF8 text).length + 16 < 2 ^ 16) (hnonce : i.nonce = nonce.val)
    (hblob : i.encryptedEmail = dualBlob N ephemeral ephemeral2 (N.publicKey secretKey) userKey nonce text) :
    ((env.direct N secretKey).decryptAllChannels i).email = some (js text) := by
  have hne : i.encryptedEmail.isEmpty = false := by
    rw [hblob]
    rfl
  unfold Env.decryptAllChannels Env.direct
  dsimp only
  rw [hactive, hne, if_pos (by decide), hnonce, hblob, decrypt_dualBlob hN hfits]
  rfl

/-! ### Keys that collide with the prefix -/

theorem tagging_sound : Nacl.tagging.Sound where
  open_box message nonce mine theirs := by
    have htag : ((List.zipWith (· ^^^ ·) theirs.val mine.val).take 16).length = 16 := by
      rw [List.length_take, List.length_zipWith, theirs.property, mine.property]
      rfl
    have hcomm : List.zipWith (· ^^^ ·) mine.val theirs.val = List.zipWith (· ^^^ ·) theirs.val mine.val :=
      List.zipWith_comm_of_comm fun a b => UInt8.xor_comm a b
    unfold Nacl.tagging
    dsimp only [id]
    rw [List.take_left' htag, List.drop_left' htag, hcomm, List.length_append, htag]
    exact if_pos ⟨Nat.le_add_right .., rfl⟩
  box_length message nonce theirs mine := by
    unfold Nacl.tagging
    dsimp only
    rw [List.length_append, List.length_take, List.length_zipWith, theirs.property, mine.property]
    exact Nat.add_comm ..
  open_length box nonce theirs mine message h := by
    unfold Nacl.tagging at h
    dsimp only at h
    split at h
    · next hbox =>
      rw [← Option.some.inj h, List.length_drop]
      omega
    · cases h

theorem both_undone_iff_tagging :
    UndoesBoth Nacl.tagging (keyFrom 1 2) (keyFrom 3 4) ⟨List.replicate 24 0, rfl⟩ "w@useherald.xyz" :=
  (both_undone_iff tagging_sound).2 (by decide)

/-- A sender whose key happens to begin with the magic prefix cannot be read. -/
theorem colliding_key_unreadable :
    ¬ UndoesBoth Nacl.tagging (keyFrom 1 2)
    (keyFrom 0xAA 0xBB) ⟨List.replicate 24 0, rfl⟩ "w@useherald.xyz" :=
  fun h => not_decrypt_legacyBlob tagging_sound (by decide) h.legacy

end

/-!
## The two paths agree where the sealed field holds the sender's key

The worker encrypts for any 32 bytes in the sender's field. A key is unsealed if the sealed field holds one.
Neither looks at what the other looks at, so that they agree where the fields do.
-/

section

open Text Text.Json

variable {N : Nacl} {before : Key → Key → Key} {config : KeyConfig} {env : Env} {i : ChainIdentity}
  {hit : Bool} {job : NotificationJobData} {nonce : Nonce}

theorem keyOf?_eq_some {bytes : Bytes} {key : Key} : keyOf? bytes = some key ↔ bytes = key.val := by
  unfold keyOf?
  refine ⟨fun h => ?_, ?_⟩
  · split at h
    · exact congrArg Subtype.val (Option.some.inj h)
    · cases h
  · rintro rfl
    exact dif_pos key.property

/-- What is encrypted for a key in hexadecimal. -/
theorem encryptForUser_encode {gateway sender : Key} {body : Value} :
    encryptForUser N (some gateway) nonce (Hex.encode sender.val) body = some {
      ciphertext := Hex.encode (N.box (Utf8.encode body.text) nonce sender gateway)
      nonce := Hex.encode nonce.val
      gatewayPubkey := Hex.encode (N.publicKey gateway).val } := by
  unfold encryptForUser
  rw [Hex.decode_encode, keyOf?_eq_some.2 rfl]

/-- What is read from the bytes of a value's text. -/
theorem readBody_text (v : Value) : readBody (.ok (some (Utf8.encode v.text))) = some v := by
  have hascii : ∀ u ∈ v.text, u < 0xD800 := fun u hu => UInt16.lt_trans (v.text_lt u hu) (by decide)
  rw [readBody, Utf8.decode?_encode, Utf8.wellFormed_of_lt hascii]
  exact parse_text v

/-! ### The worker -/

/-- The columns are those of the encrypted body. -/
theorem stores_deliveredUpdate {identity : IdentityAccount} {arweaveId : Option JsString}
    {result : ChannelDispatchResult} {now : Millis} {ciphertext nonce : JsString} :
    (deliveredUpdate env job identity arweaveId result now).Stores ciphertext nonce ↔
      encryptedBody env job identity = some (ciphertext, nonce) := by
  unfold NotificationUpdate.Stores deliveredUpdate
  cases encryptedBody env job identity with
  | none => simp
  | some e => simp [Prod.ext_iff]

/-- On a miss the sender's field is taken as a key if it has 32 bytes. -/
theorem encryptedBody_held {directPrivKey : Option Key} {ciphertext n : JsString} :
    encryptedBody (env.encrypting N directPrivKey nonce) job i.held.account = some (ciphertext, n) ↔
      ∃ gateway sender : Key, directPrivKey = some gateway ∧ i.senderX25519Pubkey = sender.val ∧
        ciphertext = Hex.encode (N.box (Utf8.encode job.delivered.text) nonce sender gateway) ∧
        n = Hex.encode nonce.val := by
  have hbody : encryptedBody (env.encrypting N directPrivKey nonce) job i.held.account =
      if i.senderX25519Pubkey.length = 32 then
        (encryptForUser N directPrivKey nonce (Hex.encode i.senderX25519Pubkey) job.delivered).map
          fun e => (e.ciphertext, e.nonce)
      else none := rfl
  rw [hbody]
  refine ⟨fun h => ?_, ?_⟩
  · split at h
    · next hlen =>
      cases directPrivKey with
      | none => cases h
      | some gateway =>
        have hencrypt : encryptForUser N (some gateway) nonce
            (Hex.encode (⟨i.senderX25519Pubkey, hlen⟩ : Key).val) job.delivered = some _ :=
          encryptForUser_encode
        rw [hencrypt] at h
        obtain ⟨hcipher, hnonce⟩ := Prod.mk.inj (Option.some.inj h)
        exact ⟨gateway, ⟨_, hlen⟩, rfl, rfl, hcipher.symm, hnonce.symm⟩
    · cases h
  · rintro ⟨gateway, sender, rfl, hsender, rfl, rfl⟩
    rw [hsender, if_pos sender.property, encryptForUser_encode]
    rfl

/-- What is stored, and when. -/
theorem stores_iff {arweaveId : Option JsString} {result : ChannelDispatchResult} {now : Millis}
    {ciphertext n : JsString} :
    (deliveredUpdate (env.encrypting N config.loadDirectKey nonce) job (i.resolved hit).account arweaveId
        result now).Stores ciphertext n ↔
      ∃ gateway sender, Encrypts config i hit gateway sender ∧
        ciphertext = Hex.encode (N.box (Utf8.encode job.delivered.text) nonce sender gateway) ∧
        n = Hex.encode nonce.val := by
  rw [stores_deliveredUpdate]
  unfold ChainIdentity.resolved Encrypts
  cases hit with
  | false =>
    rw [if_neg (by decide), encryptedBody_held]
    simp [and_assoc]
  | true =>
    have hnone : encryptedBody (env.encrypting N config.loadDirectKey nonce) job
        ((cachedCopy i).getD i.held).account = none :=
      bodies_of_cachedCopy _ (by rw [cachedCopy_eq]; rfl)
    rw [if_pos rfl, hnone]
    simp

/-! ### The enclave module -/

/-- A key is unsealed if the sealed field holds it. -/
theorem unsealRecipientKey_iff (hN : N.Keyed before) {key : Bytes} :
    unsealRecipientKey N config.onModuleInit (some i) = .ok (some key) ↔ Seals N config i key := by
  unfold unsealRecipientKey Seals
  cases config.onModuleInit with
  | none => simp
  | some enclave =>
    dsimp only
    refine ⟨fun h => ?_, ?_⟩
    · split at h
      · cases h
      · next hzeros =>
        unfold Nacl.open at h
        split at h
        · next hsender =>
          split at h
          · next hnonce =>
            have hbox := hN.open_iff.1 (Except.ok.inj h)
            exact ⟨enclave, ⟨_, hsender⟩, ⟨_, hnonce⟩, rfl, rfl, rfl, hbox, by simpa using hzeros⟩
          · cases h
        · cases h
    · rintro ⟨_, sender, n, ⟨⟩, hsender, hnonce, hbox, b, hb, hne⟩
      have hzeros : ¬ i.sealedX25519Pubkey.all (· == 0) = true := fun hall =>
        hne (by simpa using List.all_eq_true.1 hall b hb)
      rw [if_neg hzeros, hsender, hnonce, open_of_sizes]
      exact congrArg Except.ok (hN.open_iff.2 hbox)

/-! ### Opening what was stored -/

/-- A box for the sender's key opens under a key that shares as much with the gateway. -/
theorem open_box_of_shared (hN : N.Keyed before) {gateway sender key : Key} {message : Bytes}
    (hshared : before key gateway = before sender gateway) :
    N.open (N.box message nonce sender gateway) nonce.val key.val gateway = .ok (some message) := by
  rw [open_of_sizes]
  exact congrArg Except.ok (hN.open_iff.2 (hN.box_congr message nonce hshared.symm))

/-- Its user opens it with the gateway's public key. -/
theorem open_box_of_user (hN : N.Keyed before) {gateway sender user : Key} {message : Bytes}
    (hshared : before (N.publicKey user) gateway = before sender gateway) :
    N.open (N.box message nonce sender gateway) nonce.val (N.publicKey gateway).val user =
      .ok (some message) := by
  rw [open_of_sizes]
  exact congrArg Except.ok (hN.open_iff.2 (hN.box_congr message nonce
    (hshared.symm.trans (hN.before_comm gateway user))))

/-- A key under which a box for the sender's key opens to anything shares as much with the gateway. -/
theorem shared_of_open (hN : N.Keyed before) {gateway sender : Key} {key message : Bytes} {v : Value}
    (h : readBody (N.open (N.box message nonce sender gateway) nonce.val key gateway) = some v) :
    ∃ k : Key, k.val = key ∧ before k gateway = before sender gateway := by
  unfold Nacl.open at h
  split at h
  · next hkey =>
    rw [dif_pos nonce.property] at h
    cases hopen : N.boxOpen (N.box message nonce sender gateway) nonce ⟨key, hkey⟩ gateway with
    | none =>
      rw [hopen] at h
      cases h
    | some opened => exact ⟨⟨key, hkey⟩, rfl, (hN.box_inj (hN.open_iff.1 hopen)).symm⟩
  · cases h

/-- Where the keys match, what is stored is a box for a key that shares with the gateway what the unsealed
key does. -/
theorem shared_of_stored (hN : N.Keyed before) (h : KeysMatch N before config i hit)
    {arweaveId : Option JsString} {result : ChannelDispatchResult} {now : Millis} {ciphertext n : JsString}
    {key : Bytes} {gateway : Key}
    (hstores : (deliveredUpdate (env.encrypting N config.loadDirectKey nonce) job (i.resolved hit).account
      arweaveId result now).Stores ciphertext n)
    (hkey : unsealRecipientKey N config.onModuleInit (some i) = .ok (some key))
    (hgateway : gateway ∈ config.loadDirectKey) :
    ∃ sender k : Key, k.val = key ∧ before k gateway = before sender gateway ∧
      Hex.encode (N.box (Utf8.encode job.delivered.text) nonce sender gateway) = ciphertext ∧
      Hex.encode nonce.val = n := by
  obtain ⟨g, sender, henc, hcipher, hnonce⟩ := stores_iff.1 hstores
  obtain rfl := Option.some.inj (henc.1.symm.trans hgateway)
  obtain ⟨k, hseals, hshared⟩ := h.keyed g sender henc
  have heq := Except.ok.inj (((unsealRecipientKey_iff hN).2 hseals).symm.trans hkey)
  exact ⟨sender, k, Option.some.inj heq, hshared, hcipher.symm, hnonce.symm⟩

/-- The two paths agree if and only if the sealed field holds a key that is as good as the sender's where the
worker encrypts, and none where it does not. -/
theorem paths_agree_iff (hN : N.Keyed before) {arweaveId : Option JsString} {result : ChannelDispatchResult}
    {now : Millis} :
    PathsAgree N config i job (deliveredUpdate (env.encrypting N config.loadDirectKey nonce) job
        (i.resolved hit).account arweaveId result now) ↔
      KeysMatch N before config i hit := by
  have hstored : ∀ gateway sender, Encrypts config i hit gateway sender →
      (deliveredUpdate (env.encrypting N config.loadDirectKey nonce) job (i.resolved hit).account arweaveId
        result now).Stores (Hex.encode (N.box (Utf8.encode job.delivered.text) nonce sender gateway))
        (Hex.encode nonce.val) :=
    fun gateway sender h => stores_iff.2 ⟨gateway, sender, h, rfl, rfl⟩
  refine ⟨fun h => ⟨fun gateway sender henc => ?_, fun hnone key hseals => ?_⟩,
    fun h => ⟨⟨?_, ?_⟩, ?_, ?_⟩⟩
  · obtain ⟨key, hkey⟩ := h.together.1 ⟨_, _, hstored gateway sender henc⟩
    have hopened := h.opened _ _ key (hstored gateway sender henc) hkey gateway henc.1
    rw [Hex.decode_encode, Hex.decode_encode] at hopened
    obtain ⟨k, rfl, hshared⟩ := shared_of_open hN hopened
    exact ⟨k, (unsealRecipientKey_iff hN).1 hkey, hshared⟩
  · obtain ⟨ciphertext, n, hstores⟩ := h.together.2 ⟨key, (unsealRecipientKey_iff hN).2 hseals⟩
    obtain ⟨gateway, sender, henc, -⟩ := stores_iff.1 hstores
    exact hnone gateway sender henc
  · rintro ⟨ciphertext, n, hstores⟩
    obtain ⟨gateway, sender, henc, -⟩ := stores_iff.1 hstores
    obtain ⟨key, hseals, -⟩ := h.keyed gateway sender henc
    exact ⟨key.val, (unsealRecipientKey_iff hN).2 hseals⟩
  · rintro ⟨key, hkey⟩
    by_contra hnot
    exact h.keyless (fun gateway sender henc => hnot ⟨_, _, hstored gateway sender henc⟩) key
      ((unsealRecipientKey_iff hN).1 hkey)
  · rintro ciphertext n key hstores hkey gateway hgateway
    obtain ⟨sender, k, rfl, hshared, rfl, rfl⟩ := shared_of_stored hN h hstores hkey hgateway
    rw [Hex.decode_encode, Hex.decode_encode, open_box_of_shared hN hshared, readBody_text]
  · rintro ciphertext n key hstores hkey gateway hgateway user huser
    obtain ⟨sender, k, rfl, hshared, rfl, rfl⟩ := shared_of_stored hN h hstores hkey hgateway
    obtain rfl := Subtype.ext huser
    rw [Hex.decode_encode, Hex.decode_encode, open_box_of_user hN hshared, readBody_text]

/-! ### Identities with and without a key -/

theorem tagging_keyed : Nacl.tagging.Keyed taggingBefore := by
  have htag : ∀ theirs mine : Key,
      ((List.zipWith (· ^^^ ·) theirs.val mine.val).take 16).length = 16 := by
    intro theirs mine
    rw [List.length_take, List.length_zipWith, theirs.property, mine.property]
    rfl
  have hbefore : ∀ {theirs mine theirs' mine' : Key},
      taggingBefore theirs mine = taggingBefore theirs' mine' ↔
      (List.zipWith (· ^^^ ·) theirs.val mine.val).take 16 =
        (List.zipWith (· ^^^ ·) theirs'.val mine'.val).take 16 :=
    fun {_ _ _ _} => Subtype.ext_iff.trans (List.append_left_inj _)
  refine ⟨fun mine theirs => ?_, fun {box n theirs mine message} => ?_, fun {_ _ _ _} message n h => ?_,
    fun {theirs mine theirs' mine' _ _ _} h => ?_⟩
  · refine hbefore.2 ?_
    rw [List.zipWith_comm_of_comm fun a b => UInt8.xor_comm a b]
    rfl
  · unfold Nacl.tagging
    dsimp only
    refine ⟨fun h => ?_, ?_⟩
    · split at h
      · next hbox => rw [← hbox.2, ← Option.some.inj h, List.take_append_drop]
      · cases h
    · rintro rfl
      rw [List.take_left' (htag theirs mine), List.drop_left' (htag theirs mine), List.length_append, htag]
      exact if_pos ⟨Nat.le_add_right .., rfl⟩
  · exact congrArg (· ++ message) (hbefore.1 h)
  · exact hbefore.2 (List.append_inj_left h ((htag theirs mine).trans (htag theirs' mine').symm))

/-- Both services load the same key from the environment. -/
def sameKey : KeyConfig where
  plainHex := some (Hex.encode (keyFrom 1 2).val)
  kmsKeyId := none
  encryptedHex := none
  kmsDecrypt _ _ := none

theorem sameKey_loaded :
    sameKey.loadDirectKey = some (keyFrom 1 2) ∧ sameKey.onModuleInit = some (keyFrom 1 2) := by
  have hkey : keyOf? (Hex.decode (sameKey.plainHex.getD [])) = some (keyFrom 1 2) := by
    rw [show sameKey.plainHex.getD [] = Hex.encode (keyFrom 1 2).val from rfl, Hex.decode_encode]
    exact keyOf?_eq_some.2 rfl
  refine ⟨(if_pos rfl).trans hkey, ?_⟩
  unfold KeyConfig.onModuleInit
  rw [if_neg (by decide), if_pos (show truthy sameKey.plainHex = true from rfl), hkey]

/-- An email that was sent. -/
def emailSent : ChannelDispatchResult where
  outcomes := [
    { channel := .email, success := true, messageId := some (js "m"), provider := some (js "ses") }]
  totalChannels := 1
  successCount := 1
  allDelivered := true

/-- The recipient's identity, with a key that was sealed for the gateway. -/
def sealedIdentity : ChainIdentity :=
  { keyedIdentity with
    sealedX25519Pubkey :=
      Nacl.tagging.box (keyFrom 5 6).val ⟨List.replicate 24 3, rfl⟩ (keyFrom 5 6) (keyFrom 1 2)
    senderX25519Pubkey := (keyFrom 5 6).val }

theorem paths_agree_iff_sealed :
    PathsAgree Nacl.tagging sameKey sealedIdentity keyedJob
      (deliveredUpdate
        (Env.transparent.encrypting Nacl.tagging sameKey.loadDirectKey ⟨List.replicate 24 7, rfl⟩) keyedJob
        (sealedIdentity.resolved false).account none emailSent 0) := by
  obtain ⟨hdirect, henclave⟩ := sameKey_loaded
  refine (paths_agree_iff tagging_keyed).2 ⟨?_, fun hnone => ?_⟩
  · rintro gateway sender ⟨-, -, hsender⟩
    obtain rfl := Subtype.ext hsender
    exact ⟨keyFrom 5 6, ⟨keyFrom 1 2, keyFrom 5 6, ⟨List.replicate 24 3, rfl⟩, henclave, rfl, rfl, rfl,
      4, by decide, by decide⟩, rfl⟩
  · exact absurd ⟨hdirect, rfl, rfl⟩ (hnone (keyFrom 1 2) (keyFrom 5 6))

/-- The recipient's identity before a key was registered: its fields are there, and filled with zeros. -/
def unkeyedIdentity : ChainIdentity :=
  { keyedIdentity with
    sealedX25519Pubkey := List.replicate 48 0
    senderX25519Pubkey := List.replicate 32 0
    notificationNonce := List.replicate 24 0 }

/-- For a user without a notification key a body is encrypted, with a key of zeros. -/
theorem encrypted_for_zeros :
    ¬ PathsAgree Nacl.tagging sameKey unkeyedIdentity keyedJob
      (deliveredUpdate
        (Env.transparent.encrypting Nacl.tagging sameKey.loadDirectKey ⟨List.replicate 24 7, rfl⟩) keyedJob
        (unkeyedIdentity.resolved false).account none emailSent 0) := by
  intro h
  obtain ⟨hdirect, henclave⟩ := sameKey_loaded
  obtain ⟨key, hkey⟩ := h.together.1 ⟨_, _, stores_iff.2
    ⟨keyFrom 1 2, keyFrom 0 0, ⟨hdirect, rfl, rfl⟩, rfl, rfl⟩⟩
  rw [henclave] at hkey
  have hnone : unsealRecipientKey Nacl.tagging (some (keyFrom 1 2)) (some unkeyedIdentity) = .ok none := rfl
  rw [hnone] at hkey
  cases Except.ok.inj hkey

end

end HeraldGateway
