import HeraldGateway.Domains.Dkim
import HeraldGateway.Text.Proofs.EncodingsProofs

/-!
# What verification finds is the header

The 32 letters that verification looks for are the encoding of the header, which all keys share. So it finds
a key in whatever carries any key, and is sound for the answers in which only the key itself begins so.
-/

namespace HeraldGateway

open Text

variable {s : DkimStore} {op : DkimOp} {ops : List DkimOp} {key : DkimKey} {records : TxtRecords}

/-! ### PEM -/

theorem standardLetter_spec {n : Nat} (h : n < 64) :
    Base64url.standardLetter n ≠ 45 ∧ isSpace (Base64url.standardLetter n) = false := by
  revert n
  decide

/-- Base64 has no hyphens and no white space. -/
theorem base64_spec {b : List UInt8} : ∀ u ∈ Base64url.encodeStandard b, u ≠ 45 ∧ isSpace u = false := by
  intro u hu
  rcases List.mem_append.1 hu with hu | hu
  · obtain ⟨n, hn, rfl⟩ := List.mem_map.1 hu
    exact standardLetter_spec (Base64url.groups_lt b n hn)
  · rw [List.eq_of_mem_replicate hu]
    decide

theorem removeMarks_skip {u t : JsString} : removeMarks u.length (u ++ t) = removeMarks 0 t := by
  induction u with
  | nil => rfl
  | cons a u ih => exact ih

/-- What has no hyphen contains no mark. -/
theorem removeMarks_append {u t : JsString} (h : ∀ a ∈ u, a ≠ 45) :
    removeMarks 0 (u ++ t) = u ++ removeMarks 0 t := by
  induction u with
  | nil => rfl
  | cons a u ih =>
    have ha : a ≠ 45 := h a List.mem_cons_self
    have hmark : ∀ mark : JsString, mark.head? = some 45 → mark.isPrefixOf (a :: (u ++ t)) = false := by
      intro mark hhead
      cases mark with
      | nil => cases hhead
      | cons b mark =>
        obtain rfl := Option.some.inj hhead
        rw [List.isPrefixOf_cons_cons, beq_false_of_ne (Ne.symm ha), Bool.false_and]
    rw [List.cons_append, removeMarks, if_neg (by rw [hmark _ (by decide)]; decide),
      if_neg (by rw [hmark _ (by decide)]; decide), ih fun b hb => h b (List.mem_cons_of_mem a hb)]
    rfl

theorem removeMarks_header {t : JsString} : removeMarks 0 (pemHeader ++ t) = removeMarks 0 t := by
  obtain ⟨a, rest, hheader⟩ := List.exists_cons_of_ne_nil (show pemHeader ≠ [] by decide)
  have hlen : pemHeader.length - 1 = rest.length := by
    rw [hheader]
    rfl
  have hpre : pemHeader.isPrefixOf (a :: (rest ++ t)) = true :=
    List.isPrefixOf_iff_prefix.2 ⟨t, by rw [hheader]; rfl⟩
  rw [hheader, List.cons_append, removeMarks, if_pos hpre, hlen]
  exact removeMarks_skip

theorem mem_wrapLines {room : Nat} {u : JsString} : ∀ a ∈ wrapLines room u, a = 10 ∨ a ∈ u := by
  induction room, u using wrapLines.induct with
  | case1 => exact fun _ ha => .inr ha
  | case2 b u ih =>
    intro a ha
    rcases List.mem_cons.1 ha with rfl | ha
    · exact .inl rfl
    · rcases List.mem_cons.1 ha with rfl | ha
      · exact .inr List.mem_cons_self
      · exact (ih a ha).imp_right (List.mem_cons_of_mem b)
  | case3 room b u ih =>
    intro a ha
    rcases List.mem_cons.1 ha with rfl | ha
    · exact .inr List.mem_cons_self
    · exact (ih a ha).imp_right (List.mem_cons_of_mem b)

/-- Taking the line breaks out undoes putting them in. -/
theorem filter_wrapLines {room : Nat} {u : JsString} (h : ∀ a ∈ u, isSpace a = false) :
    (wrapLines room u).filter (fun a => !isSpace a) = u := by
  induction room, u using wrapLines.induct with
  | case1 => rfl
  | case2 b u ih =>
    have hb := h b List.mem_cons_self
    rw [wrapLines, List.filter_cons_of_neg (by decide), List.filter_cons_of_pos (by rw [hb]; rfl),
      ih fun a ha => h a (List.mem_cons_of_mem b ha)]
  | case3 room b u ih =>
    have hb := h b List.mem_cons_self
    rw [wrapLines, List.filter_cons_of_pos (by rw [hb]; rfl), ih fun a ha => h a (List.mem_cons_of_mem b ha)]

/-- What stands between the marks. -/
def pemBody (base64Pub : JsString) : JsString := js "\n" ++ wrapLines 64 base64Pub ++ js "\n"

theorem pem_split (base64Pub : JsString) : pem base64Pub = pemHeader ++ (pemBody base64Pub ++ pemFooter) := by
  simp only [pem, pemBody, List.append_assoc]

theorem mem_pemBody {b : List UInt8} {a : UInt16} (h : a ∈ pemBody (Base64url.encodeStandard b)) :
    a = 10 ∨ a ∈ Base64url.encodeStandard b := by
  have hbreak : ∀ a ∈ js "\n", a = 10 := fun a ha => List.mem_singleton.1 ha
  rcases List.mem_append.1 h with h | h
  · rcases List.mem_append.1 h with h | h
    · exact .inl (hbreak a h)
    · exact mem_wrapLines a h
  · exact .inl (hbreak a h)

theorem filter_pemBody (b : List UInt8) :
    (pemBody (Base64url.encodeStandard b)).filter (fun a => !isSpace a) = Base64url.encodeStandard b := by
  have hbreak : (js "\n").filter (fun a => !isSpace a) = [] := by decide
  rw [pemBody, List.filter_append, List.filter_append, filter_wrapLines fun a ha => (base64_spec a ha).2,
    hbreak, List.append_nil, List.nil_append]

/-- The key is read from PEM as it was written. -/
theorem pubKeyB64_pem (b : List UInt8) :
    pubKeyB64 (pem (Base64url.encodeStandard b)) = Base64url.encodeStandard b := by
  have hlines : ∀ a ∈ pemBody (Base64url.encodeStandard b), a ≠ 45 := by
    intro a ha
    rcases mem_pemBody ha with rfl | ha
    · decide
    · exact (base64_spec a ha).1
  have hfooter : removeMarks 0 pemFooter = [] := by decide
  rw [pubKeyB64, pem_split, removeMarks_header, removeMarks_append hlines, hfooter, List.append_nil,
    filter_pemBody]

/-! ### The header -/

/-- A key with the header in front, stored in PEM. -/
def DkimKey.Provisioned (key : DkimKey) : Prop :=
  (∃ modulus, key.der = rsaHeader ++ modulus) ∧ key.publicKey = pem (Base64url.encodeStandard key.der)

/-- Verification looks for the header. -/
theorem dnsMatches_eq (h : key.Provisioned) :
    dnsMatches key records = includes rsaHeaderB64 (records.map List.flatten).flatten := by
  obtain ⟨⟨modulus, hder⟩, hpem⟩ := h
  have hgroups : Base64url.groups (rsaHeader ++ modulus) = Base64url.groups rsaHeader ++
    Base64url.groups modulus := rfl
  have htake : (Base64url.encodeStandard key.der).take 32 = rsaHeaderB64 := by
    rw [hder, Base64url.encodeStandard, hgroups, List.map_append, List.append_assoc]
    exact (List.take_left' (by decide)).trans (by decide)
  rw [dnsMatches, hpem, pubKeyB64_pem, htake]

/-! ### The list -/

theorem standardLetter_isPemLetter {n : Nat} (h : n < 64) :
    isPemLetter (Base64url.standardLetter n) = true := by
  revert n
  decide

theorem base64_isPemLetter {b : List UInt8} : ∀ u ∈ Base64url.encodeStandard b, isPemLetter u = true := by
  intro u hu
  rcases List.mem_append.1 hu with hu | hu
  · obtain ⟨n, hn, rfl⟩ := List.mem_map.1 hu
    exact standardLetter_isPemLetter (Base64url.groups_lt b n hn)
  · rw [List.eq_of_mem_replicate hu]
    decide

/-- What stands between the marks is found where all of it are letters. -/
theorem base64Match_marks {body : JsString} (h : ∀ u ∈ body, isPemLetter u = true) (hne : body ≠ []) :
    base64Match (pemHeader ++ (body ++ pemFooter)) = some body := by
  obtain ⟨a, rest, hheader⟩ := List.exists_cons_of_ne_nil (show pemHeader ≠ [] by decide)
  have hfooter : pemFooter.takeWhile isPemLetter = [] := by decide
  have hletters : (body ++ pemFooter).takeWhile isPemLetter = body := by
    rw [List.takeWhile_append_of_pos h, hfooter, List.append_nil]
  have hbehind : (a :: (rest ++ (body ++ pemFooter))).drop pemHeader.length = body ++ pemFooter := by
    rw [hheader]
    exact List.drop_left
  have hpre : pemHeader.isPrefixOf (a :: (rest ++ (body ++ pemFooter))) = true :=
    List.isPrefixOf_iff_prefix.2 ⟨body ++ pemFooter, by rw [hheader]; rfl⟩
  have hend : pemFooter.isPrefixOf ((body ++ pemFooter).drop body.length) = true := by
    rw [List.drop_left]
    exact List.isPrefixOf_iff_prefix.2 List.prefix_rfl
  have hsome : body.isEmpty = false := by
    cases body with
    | nil => exact absurd rfl hne
    | cons u body => rfl
  rw [hheader, List.cons_append, base64Match, hbehind, hletters, if_pos]
  rw [hpre, hsome, hend]
  rfl

theorem base64Key_pem (b : List UInt8) :
    base64Key (pem (Base64url.encodeStandard b)) = Base64url.encodeStandard b := by
  have hletters : ∀ u ∈ pemBody (Base64url.encodeStandard b), isPemLetter u = true := by
    intro u hu
    rcases mem_pemBody hu with rfl | hu
    · decide
    · exact base64_isPemLetter u hu
  have hbreaks : ∀ u ∈ pemBody (Base64url.encodeStandard b), (u != 10) = !isSpace u := by
    intro u hu
    rcases mem_pemBody hu with rfl | hu
    · decide
    · have hspace := (base64_spec u hu).2
      have hne : u ≠ 10 := by
        rintro rfl
        exact absurd hspace (by decide)
      rw [hspace, bne_iff_ne.2 hne]
      rfl
  have hne : pemBody (Base64url.encodeStandard b) ≠ [] := by
    intro hnil
    have hlen := congrArg List.length hnil
    rw [pemBody, List.length_append, List.length_append] at hlen
    exact absurd hlen (by simp [js, utf16])
  rw [base64Key, pem_split, base64Match_marks hletters hne]
  exact (List.filter_congr hbreaks).trans (filter_pemBody b)

theorem encodeStandard_ne_nil {b : List UInt8} (h : b ≠ []) : Base64url.encodeStandard b ≠ [] := by
  intro hnil
  have hdecode := Base64url.decode_encodeStandard b
  rw [hnil] at hdecode
  exact h hdecode.symm

theorem listedRecordValue_eq (hpem : key.publicKey = pem (Base64url.encodeStandard key.der))
    (hder : key.der ≠ []) :
    listedRecordValue key = dnsRecordValue key := by
  have hkey : base64Key key.publicKey = Base64url.encodeStandard key.der := by rw [hpem, base64Key_pem]
  unfold listedRecordValue
  rw [hkey]
  exact if_neg fun hempty => encodeStandard_ne_nil hder (List.isEmpty_iff.1 hempty)

/-- Verification finds a key in the record that its owner was asked to publish. -/
theorem dnsMatches_published (hpem : key.publicKey = pem (Base64url.encodeStandard key.der))
    (h : key.PublishedIn records) : dnsMatches key records = true := by
  obtain ⟨record, hrecord, hvalue⟩ := h
  rw [dnsMatches, hpem, pubKeyB64_pem, includes_iff]
  have htake : (Base64url.encodeStandard key.der).take 32 <:+: Base64url.encodeStandard key.der :=
    (List.take_prefix 32 _).isInfix
  have hkey : Base64url.encodeStandard key.der <:+: record.flatten := by
    rw [hvalue]
    exact (List.suffix_append _ _).isInfix
  have hjoin : record.flatten <:+: (records.map List.flatten).flatten :=
    List.infix_of_mem_flatten (List.mem_map_of_mem hrecord)
  exact htake.trans (hkey.trans hjoin)

/-! ### Runs -/

/-- What holds of every table: keys are as they were provisioned, and ids are not given twice. -/
structure DkimStore.Legal (s : DkimStore) : Prop where
  provisioned : ∀ k ∈ s.keys, k.Provisioned
  fresh : ∀ k ∈ s.keys, k.id < s.created
  unique : ∀ k ∈ s.keys, ∀ k' ∈ s.keys, k.id = k'.id → k = k'

/-- The key of a sender domain, whose record is given away by `v`. -/
def Verification.Of (v : Verification) (key : DkimKey) : Prop :=
  v.key.domain = key.domain ∧ v.key.der = key.der

theorem DkimStore.legal_empty : DkimStore.Legal {} where
  provisioned := fun _ hk => nomatch hk
  fresh := fun _ hk => nomatch hk
  unique := fun _ hk => nomatch hk

/-- What provisioning does: it adds a key that is not verified, or does nothing. -/
theorem DkimStore.provision_cases (s : DkimStore) (protocolId domain selector : JsString) (tier : Nat)
    (modulus : List UInt8) :
    s.provision protocolId domain selector tier modulus = s ∨
    ∃ k : DkimKey, k.id = s.created ∧ k.Provisioned ∧ k.dnsVerified = false ∧
      s.provision protocolId domain selector tier modulus =
      { keys := s.keys ++ [k], created := s.created + 1 } := by
  unfold DkimStore.provision
  by_cases hmany : (s.keys.filter fun k => k.protocolId == protocolId && k.isActive).length ≥ maxDomains tier
  · exact .inl (if_pos hmany)
  · rw [if_neg hmany]
    by_cases htaken : s.keys.any (fun k => k.domain == domain && k.selector == selector) = true
    · exact .inl (if_pos htaken)
    · rw [if_neg htaken]
      exact .inr ⟨_, rfl, ⟨⟨modulus, rfl⟩, rfl⟩, rfl, rfl⟩

/-- What verification does: it finds a key and marks it, or does nothing. -/
theorem DkimStore.verify_cases (s : DkimStore) (id : Nat) (protocolId : JsString)
    (answer : Option TxtRecords) :
    s.verify id protocolId answer = s ∨
    ∃ v : Verification, s.verification? (.verify id protocolId answer) = some v ∧ v.key ∈ s.keys ∧
    v.key.id = id ∧
      dnsMatches v.key v.records = true ∧
      s.verify id protocolId answer =
        { s with keys := s.keys.map fun k => if k.id = id then { k with dnsVerified := true } else k } := by
  unfold DkimStore.verify
  cases hfind : s.keys.find? fun k => k.id == id && k.protocolId == protocolId with
  | none => exact .inl rfl
  | some key =>
    cases answer with
    | none => exact .inl rfl
    | some records =>
      by_cases hmatch : dnsMatches key records = true
      · have hid : key.id = id := by
          have := List.find?_some hfind
          rw [Bool.and_eq_true, beq_iff_eq] at this
          exact this.1
        refine .inr ⟨⟨key, records⟩, ?_, List.mem_of_find?_eq_some hfind, hid, hmatch, if_pos hmatch⟩
        rw [DkimStore.verification?, hfind]
        rfl
      · exact .inl (if_neg hmatch)

/-- A key that is marked as verified is still the same key. -/
theorem mark_spec {k k' : DkimKey} {id : Nat}
    (h : (if k.id = id then { k with dnsVerified := true } else k) = k') :
    k'.id = k.id ∧ k'.domain = k.domain ∧ k'.der = k.der ∧ (k.Provisioned → k'.Provisioned) ∧
      (k'.dnsVerified = true → k.dnsVerified = true ∨ k.id = id) := by
  by_cases hid : k.id = id
  · rw [if_pos hid] at h
    subst h
    exact ⟨rfl, rfl, rfl, fun hp => hp, fun _ => .inr hid⟩
  · rw [if_neg hid] at h
    subst h
    exact ⟨rfl, rfl, rfl, fun hp => hp, .inl⟩

theorem DkimStore.Legal.apply (h : s.Legal) : (s.apply op).Legal := by
  cases op with
  | provision protocolId domain selector tier modulus =>
    obtain heq | ⟨key, hid, hkey, -, heq⟩ := s.provision_cases protocolId domain selector tier modulus
    · rw [DkimStore.apply, heq]
      exact h
    · rw [DkimStore.apply, heq]
      have hmem : ∀ k ∈ s.keys ++ [key], k ∈ s.keys ∨ k = key := fun k hk => by
        rwa [List.mem_append, List.mem_singleton] at hk
      refine ⟨fun k hk => ?_, fun k hk => ?_, fun k hk k' hk' heq => ?_⟩
      · rcases hmem k hk with hk | rfl
        · exact h.provisioned k hk
        · exact hkey
      · rcases hmem k hk with hk | rfl
        · exact Nat.lt_succ_of_lt (h.fresh k hk)
        · exact hid ▸ Nat.lt_succ_self _
      · rcases hmem k hk with hin | hnew <;> rcases hmem k' hk' with hin' | hnew'
        · exact h.unique k hin k' hin' heq
        · have := h.fresh k hin
          rw [hnew'] at heq
          omega
        · have := h.fresh k' hin'
          rw [hnew] at heq
          omega
        · exact hnew.trans hnew'.symm
  | verify id protocolId answer =>
    obtain heq | ⟨v, -, -, -, -, heq⟩ := s.verify_cases id protocolId answer
    · rw [DkimStore.apply, heq]
      exact h
    · rw [DkimStore.apply, heq]
      refine ⟨fun k hk => ?_, fun k hk => ?_, fun k hk k' hk' hids => ?_⟩
      · obtain ⟨k₀, hk₀, hmark⟩ := List.mem_map.1 hk
        exact (mark_spec hmark).2.2.2.1 (h.provisioned k₀ hk₀)
      · obtain ⟨k₀, hk₀, hmark⟩ := List.mem_map.1 hk
        exact (mark_spec hmark).1 ▸ h.fresh k₀ hk₀
      · obtain ⟨k₀, hk₀, hmark⟩ := List.mem_map.1 hk
        obtain ⟨k₀', hk₀', hmark'⟩ := List.mem_map.1 hk'
        have hsame : k₀ = k₀' :=
          h.unique k₀ hk₀ k₀' hk₀' ((mark_spec hmark).1.symm.trans (hids.trans (mark_spec hmark').1))
        rw [← hmark, ← hmark', hsame]
  | delete id protocolId =>
    have hmem : ∀ k ∈ (s.delete id protocolId).keys, k ∈ s.keys := fun k hk => (List.mem_filter.1 hk).1
    exact ⟨fun k hk => h.provisioned k (hmem k hk), fun k hk => h.fresh k (hmem k hk),
      fun k hk k' hk' => h.unique k (hmem k hk) k' (hmem k' hk')⟩

/-- A verified key was verified before the call or is found by it. -/
theorem verified_apply (h : s.Legal) (hk : key ∈ (s.apply op).keys) (hverified : key.dnsVerified = true) :
    (∃ k ∈ s.keys, k.dnsVerified = true ∧ k.domain = key.domain ∧ k.der = key.der) ∨
    ∃ v, s.verification? op = some v ∧ dnsMatches v.key v.records = true ∧ v.Of key := by
  cases op with
  | provision protocolId domain selector tier modulus =>
    obtain heq | ⟨new, -, -, hnew, heq⟩ := s.provision_cases protocolId domain selector tier modulus
    · rw [DkimStore.apply, heq] at hk
      exact .inl ⟨key, hk, hverified, rfl, rfl⟩
    · rw [DkimStore.apply, heq, List.mem_append, List.mem_singleton] at hk
      rcases hk with hk | rfl
      · exact .inl ⟨key, hk, hverified, rfl, rfl⟩
      · rw [hnew] at hverified
        cases hverified
  | verify id protocolId answer =>
    obtain heq | ⟨v, hv, hmem, hid, hmatch, heq⟩ := s.verify_cases id protocolId answer
    · rw [DkimStore.apply, heq] at hk
      exact .inl ⟨key, hk, hverified, rfl, rfl⟩
    · rw [DkimStore.apply, heq] at hk
      obtain ⟨k, hk, hmark⟩ := List.mem_map.1 hk
      obtain ⟨-, hdomain, hder, -, hwas⟩ := mark_spec hmark
      rcases hwas hverified with hwas | hwas
      · exact .inl ⟨k, hk, hwas, hdomain.symm, hder.symm⟩
      · obtain rfl : v.key = k := h.unique _ hmem _ hk (hid.trans hwas.symm)
        exact .inr ⟨v, hv, hmatch, hdomain.symm, hder.symm⟩
  | delete id protocolId => exact .inl ⟨key, (List.mem_filter.1 hk).1, hverified, rfl, rfl⟩

/-- The keys that a run looks for were provisioned. -/
theorem provisioned_of_mem_verifications (h : s.Legal) {v : Verification} (hv : v ∈ s.verifications ops) :
    v.key.Provisioned := by
  induction ops generalizing s with
  | nil => cases hv
  | cons op ops ih =>
    rcases List.mem_append.1 hv with hv | hv
    · cases op with
      | verify id protocolId answer =>
        cases answer with
        | none => cases hv
        | some records =>
          obtain ⟨k, hk, rfl⟩ := Option.map_eq_some_iff.1 (Option.mem_toList.1 hv)
          exact h.provisioned k (List.mem_of_find?_eq_some hk)
      | provision => cases hv
      | delete => cases hv
    · exact ih h.apply hv

/-- Every verified key was found in the run, if none was verified before. -/
theorem verified_foldl (h : s.Legal) (hk : key ∈ (ops.foldl DkimStore.apply s).keys)
    (hverified : key.dnsVerified = true) :
    (∃ k ∈ s.keys, k.dnsVerified = true ∧ k.domain = key.domain ∧ k.der = key.der) ∨
    ∃ v ∈ s.verifications ops, dnsMatches v.key v.records = true ∧ v.Of key := by
  induction ops generalizing s with
  | nil => exact .inl ⟨key, hk, hverified, rfl, rfl⟩
  | cons op ops ih =>
    rcases ih h.apply hk with ⟨k, hk, hwas, hdomain, hder⟩ | ⟨v, hv, hfound⟩
    · rcases verified_apply h hk hwas with
        ⟨k₀, hk₀, hwas₀, hdomain₀, hder₀⟩ | ⟨v, hv, hmatch, hdomain₀, hder₀⟩
      · exact .inl ⟨k₀, hk₀, hwas₀, hdomain₀.trans hdomain, hder₀.trans hder⟩
      · exact .inr ⟨v, List.mem_append_left _ (Option.mem_toList.2 hv), hmatch, hdomain₀.trans hdomain,
          hder₀.trans hder⟩
    · exact .inr ⟨v, List.mem_append_right _ hv, hfound⟩

/-- Custom domains are bound to their keys in exactly the runs where each answer that contains the header of
an RSA key, once its records are joined, carries the key that is looked for. -/
theorem keys_bound_iff (ops : List DkimOp) :
    BoundToKeys ops ↔
      ∀ v ∈ DkimStore.verifications {} ops,
      includes rsaHeaderB64 (v.records.map List.flatten).flatten = true →
        v.IsCarried := by
  have hmatches : ∀ v ∈ DkimStore.verifications {} ops,
      dnsMatches v.key v.records = includes rsaHeaderB64 (v.records.map List.flatten).flatten :=
    fun v hv => dnsMatches_eq (provisioned_of_mem_verifications DkimStore.legal_empty hv)
  constructor
  · intro h v hv hheader
    exact h.found v hv ((hmatches v hv).trans hheader)
  · intro h
    have hfound : ∀ v ∈ DkimStore.verifications {} ops, dnsMatches v.key v.records = true → v.IsCarried :=
      fun v hv hmatch => h v hv ((hmatches v hv).symm.trans hmatch)
    refine ⟨hfound, fun protocolId key hkey => ?_⟩
    have hverified := List.find?_some (Option.mem_def.1 hkey)
    rw [Bool.and_eq_true] at hverified
    obtain ⟨k, hk, -⟩ | ⟨v, hv, hmatch, hdomain, hder⟩ :=
      verified_foldl DkimStore.legal_empty (List.mem_of_find?_eq_some (Option.mem_def.1 hkey)) hverified.2
    · cases hk
    · exact ⟨v, hv, hdomain, hder, hfound v hv hmatch⟩

/-- A domain whose records publish another key is sent from. -/
theorem other_key_found :
    ¬BoundToKeys [
      .provision (js "acme") (js "acme.io") (js "herald") 1 [1, 2, 3],
      .verify 0 (js "acme")
      (some [[js "v=DKIM1; k=rsa; p=", Base64url.encodeStandard (rsaHeader ++ [9, 9, 9])]])] := by
  intro h
  exact absurd (h.found _ List.mem_cons_self (by decide)) (by decide +kernel)

/-! ### The published record -/

theorem DkimStore.Legal.foldl (h : s.Legal) : (ops.foldl DkimStore.apply s).Legal := by
  induction ops generalizing s with
  | nil => exact h
  | cons op ops ih => exact ih h.apply

/-- Verification marks a key whose record is published. -/
theorem verify_published (h : s.Legal) (hkey : key ∈ s.keys) (hpublished : key.PublishedIn records) :
    { key with dnsVerified := true } ∈ (s.verify key.id key.protocolId (some records)).keys := by
  have hmatch := dnsMatches_published (h.provisioned key hkey).2 hpublished
  have hfind : s.keys.find? (fun k => k.id == key.id && k.protocolId == key.protocolId) = some key := by
    cases hfound : s.keys.find? fun k => k.id == key.id && k.protocolId == key.protocolId with
    | none =>
      have hnot := List.find?_eq_none.1 hfound key hkey
      rw [beq_self_eq_true, beq_self_eq_true] at hnot
      exact absurd rfl hnot
    | some k =>
      have hid : k.id = key.id := by
        have hk := List.find?_some hfound
        rw [Bool.and_eq_true, beq_iff_eq] at hk
        exact hk.1
      rw [h.unique k (List.mem_of_find?_eq_some hfound) key hkey hid]
  unfold DkimStore.verify
  rw [hfind]
  change _ ∈ (if dnsMatches key records = true then _ else s).keys
  rw [if_pos hmatch]
  exact List.mem_map.2 ⟨key, hkey, if_pos rfl⟩

/-- The list shows the record that was asked for, and verification finds it however it is split and whatever
else is published: for every key in PEM, and for every key of a run, which verification then marks. -/
theorem published_keys_verified :
    (∀ key : DkimKey, key.der ≠ [] → key.publicKey = pem (Base64url.encodeStandard key.der) →
      listedRecordValue key = dnsRecordValue key ∧
        ∀ records, key.PublishedIn records → dnsMatches key records = true) ∧
    ∀ ops : List DkimOp, ∀ key ∈ (ops.foldl DkimStore.apply {}).keys,
      listedRecordValue key = dnsRecordValue key ∧
        ∀ records, key.PublishedIn records → { key with dnsVerified := true } ∈
          ((ops.foldl DkimStore.apply {}).verify key.id key.protocolId (some records)).keys := by
  refine ⟨fun key hder hpem => ⟨listedRecordValue_eq hpem hder, fun records => dnsMatches_published hpem⟩, ?_⟩
  intro ops key hkey
  have hlegal : (ops.foldl DkimStore.apply {}).Legal := DkimStore.legal_empty.foldl
  obtain ⟨⟨modulus, hder⟩, hpem⟩ := hlegal.provisioned key hkey
  have hne : key.der ≠ [] := by
    rw [hder]
    exact List.append_ne_nil_of_left_ne_nil (by decide) modulus
  exact ⟨listedRecordValue_eq hpem hne, fun records => verify_published hlegal hkey⟩

/-- A key that was provisioned. -/
def acmeKey : DkimKey where
  id := 0
  protocolId := js "acme"
  domain := js "acme.io"
  selector := js "herald"
  publicKey := pem (Base64url.encodeStandard (rsaHeader ++ [1, 2, 3]))
  der := rsaHeader ++ [1, 2, 3]

theorem published_keys_verified_split :
    { acmeKey with dnsVerified := true } ∈ ((([.provision (js "acme") (js "acme.io") (js "herald") 1 [1, 2, 3]] :
      List DkimOp).foldl DkimStore.apply {}).verify 0 (js "acme")
        (some [[js "v=spf1"], [(dnsRecordValue acmeKey).take 7, (dnsRecordValue acmeKey).drop 7]])).keys := by
  have hkey : acmeKey ∈ (([.provision (js "acme") (js "acme.io") (js "herald") 1 [1, 2, 3]] :
      List DkimOp).foldl DkimStore.apply {}).keys := List.mem_cons_self
  refine (published_keys_verified.2 _ acmeKey hkey).2 _ ⟨_, List.mem_cons_of_mem _ List.mem_cons_self, ?_⟩
  rw [List.flatten_cons, List.flatten_cons, List.flatten_nil, List.append_nil, List.take_append_drop]

end HeraldGateway
