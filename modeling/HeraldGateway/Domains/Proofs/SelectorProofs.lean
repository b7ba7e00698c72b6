import HeraldGateway.Domains.Selector

/-!
# Which domains survive a header

The leftmost match begins in the name if any part of the name looks like an address, whatever follows the
name, and with the bracket of the sender otherwise.
-/

namespace HeraldGateway

variable {s t domain name : JsString}

/-! ### Splitting at signs -/

/-- A text that has the separator has two parts. -/
theorem two_parts {c : UInt16} (h : c ∈ s) : 2 ≤ (splitOn c s).length := by
  obtain ⟨a, b, rfl⟩ := List.append_of_mem h
  rw [splitOn_separator, List.length_append]
  have ha := List.length_pos_iff.2 (splitOn_ne_nil c a)
  have hb := List.length_pos_iff.2 (splitOn_ne_nil c b)
  omega

/-- What follows another separator does not change the second part. -/
theorem second_part {c : UInt16} (h : c ∈ s) (t : JsString) :
    (splitOn c (s ++ c :: t))[1]? = (splitOn c s)[1]? := by
  have htwo := two_parts h
  rw [splitOn_separator, List.getElem?_append_left (by omega)]

/-- The first part is what stands before the first separator. -/
theorem first_part (c : UInt16) (s : JsString) : (splitOn c s)[0]? = some (s.takeWhile (· != c)) := by
  induction s with
  | nil => rfl
  | cons a s ih =>
    unfold splitOn
    by_cases hsep : a = c
    · simp [hsep]
    · rw [if_neg hsep]
      obtain ⟨part, parts, hparts⟩ := List.exists_cons_of_ne_nil (splitOn_ne_nil c s)
      rw [hparts] at ih ⊢
      have hpart : part = s.takeWhile (· != c) := Option.some.inj ih
      simp [hsep, hpart]

theorem takeWhile_eq_self_iff {c : UInt16} : s.takeWhile (· != c) = s ↔ c ∉ s := by
  rw [List.takeWhile_eq_self_iff]
  simp only [bne_iff_ne, ne_eq]
  exact ⟨fun h hc => h c hc rfl, fun h a ha he => h (he ▸ ha)⟩

theorem takeWhile_split (c : UInt16) (s : JsString) :
    c ∉ s.takeWhile (· != c) ∧
      (s.takeWhile (· != c) = s ∨ ∃ more, s = s.takeWhile (· != c) ++ c :: more) := by
  induction s with
  | nil => exact ⟨List.not_mem_nil, .inl rfl⟩
  | cons a s ih =>
    by_cases hsep : a = c
    · refine ⟨by simp [hsep], .inr ⟨s, by simp [hsep]⟩⟩
    · have hstep : (a :: s).takeWhile (· != c) = a :: s.takeWhile (· != c) := by simp [hsep]
      rw [hstep]
      refine ⟨List.not_mem_cons_of_ne_of_not_mem (Ne.symm hsep) ih.1, ?_⟩
      rcases ih.2 with hall | ⟨more, hmore⟩
      · exact .inl (by rw [hall])
      · exact .inr ⟨more, by rw [List.cons_append, ← hmore]⟩

/-- The second part is what stands behind the first separator, up to the next one. -/
theorem second_part_iff_leads : (splitOn 64 s)[1]? = some domain ↔ Leads s domain := by
  constructor
  · intro h
    by_cases hat : 64 ∈ s
    · obtain ⟨hloc, hsplit⟩ := takeWhile_split 64 s
      rcases hsplit with hall | ⟨more, hmore⟩
      · rw [hall] at hloc
        exact absurd hat hloc
      · rw [hmore, splitOn_append hloc, List.getElem?_cons_succ, first_part] at h
        obtain ⟨hdomain, hrest⟩ := takeWhile_split 64 more
        rw [Option.some.inj h] at hdomain hrest
        rcases hrest with hall | ⟨rest, hrest⟩
        · refine ⟨s.takeWhile (· != 64), [], ?_, hloc, hdomain, .inl rfl⟩
          rw [List.append_nil, hall]
          exact hmore
        · refine ⟨s.takeWhile (· != 64), 64 :: rest, ?_, hloc, hdomain, .inr ⟨rest, rfl⟩⟩
          rw [← hrest]
          exact hmore
    · rw [splitOn_of_not_mem hat] at h
      exact absurd h nofun
  · rintro ⟨loc, rest, rfl, hloc, hdomain, hrest⟩
    rw [splitOn_append hloc, List.getElem?_cons_succ]
    rcases hrest with rfl | ⟨more, rfl⟩
    · rw [List.append_nil, splitOn_of_not_mem hdomain]
      rfl
    · rw [splitOn_append hdomain]
      rfl

/-! ### The leftmost match -/

/-- A word ends before the white space that follows it. -/
theorem wordAt_append {u : UInt16} (hu : isSpace u = true) (s t : JsString) :
    wordAt? (s ++ u :: t) = wordAt? s := by
  have hword : (s ++ u :: t).takeWhile (fun v => !isSpace v) = s.takeWhile fun v => !isSpace v := by
    induction s with
    | nil => simp [hu]
    | cons a s ih =>
      by_cases ha : isSpace a = true
      · simp [ha]
      · simp [ha, ih]
  unfold wordAt?
  rw [hword]

/-- A bracket captures what stands before the next closing one, if it is not closed at once. -/
theorem bracketAt_of_mem (h : 62 ∈ s) :
    bracketAt? (60 :: s) = if s.head? = some 62 then none else some (s.takeWhile (· != 62)) := by
  have hclosed : s.contains 62 = true := List.contains_iff_mem.2 h
  unfold bracketAt?
  simp only [hclosed, Bool.not_true, Bool.or_false]
  cases s with
  | nil => exact absurd h List.not_mem_nil
  | cons a s =>
    by_cases ha : a = 62
    · simp [ha]
    · simp [ha]

theorem bracketAt_of_ne {a : UInt16} (h : a ≠ 60) (s : JsString) : bracketAt? (a :: s) = none := by
  unfold bracketAt?
  split
  · next heq => exact absurd (List.cons.inj heq).1 h
  · rfl

/-- What a part of the name captures, with the rest of the header behind the name. -/
def AddressPart.content (tail : JsString) : AddressPart → JsString
  | bracket rest => (rest ++ tail).takeWhile (· != 62)
  | word w => w

/-- At the start of a text that white space follows, the pattern captures what the part there holds. -/
theorem addressAt_append {u : UInt16} (hu : isSpace u = true) (hclosed : 62 ∈ t) (a : UInt16) (s : JsString) :
    (bracketAt? (a :: s ++ u :: t) <|> wordAt? (a :: s ++ u :: t)) =
      (partAt? (a :: s)).map (AddressPart.content (u :: t)) := by
  rw [wordAt_append hu]
  have hne : u ≠ 62 := by
    rintro rfl
    exact absurd hu (by decide)
  by_cases ha : a = 60
  · subst ha
    have hmem : 62 ∈ s ++ u :: t := List.mem_append_right _ (List.mem_cons_of_mem _ hclosed)
    have hhead : (s ++ u :: t).head? = some 62 ↔ s.head? = some 62 := by
      cases s with
      | nil => simpa using hne
      | cons b s => rfl
    rw [List.cons_append, bracketAt_of_mem hmem, partAt?]
    by_cases hempty : s.head? = some 62
    · rw [if_pos (hhead.2 hempty), if_pos hempty]
      cases wordAt? (60 :: s) <;> rfl
    · rw [if_neg (mt hhead.1 hempty), if_neg hempty]
      rfl
  · have hpart : partAt? (a :: s) = (wordAt? (a :: s)).map .word := by
      unfold partAt?
      split
      · next heq => exact absurd (List.cons.inj heq).1 ha
      · rfl
    rw [List.cons_append, bracketAt_of_ne ha, hpart]
    cases wordAt? (a :: s) <;> rfl

/-- The leftmost match begins in the name, or behind it. -/
theorem emailMatch_append {u : UInt16} (hu : isSpace u = true) (hclosed : 62 ∈ t) (name : JsString) :
    emailMatch? (name ++ u :: t) =
      ((leadingPart? name).map (AddressPart.content (u :: t)) <|> emailMatch? (u :: t)) := by
  induction name with
  | nil => rfl
  | cons a s ih =>
    have hassoc : ∀ x y z : Option JsString, (x <|> y <|> z) = ((x <|> y) <|> z) := fun x y z => by
      cases x <;> rfl
    have hstart := addressAt_append hu hclosed a s
    rw [List.cons_append] at hstart ⊢
    rw [emailMatch?, leadingPart?, ih, hassoc, hstart]
    cases partAt? (a :: s) <;> rfl

/-! ### The header of an email -/

/-- What dispatch puts behind the name of a protocol, without the white space at its start. -/
def senderTail (domain : JsString) : JsString := js "via Herald <noreply@" ++ domain ++ js ">"

theorem closed_senderTail (domain : JsString) : 62 ∈ senderTail domain :=
  List.mem_append_right _ (by decide)

/-- Up to the first closing bracket behind an at sign and the domain, the domain is left up to one. -/
theorem takeWhile_sender (h : 62 ∉ s) (domain : JsString) :
    (s ++ 64 :: (domain ++ js ">")).takeWhile (· != 62) = s ++ 64 :: domain.takeWhile (· != 62) := by
  have hdomain : (domain ++ js ">").takeWhile (· != 62) = domain.takeWhile (· != 62) := by
    induction domain with
    | nil => rfl
    | cons a domain ih =>
      by_cases ha : a = 62
      · simp [ha]
      · simp [ha, ih]
  have hopen : ∀ u ∈ s, (u != 62) = true := by
    rintro u hu
    refine bne_iff_ne.2 ?_
    rintro rfl
    exact h hu
  rw [List.takeWhile_append_of_pos hopen]
  simp [hdomain]

/-- What an open bracket in the name captures, if the name does not close it. -/
theorem takeWhile_senderTail (h : 62 ∉ s) (domain : JsString) :
    (s ++ 32 :: senderTail domain).takeWhile (· != 62) =
      (s ++ js " via Herald <noreply") ++ 64 :: domain.takeWhile (· != 62) := by
  have hfixed : 62 ∉ js " via Herald <noreply" := by decide
  have hopen : 62 ∉ s ++ js " via Herald <noreply" := fun hmem => (List.mem_append.1 hmem).elim h hfixed
  have hsplit : s ++ 32 :: senderTail domain =
      (s ++ js " via Herald <noreply") ++ 64 :: (domain ++ js ">") := by
    unfold senderTail
    simp only [List.append_assoc]
    rfl
  rw [hsplit, takeWhile_sender hopen]

/-- Behind a name without addresses the sender's own is captured. -/
theorem emailMatch_senderTail (domain : JsString) :
    emailMatch? (32 :: senderTail domain) = some (js "noreply" ++ 64 :: domain.takeWhile (· != 62)) := by
  have hfirst : emailMatch? (32 :: senderTail domain) =
      (bracketAt? (60 :: (js "noreply" ++ 64 :: (domain ++ js ">"))) <|>
        wordAt? (60 :: (js "noreply" ++ 64 :: (domain ++ js ">"))) <|>
          emailMatch? (js "noreply" ++ 64 :: (domain ++ js ">"))) := by
    unfold senderTail
    rw [List.append_assoc]
    rfl
  have hclosed : 62 ∈ js "noreply" ++ 64 :: (domain ++ js ">") :=
    List.mem_append_right _ (List.mem_cons_of_mem _ (List.mem_append_right _ (List.mem_singleton_self _)))
  have hopen : (js "noreply" ++ 64 :: (domain ++ js ">")).head? ≠ some 62 := by
    change some 110 ≠ some 62
    decide
  rw [hfirst, bracketAt_of_mem hclosed, if_neg hopen, takeWhile_sender (by decide)]
  rfl

/-- A domain is read back whole exactly if it is clean. -/
theorem second_part_clean {loc : JsString} (h : 64 ∉ loc) (domain : JsString) :
    (splitOn 64 (loc ++ 64 :: domain.takeWhile (· != 62)))[1]? = some domain ↔ CleanDomain domain := by
  rw [splitOn_append h, List.getElem?_cons_succ, first_part, Option.some.injEq]
  constructor
  · intro heq
    have hat : 64 ∉ domain := heq ▸ (takeWhile_split 64 _).1
    refine ⟨hat, ?_⟩
    rw [takeWhile_eq_self_iff.2 (fun hmem => hat ((List.takeWhile_prefix _).subset hmem))] at heq
    exact takeWhile_eq_self_iff.1 heq
  · rintro ⟨hat, hclosed⟩
    rw [takeWhile_eq_self_iff.2 hclosed, takeWhile_eq_self_iff.2 hat]

/-- The domain that is recovered from the header of an email is the sender's exactly if it survives behind the
name of the protocol. -/
theorem sender_domain_iff (email : JsString) (job : NotificationJobData) (domain : Option JsString)
    (rendered : Rendered) (tracked : Bool) (now : Millis) (link : UnsubscribeLink) :
    headerDomain (emailMessage email job domain rendered tracked now link).fromHeader =
        some (domain.getD (js "useherald.xyz")) ↔
      Survives job.protocolName (domain.getD (js "useherald.xyz")) := by
  generalize hsender : domain.getD (js "useherald.xyz") = d
  have hheader : (emailMessage email job domain rendered tracked now link).fromHeader =
      job.protocolName ++ 32 :: senderTail d := by
    change job.protocolName ++ js " via Herald <noreply@" ++ domain.getD (js "useherald.xyz") ++ js ">" = _
    rw [hsender]
    unfold senderTail
    simp only [List.append_assoc]
    rfl
  have hmatch := emailMatch_append (u := 32) rfl (closed_senderTail d) job.protocolName
  rw [emailMatch_senderTail] at hmatch
  unfold headerDomain Survives
  rw [hheader, hmatch]
  cases leadingPart? job.protocolName with
  | none => exact second_part_clean (by decide) d
  | some part =>
    cases part with
    | word w => exact second_part_iff_leads
    | bracket rest =>
      change (splitOn 64 ((rest ++ 32 :: senderTail d).takeWhile (· != 62)))[1]? = some d ↔ _
      by_cases hclosed : 62 ∈ rest
      · have hrun : (rest ++ 32 :: senderTail d).takeWhile (· != 62) = rest.takeWhile (· != 62) := by
          rw [List.takeWhile_append, if_neg]
          intro hlength
          exact takeWhile_eq_self_iff.1 ((List.takeWhile_prefix _).eq_of_length hlength) hclosed
        rw [hrun]
        simp only [hclosed, if_true]
        exact second_part_iff_leads
      · rw [takeWhile_senderTail hclosed]
        simp only [hclosed, if_false]
        by_cases hat : 64 ∈ rest
        · rw [second_part (List.mem_append_left _ hat)]
          simp only [hat, if_true]
          exact second_part_iff_leads
        · simp only [hat, if_false]
          exact second_part_clean (fun hmem => (List.mem_append.1 hmem).elim hat (by decide)) d

/-- A notification of a protocol of some name. -/
def notificationFrom (protocolName : String) : NotificationJobData where
  notificationId := .uuid 0
  protocolId := js "p"
  protocolPubkey := []
  protocolName := js protocolName
  wallet := js "w"
  subject := []
  body := []
  category := js "system"
  writeReceipt := false
  digestMode := false

/-- A name with an address in it directs the lookup to the domain of that address. -/
theorem name_takes_selector :
    headerDomain (emailMessage [] (notificationFrom "Acme <ops@evil.io>") none ⟨[], []⟩ false 0
      ⟨[], none, 0⟩).fromHeader = some (js "evil.io") ∧
    headerDomain (emailMessage [] (notificationFrom "Acme <ops@evil.io>") none ⟨[], []⟩ false 0
      ⟨[], none, 0⟩).fromHeader ≠ some (js "useherald.xyz") := by
  decide

example : Survives (js "a < b") (js "useherald.xyz") := by
  have hclean : CleanDomain (js "useherald.xyz") := by
    unfold CleanDomain
    decide
  exact hclean

end HeraldGateway
