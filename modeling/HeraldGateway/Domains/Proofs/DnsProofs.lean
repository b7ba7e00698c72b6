import HeraldGateway.Domains.Dns
import HeraldGateway.Text.Proofs.PatternsProofs
import Mathlib.Data.Bool.AllAny

/-!
# What is read from records

A tag is looked for without regard to where tags begin. So the policy and the certificate are read right as
long as nothing before them looks like their tag.
-/

namespace HeraldGateway

open Text

variable {mark text value record after run : JsString} {answer : TxtRecords} {r : DmarcRecord}

/-! ### Answers -/

/-- Of the records of a domain the published one is taken, if it begins with the mark. -/
theorem find_published (h : PublishedAs mark text answer) :
    (resolveTxt (some answer)).find? (mark.isPrefixOf ·) = if mark <+: text then some text else none := by
  obtain ⟨before, record, after, rfl, hrecord, hothers⟩ := h
  have hnone : ∀ others : TxtRecords, (∀ other ∈ others, ¬ mark <+: other.flatten) →
      (others.map List.flatten).find? (mark.isPrefixOf ·) = none := by
    intro others hother
    refine List.find?_eq_none.2 fun s hs hmark => ?_
    obtain ⟨other, hmem, rfl⟩ := List.mem_map.1 hs
    exact hother other hmem (List.isPrefixOf_iff_prefix.1 hmark)
  have hbefore := hnone before fun other hmem => hothers other (List.mem_append_left after hmem)
  have hafter := hnone after fun other hmem => hothers other (List.mem_append_right before hmem)
  rw [resolveTxt, Option.getD_some, List.map_append, List.find?_append, hbefore, Option.none_or,
    List.map_cons, hrecord]
  by_cases hmark : mark <+: text
  · rw [List.find?_cons_of_pos (List.isPrefixOf_iff_prefix.2 hmark), if_pos hmark]
  · rw [List.find?_cons_of_neg (mt List.isPrefixOf_iff_prefix.1 hmark), hafter, if_neg hmark]

theorem resolveTxt_published (h : PublishedAs mark text answer) :
    (resolveTxt (some answer)).isEmpty = false := by
  obtain ⟨before, record, after, rfl, -, -⟩ := h
  simp [resolveTxt]

/-! ### What stands behind a mark -/

/-- Up to the semicolon or the end, only the white space around a value is lost. -/
theorem goesOnWith_iff (hvalue : 59 ∉ value ∧ trim value = value) :
    DmarcRecord.GoesOnWith value after ↔ trim (after.takeWhile (· != 59)) = value := by
  constructor
  · rintro ⟨a, b, rest, rfl, hspaces, hrest⟩
    have ha : ∀ u ∈ a, isSpace u = true := fun u hu => hspaces u (List.mem_append_left b hu)
    have hb : ∀ u ∈ b, isSpace u = true := fun u hu => hspaces u (List.mem_append_right a hu)
    have hspace : ∀ s : JsString, (∀ u ∈ s, isSpace u = true) → 59 ∉ s := fun s hs hin =>
      absurd (hs 59 hin) (by decide)
    have hstop : 59 ∉ a ++ value ++ b := by
      simp only [List.mem_append, not_or]
      exact ⟨⟨hspace a ha, hvalue.1⟩, hspace b hb⟩
    have hrun : (a ++ value ++ b ++ rest).takeWhile (· != 59) = a ++ value ++ b := by
      rcases hrest with rfl | ⟨tail, rfl⟩
      · rw [List.append_nil, takeWhile_of_not_mem hstop]
      · exact takeWhile_stop hstop
    rw [hrun, trim_spaces ha hb, hvalue.2]
  · intro htrim
    obtain ⟨a, b, hrun, ha, hb⟩ := exists_trim (after.takeWhile (· != 59))
    rw [htrim] at hrun
    refine ⟨a, b, after.dropWhile (· != 59), ?_, fun u hu => ?_, ?_⟩
    · rw [← hrun, List.takeWhile_append_dropWhile]
    · rcases List.mem_append.1 hu with hu | hu
      · exact ha u hu
      · exact hb u hu
    · cases hrest : after.dropWhile (· != 59) with
      | nil => exact .inl rfl
      | cons u tail =>
        have hstop := List.head?_dropWhile_not (· != 59) after
        rw [hrest] at hstop
        obtain rfl : u = 59 := by simpa using hstop
        exact .inr ⟨tail, rfl⟩

/-- The text of a tag, by the first mark. -/
theorem tagText_of_first {before : JsString} (h : FirstMarked mark 59 record before after) :
    tagText mark record = some (trim (after.takeWhile (· != 59))) := by
  rw [tagText, captured?_of_first h]
  rfl

theorem tagText_eq_none (h : ∀ before after, ¬ Marked mark 59 record before after) :
    tagText mark record = none := by
  rw [tagText, captured?_eq_none_iff.2 h]
  rfl

/-! ### DMARC -/

theorem toLowerCase_strict (h : value ∈ strictPolicies) : toLowerCase value = value := by
  have hall : ∀ s ∈ strictPolicies, toLowerCase s = s := by decide
  exact hall value h

theorem none_not_strict : toLowerCase (js "none") ∉ strictPolicies := by decide

/-- What is returned for a record that begins with its version. -/
theorem checkDmarcPolicy_published (h : PublishedAs dmarcVersion record answer)
    (hbegins : dmarcVersion <+: record) :
    let policy := tagText (js "p=") record
    (checkDmarcPolicy (some answer)).valid = policy.any strictPolicies.contains ∧
      (checkDmarcPolicy (some answer)).policy = if truthy policy then policy else some (js "none") := by
  have hfind := find_published h
  rw [if_pos hbegins] at hfind
  unfold checkDmarcPolicy
  dsimp only
  rw [resolveTxt_published h, hfind]
  by_cases hstrict : (tagText (js "p=") record).any strictPolicies.contains = true
  · obtain ⟨policy, hpolicy, hmem⟩ := (Option.any_eq_true _ _).1 hstrict
    have htruthy : truthy (tagText (js "p=") record) = true := by
      rw [truthy_eq_true]
      refine ⟨policy, hpolicy, ?_⟩
      rintro rfl
      exact absurd hmem (by decide)
    simp [hstrict, htruthy]
  · simp [hstrict]

theorem checkDmarcPolicy_unversioned (h : PublishedAs dmarcVersion record answer)
    (hbegins : ¬ dmarcVersion <+: record) : (checkDmarcPolicy (some answer)).policy = none := by
  have hfind := find_published h
  rw [if_neg hbegins] at hfind
  unfold checkDmarcPolicy
  dsimp only
  rw [resolveTxt_published h, hfind]
  rfl

/-- A record without a mark says `none`. -/
theorem isRead_of_unmarked (h : PublishedAs dmarcVersion r.text answer) (hbegins : dmarcVersion <+: r.text)
    (hnone : ∀ before after, ¬ Marked (js "p=") 59 r.text before after) :
    r.IsRead (checkDmarcPolicy (some answer)) ↔ r.policy = js "none" := by
  obtain ⟨hvalid, hpolicy⟩ := checkDmarcPolicy_published h hbegins
  rw [tagText_eq_none hnone] at hvalid hpolicy
  constructor
  · intro hread
    exact (Option.some.inj (hpolicy.symm.trans hread.reported)).symm
  · intro hnamed
    refine ⟨by rw [hpolicy, hnamed]; rfl, ?_⟩
    rw [hvalid, hnamed]
    exact iff_of_false nofun none_not_strict

/-- From a record with a mark the text behind the first one is read. -/
theorem isRead_of_first {before : JsString} (h : PublishedAs dmarcVersion r.text answer)
    (hbegins : dmarcVersion <+: r.text) (hfirst : FirstMarked (js "p=") 59 r.text before after) :
    r.IsRead (checkDmarcPolicy (some answer)) ↔
      (DmarcRecord.GoesOnWith r.policy after ∨ DmarcRecord.GoesOnWith [] after ∧ r.policy = js "none") ∧
        (toLowerCase r.policy ∈ strictPolicies → r.policy ∈ strictPolicies) := by
  obtain ⟨hvalid, hpolicy⟩ := checkDmarcPolicy_published h hbegins
  have hne : r.policy ≠ [] := r.policy_ok.2
  have hempty : 59 ∉ ([] : JsString) ∧ trim [] = [] := ⟨List.not_mem_nil, rfl⟩
  rw [tagText_of_first hfirst] at hvalid hpolicy
  have hvalue : 59 ∉ r.policy ∧ trim r.policy = r.policy := r.policyTag.value_ok
  rw [goesOnWith_iff hvalue, goesOnWith_iff hempty]
  generalize trim (after.takeWhile (· != 59)) = read at hvalid hpolicy
  cases read with
  | nil =>
    have hpolicy : (checkDmarcPolicy (some answer)).policy = some (js "none") := hpolicy
    have hinvalid : (checkDmarcPolicy (some answer)).valid = false := hvalid
    constructor
    · intro hread
      have hnone : r.policy = js "none" := (Option.some.inj (hpolicy.symm.trans hread.reported)).symm
      exact ⟨.inr ⟨rfl, hnone⟩, fun hlower => absurd (hnone ▸ hlower) none_not_strict⟩
    · rintro ⟨heq | ⟨-, hnone⟩, -⟩
      · exact absurd heq.symm hne
      · refine ⟨by rw [hpolicy, hnone], ?_⟩
        rw [hinvalid, hnone]
        exact iff_of_false Bool.false_ne_true none_not_strict
  | cons u read =>
    have hpolicy : (checkDmarcPolicy (some answer)).policy = some (u :: read) := hpolicy
    have hstrict : (checkDmarcPolicy (some answer)).valid = true ↔ u :: read ∈ strictPolicies := by
      rw [hvalid, Option.any_some, List.contains_iff_mem]
    constructor
    · intro hread
      have heq : u :: read = r.policy := Option.some.inj (hpolicy.symm.trans hread.reported)
      exact ⟨.inl heq, fun hlower => heq ▸ hstrict.1 (hread.valid.2 hlower)⟩
    · rintro ⟨heq | ⟨hnil, -⟩, hlower⟩
      · refine ⟨by rw [hpolicy, heq], hstrict.trans ⟨fun hmem => ?_, fun hmem => ?_⟩⟩
        · rw [heq] at hmem
          rwa [toLowerCase_strict hmem]
        · rw [heq]
          exact hlower hmem
      · cases hnil

/-- The policy is read from a record exactly if the record is plain. -/
theorem dmarc_read_iff (r : DmarcRecord) (answer : TxtRecords) (h : PublishedAs dmarcVersion r.text answer) :
    r.IsRead (checkDmarcPolicy (some answer)) ↔ r.Plain := by
  by_cases hbegins : dmarcVersion <+: r.text
  · cases hcaptured : captured? (js "p=") 59 r.text with
    | none =>
      have hnone := captured?_eq_none_iff.1 hcaptured
      rw [isRead_of_unmarked h hbegins hnone]
      constructor
      · intro hpolicy
        refine ⟨hbegins, fun before after hfirst => ?_, fun _ => hpolicy, fun hlower => ?_⟩
        · exact absurd hfirst.toMarked (hnone before after)
        · exact absurd (hpolicy ▸ hlower) none_not_strict
      · exact fun hplain => hplain.unmarked hnone
    | some run =>
      obtain ⟨before, after, hfirst, -⟩ := captured?_eq_some hcaptured
      constructor
      · intro hread
        have hsaid := (isRead_of_first h hbegins hfirst).1 hread
        refine ⟨hbegins, fun _ _ hfirst' => ?_, fun hnone => ?_, hsaid.2⟩
        · exact ((isRead_of_first h hbegins hfirst').1 hread).1
        · exact absurd hfirst.toMarked (hnone before after)
      · exact fun hplain =>
          (isRead_of_first h hbegins hfirst).2 ⟨hplain.marked before after hfirst, hplain.lower⟩
  · refine iff_of_false (fun hread => ?_) fun hplain => hbegins hplain.begins
    have hreported := hread.reported
    rw [checkDmarcPolicy_unversioned h hbegins] at hreported
    cases hreported

theorem publishedAs_alone (mark text : JsString) : PublishedAs mark text [[text]] :=
  ⟨[], [text], [], rfl, List.append_nil text, fun _ h => absurd h List.not_mem_nil⟩

/-- The version of a record. -/
def versionTag : DmarcTag where
  name := js "v"
  value := js "DMARC1"
  name_ok := ⟨by decide, List.all_iff_forall_prop.1 (by decide)⟩
  value_ok := by decide
  spaces_ok := List.all_iff_forall_prop.1 (by decide)

/-- The policy of subdomains, or that of the domain itself, after a blank. -/
def policyOf (forSubdomains strict : Bool) : DmarcTag where
  beforeName := js " "
  name := if forSubdomains then js "sp" else js "p"
  value := if strict then js "reject" else js "none"
  name_ok := by cases forSubdomains <;> exact ⟨by decide, List.all_iff_forall_prop.1 (by decide)⟩
  value_ok := by cases strict <;> decide
  spaces_ok := List.all_iff_forall_prop.1 (by decide)

/-- A record with both policies, that of subdomains first or last. -/
def twoPolicies (subdomainsFirst : Bool) : DmarcRecord where
  version := versionTag
  before := if subdomainsFirst then [policyOf true true] else []
  policyTag := policyOf false false
  after := if subdomainsFirst then [] else [policyOf true true]
  version_ok := by decide
  policy_ok := by decide
  others_ok := by
    intro t ht
    have heq : t = policyOf true true := by cases subdomainsFirst <;> simpa using ht
    rw [heq]
    decide
  ending_ok := .inl rfl

theorem dmarc_read_subdomainsLast : (twoPolicies false).Plain :=
  (dmarc_read_iff (twoPolicies false) [[(twoPolicies false).text]] (publishedAs_alone _ _)).1
    ⟨by decide, by decide⟩

/-- The policy of subdomains is taken for that of the domain. -/
theorem subdomain_policy_read :
    (twoPolicies true).text = js "v=DMARC1; sp=reject; p=none" ∧
      ¬ (twoPolicies true).IsRead (checkDmarcPolicy (some [[(twoPolicies true).text]])) :=
  ⟨by decide, fun h => absurd h.reported (by decide)⟩

/-! ### BIMI -/

variable {logoUrl : JsString} {vmcUrl : Option JsString}

/-- What is found by a tag has no semicolon and no white space around it. -/
theorem tagText_some (h : tagText mark record = some value) : 59 ∉ value ∧ trim value = value := by
  obtain ⟨run, hcaptured, rfl⟩ := Option.map_eq_some_iff.1 h
  obtain ⟨a, b, hrun, -, -⟩ := exists_trim run
  refine ⟨fun hin => stop_not_mem_captured hcaptured ?_, trim_trim⟩
  rw [hrun]
  exact List.mem_append_left b (List.mem_append_right a hin)

/-- The tag of a certificate, behind the semicolon. -/
def certificateTag (vmcUrl : Option JsString) : JsString :=
  if truthy vmcUrl then js " a=" ++ vmcUrl.getD [] ++ js ";" else js " a=;"

theorem generateDnsRecord_eq (logoUrl : JsString) (vmcUrl : Option JsString) :
    generateDnsRecord logoUrl vmcUrl =
      js "v=BIMI1; " ++ (js "l=" ++ (logoUrl ++ 59 :: certificateTag vmcUrl)) := by
  have hhead : js "v=BIMI1; l=" = js "v=BIMI1; " ++ js "l=" := by decide
  have hstop : js ";" = [59] := by decide
  rw [generateDnsRecord, hhead, certificateTag]
  simp only [List.append_assoc, hstop, List.singleton_append]

theorem bimiVersion_prefix : bimiVersion <+: generateDnsRecord logoUrl vmcUrl := by
  rw [generateDnsRecord_eq]
  have hhead : bimiVersion <+: js "v=BIMI1; " := by decide
  exact hhead.trans (List.prefix_append _ _)

theorem logoTag_eq (hlogo : logoUrl ≠ []) (hstop : 59 ∉ logoUrl) :
    tagText (js "l=") (generateDnsRecord logoUrl vmcUrl) = some (trim logoUrl) := by
  have hfirst : (js "l=").head? = some 108 := by decide
  have hnot : 108 ∉ js "v=BIMI1; " := by decide
  have hrun : (logoUrl ++ 59 :: certificateTag vmcUrl).takeWhile (· != 59) = logoUrl := takeWhile_stop hstop
  have hcaptured : captured? (js "l=") 59 (generateDnsRecord logoUrl vmcUrl) = some logoUrl := by
    rw [generateDnsRecord_eq, captured?_append_of_not_mem hfirst hnot,
      captured?_mark_append (by rwa [hrun]), hrun]
  rw [tagText, hcaptured]
  rfl

/-- A certificate is looked for in the logo first. -/
theorem captured_certificate (hstop : 59 ∉ logoUrl) :
    captured? (js "a=") 59 (generateDnsRecord logoUrl vmcUrl) =
      (captured? (js "a=") 59 logoUrl).or (captured? (js "a=") 59 (59 :: certificateTag vmcUrl)) := by
  have hfirst : (js "a=").head? = some 97 := by decide
  have hnot : 97 ∉ js "v=BIMI1; " ++ js "l=" := by decide
  have hmark : 59 ∉ js "a=" := by decide
  rw [generateDnsRecord_eq, ← List.append_assoc, captured?_append_of_not_mem hfirst hnot,
    captured?_append_stop hmark hstop]

/-- Behind the logo the certificate is found. -/
theorem captured_certificateTag (h : ∀ u ∈ givenCertificate vmcUrl, 59 ∉ u) :
    captured? (js "a=") 59 (59 :: certificateTag vmcUrl) = givenCertificate vmcUrl := by
  unfold certificateTag
  by_cases hgiven : truthy vmcUrl = true
  · obtain ⟨u, rfl, hne⟩ := truthy_eq_true.1 hgiven
    have hu : givenCertificate (some u) = some u := if_pos hgiven
    have hfirst : (js "a=").head? = some 97 := by decide
    have hnot : 97 ∉ js "; " := by decide
    have hsplit : 59 :: (js " a=" ++ u ++ js ";") = js "; " ++ (js "a=" ++ (u ++ 59 :: [])) := by
      have htag : 59 :: js " a=" = js "; " ++ js "a=" := by decide
      have hstop : js ";" = [59] := by decide
      rw [List.append_assoc, ← List.cons_append, htag, hstop, List.append_assoc]
    have hrun : (u ++ 59 :: []).takeWhile (· != 59) = u := takeWhile_stop (h u hu)
    rw [if_pos hgiven, Option.getD_some, hsplit, captured?_append_of_not_mem hfirst hnot,
      captured?_mark_append (by rwa [hrun]), hrun, hu]
  · rw [if_neg hgiven, givenCertificate, if_neg hgiven]
    decide

/-- What is returned for a record that was generated. -/
theorem checkBimiRecord_generated (hlogo : logoUrl ≠ [])
    (h : PublishedAs bimiVersion (generateDnsRecord logoUrl vmcUrl) answer) :
    BimiRead logoUrl vmcUrl (checkBimiRecord (some answer) (some logoUrl)) ↔
      tagText (js "l=") (generateDnsRecord logoUrl vmcUrl) = some logoUrl ∧
        tagText (js "a=") (generateDnsRecord logoUrl vmcUrl) = givenCertificate vmcUrl := by
  have hfind := find_published h
  rw [if_pos bimiVersion_prefix] at hfind
  have htruthy : truthy (some logoUrl) = true := truthy_eq_true.2 ⟨logoUrl, rfl, hlogo⟩
  unfold checkBimiRecord
  dsimp only
  rw [resolveTxt_published h, hfind]
  constructor
  · exact fun hread => ⟨hread.logo, hread.certificate⟩
  · rintro ⟨hlogoTag, hcertificate⟩
    refine ⟨rfl, hlogoTag, hcertificate, ?_⟩
    change (if truthy (some logoUrl) = true then _ else true) = true
    rw [if_pos htruthy, hlogoTag, beq_self_eq_true]

/-- A BIMI record is read as it was generated exactly if its URLs are plain. -/
theorem bimi_read_iff (logoUrl : JsString) (vmcUrl : Option JsString) (answer : TxtRecords)
    (hlogo : logoUrl ≠ []) (h : PublishedAs bimiVersion (generateDnsRecord logoUrl vmcUrl) answer) :
    BimiRead logoUrl vmcUrl (checkBimiRecord (some answer) (some logoUrl)) ↔ BimiPlain logoUrl vmcUrl := by
  rw [checkBimiRecord_generated hlogo h]
  -- a mark inside of the logo is the first one
  have hinside : ∀ before after, 59 ∉ logoUrl → FirstMarked (js "a=") 59 logoUrl before after →
      tagText (js "a=") (generateDnsRecord logoUrl vmcUrl) = some (trim after) := by
    intro before after hstop hfirst
    have hafter : 59 ∉ after := fun hin => hstop (by
      rw [hfirst.split]
      exact List.mem_append_right before (List.mem_append_right _ hin))
    rw [tagText, captured_certificate hstop, captured?_of_first hfirst, takeWhile_of_not_mem hafter]
    rfl
  constructor
  · rintro ⟨hlogoTag, hcertificate⟩
    have hplain := tagText_some hlogoTag
    refine ⟨hplain, fun u hu => tagText_some (hcertificate.trans hu), fun before after hfirst => ?_⟩
    exact hcertificate.symm.trans (hinside before after hplain.1 hfirst)
  · intro hplain
    refine ⟨by rw [logoTag_eq hlogo hplain.logo.1, hplain.logo.2], ?_⟩
    cases hcaptured : captured? (js "a=") 59 logoUrl with
    | some run =>
      obtain ⟨before, after, hfirst, -⟩ := captured?_eq_some hcaptured
      rw [hinside before after hplain.logo.1 hfirst, hplain.apart before after hfirst]
    | none =>
      have hstop : ∀ u ∈ givenCertificate vmcUrl, 59 ∉ u := fun u hu => (hplain.certificate u hu).1
      rw [tagText, captured_certificate hplain.logo.1, hcaptured, Option.none_or,
        captured_certificateTag hstop]
      cases hgiven : givenCertificate vmcUrl with
      | none => rfl
      | some u => rw [Option.map_some, (hplain.certificate u hgiven).2]

/-- A logo whose URL has a parameter. -/
def dataLogo : JsString := js "https://a.co/x.svg?data=1"

theorem bimi_read_certified :
    BimiPlain (js "https://a.co/x.svg") (some (js "https://a.co/x.pem")) := by
  refine (bimi_read_iff _ _ [[_]] (by decide) (publishedAs_alone _ _)).1 ⟨?_, ?_, ?_, ?_⟩
  · decide
  · decide
  · decide
  · decide

/-- The parameter is taken for a certificate. -/
theorem parameter_read_as_certificate :
    (checkBimiRecord (some [[generateDnsRecord dataLogo none]]) (some dataLogo)).vmcUrl = some (js "1") ∧
      ¬ BimiRead dataLogo none (checkBimiRecord (some [[generateDnsRecord dataLogo none]]) (some dataLogo)) := by
  have hread : (checkBimiRecord (some [[generateDnsRecord dataLogo none]]) (some dataLogo)).vmcUrl =
      some (js "1") := by decide
  refine ⟨hread, fun h => ?_⟩
  have hcertificate := hread.symm.trans h.certificate
  cases hcertificate

end HeraldGateway
