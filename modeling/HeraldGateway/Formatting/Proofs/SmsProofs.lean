import HeraldGateway.Formatting.Sms
import Mathlib.Tactic.SplitIfs

/-!
# Proofs: the sizes of SMS

The cut is behind the last break of what the budget leaves. How long the message gets is asked of all breaks at once, as
the last is the one that leaves most.
-/

namespace HeraldGateway.SnsService

open LinkParser

/-! ## Places of breaks -/

theorem lastIndexOf_concat (c a : UInt16) (s : JsString) :
    lastIndexOf c (s ++ [a]) = if a = c then (s.length : Int) else lastIndexOf c s := by
  unfold lastIndexOf
  rw [List.reverse_append, List.reverse_singleton, List.singleton_append, List.idxOf_cons, List.length_append,
    List.length_singleton]
  by_cases h : a = c
  · rw [if_pos h, h, BEq.rfl, cond_true]
    omega
  · rw [if_neg h, beq_false_of_ne h, cond_false]
    omega

/-- Some place behind `x` has the unit exactly when the last one is behind `x`. -/
theorem lt_lastIndexOf {c : UInt16} {s : JsString} {x : Int} (hx : -1 ≤ x) :
    x < lastIndexOf c s ↔ ∃ i : Nat, x < i ∧ s[i]? = some c := by
  induction s using List.reverseRecOn with
  | nil =>
    constructor
    · intro h
      exact absurd (show x < -1 from h) (by omega)
    · rintro ⟨i, -, hi⟩
      cases hi
  | append_singleton s a ih =>
    rw [lastIndexOf_concat]
    split_ifs with h
    · constructor
      · intro hlt
        exact ⟨s.length, hlt, by rw [List.getElem?_concat_length, h]⟩
      · rintro ⟨i, hi, hsome⟩
        obtain ⟨hlength, -⟩ := List.getElem?_eq_some_iff.1 hsome
        rw [List.length_append, List.length_singleton] at hlength
        omega
    · rw [ih]
      refine exists_congr fun i => and_congr_right fun _ => ?_
      rcases Nat.lt_trichotomy i s.length with hlt | rfl | hgt
      · rw [List.getElem?_append_left hlt]
      · rw [List.getElem?_concat_length, List.getElem?_eq_none le_rfl, Option.some.injEq]
        exact ⟨nofun, fun hac => absurd hac h⟩
      · have hlength : (s ++ [a]).length ≤ i := by
          rw [List.length_append, List.length_singleton]
          omega
        rw [List.getElem?_eq_none hgt.le, List.getElem?_eq_none hlength]

theorem lastIndexOf_lt (c : UInt16) (s : JsString) : lastIndexOf c s < s.length := by
  unfold lastIndexOf
  omega

variable {text : JsString} {budget : Nat} {x : Int}

/-- The last space within the budget. -/
theorem lt_lastSpace (hx : -1 ≤ x) :
    x < lastIndexOf 32 (text.take budget) ↔ ∃ i : Nat, i < budget ∧ x < i ∧ text[i]? = some 32 := by
  rw [lt_lastIndexOf hx]
  refine exists_congr fun i => ?_
  rw [List.getElem?_take]
  split_ifs with h
  · exact (and_iff_right h).symm
  · exact ⟨fun hi => (nomatch hi.2), fun hi => absurd hi.1 h⟩

/-- The last punctuation mark within the budget. -/
def lastMark (text : JsString) (budget : Nat) : Int :=
  max (lastIndexOf 46 (text.take budget)) (max (lastIndexOf 33 (text.take budget)) (lastIndexOf 63 (text.take budget)))

theorem lt_lastMark (hx : -1 ≤ x) : x < lastMark text budget ↔
    ∃ i : Nat, i < budget ∧ x < i ∧ ∃ u ∈ text[i]?, isPunctuation u = true := by
  rw [lastMark, lt_max_iff, lt_max_iff, lt_lastIndexOf hx, lt_lastIndexOf hx, lt_lastIndexOf hx, ← exists_or,
    ← exists_or]
  refine exists_congr fun i => ?_
  rw [List.getElem?_take]
  split_ifs with h
  · rw [← and_or_left, ← and_or_left, and_iff_right h]
    refine and_congr_right fun _ => ?_
    cases text[i]? with
    | none => simp
    | some u => simp [isPunctuation, or_assoc]
  · exact ⟨fun hi => by simp at hi, fun hi => absurd hi.1 h⟩

/-! ## The cut -/

section

variable {P : Nat → Prop} {last : Int}

/-- A place in the second half. -/
theorem exists_late_iff (hlast : ∀ x : Int, -1 ≤ x → (x < last ↔ ∃ i : Nat, i < budget ∧ x < i ∧ P i)) :
    (∃ i < budget, budget < 2 * i ∧ P i) ↔ 2 * last > budget := by
  have hhalf := hlast (budget / 2) (by omega)
  rw [show 2 * last > budget ↔ (budget : Int) / 2 < last by omega, hhalf]
  exact exists_congr fun i => and_congr_right fun _ => and_congr_left fun _ => by omega

/-- The last place is the one that leaves most. -/
theorem forall_le_iff (hlast : ∀ x : Int, -1 ≤ x → (x < last ↔ ∃ i : Nat, i < budget ∧ x < i ∧ P i)) (hpos : 0 ≤ last)
    (overhead k limit : Nat) :
    (∀ i < budget, P i → overhead + (i + k) ≤ limit) ↔ overhead + (last.toNat + k) ≤ limit := by
  constructor
  · intro hall
    obtain ⟨i, hi, hle, hP⟩ := (hlast (last - 1) (by omega)).1 (by omega)
    have := hall i hi hP
    omega
  · intro hle i hi hP
    have hmax : ¬last < i := fun hlt => lt_irrefl last ((hlast last (by omega)).2 ⟨i, hi, hlt, hP⟩)
    omega

end

/-- What `truncateToWordBoundary` makes of a text that is too long: some units of it, or all that the budget leaves and
an ellipsis. -/
theorem truncate_cases (hlong : budget < text.length) (hbudget : 0 < budget) :
    (∃ n, 0 < n ∧ n ≤ budget ∧ truncateToWordBoundary text budget = text.take n ∧
        ∀ overhead limit, BreaksEarly text budget overhead limit ↔ overhead + n ≤ limit) ∨
      truncateToWordBoundary text budget = text.take (budget - 1) ++ js "…" ∧
        ∀ overhead limit, ¬BreaksEarly text budget overhead limit := by
  have htake : (text.take budget).length = budget := List.length_take_of_le hlong.le
  have hlt : ∀ c, lastIndexOf c (text.take budget) < budget := by
    intro c
    have := lastIndexOf_lt c (text.take budget)
    rwa [htake] at this
  have hspaces := exists_late_iff fun x hx => @lt_lastSpace text budget x hx
  have hmarks := exists_late_iff fun x hx => @lt_lastMark text budget x hx
  unfold truncateToWordBoundary BreaksEarly
  rw [if_neg (Nat.not_le.2 hlong)]
  dsimp only
  rw [← lastMark]
  by_cases hspace : 2 * lastIndexOf 32 (text.take budget) > budget
  · refine .inl ⟨(lastIndexOf 32 (text.take budget)).toNat, by omega, ?_, ?_, fun overhead limit => ?_⟩
    · have := hlt 32
      omega
    · rw [if_pos hspace, List.take_take, Nat.min_eq_left]
      have := hlt 32
      omega
    · have hpos : 0 ≤ lastIndexOf 32 (text.take budget) := by omega
      rw [if_pos (hspaces.2 hspace)]
      exact forall_le_iff (fun x hx => lt_lastSpace hx) hpos overhead 0 limit
  rw [if_neg hspace]
  simp only [if_neg (mt hspaces.1 hspace)]
  by_cases hmark : 2 * lastMark text budget > budget
  · have hend : lastMark text budget < budget := max_lt (hlt 46) (max_lt (hlt 33) (hlt 63))
    refine .inl ⟨(lastMark text budget).toNat + 1, Nat.succ_pos _, by omega, ?_, fun overhead limit => ?_⟩
    · rw [if_pos hmark, List.take_take, Nat.min_eq_left (by omega)]
      congr 1
      omega
    · have hpos : 0 ≤ lastMark text budget := by omega
      rw [and_iff_right (hmarks.2 hmark)]
      have hall := forall_le_iff (fun x hx => lt_lastMark hx) hpos overhead 1 limit
      simpa only [forall_exists_index, and_imp] using hall
  · refine .inr ⟨?_, fun overhead limit hearly => hmark (hmarks.1 hearly.1)⟩
    rw [if_neg hmark, truncateToCharLimit, if_neg (Nat.not_le.2 hlong)]

/-! ## The message -/

variable (params : SmsMessageParams)

/-- What is left of the body in the message. -/
def shownBody : JsString :=
  let cleanText := stripMarkdown params.body
  let bodyBudget := (encodingOf cleanText).single - overhead params
  let truncatedBody := truncateToWordBoundary cleanText bodyBudget
  if truncatedBody.length = 0 then truncateToCharLimit cleanText bodyBudget else truncatedBody

theorem encoding_buildSmsBody : (buildSmsBody params).encoding = encodingOf (stripMarkdown params.body) := by
  simp only [buildSmsBody, encodingOf]

theorem body_buildSmsBody : (buildSmsBody params).body =
    namePrefix params ++ subjectLine params ++ shownBody params ++ viaSuffix := by
  unfold buildSmsBody shownBody encodingOf
  generalize stripMarkdown params.body = cleanText
  cases h : isGsm7Encoding cleanText <;> simp only [h, SmsEncoding.single, Bool.false_eq_true, if_true, if_false]

theorem length_buildSmsBody : (buildSmsBody params).body.length = overhead params + (shownBody params).length := by
  rw [body_buildSmsBody, overhead]
  simp only [List.length_append]
  omega

theorem segments_buildSmsBody : (buildSmsBody params).segments =
    ((buildSmsBody params).body.length + (encodingOf (stripMarkdown params.body)).multi - 1) /
      (encodingOf (stripMarkdown params.body)).multi := by
  unfold buildSmsBody encodingOf calculateSegments
  generalize stripMarkdown params.body = cleanText
  cases h : isGsm7Encoding cleanText <;> simp only [h, SmsEncoding.multi, Bool.false_eq_true, if_true, if_false]

theorem overhead_eq : overhead params = params.protocolName.length + params.subject.length + 18 := by
  simp only [overhead, namePrefix, subjectLine, viaSuffix, List.length_append]
  rw [show (js "[").length = 1 from rfl, show (js "] ").length = 2 from rfl, show (js ": ").length = 2 from rfl,
    show (js " (via Herald)").length = 13 from rfl]
  omega

theorem isAscii_append (s t : JsString) : isAscii (s ++ t) = (isAscii s && isAscii t) :=
  List.all_append

/-- The message is in the alphabet where its parts are. -/
theorem alphabet_iff : isGsm7Encoding (buildSmsBody params).body = true ↔
    isAscii params.protocolName = true ∧ isAscii params.subject = true ∧ isAscii (shownBody params) = true := by
  have hne : (buildSmsBody params).body.isEmpty = false := by
    rw [List.isEmpty_eq_false_iff, ← List.length_pos_iff, length_buildSmsBody, overhead_eq]
    omega
  rw [isGsm7Encoding, hne, body_buildSmsBody, namePrefix, subjectLine, viaSuffix]
  simp only [isAscii_append, show isAscii (js "[") = true from rfl, show isAscii (js "] ") = true from rfl,
    show isAscii (js ": ") = true from rfl, show isAscii (js " (via Herald)") = true from rfl, Bool.and_true,
    Bool.true_and, Bool.not_false, Bool.and_eq_true, and_assoc]

theorem ceil_eq_one_iff {n k : Nat} (hn : 0 < n) (hk : 0 < k) : (n + k - 1) / k = 1 ↔ n ≤ k := by
  rw [Nat.div_eq_iff hk]
  omega

theorem ceil_spec {n k : Nat} (hn : 0 < n) (hk : 0 < k) :
    k * ((n + k - 1) / k - 1) < n ∧ n ≤ k * ((n + k - 1) / k) := by
  have hdiv := Nat.div_add_mod (n + k - 1) k
  have hmod := Nat.mod_lt (n + k - 1) hk
  rw [Nat.mul_sub_one]
  omega

/-- The sizes are right exactly when the alphabet is, and the message is no longer than the shorter limit where its fixed
parts are no longer than the longer one. -/
theorem sizedRight_iff {e : SmsEncoding} (he : encodingOf (stripMarkdown params.body) = e) :
    SizedRight params (buildSmsBody params) ↔
      (e = .gsm7 →
        isAscii params.protocolName = true ∧ isAscii params.subject = true ∧ isAscii (shownBody params) = true) ∧
      (overhead params ≤ e.single → overhead params + (shownBody params).length ≤ e.multi) := by
  have hmulti : 0 < e.multi ∧ e.multi < e.single := by cases e <;> decide
  have hpos : 0 < (buildSmsBody params).body.length := by
    rw [length_buildSmsBody, overhead_eq]
    omega
  have hsegments := segments_buildSmsBody params
  have hone := ceil_eq_one_iff hpos hmulti.1
  have hlength := length_buildSmsBody params
  rw [he] at hsegments
  constructor
  · rintro ⟨halphabet, hfits, hsegment, -⟩
    rw [encoding_buildSmsBody, he] at halphabet hfits hsegment
    rw [hsegments, hone, hlength] at hsegment
    refine ⟨fun hgsm => (alphabet_iff params).1 (halphabet hgsm), fun hover => hsegment.2 ?_⟩
    rw [← hlength]
    exact hfits hover
  · rintro ⟨halphabet, hfits⟩
    refine ⟨fun hgsm => (alphabet_iff params).2 (halphabet ?_), fun hover => ?_, ?_, fun _ => ?_⟩
    · rwa [encoding_buildSmsBody, he] at hgsm
    · rw [encoding_buildSmsBody, he] at hover ⊢
      have := hfits hover
      omega
    · rw [encoding_buildSmsBody, he, hsegments, hone]
      omega
    · rw [encoding_buildSmsBody, he, hsegments]
      exact ceil_spec hpos hmulti.1

theorem isAscii_take {text : JsString} (h : isAscii text = true) (n : Nat) : isAscii (text.take n) = true :=
  List.all_eq_true.2 fun u hu => List.all_eq_true.1 h u (List.mem_of_mem_take hu)

theorem isAscii_of_gsm7 {text : JsString} (h : encodingOf text = .gsm7) : isAscii text = true := by
  unfold encodingOf isGsm7Encoding at h
  by_contra hascii
  rw [Bool.not_eq_true] at hascii
  rw [hascii, Bool.and_false] at h
  cases h

/-- What the body contributes where the fixed parts leave room for some of it. -/
theorem shownBody_iff (hroom : overhead params < (encodingOf (stripMarkdown params.body)).single) :
    ((encodingOf (stripMarkdown params.body) = .gsm7 → isAscii (shownBody params) = true) ∧
        overhead params + (shownBody params).length ≤ (encodingOf (stripMarkdown params.body)).multi) ↔
      if (stripMarkdown params.body).length ≤ (encodingOf (stripMarkdown params.body)).single - overhead params then
        overhead params + (stripMarkdown params.body).length ≤ (encodingOf (stripMarkdown params.body)).multi
      else BreaksEarly (stripMarkdown params.body) ((encodingOf (stripMarkdown params.body)).single - overhead params)
        (overhead params) (encodingOf (stripMarkdown params.body)).multi := by
  unfold shownBody
  generalize stripMarkdown params.body = cleanText at hroom ⊢
  have hmulti : (encodingOf cleanText).multi < (encodingOf cleanText).single := by
    cases encodingOf cleanText <;> decide
  dsimp only
  generalize hbudget : (encodingOf cleanText).single - overhead params = budget
  by_cases hshort : cleanText.length ≤ budget
  · have hkeep : truncateToWordBoundary cleanText budget = cleanText := if_pos hshort
    have hkeep' : truncateToCharLimit cleanText budget = cleanText := if_pos hshort
    rw [hkeep, hkeep', ite_self, if_pos hshort, and_iff_right fun hgsm => isAscii_of_gsm7 hgsm]
  rw [if_neg hshort]
  rcases truncate_cases (Nat.lt_of_not_le hshort) (show 0 < budget by omega) with
    ⟨n, hn, hle, htake, hearly⟩ | ⟨hcut, hearly⟩
  · have hlength : (cleanText.take n).length = n := List.length_take_of_le (by omega)
    rw [htake, hlength, if_neg hn.ne', hlength, hearly,
      and_iff_right fun hgsm => isAscii_take (isAscii_of_gsm7 hgsm) n]
  · have hlength : (cleanText.take (budget - 1) ++ js "…").length = budget := by
      rw [List.length_append, List.length_take_of_le (by omega), show (js "…").length = 1 from rfl]
      omega
    rw [hcut, hlength, if_neg (by omega), hlength]
    exact ⟨fun h => absurd h.2 (by omega), fun h => absurd h (hearly _ _)⟩

/-- Without room an ellipsis stands for the whole body. -/
theorem truncate_noRoom {text : JsString} (hne : text ≠ []) : truncateToWordBoundary text 0 = js "…" := by
  have hlong : ¬text.length ≤ 0 := fun h => hne (List.length_eq_zero_iff.1 (Nat.le_zero.1 h))
  unfold truncateToWordBoundary truncateToCharLimit
  rw [if_neg hlong, if_neg hlong]
  rfl

theorem shownBody_noRoom (hgsm : encodingOf (stripMarkdown params.body) = .gsm7)
    (hover : SmsEncoding.gsm7.single < overhead params) : isAscii (shownBody params) = false := by
  have hne : stripMarkdown params.body ≠ [] := by
    intro hnil
    rw [hnil] at hgsm
    cases hgsm
  unfold shownBody
  dsimp only
  rw [hgsm, Nat.sub_eq_zero_of_le hover.le, truncate_noRoom hne]
  rfl

/-- The sizes of a message are right exactly when its fixed parts are in the alphabet and leave room for the body, and
the message is not longer than a segment of several. -/
theorem sizes_right_iff (params : SmsMessageParams) : SizedRight params (buildSmsBody params) ↔ SizesWell params := by
  have hmulti : (encodingOf (stripMarkdown params.body)).multi < (encodingOf (stripMarkdown params.body)).single := by
    cases encodingOf (stripMarkdown params.body) <;> decide
  rw [sizedRight_iff params rfl]
  unfold SizesWell
  dsimp only
  rcases Nat.lt_trichotomy (overhead params) (encodingOf (stripMarkdown params.body)).single with hlt | heq | hgt
  · rw [← shownBody_iff params hlt, or_iff_right fun h => hlt.not_gt h.2, and_iff_right hlt]
    constructor
    · rintro ⟨halphabet, hfits⟩
      exact ⟨fun hgsm => ⟨(halphabet hgsm).1, (halphabet hgsm).2.1⟩, fun hgsm => (halphabet hgsm).2.2, hfits hlt.le⟩
    · rintro ⟨hfixed, hshown, hfits⟩
      exact ⟨fun hgsm => ⟨(hfixed hgsm).1, (hfixed hgsm).2, hshown hgsm⟩, fun _ => hfits⟩
  · constructor
    · rintro ⟨-, hfits⟩
      have := hfits heq.le
      omega
    · rintro ⟨-, ⟨-, hgt⟩ | ⟨hlt, -⟩⟩ <;> omega
  · cases he : encodingOf (stripMarkdown params.body) with
    | gsm7 =>
      rw [he] at hgt
      constructor
      · rintro ⟨halphabet, -⟩
        cases (shownBody_noRoom params he hgt).symm.trans (halphabet rfl).2.2
      · rintro ⟨-, ⟨hucs, -⟩ | ⟨hlt, -⟩⟩
        · cases hucs
        · omega
    | ucs2 =>
      rw [he] at hgt
      have hne : SmsEncoding.ucs2 ≠ .gsm7 := by decide
      exact ⟨fun _ => ⟨fun h => absurd h hne, .inl ⟨rfl, hgt⟩⟩,
        fun _ => ⟨fun h => absurd h hne, fun hle => absurd hle (Nat.not_le.2 hgt)⟩⟩

/-- A name outside of the alphabet is not seen, a single limit of fixed parts leads to a second segment, and so does a
length between the limits. -/
theorem sizes_wrong :
    ¬SizedRight ⟨js "Café", js "Hi", js "ok"⟩ (buildSmsBody ⟨js "Café", js "Hi", js "ok"⟩) ∧
      ¬SizedRight ⟨List.replicate 140 97, js "Hi", js "ok"⟩ (buildSmsBody ⟨List.replicate 140 97, js "Hi", js "ok"⟩) ∧
      ¬SizedRight ⟨js "Acme", js "Hi", List.replicate 130 97⟩ (buildSmsBody ⟨js "Acme", js "Hi", List.replicate 130 97⟩) := by
  refine ⟨fun h => absurd h.alphabet ?_, fun h => absurd h.single_fits ?_, fun h => absurd h.one_segment ?_⟩ <;>
    decide +kernel

end HeraldGateway.SnsService
