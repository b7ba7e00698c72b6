import HeraldGateway.Text.Proofs.EncodingsProofs
import HeraldGateway.Text.Uri

/-!
# Parts of URLs, proved
-/

namespace Text

/-! ## Encoded components are safe in URLs and attributes -/

namespace Uri

open Json

/-- A code unit that separates nothing in a URL or an attribute: it is visible, and neither a quotation mark
nor one of `#&+/=?`. -/
def isSafe (u : UInt16) : Bool := 32 < u && u < 127 && !([34, 35, 38, 43, 47, 61, 63].contains u)

theorem escapeByte_safe (b : UInt8) : (escapeByte b).all isSafe = true := by
  have hall : ∀ n < 256, (escapeByte (UInt8.ofNat n)).all isSafe = true := by decide +kernel
  have hb := hall b.toNat b.toNat_lt
  rwa [UInt8.ofNat_toNat] at hb

theorem encodeComponent_safe (s : List UInt16) : ∀ u ∈ encodeComponent s, isSafe u = true := by
  intro u hu
  obtain ⟨b, -, hb⟩ := List.mem_flatMap.1 hu
  exact List.all_eq_true.1 (escapeByte_safe b) u hb

/-- Base64url letters are safe, and are no escapes. -/
theorem base64url_safe (b : List UInt8) : ∀ u ∈ Base64url.encode b, isSafe u = true ∧ u ≠ 37 := by
  intro u hu
  obtain ⟨n, hn, rfl⟩ := List.mem_map.1 hu
  have hall : ∀ n < 64, isSafe (Base64url.letter n) = true ∧ Base64url.letter n ≠ 37 := by decide
  exact hall n (Base64url.groups_lt b n hn)

theorem not_mem_of_safe {s : List UInt16} {u : UInt16} (h : ∀ v ∈ s, isSafe v = true)
    (hu : isSafe u = false) :
    u ∉ s := by
  intro hmem
  rw [h u hmem] at hu
  cases hu

/-- What holds neither an escape nor a plus sign is decoded to itself. -/
theorem decodeComponent_of_plain {s : List UInt16} (hplus : 43 ∉ s) (hpercent : 37 ∉ s) :
    decodeComponent s = s := by
  have hspaced : (s.map fun u => if u = 43 then 32 else u) = s :=
    (List.map_congr_left fun u hu => if_neg fun heq : u = 43 => hplus (heq ▸ hu)).trans (List.map_id s)
  unfold decodeComponent
  rw [hspaced, if_neg (mt List.contains_iff_mem.1 hpercent)]

example : percentBytes? [37, 50, 48] = some [32] := by simp [percentBytes?, hexValue?]

/-- The bytes of encoded text are read back. -/
theorem percentBytes?_escape (b : List UInt8) : percentBytes? (b.flatMap escapeByte) = some b := by
  induction b with
  | nil => rfl
  | cons a b ih =>
    have hall : ∀ n < 256, unreserved (UInt8.ofNat n) = true →
        (UInt8.ofNat n).toUInt16 ≠ 37 ∧ (UInt8.ofNat n).toUInt16.toUInt8 = UInt8.ofNat n := by decide +kernel
    have hdigit : ∀ n < 16, hexValue? (upperHexDigit n) = some n := by decide
    rw [List.flatMap_cons, escapeByte]
    by_cases ha : unreserved a = true
    · obtain ⟨hne, hbyte⟩ := hall a.toNat a.toNat_lt (by rwa [UInt8.ofNat_toNat])
      rw [UInt8.ofNat_toNat] at hne hbyte
      rw [if_pos ha, List.singleton_append]
      unfold percentBytes?
      split
      · rename_i heq
        exact absurd (List.cons.inj heq).1 hne
      · rename_i heq
        obtain ⟨rfl, rfl⟩ := List.cons.inj heq
        rw [if_neg hne, ih, hbyte]
        rfl
      · rename_i heq
        cases heq
    · have hlt := a.toNat_lt
      rw [if_neg ha, List.cons_append, List.cons_append, List.cons_append, List.nil_append, percentBytes?,
        hdigit _ (by omega), hdigit _ (by omega), ih]
      have hsum : a.toNat / 16 * 16 + a.toNat % 16 = a.toNat := by omega
      show some (UInt8.ofNat (a.toNat / 16 * 16 + a.toNat % 16) :: b) = some (a :: b)
      rw [hsum, UInt8.ofNat_toNat]

/-- An encoded component is a segment of a path. -/
theorem decodeSegment?_encodeComponent (s : List UInt16) : (decodeSegment? (encodeComponent s)).isSome := by
  unfold decodeSegment?
  by_cases h : (encodeComponent s).contains 37
  · rw [if_pos h, encodeComponent, percentBytes?_escape, Option.bind_some, Utf8.decode?_encode]
    rfl
  · rw [if_neg h]
    rfl

end Uri

/-!
## Schemes that a parser sees

A scheme at the beginning of a text is what a parser sees too.
-/

namespace Url

variable {s t w x : List UInt16} {u : UInt16}

theorem isSchemeUnit_lt (h : isSchemeUnit u = true) : isControl u = false ∧ isBreak u = false := by
  simp only [isSchemeUnit, isLetter, isControl, isBreak, Bool.or_eq_true, Bool.and_eq_true,
    decide_eq_true_eq, beq_iff_eq,
    Bool.or_eq_false_iff, beq_eq_false_iff_ne, decide_eq_false_iff_not, UInt16.le_iff_toNat_le, ne_eq,
    ← UInt16.toNat_inj] at h ⊢
  simp only [UInt16.reduceToNat] at h ⊢
  omega

/-- A text with a scheme is the scheme, a colon and a rest. -/
theorem scheme?_eq_some : scheme? s = some x ↔
    ∃ w t, s = w ++ 58 :: t ∧ (∀ u ∈ w, isSchemeUnit u = true) ∧ w.head?.any isLetter = true ∧
    w.map lower = x := by
  constructor
  · intro h
    unfold scheme? at h
    dsimp only at h
    split at h
    · next hname =>
      rw [Bool.and_eq_true, beq_iff_eq] at hname
      obtain ⟨t, ht⟩ : ∃ t, s.dropWhile isSchemeUnit = 58 :: t := by
        cases hd : s.dropWhile isSchemeUnit with
        | nil =>
          rw [hd] at hname
          cases hname.2
        | cons v t =>
          rw [hd] at hname
          obtain rfl := Option.some.inj hname.2
          exact ⟨t, rfl⟩
      refine ⟨s.takeWhile isSchemeUnit, t, ?_, fun u hu => List.mem_takeWhile_imp hu, hname.1, Option.some.inj h⟩
      rw [← ht, List.takeWhile_append_dropWhile]
    · cases h
  · rintro ⟨w, t, rfl, hw, hfirst, rfl⟩
    have hcolon : isSchemeUnit 58 = false := by decide
    have htake : (w ++ 58 :: t).takeWhile isSchemeUnit = w := by
      rw [List.takeWhile_append_of_pos hw,
        List.takeWhile_cons_of_neg (by rw [hcolon]; decide), List.append_nil]
    have hdrop : (w ++ 58 :: t).dropWhile isSchemeUnit = 58 :: t := by
      rw [List.dropWhile_append_of_pos hw, List.dropWhile_cons_of_neg (by rw [hcolon]; decide)]
    unfold scheme?
    dsimp only
    rw [htake, hdrop, if_pos (by rw [hfirst]; rfl)]

/-- What is dropped from the end of a text does not reach beyond a sign that stays. -/
theorem rdropWhile_append_cons {p : UInt16 → Bool} (hu : ¬ p u = true) :
    (w ++ u :: t).rdropWhile p = w ++ u :: t.rdropWhile p := by
  induction t using List.reverseRecOn with
  | nil => exact List.rdropWhile_concat_neg p w u hu
  | append_singleton t v ih =>
    have hassoc : w ++ u :: (t ++ [v]) = (w ++ u :: t) ++ [v] := by simp
    rw [hassoc]
    by_cases hv : p v = true
    · rw [List.rdropWhile_concat_pos p _ v hv, List.rdropWhile_concat_pos p t v hv, ih]
    · rw [List.rdropWhile_concat_neg p _ v hv, List.rdropWhile_concat_neg p t v hv, hassoc]

/-- What a parser drops does not belong to a scheme. -/
theorem scheme?_strip (h : scheme? s = some x) : scheme? (strip s) = some x := by
  obtain ⟨w, t, rfl, hw, hfirst, hx⟩ := scheme?_eq_some.1 h
  refine scheme?_eq_some.2 ⟨w, (t.rdropWhile isControl).filter (!isBreak ·), ?_, hw, hfirst, hx⟩
  have hleft : (w ++ 58 :: t).dropWhile isControl = w ++ 58 :: t := by
    cases w with
    | nil => cases hfirst
    | cons v w =>
      have hv := (isSchemeUnit_lt (hw v List.mem_cons_self)).1
      exact List.dropWhile_cons_of_neg (by rw [hv]; decide)
  have hright : (w ++ 58 :: t).rdropWhile isControl = w ++ 58 :: t.rdropWhile isControl :=
    rdropWhile_append_cons (by decide)
  have hbreaks : w.filter (!isBreak ·) = w := List.filter_eq_self.2 fun u hu => by
    rw [(isSchemeUnit_lt (hw u hu)).2]
    rfl
  rw [strip, hleft, hright, List.filter_append, hbreaks, List.filter_cons_of_pos (by decide)]

end Url

end Text
