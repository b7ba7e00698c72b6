import HeraldGateway.Text.Encodings
import HeraldGateway.Text.Proofs.JsonProofs
import Mathlib.Data.Nat.Digits.Lemmas

/-!
# Decoding undoes encoding

In hexadecimal and base64; for base 58 the length and the letters of a text are found, and that different bytes
have different texts.
-/

namespace Text

/-! ## Hexadecimal -/

namespace Hex

open Json

theorem decode_encode (b : List UInt8) : decode (encode b) = b := by
  induction b with
  | nil => rfl
  | cons x b ih =>
    have hx := x.toNat_lt
    have hbyte : UInt8.ofNat (x.toNat / 16 * 16 + x.toNat % 16) = x := by
      rw [show x.toNat / 16 * 16 + x.toNat % 16 = x.toNat by omega, UInt8.ofNat_toNat]
    rw [encode, List.flatMap_cons]
    simp only [List.cons_append, List.nil_append, decode]
    rw [hexValue?_hexDigit (by omega), hexValue?_hexDigit (by omega)]
    dsimp only
    rw [hbyte]
    exact congrArg (x :: ·) ih

theorem length_encode (b : List UInt8) : (encode b).length = 2 * b.length := by
  induction b with
  | nil => rfl
  | cons x b ih =>
    have hcons : (encode (x :: b)).length = 2 + (encode b).length := List.length_append
    rw [hcons, ih, List.length_cons]
    omega

/-- What separates texts is no digit. -/
theorem dot_not_mem_encode (b : List UInt8) : 46 ∉ encode b := by
  have hdigit : ∀ n < 16, hexDigit n ≠ 46 := by decide
  intro h
  obtain ⟨x, -, hx⟩ := List.mem_flatMap.1 h
  have hlt := x.toNat_lt
  rcases List.mem_cons.1 hx with hx | hx
  · exact hdigit _ (by omega) hx.symm
  · exact hdigit _ (by omega) (List.mem_singleton.1 hx).symm

end Hex

/-! ## Base 58 -/

namespace Base58

theorem pow_le_foldl {b : List UInt8} {n : Nat} :
    n * 256 ^ b.length ≤ b.foldl (fun n x => n * 256 + x.toNat) n := by
  induction b generalizing n with
  | nil => exact (Nat.mul_one n).le
  | cons x b ih =>
    refine le_trans ?_ ih
    rw [List.length_cons, Nat.pow_succ, Nat.mul_comm _ 256, ← Nat.mul_assoc]
    exact Nat.mul_le_mul_right _ (Nat.le_add_right ..)

/-- A text is at least as long as its bytes. -/
theorem length_le (b : List UInt8) : b.length ≤ (encode b).length := by
  have hsplit := congrArg List.length (List.takeWhile_append_dropWhile (p := (· == 0)) (l := b))
  have hdigits : (b.dropWhile (· == 0)).length ≤ (Nat.digits 58 (value (b.dropWhile (· == 0)))).length := by
    cases hrest : b.dropWhile (· == 0) with
    | nil => exact Nat.zero_le _
    | cons x rest =>
      have hx : x ≠ 0 := by
        have hhead := List.head?_dropWhile_not (· == 0) b
        rw [hrest] at hhead
        simpa using hhead
      have hpos : 0 < x.toNat := Nat.pos_of_ne_zero fun h => hx (UInt8.toNat_inj.1 h)
      refine (Nat.lt_digits_length_iff (by decide) _).2 ?_
      calc 58 ^ rest.length ≤ 256 ^ rest.length := Nat.pow_le_pow_left (by decide) _
        _ ≤ x.toNat * 256 ^ rest.length := Nat.le_mul_of_pos_left _ hpos
        _ ≤ (x :: rest).foldl (fun n x => n * 256 + x.toNat) 0 := by
          rw [List.foldl_cons, Nat.zero_mul, Nat.zero_add]
          exact pow_le_foldl
  rw [List.length_append] at hsplit
  rw [encode, List.length_append, List.length_replicate, List.length_map, List.length_reverse]
  omega

theorem value_lt {b : List UInt8} {n : Nat} :
    b.foldl (fun n x => n * 256 + x.toNat) n < (n + 1) * 256 ^ b.length := by
  induction b generalizing n with
  | nil => simp
  | cons x b ih =>
    have hx := x.toNat_lt
    have hstep : n * 256 + x.toNat + 1 ≤ (n + 1) * 256 := by omega
    calc (x :: b).foldl (fun n x => n * 256 + x.toNat) n
        < (n * 256 + x.toNat + 1) * 256 ^ b.length := ih
      _ ≤ (n + 1) * 256 * 256 ^ b.length := Nat.mul_le_mul_right _ hstep
      _ = (n + 1) * 256 ^ (x :: b).length := by
        rw [List.length_cons, Nat.pow_succ', Nat.mul_assoc]

/-- Three digits in base 58 hold two bytes. -/
theorem digits_length_le (b : List UInt8) : (Nat.digits 58 (value b)).length ≤ (3 * b.length + 1) / 2 := by
  refine (Nat.digits_length_le_iff (by decide) _).2 ?_
  refine lt_of_lt_of_le (value_lt (n := 0)) ?_
  rw [Nat.zero_add, Nat.one_mul, ← Nat.pow_le_pow_iff_left (two_ne_zero), ← Nat.pow_mul, ← Nat.pow_mul]
  calc 256 ^ (b.length * 2) = (256 ^ 2) ^ b.length := by rw [← Nat.pow_mul, Nat.mul_comm]
    _ ≤ (58 ^ 3) ^ b.length := Nat.pow_le_pow_left (by decide) _
    _ = 58 ^ (3 * b.length) := (Nat.pow_mul ..).symm
    _ ≤ 58 ^ ((3 * b.length + 1) / 2 * 2) := Nat.pow_le_pow_right (by decide) (by omega)

/-- A text is at most half as long again as its bytes. -/
theorem length_encode_le (b : List UInt8) : 2 * (encode b).length ≤ 3 * b.length + 1 := by
  have hsplit := congrArg List.length (List.takeWhile_append_dropWhile (p := (· == 0)) (l := b))
  have hdigits := digits_length_le (b.dropWhile (· == 0))
  rw [List.length_append] at hsplit
  rw [encode, List.length_append, List.length_replicate, List.length_map, List.length_reverse]
  omega

/-! ### Letters -/

theorem letter_mem (n : Nat) : letter n ∈ alphabet := by
  rw [letter]
  cases h : alphabet[n]? with
  | none => decide
  | some u => exact List.mem_of_getElem? h

theorem encode_mem {b : List UInt8} : ∀ u ∈ encode b, u ∈ alphabet := by
  intro u hu
  rcases List.mem_append.1 hu with hu | hu
  · rw [List.eq_of_mem_replicate hu]
    decide
  · obtain ⟨n, -, rfl⟩ := List.mem_map.1 hu
    exact letter_mem n

/-- Every letter is a character of ASCII. -/
theorem encode_lt {b : List UInt8} : ∀ u ∈ encode b, u < 128 := by
  intro u hu
  have hall : alphabet.all (· < 128) = true := by decide +kernel
  exact of_decide_eq_true (List.all_eq_true.1 hall u (encode_mem u hu))

theorem idxOf_letter {n : Nat} (h : n < 58) : alphabet.idxOf (letter n) = n := by
  have hall : (List.range 58).all (fun n => alphabet.idxOf (letter n) == n) = true := by decide +kernel
  exact eq_of_beq (List.all_eq_true.1 hall n (List.mem_range.2 h))

/-! ### Reading a text back -/

/-- The letters of a number tell it. -/
theorem letters_injective {m n : Nat}
    (h : (Nat.digits 58 m).reverse.map letter = (Nat.digits 58 n).reverse.map letter) : m = n := by
  have hread : ∀ n, ((Nat.digits 58 n).reverse.map letter).map (alphabet.idxOf ·) =
      (Nat.digits 58 n).reverse := by
    intro n
    rw [List.map_map]
    refine (List.map_congr_left fun d hd => ?_).trans (List.map_id _)
    exact idxOf_letter (Nat.digits_lt_base (by decide) (List.mem_reverse.1 hd))
  have hdigits := congrArg (List.map (alphabet.idxOf ·)) h
  rw [hread, hread] at hdigits
  exact Nat.digits_inj_iff.1 (List.reverse_injective hdigits)

/-- The first letter of a number is not that of zero. -/
theorem letters_head {n : Nat} : ∀ u ∈ ((Nat.digits 58 n).reverse.map letter).head?, u ≠ 49 := by
  intro u hu
  by_cases hn : n = 0
  · subst hn
    simp at hu
  · have hne : Nat.digits 58 n ≠ [] := Nat.digits_ne_nil_iff_ne_zero.2 hn
    rw [List.head?_map, List.head?_reverse, List.getLast?_eq_some_getLast hne, Option.map_some,
      Option.mem_some_iff] at hu
    intro h49
    have hlast := Nat.getLast_digit_ne_zero 58 hn
    have hlt := Nat.digits_lt_base (b := 58) (by decide) (List.getLast_mem hne)
    have hidx := idxOf_letter hlt
    rw [hu, h49] at hidx
    exact hlast (hidx.symm.trans (by decide))

/-- Leading copies of a letter are told from what follows. -/
theorem replicate_append_inj {α : Type} {a : α} {m n : Nat} {r s : List α}
    (hr : ∀ u ∈ r.head?, u ≠ a) (hs : ∀ u ∈ s.head?, u ≠ a)
    (h : List.replicate m a ++ r = List.replicate n a ++ s) : m = n ∧ r = s := by
  induction m generalizing n with
  | zero =>
    cases n with
    | zero => exact ⟨rfl, h⟩
    | succ n =>
      have hhead : r.head? = some a := by
        rw [show r = List.replicate (n + 1) a ++ s from h]
        rfl
      exact absurd rfl (hr a hhead)
  | succ m ih =>
    cases n with
    | zero =>
      have hhead : s.head? = some a := by
        rw [show s = List.replicate (m + 1) a ++ r from h.symm]
        rfl
      exact absurd rfl (hs a hhead)
    | succ n =>
      obtain ⟨hmn, hrs⟩ := ih (List.cons.inj h).2
      exact ⟨congrArg (· + 1) hmn, hrs⟩

theorem value_eq_ofDigits (b : List UInt8) : value b = Nat.ofDigits 256 (b.reverse.map (·.toNat)) := by
  have hfold : ∀ n, b.foldl (fun n x => n * 256 + x.toNat) n =
      n * 256 ^ b.length + Nat.ofDigits 256 (b.reverse.map (·.toNat)) := by
    induction b with
    | nil => simp
    | cons x b ih =>
      intro n
      rw [List.foldl_cons, ih, List.reverse_cons, List.map_append, Nat.ofDigits_append, List.length_map,
        List.length_reverse, List.length_cons, Nat.pow_succ]
      simp only [List.map_cons, List.map_nil, Nat.ofDigits_singleton]
      ring
  rw [value, hfold, Nat.zero_mul, Nat.zero_add]

/-- Bytes without leading zeros are told by their number. -/
theorem value_injective {b c : List UInt8} (hb : ∀ x ∈ b.head?, x ≠ 0) (hc : ∀ x ∈ c.head?, x ≠ 0)
    (h : value b = value c) : b = c := by
  have hdigits : ∀ b : List UInt8, (∀ x ∈ b.head?, x ≠ 0) →
      Nat.digits 256 (value b) = b.reverse.map (·.toNat) := by
    intro b hb
    rw [value_eq_ofDigits]
    refine Nat.digits_ofDigits 256 (by decide) _ (fun d hd => ?_) fun hne => ?_
    · obtain ⟨x, -, rfl⟩ := List.mem_map.1 hd
      exact x.toNat_lt
    · cases b with
      | nil => simp at hne
      | cons x b =>
        have hx : x ≠ 0 := hb x rfl
        simpa [← UInt8.toNat_inj] using hx
  have heq := hdigits b hb
  rw [h, hdigits c hc] at heq
  have hinj : Function.Injective (UInt8.toNat) := fun _ _ => UInt8.toNat_inj.1
  exact (List.reverse_injective (List.map_injective_iff.2 hinj heq)).symm

/-- Different bytes are different texts. -/
theorem encode_injective {b c : List UInt8} (h : encode b = encode c) : b = c := by
  obtain ⟨hzeros, hletters⟩ := replicate_append_inj letters_head letters_head h
  have hhead : ∀ b : List UInt8, ∀ x ∈ (b.dropWhile (· == 0)).head?, x ≠ 0 := by
    intro b x hx
    have hnot := List.head?_dropWhile_not (· == 0) b
    rw [Option.mem_def.1 hx] at hnot
    simpa using hnot
  have hsplit : ∀ b : List UInt8,
      List.replicate (b.takeWhile (· == 0)).length 0 ++ b.dropWhile (· == 0) = b := by
    intro b
    have hrep : b.takeWhile (· == 0) = List.replicate (b.takeWhile (· == 0)).length 0 :=
      List.eq_replicate_iff.2 ⟨rfl, fun x hx => eq_of_beq (List.all_eq_true.1 List.all_takeWhile x hx)⟩
    rw [← hrep, List.takeWhile_append_dropWhile]
  have hrest := value_injective (hhead b) (hhead c) (letters_injective hletters)
  rw [← hsplit b, ← hsplit c, hzeros, hrest]

end Base58

/-!
## Base64

Every group is below 64, so its letter is read as the group, and the bits that three bytes were spread over
come together again.
-/

namespace Base64url

example : bytes (groups [1, 2]) = [1, 2] := by simp [groups, bytes]

theorem sextet?_letter {n : Nat} (h : n < 64) : sextet? (letter n) = some n := by
  revert n
  decide

theorem groups_lt (b : List UInt8) : ∀ n ∈ groups b, n < 64 := by
  induction b using groups.induct with
  | case1 a b c rest ih =>
    have ha := a.toNat_lt
    have hb := b.toNat_lt
    have hc := c.toNat_lt
    intro n hn
    simp only [groups, List.mem_cons] at hn
    rcases hn with rfl | rfl | rfl | rfl | hn
    · omega
    · omega
    · omega
    · omega
    · exact ih n hn
  | case2 a b =>
    have ha := a.toNat_lt
    have hb := b.toNat_lt
    intro n hn
    simp only [groups, List.mem_cons, List.not_mem_nil, or_false] at hn
    omega
  | case3 a =>
    have ha := a.toNat_lt
    intro n hn
    simp only [groups, List.mem_cons, List.not_mem_nil, or_false] at hn
    omega
  | case4 => exact fun _ hn => absurd hn List.not_mem_nil

/-- A byte is the one whose number it has. -/
theorem ofNat_eq {a : UInt8} {n : Nat} (h : n = a.toNat) : UInt8.ofNat n = a := by
  rw [h, UInt8.ofNat_toNat]

theorem bytes_groups (b : List UInt8) : bytes (groups b) = b := by
  induction b using groups.induct with
  | case1 a b c rest ih =>
    have ha := a.toNat_lt
    have hb := b.toNat_lt
    have hc := c.toNat_lt
    simp only [groups, bytes, ih]
    rw [ofNat_eq (a := a) (by omega), ofNat_eq (a := b) (by omega), ofNat_eq (a := c) (by omega)]
  | case2 a b =>
    have ha := a.toNat_lt
    have hb := b.toNat_lt
    simp only [groups, bytes]
    rw [ofNat_eq (a := a) (by omega), ofNat_eq (a := b) (by omega)]
  | case3 a =>
    have ha := a.toNat_lt
    simp only [groups, bytes]
    rw [ofNat_eq (a := a) (by omega)]
  | case4 => rfl

theorem filterMap_sextet? {f : Nat → UInt16} (hf : ∀ n < 64, sextet? (f n) = some n) {ns : List Nat}
    (hns : ∀ n ∈ ns, n < 64) : (ns.map f).filterMap sextet? = ns := by
  induction ns with
  | nil => rfl
  | cons n ns ih =>
    rw [List.map_cons, List.filterMap_cons, hf n (hns n List.mem_cons_self)]
    exact congrArg (n :: ·) (ih fun m hm => hns m (List.mem_cons_of_mem n hm))

/-- Decoding undoes encoding. -/
theorem decode_encode (b : List UInt8) : decode (encode b) = b := by
  rw [decode, encode, filterMap_sextet? (fun _ h => sextet?_letter h) (groups_lt b), bytes_groups]

theorem sextet?_standardLetter {n : Nat} (h : n < 64) : sextet? (standardLetter n) = some n := by
  revert n
  decide

theorem decode_encodeStandard (b : List UInt8) : decode (encodeStandard b) = b := by
  have hpadding : (padding b).filterMap sextet? = [] := by
    refine List.filterMap_eq_nil_iff.2 fun u hu => ?_
    rw [List.eq_of_mem_replicate hu]
    rfl
  rw [decode, encodeStandard, List.filterMap_append, hpadding, List.append_nil,
    filterMap_sextet? (fun _ h => sextet?_standardLetter h) (groups_lt b), bytes_groups]

/-- What separates texts is no letter. -/
theorem dot_not_mem_encode (b : List UInt8) : 46 ∉ encode b := by
  intro h
  obtain ⟨n, hn, hdot⟩ := List.mem_map.1 h
  have hread := sextet?_letter (groups_lt b n hn)
  rw [hdot] at hread
  cases hread

end Base64url

end Text
