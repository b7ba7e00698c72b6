import HeraldGateway.Text.Json

/-!
# Reading undoes writing
-/

namespace Text

/-! ## Strings and numerals -/

namespace Json

variable {s rest : List UInt16}

theorem hexValue?_hexDigit {n : Nat} (h : n < 16) : hexValue? (hexDigit n) = some n := by
  revert n
  decide

/-- Four digits give the code unit that they were made from. -/
theorem codeUnit?_hexDigits (u : UInt16) :
    codeUnit? (hexDigit (u.toNat / 4096)) (hexDigit (u.toNat / 256 % 16))
    (hexDigit (u.toNat / 16 % 16)) (hexDigit (u.toNat % 16)) = some u := by
  have hu := u.toNat_lt
  have hsum : u.toNat / 4096 * 4096 + u.toNat / 256 % 16 * 256 + u.toNat / 16 % 16 * 16 + u.toNat % 16 =
      u.toNat := by omega
  unfold codeUnit?
  rw [hexValue?_hexDigit (by omega), hexValue?_hexDigit (by omega), hexValue?_hexDigit (by omega),
    hexValue?_hexDigit (by omega)]
  exact congrArg some ((congrArg UInt16.ofNat hsum).trans UInt16.ofNat_toNat)

/-- A code unit that stands for itself begins neither an escape nor the end. -/
theorem readQuoted_plain {u : UInt16} (h : isPlain u = true) :
    readQuoted (u :: rest) = (readQuoted rest).map fun r => (u :: r.1, r.2) := by
  have hend : u ≠ 34 := by
    rintro rfl
    cases h
  have hescape : u ≠ 92 := by
    rintro rfl
    cases h
  rw [readQuoted.eq_3 u rest (fun h' => hend h') (fun _ _ _ _ _ h' => absurd h' hescape), if_pos h]

theorem readQuoted_escape (u : UInt16) :
    readQuoted (escape u ++ rest) = (readQuoted rest).map fun r => (u :: r.1, r.2) := by
  unfold escape
  split
  · next h => exact readQuoted_plain h
  · simp only [List.cons_append, List.nil_append, readQuoted, codeUnit?_hexDigits]
    cases readQuoted rest <;> rfl

theorem readQuoted_flatMap : readQuoted (s.flatMap escape ++ 34 :: rest) = some (s, rest) := by
  induction s with
  | nil => rfl
  | cons u s ih => rw [List.flatMap_cons, List.append_assoc, readQuoted_escape, ih]; rfl

/-- A string literal is read as the string. -/
theorem readString_quote : readString (quote s ++ rest) = some (s, rest) := by
  simp only [quote, List.cons_append, List.append_assoc, List.nil_append, readString]
  exact readQuoted_flatMap

/-- A text is read where it stands. -/
theorem readText_append {text : List UInt16} : readText text (text ++ rest) = some rest := by
  unfold readText
  rw [if_pos (List.isPrefixOf_iff_prefix.2 (List.prefix_append text rest)), List.drop_left]

/-! ### Numerals -/

/-- A digit is a character of ASCII. -/
theorem toNat_of_isDigit {c : Char} (h : c.isDigit = true) : 48 ≤ c.toNat ∧ c.toNat ≤ 57 :=
  Char.isDigit_iff_toNat.1 h

theorem readDigits_map {cs : List Char} (h : ∀ c ∈ cs, c.isDigit = true) (n : Nat) :
    (cs.map fun c => UInt16.ofNat c.toNat).foldl (fun n u => n * 10 + (u.toNat - 48)) n =
      Nat.ofDigitChars 10 cs n := by
  induction cs generalizing n with
  | nil => rfl
  | cons c cs ih =>
    have hc : c.toNat < 65536 := by
      have := toNat_of_isDigit (h c List.mem_cons_self)
      omega
    rw [List.map_cons, List.foldl_cons, ih fun c' hc' => h c' (List.mem_cons_of_mem c hc')]
    rw [Nat.ofDigitChars_cons, UInt16.toNat_ofNat_of_lt' hc, Nat.mul_comm]
    rfl

theorem isDigit_numeral {n : Nat} : ∀ u ∈ numeral n, isDigit u = true := by
  intro u hu
  obtain ⟨c, hc, rfl⟩ := List.mem_map.1 hu
  obtain ⟨hlow, hhigh⟩ := toNat_of_isDigit (Nat.isDigit_of_mem_toDigits (by decide) (by decide) hc)
  have hu : (UInt16.ofNat c.toNat).toNat = c.toNat := UInt16.toNat_ofNat_of_lt' (by
    have : UInt16.size = 65536 := rfl
    omega)
  simp only [isDigit, Bool.and_eq_true, decide_eq_true_eq, UInt16.le_iff_toNat_le, hu]
  exact ⟨hlow, hhigh⟩

/-- A numeral is read as the number, where no digit follows it. -/
theorem readNumeral_numeral {n : Nat} (hrest : ∀ u ∈ rest.head?, isDigit u = false) :
    readNumeral (numeral n ++ rest) = some (n, rest) := by
  have htail : rest.takeWhile isDigit = [] ∧ rest.dropWhile isDigit = rest := by
    cases rest with
    | nil => exact ⟨rfl, rfl⟩
    | cons u rest => simp [hrest u rfl]
  have hne : numeral n ≠ [] := by
    unfold numeral
    simp
  unfold readNumeral
  rw [List.takeWhile_append_of_pos isDigit_numeral, List.dropWhile_append_of_pos isDigit_numeral, htail.1,
    htail.2, List.append_nil]
  dsimp only
  rw [if_neg (by simpa using hne)]
  unfold numeral
  rw [readDigits_map fun c hc => Nat.isDigit_of_mem_toDigits (by decide) (by decide) hc,
    Nat.ofDigitChars_ten_toDigits]

/-! ### ASCII -/

theorem hexDigit_lt {n : Nat} (h : n < 16) : hexDigit n < 128 := by
  revert n
  decide

theorem escape_lt {u v : UInt16} (h : v ∈ escape u) : v < 128 := by
  have hu := u.toNat_lt
  unfold escape at h
  split at h
  · next hplain =>
    obtain rfl := List.mem_singleton.1 h
    simp only [isPlain, Bool.and_eq_true, decide_eq_true_eq] at hplain
    exact UInt16.lt_trans hplain.1.1.2 (by decide)
  · simp only [List.mem_cons, List.not_mem_nil, or_false] at h
    rcases h with rfl | rfl | rfl | rfl | rfl | rfl
    · decide
    · decide
    · exact hexDigit_lt (by omega)
    · exact hexDigit_lt (by omega)
    · exact hexDigit_lt (by omega)
    · exact hexDigit_lt (by omega)

theorem quote_lt : ∀ u ∈ quote s, u < 128 := by
  intro u hu
  simp only [quote, List.mem_cons, List.mem_append, List.mem_flatMap, List.not_mem_nil, or_false] at hu
  rcases hu with rfl | ⟨v, -, hv⟩ | rfl
  · decide
  · exact escape_lt hv
  · decide

theorem numeral_lt {n : Nat} : ∀ u ∈ numeral n, u < 128 := by
  intro u hu
  have hdigit := isDigit_numeral u hu
  simp only [isDigit, Bool.and_eq_true, decide_eq_true_eq] at hdigit
  exact UInt16.lt_of_le_of_lt hdigit.2 (by decide)

end Json

/-!
## Values

By recursion over the value and its properties, with any text behind it that does not go on with a digit.
-/

namespace Json

variable {rest : List UInt16}

mutual

/-- The fuel that reading a value takes. -/
def Value.fuel : Value → Nat
  | .object entries => entries.fuel + 1
  | _ => 1

/-- The fuel that reading properties takes. -/
def Entries.fuel : Entries → Nat
  | .nil => 0
  | .cons _ value rest => max value.fuel rest.fuel + 1

end

theorem numeral_ne_nil {n : Nat} : numeral n ≠ [] := by
  unfold numeral
  simp

/-- A numeral begins with a digit, or with its sign. -/
theorem signed_head {i : Int} : ∃ u us, signed i = u :: us ∧ (isDigit u = true ∨ u = 45) := by
  cases i with
  | negSucc n => exact ⟨45, _, rfl, .inr rfl⟩
  | ofNat n =>
    obtain ⟨u, us, hu⟩ := List.exists_cons_of_ne_nil (numeral_ne_nil (n := n))
    exact ⟨u, us, hu, .inl (isDigit_numeral u (hu ▸ List.mem_cons_self))⟩

/-- A property is found under its name, if no two properties have the same name. -/
theorem Entries.get?_ofList {es : List (List UInt16 × Value)} {key : List UInt16} {v : Value}
    (hnodup : (es.map Prod.fst).Nodup) (h : (key, v) ∈ es) : (Entries.ofList es).get? key = some v := by
  induction es with
  | nil => cases h
  | cons e es ih =>
    obtain ⟨k, w⟩ := e
    rw [List.map_cons, List.nodup_cons] at hnodup
    rw [Entries.ofList, Entries.get?]
    rcases List.mem_cons.1 h with heq | hmem
    · obtain ⟨rfl, rfl⟩ := Prod.mk.inj heq
      exact if_pos rfl
    · rw [if_neg, ih hnodup.2 hmem]
      rintro rfl
      exact hnodup.1 (List.mem_map.2 ⟨_, hmem, rfl⟩)

theorem readSigned_signed {i : Int} (hrest : ∀ u ∈ rest.head?, isDigit u = false) :
    readSigned (signed i ++ rest) = some (i, rest) := by
  cases i with
  | negSucc n =>
    simp only [signed, List.cons_append, readSigned, readNumeral_numeral hrest]
    rfl
  | ofNat n =>
    have hfirst : ∀ s, numeral n ++ rest = 45 :: s → False := by
      intro s hs
      obtain ⟨u, us, hu⟩ := List.exists_cons_of_ne_nil (numeral_ne_nil (n := n))
      have hdigit := isDigit_numeral u (hu ▸ List.mem_cons_self)
      rw [hu] at hs
      obtain rfl := (List.cons.inj hs).1
      cases hdigit
    rw [signed, readSigned.eq_2 _ (fun s hs => hfirst s hs), readNumeral_numeral hrest]
    rfl

theorem readValue_signed {i : Int} {n : Nat} (hrest : ∀ u ∈ rest.head?, isDigit u = false) :
    readValue (n + 1) (signed i ++ rest) = some (.number i, rest) := by
  obtain ⟨u, us, hu, hfirst⟩ := signed_head (i := i)
  have hno : ∀ w t, isDigit w = false → w ≠ 45 → signed i ++ rest = w :: t → False := by
    intro w t hdigit hsign ht
    rw [hu] at ht
    obtain rfl := (List.cons.inj ht).1
    rcases hfirst with h | h
    · rw [hdigit] at h
      cases h
    · exact hsign h
  rw [readValue.eq_8 _ _ (fun t => hno 110 t rfl (by decide)) (fun t => hno 116 t rfl (by decide))
    (fun t => hno 102 t rfl (by decide)) (fun t => hno 34 t rfl (by decide))
    (fun t => hno 123 (125 :: t) rfl (by decide)) (fun t => hno 123 t rfl (by decide)), readSigned_signed hrest]
  rfl

/-- What follows a value in an object is no digit. -/
theorem not_digit_of_cons {u : UInt16} (h : isDigit u = false) : ∀ v ∈ (u :: rest).head?, isDigit v = false :=
  fun _ hv => Option.some.inj hv ▸ h

/-- The first character of a property is a quotation mark. -/
theorem entries_text_head {key : List UInt16} {value : Value} {es : Entries} :
    ∃ us, (Entries.cons key value es).text = 34 :: us := by
  cases es <;> exact ⟨_, rfl⟩

mutual

/-- A value is read as it was written. -/
theorem readValue_text (v : Value) (n : Nat) (rest : List UInt16) (hn : v.fuel ≤ n)
    (hrest : ∀ u ∈ rest.head?, isDigit u = false) : readValue n (v.text ++ rest) = some (v, rest) := by
  match v, n with
  | .null, n + 1 =>
    change (readText (ascii "ull") (ascii "ull" ++ rest)).map _ = _
    rw [readText_append]
    rfl
  | .bool true, n + 1 =>
    change (readText (ascii "rue") (ascii "rue" ++ rest)).map _ = _
    rw [readText_append]
    rfl
  | .bool false, n + 1 =>
    change (readText (ascii "alse") (ascii "alse" ++ rest)).map _ = _
    rw [readText_append]
    rfl
  | .number i, n + 1 => exact readValue_signed hrest
  | .string s, n + 1 => exact congrArg (Option.map _) (@readString_quote s rest)
  | .object .nil, n + 1 => rfl
  | .object (.cons key value es), n + 1 =>
    obtain ⟨us, hus⟩ := @entries_text_head key value es
    have hread := readEntries_text key value es n rest (Nat.le_of_succ_le_succ hn)
    rw [Value.text, List.cons_append, readValue.eq_7, hread]
    · rfl
    · intro s hs
      rw [hus] at hs
      cases hs

/-- Properties are read as they were written. -/
theorem readEntries_text (key : List UInt16) (value : Value) (es : Entries) (n : Nat) (rest : List UInt16)
    (hn : (Entries.cons key value es).fuel ≤ n) :
    readEntries n ((Entries.cons key value es).text ++ rest) = some (.cons key value es, rest) := by
  match n with
  | n + 1 =>
    have hv : value.fuel ≤ n := by
      rw [Entries.fuel] at hn
      omega
    match es with
    | .nil =>
      have hread := readValue_text value n (125 :: rest) hv (not_digit_of_cons rfl)
      simp only [Entries.text, List.append_assoc, List.cons_append, List.nil_append, readEntries,
        readString_quote, Option.bind_eq_bind, Option.bind_some]
      rw [show 58 :: (value.text ++ 125 :: rest) = [58] ++ (value.text ++ 125 :: rest) from rfl,
        readText_append]
      rw [Option.bind_some, hread]
      rfl
    | .cons k v es =>
      have hes : (Entries.cons k v es).fuel ≤ n := by
        rw [Entries.fuel] at hn
        omega
      have hread :=
        readValue_text value n (44 :: ((Entries.cons k v es).text ++ rest)) hv (not_digit_of_cons rfl)
      have hmore := readEntries_text k v es n rest hes
      simp only [Entries.text, List.append_assoc, List.cons_append, readEntries, readString_quote,
        Option.bind_eq_bind, Option.bind_some]
      rw [show 58 :: (value.text ++ 44 :: ((Entries.cons k v es).text ++ rest)) =
        [58] ++ (value.text ++ 44 :: ((Entries.cons k v es).text ++ rest)) from rfl, readText_append]
      rw [Option.bind_some, hread]
      exact congrArg (Option.map fun r => (Entries.cons key value r.1, r.2)) hmore

end

mutual

/-- The length of its text is fuel enough for a value. -/
theorem Value.fuel_le (v : Value) : v.fuel ≤ v.text.length := by
  match v with
  | .null => exact (by decide : 1 ≤ 4)
  | .bool true => exact (by decide : 1 ≤ 4)
  | .bool false => exact (by decide : 1 ≤ 5)
  | .number i =>
    obtain ⟨u, us, hu, -⟩ := signed_head (i := i)
    rw [Value.text, hu]
    exact Nat.le_add_left ..
  | .string s => exact Nat.le_add_left ..
  | .object es =>
    have h := Entries.fuel_le es
    rw [Value.fuel, Value.text, List.length_cons]
    exact Nat.succ_le_succ h

theorem Entries.fuel_le (es : Entries) : es.fuel ≤ es.text.length := by
  match es with
  | .nil => exact Nat.zero_le _
  | .cons key value .nil =>
    have h := Value.fuel_le value
    rw [Entries.fuel, Entries.fuel, Entries.text]
    simp only [List.length_append, List.length_cons, List.length_nil]
    omega
  | .cons key value (.cons k v rest) =>
    have h := Value.fuel_le value
    have hrest := Entries.fuel_le (.cons k v rest)
    rw [Entries.fuel, Entries.text]
    simp only [List.length_append, List.length_cons]
    omega

end

/-- A text is parsed to the value that wrote it. -/
theorem parse_text (v : Value) : parse v.text = some v := by
  have hread := readValue_text v v.text.length [] v.fuel_le (fun _ hu => by cases hu)
  rw [List.append_nil] at hread
  unfold parse
  rw [hread]

/-! ### ASCII -/

theorem ascii_of_all {s : List UInt16} (h : s.all (· < 128) = true) : ∀ u ∈ s, u < 128 :=
  fun u hu => of_decide_eq_true (List.all_eq_true.1 h u hu)

theorem signed_lt {i : Int} : ∀ u ∈ signed i, u < 128 := by
  cases i with
  | ofNat n => exact numeral_lt
  | negSucc n => exact List.forall_mem_cons.2 ⟨by decide, numeral_lt⟩

mutual

/-- The text of a value is ASCII. -/
theorem Value.text_lt (v : Value) : ∀ u ∈ v.text, u < 128 := by
  match v with
  | .null => exact ascii_of_all (by decide)
  | .bool true => exact ascii_of_all (by decide)
  | .bool false => exact ascii_of_all (by decide)
  | .number i => exact signed_lt
  | .string s => exact quote_lt
  | .object es => exact List.forall_mem_cons.2 ⟨by decide, Entries.text_lt es⟩

theorem Entries.text_lt (es : Entries) : ∀ u ∈ es.text, u < 128 := by
  match es with
  | .nil => exact ascii_of_all (by decide)
  | .cons key value .nil =>
    have hvalue := Value.text_lt value
    rw [Entries.text, List.forall_mem_append, List.forall_mem_cons, List.forall_mem_append]
    exact ⟨quote_lt, by decide, hvalue, ascii_of_all (by decide)⟩
  | .cons key value (.cons k v rest) =>
    have hvalue := Value.text_lt value
    have hrest := Entries.text_lt (.cons k v rest)
    rw [Entries.text, List.forall_mem_append, List.forall_mem_cons, List.forall_mem_append,
      List.forall_mem_cons]
    exact ⟨quote_lt, by decide, hvalue, by decide, hrest⟩

end

end Json

end Text
