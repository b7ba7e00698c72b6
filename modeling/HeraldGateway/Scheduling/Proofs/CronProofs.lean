import HeraldGateway.Scheduling.Cron

/-!
# Which intervals follow a cron expression

The scheduler adds an interval to the present time. Milliseconds, minutes, hours and days are units of each
other, so the next time of an expression is found by `isNext_iff`, from the milliseconds up to the days.
-/

namespace HeraldGateway

/-! ### From milliseconds to days -/

section intervals

variable {c : Cron} {now n : Nat}

/-- Some minutes later. -/
theorem isNext_minutes (hn : 0 < n) : IsNext c.Due now (now + n * 60000) ↔
    now % 60000 = 0 ∧ IsNext c.InMinute (now / 60000) (now / 60000 + n) := by
  have hdiv : (now + n * 60000) / 60000 = now / 60000 + n := Nat.add_mul_div_right _ _ (by decide)
  have hmod : (now + n * 60000) % 60000 = now % 60000 := Nat.add_mul_mod_self_right ..
  refine (isNext_iff (P := c.InMinute) (Q := (· = 0)) (by decide)).trans ?_
  rw [IsFirstOfUnit, hdiv, hmod]
  constructor
  · rintro ⟨hP, hfull, ⟨heq, -⟩ | ⟨hlt, -, hunits, -⟩⟩
    · omega
    · exact ⟨hfull, hlt, hP, hunits⟩
  · rintro ⟨hfull, hlt, hP, hunits⟩
    refine ⟨hP, hfull, .inr ⟨hlt, ?_, hunits, ?_⟩⟩
    · intro k hk
      omega
    · intro _ k hk _
      omega

/-- Some hours later. -/
theorem isNext_hours (hn : 0 < n) : IsNext c.Due now (now + n * 3600000) ↔
    c.FirstMinute now ∧ IsNext c.InHour (now / 60000 / 60) (now / 60000 / 60 + n) := by
  have hmul : n * 3600000 = (n * 60) * 60000 := by omega
  have hdiv : (now / 60000 + n * 60) / 60 = now / 60000 / 60 + n := Nat.add_mul_div_right _ _ (by decide)
  have hmod : (now / 60000 + n * 60) % 60 = now / 60000 % 60 := Nat.add_mul_mod_self_right ..
  rw [hmul, isNext_minutes (by omega)]
  refine (and_congr_right' (isNext_iff (P := c.InHour) (Q := Allows c.minute) (by decide))).trans ?_
  rw [IsFirstOfUnit, hdiv, hmod]
  constructor
  · rintro ⟨hfull, hP, hQ, ⟨heq, -⟩ | ⟨hlt, hfirst, hunits, hrest⟩⟩
    · omega
    · exact ⟨⟨hfull, hQ, hfirst, hrest⟩, hlt, hP, hunits⟩
  · rintro ⟨⟨hfull, hQ, hfirst, hrest⟩, hlt, hP, hunits⟩
    exact ⟨hfull, hP, hQ, .inr ⟨hlt, hfirst, hunits, hrest⟩⟩

/-- The field has the least value and all that are a step apart. -/
def HasStep (field : List CronItem) (most n : Nat) : Prop := ∃ items, field = ⟨0, most, n⟩ :: items

theorem HasStep.allows {field : List CronItem} {most k : Nat} (h : HasStep field most n) (hk : k < most + 1)
    (hdvd : n ∣ k) : Allows field k := by
  obtain ⟨items, rfl⟩ := h
  exact ⟨_, List.mem_cons_self, Nat.zero_le k, Nat.le_of_lt_succ hk, hdvd⟩

theorem isNext_everyMinutes (hn : 0 < n) (hstep : HasStep c.minute 59 n) :
    IsNext c.Due now (now + n * 60000) ↔ c.MinutesFit now n := by
  rw [isNext_minutes hn]
  have hnext := isNext_step_iff (P := c.InHour) (Q := Allows c.minute) (B := 60) (t := now / 60000)
    (by decide) hn fun k hk hdvd => hstep.allows hk hdvd
  constructor
  · rintro ⟨hfull, h⟩
    exact ⟨hfull, hnext.1 h⟩
  · rintro ⟨hfull, h⟩
    exact ⟨hfull, hnext.2 h⟩

theorem isNext_everyHours (hn : 0 < n) (hstep : HasStep c.hour 23 n) :
    IsNext c.Due now (now + n * 3600000) ↔ c.HoursFit now n := by
  rw [isNext_hours hn]
  have hnext := isNext_step_iff (P := c.OnDay) (Q := Allows c.hour) (B := 24) (t := now / 60000 / 60)
    (by decide) hn fun k hk hdvd => hstep.allows hk hdvd
  constructor
  · rintro ⟨hminute, h⟩
    exact ⟨hminute, hnext.1 h⟩
  · rintro ⟨hminute, h⟩
    exact ⟨hminute, hnext.2 h⟩

/-- A day later. -/
theorem isNext_daily : IsNext c.Due now (now + 86400000) ↔ c.DailyFits now := by
  have hdiv : (now / 60000 / 60 + 24) / 24 = now / 60000 / 60 / 24 + 1 := by omega
  have hmod : (now / 60000 / 60 + 24) % 24 = now / 60000 / 60 % 24 := by omega
  refine (isNext_hours (n := 24) (by decide)).trans ?_
  have hnext : IsNext (fun u => c.OnDay (u / 24) ∧ Allows c.hour (u % 24)) (now / 60000 / 60)
      (now / 60000 / 60 + 24) ↔ _ := isNext_iff (by decide)
  rw [IsFirstOfUnit, hdiv, hmod] at hnext
  constructor
  · rintro ⟨hminute, h⟩
    obtain ⟨hP, hQ, ⟨heq, -⟩ | ⟨-, hfirst, -, hrest⟩⟩ := hnext.1 h
    · omega
    · exact ⟨hminute, hP, hQ, hfirst, hrest⟩
  · rintro ⟨hminute, hP, hQ, hfirst, hrest⟩
    refine ⟨hminute, hnext.2 ⟨hP, hQ, .inr ⟨by omega, hfirst, ?_, hrest⟩⟩⟩
    intro d hd hd'
    omega

end intervals

/-! ### What the scheduler reads of a step -/

theorem splitOn_eq_singleton {u : UInt16} {s p : JsString} (h : splitOn u s = [p]) : s = p := by
  by_cases hu : u ∈ s
  · obtain ⟨a, b, rfl, ha⟩ := List.eq_append_cons_of_mem hu
    rw [splitOn_append ha] at h
    exact absurd (List.cons.inj h).2 (splitOn_ne_nil u b)
  · rw [splitOn_of_not_mem hu] at h
    exact (List.cons.inj h).1

/-- A string is its first part, or goes on after the separator. -/
theorem splitOn_first (u : UInt16) (s : JsString) :
    ∃ p rest, splitOn u s = p :: rest ∧ u ∉ p ∧ (s = p ∨ ∃ t, s = p ++ u :: t) := by
  by_cases hu : u ∈ s
  · obtain ⟨a, b, rfl, ha⟩ := List.eq_append_cons_of_mem hu
    exact ⟨a, splitOn u b, splitOn_append ha, ha, .inr ⟨b, rfl⟩⟩
  · exact ⟨s, [], splitOn_of_not_mem hu, hu, .inl rfl⟩

theorem isDigit_range {u : UInt16} (h : isDigit u = true) : 48 ≤ u.toNat ∧ u.toNat ≤ 57 := by
  obtain ⟨h₁, h₂⟩ := Bool.and_eq_true_iff.1 h
  exact ⟨UInt16.le_iff_toNat_le.1 (of_decide_eq_true h₁), UInt16.le_iff_toNat_le.1 (of_decide_eq_true h₂)⟩

/-- A digit is neither white space nor a sign. -/
theorem isDigit_plain {u : UInt16} (h : isDigit u = true) : isSpace u = false ∧ u ≠ 45 ∧ u ≠ 43 := by
  obtain ⟨h₁, h₂⟩ := isDigit_range h
  refine ⟨?_, ?_, ?_⟩
  · simp only [isSpace, Bool.or_eq_false_iff, Bool.and_eq_false_iff, decide_eq_false_iff_not,
      beq_eq_false_iff_ne, UInt16.le_iff_toNat_le, ne_eq, ← UInt16.toNat_inj, UInt16.reduceToNat]
    omega
  · rintro rfl
    simp at h₁
  · rintro rfl
    simp at h₁

/-- The number that begins a string. -/
theorem parseInt_digits {s rest : JsString} (hne : s ≠ []) (hdigits : ∀ u ∈ s, isDigit u = true)
    (hrest : ∀ u ∈ rest.head?, isDigit u = false) : parseInt (s ++ rest) = some (digitsValue s : Int) := by
  have htake : (s ++ rest).takeWhile isDigit = s := by
    rw [List.takeWhile_append_of_pos hdigits]
    cases rest with
    | nil => exact List.append_nil s
    | cons a rest => rw [List.takeWhile_cons, hrest a rfl, if_neg (by decide), List.append_nil]
  obtain ⟨a, s', rfl⟩ := List.exists_cons_of_ne_nil hne
  obtain ⟨hspace, hminus, hplus⟩ := isDigit_plain (hdigits a List.mem_cons_self)
  have hdrop : ((a :: s') ++ rest).dropWhile isSpace = (a :: s') ++ rest := by
    rw [List.cons_append, List.dropWhile_cons, hspace, if_neg (by decide)]
  unfold parseInt
  simp only [hdrop]
  -- the first digit is no sign
  split
  · next h => exact absurd (List.cons.inj h).1 hminus
  · next h => exact absurd (List.cons.inj h).1 hplus
  · simp only [htake]
    rfl

theorem cronNumeral_eq_some {s : JsString} {n : Nat} (h : cronNumeral s = some n) :
    s ≠ [] ∧ (∀ u ∈ s, isDigit u = true) ∧ digitsValue s = n := by
  unfold cronNumeral at h
  split at h
  · next hs => exact ⟨hs.1, List.all_eq_true.1 hs.2, Option.some.inj h⟩
  · cases h

/-- A step over all values. -/
theorem cronItem_step {r : CronRange} {s : JsString} {i : CronItem}
    (h : cronItem r (42 :: 47 :: s) = some i) :
    s ≠ [] ∧ (∀ u ∈ s, isDigit u = true) ∧ 0 < digitsValue s ∧ i = ⟨r.least, r.most, digitsValue s⟩ := by
  have hsplit : splitOn 47 (42 :: 47 :: s) = [42] :: splitOn 47 s := splitOn_append (s := [42]) (by decide)
  unfold cronItem at h
  rw [hsplit] at h
  split at h
  · next heq => exact absurd (List.cons.inj heq).2 (splitOn_ne_nil 47 s)
  · next span step heq =>
    obtain ⟨rfl, hrest⟩ := List.cons.inj heq
    obtain rfl := splitOn_eq_singleton hrest
    have hspan : cronSpan r [42] = some (r.least, r.most) := if_pos rfl
    rw [hspan] at h
    change ((cronNumeral s).bind fun n => if 0 < n then some (⟨r.least, r.most, n⟩ : CronItem) else none) =
      some i at h
    obtain ⟨n, hn, h⟩ := Option.bind_eq_some_iff.1 h
    obtain ⟨hne, hdigits, rfl⟩ := cronNumeral_eq_some hn
    split at h
    · next hpos => exact ⟨hne, hdigits, hpos, (Option.some.inj h).symm⟩
    · cases h
  · cases h

/-- A list that begins with a step has it as its first item, and its number is the one that is read. -/
theorem cronField_step {r : CronRange} {s : JsString} {items : List CronItem}
    (h : cronField r (42 :: 47 :: s) = some items) :
    ∃ n : Nat, parseInt s = some (n : Int) ∧ 0 < n ∧ ∃ rest, items = ⟨r.least, r.most, n⟩ :: rest := by
  obtain ⟨p, ps, hsplit, hp, hs⟩ := splitOn_first 44 s
  have hfirst : ∃ ps', splitOn 44 (42 :: 47 :: s) = (42 :: 47 :: p) :: ps' := by
    have hp' : (44 : UInt16) ∉ 42 :: 47 :: p := by simp [hp]
    rcases hs with rfl | ⟨t, rfl⟩
    · exact ⟨[], splitOn_of_not_mem hp'⟩
    · exact ⟨splitOn 44 t, splitOn_append (s := 42 :: 47 :: p) hp'⟩
  obtain ⟨ps', hfirst⟩ := hfirst
  unfold cronField at h
  rw [hfirst, List.mapM_cons] at h
  obtain ⟨i, hi, h⟩ := Option.bind_eq_some_iff.1 h
  obtain ⟨rest, -, h⟩ := Option.bind_eq_some_iff.1 h
  obtain ⟨hne, hdigits, hpos, rfl⟩ := cronItem_step hi
  refine ⟨digitsValue p, ?_, hpos, rest, (Option.some.inj h).symm⟩
  rcases hs with rfl | ⟨t, rfl⟩
  · have hint : parseInt (s ++ []) = some (digitsValue s : Int) :=
      parseInt_digits hne hdigits fun _ hu => nomatch hu
    rwa [List.append_nil] at hint
  · refine parseInt_digits hne hdigits ?_
    rintro u ⟨⟩
    decide

/-! ### The branches of the scheduler -/

theorem toDate_eq {t : Nat} {d : Int} : toDate (t : Int) = some d ↔ IsDate t ∧ d = t := by
  unfold toDate IsDate
  rw [Int.natAbs_natCast]
  split
  · next h => exact ⟨fun hd => ⟨h, (Option.some.inj hd).symm⟩, fun hd => congrArg some hd.2.symm⟩
  · next h => exact ⟨nofun, fun hd => absurd hd.1 h⟩

/-- A step is followed where its number is positive, leads to a date, and this is the next time. -/
theorem followsCron_step {now unit : Nat} {cronExpr field : JsString} {fits : Nat → Prop}
    (hrun : nextCronRun now cronExpr = dateAfter now (parseInt (field.drop 2)) unit) (hunit : 0 < unit)
    (hfits : ∀ n : Nat, 0 < n → parseInt (field.drop 2) = some (n : Int) →
      ((∀ c ∈ parseCron cronExpr, IsNext c.Due now (now + n * unit)) ↔ fits n)) :
    FollowsCron now cronExpr ↔ StepFits now field unit fits := by
  have hdate : ∀ n : Nat, ((now : Int) + (n : Int) * (unit : Int)) = ((now + n * unit : Nat) : Int) :=
    fun n => by push_cast; rfl
  constructor
  · rintro ⟨t, ht, hlt, hnext⟩
    rw [hrun] at ht
    obtain ⟨k, hk, ht⟩ := Option.bind_eq_some_iff.1 ht
    -- an interval that is not positive does not lead past now
    have hvalue : ((now : Int) + k * (unit : Int)) = (t : Int) := by
      unfold toDate at ht
      split at ht
      · exact Option.some.inj ht
      · cases ht
    have hpos : 0 < k := by
      by_contra hneg
      have hmul : k * (unit : Int) ≤ 0 := Int.mul_nonpos_of_nonpos_of_nonneg (by omega) (by omega)
      have hlater : (now : Int) < (t : Int) := Int.ofNat_lt.2 hlt
      omega
    obtain ⟨n, rfl⟩ := Int.eq_ofNat_of_zero_le (Int.le_of_lt hpos)
    rw [hdate] at ht hvalue
    obtain rfl : now + n * unit = t := Int.ofNat.inj hvalue
    exact ⟨n, hk, by omega, (toDate_eq.1 ht).1, (hfits n (by omega) hk).1 hnext⟩
  · rintro ⟨n, hn, hpos, hd, hf⟩
    refine ⟨now + n * unit, ?_, ?_, (hfits n hpos hn).2 hf⟩
    · rw [hrun, dateAfter, hn, Option.bind_some, hdate]
      exact toDate_eq.2 ⟨hd, rfl⟩
    · exact Nat.lt_add_of_pos_right (Nat.mul_pos hpos hunit)

/-- A fixed interval is followed where it leads to a date, and this is the next time. -/
theorem followsCron_fixed {now unit : Nat} {cronExpr : JsString}
    (hrun : nextCronRun now cronExpr = dateAfter now (some 1) unit) (hunit : 0 < unit) :
    FollowsCron now cronExpr ↔
      IsDate (now + unit) ∧ ∀ c ∈ parseCron cronExpr, IsNext c.Due now (now + unit) := by
  have hdate : dateAfter now (some 1) unit = toDate ((now + unit : Nat) : Int) := by
    rw [dateAfter, Option.bind_some, Int.one_mul]
    push_cast
    rfl
  rw [hdate] at hrun
  constructor
  · rintro ⟨t, ht, -, hnext⟩
    obtain ⟨hd, ht'⟩ := toDate_eq.1 (hrun.symm.trans ht)
    obtain rfl : t = now + unit := Int.ofNat.inj ht'
    exact ⟨hd, hnext⟩
  · rintro ⟨hd, hnext⟩
    exact ⟨now + unit, hrun.trans (toDate_eq.2 ⟨hd, rfl⟩), Nat.lt_add_of_pos_right hunit, hnext⟩

theorem prefix_step {field : JsString} (h : (js "*/").isPrefixOf field = true) :
    field = 42 :: 47 :: field.drop 2 :=
  (List.prefix_iff_eq_append.1 (List.isPrefixOf_iff_prefix.1 h)).symm

/-- The fields of an expression. -/
theorem cronOf_eq_some {minute hour dayOfMonth month dayOfWeek : JsString} {c : Cron}
    (h : cronOf minute hour dayOfMonth month dayOfWeek = some c) :
    cronField { least := 0, most := 59 } minute = some c.minute ∧
      cronField { least := 0, most := 23 } hour = some c.hour := by
  obtain ⟨m, hm, h⟩ := Option.bind_eq_some_iff.1 h
  obtain ⟨k, hk, h⟩ := Option.bind_eq_some_iff.1 h
  obtain ⟨_, -, h⟩ := Option.bind_eq_some_iff.1 h
  obtain ⟨_, -, h⟩ := Option.bind_eq_some_iff.1 h
  obtain ⟨_, -, h⟩ := Option.bind_eq_some_iff.1 h
  obtain rfl := Option.some.inj h
  exact ⟨hm, hk⟩

/-- A field that begins with a step has it. -/
theorem hasStep_of_fields {most n : Nat} {field : JsString} {items : List CronItem}
    (hpre : (js "*/").isPrefixOf field = true) (h : cronField { least := 0, most := most } field = some items)
    (hn : parseInt (field.drop 2) = some (n : Int)) : HasStep items most n := by
  rw [prefix_step hpre] at h
  obtain ⟨k, hk, -, rest, rfl⟩ := cronField_step h
  obtain rfl : k = n := Int.ofNat.inj (Option.some.inj (hk.symm.trans hn))
  exact ⟨rest, rfl⟩

/-- When a schedule follows its expression. -/
theorem followsCron_iff (now : Millis) (cronExpr : JsString) :
    FollowsCron now cronExpr ↔ CronFits now cronExpr := by
  unfold CronFits
  split
  · next minute hour dayOfMonth month dayOfWeek hwords =>
    have hparse : parseCron cronExpr = cronOf minute hour dayOfMonth month dayOfWeek := by
      rw [parseCron, hwords]
    have hrun : nextCronRun now cronExpr =
        if (js "*/").isPrefixOf minute then dateAfter now (parseInt (minute.drop 2)) 60000
        else if (js "*/").isPrefixOf hour then dateAfter now (parseInt (hour.drop 2)) 3600000
        else dateAfter now (some 1) 86400000 := by
      rw [nextCronRun, hwords]
    split
    · next hminute =>
      rw [if_pos hminute] at hrun
      refine followsCron_step hrun (by decide) fun n hpos hn => forall₂_congr fun c hc => ?_
      have hfields := cronOf_eq_some (hparse.symm.trans hc)
      exact isNext_everyMinutes hpos (hasStep_of_fields hminute hfields.1 hn)
    · next hminute =>
      rw [if_neg hminute] at hrun
      split
      · next hhour =>
        rw [if_pos hhour] at hrun
        refine followsCron_step hrun (by decide) fun n hpos hn => forall₂_congr fun c hc => ?_
        have hfields := cronOf_eq_some (hparse.symm.trans hc)
        exact isNext_everyHours hpos (hasStep_of_fields hhour hfields.2 hn)
      · next hhour =>
        rw [if_neg hhour] at hrun
        refine (followsCron_fixed hrun (by decide)).trans ?_
        exact and_congr_right' (forall₂_congr fun c _ => isNext_daily)
  · next hwords =>
    have hparse : parseCron cronExpr = none := by
      unfold parseCron
      split
      · next heq => exact absurd heq (hwords _ _ _ _ _)
      · rfl
    have hrun : nextCronRun now cronExpr = dateAfter now (some 1) 3600000 := by
      unfold nextCronRun
      split
      · next heq => exact absurd heq (hwords _ _ _ _ _)
      · rfl
    refine (followsCron_fixed hrun (by decide)).trans ⟨fun h => h.1, fun h => ⟨h, ?_⟩⟩
    rw [hparse]
    intro c hc
    cases hc

/-- Mondays at nine, asked for on Monday, 2024-01-01, at midnight: the next run is on Tuesday at midnight. -/
theorem monday_schedule_daily : ¬ FollowsCron 1704067200000 (js "0 9 * * 1") := by
  rintro ⟨t, ht, -, hnext⟩
  have hrun : nextCronRun 1704067200000 (js "0 9 * * 1") = some 1704153600000 := by decide +kernel
  obtain rfl : t = 1704153600000 := Int.ofNat.inj (Option.some.inj (ht.symm.trans hrun))
  obtain ⟨c, hc⟩ : ∃ c, parseCron (js "0 9 * * 1") = some c := Option.isSome_iff_exists.1 (by decide +kernel)
  have hdue : ∀ c ∈ parseCron (js "0 9 * * 1"), ¬ c.Due 1704153600000 := by decide +kernel
  exact hdue c hc (hnext c hc).2.1

end HeraldGateway
