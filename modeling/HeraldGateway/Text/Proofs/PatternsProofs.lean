import HeraldGateway.Text.Patterns
import Mathlib.Data.List.TakeWhile

/-!
# Looking for patterns, proved
-/

/-!
## The search by derivatives is right

The derivative of an expression by a letter matches what is left of the words that start with it, so
`matchesPrefix` finds the prefixes that match and `test` the factors (`test_iff`).
-/

namespace Text.Regex

variable {α : Type} {r s : Regex α} {a : α} {w : List α}

theorem lang_alt' : (alt' r s).lang = r.lang + s.lang := by
  unfold alt'
  split
  · exact (zero_add _).symm
  · exact (add_zero _).symm
  · rfl

theorem lang_seq' : (seq' r s).lang = r.lang * s.lang := by
  unfold seq'
  split
  · exact (zero_mul _).symm
  · exact (one_mul _).symm
  · rfl

theorem nullable_iff : r.nullable = true ↔ [] ∈ r.lang := by
  induction r with
  | none => simp [nullable, lang]
  | eps => simp [nullable, lang]
  | one p =>
    refine ⟨nofun, fun ⟨_, _, h⟩ => ?_⟩
    cases h
  | alt r s ihr ihs => simp [nullable, lang, Language.mem_add, ihr, ihs]
  | seq r s ihr ihs =>
    rw [nullable, Bool.and_eq_true, ihr, ihs, lang, Language.mem_mul]
    refine ⟨fun ⟨h, h'⟩ => ⟨[], h, [], h', rfl⟩, fun ⟨u, hu, v, hv, huv⟩ => ?_⟩
    obtain ⟨rfl, rfl⟩ := List.append_eq_nil_iff.1 huv
    exact ⟨hu, hv⟩
  | star r => simp [nullable, lang, Language.nil_mem_kstar]

theorem cons_mem_seq :
    a :: w ∈ r.lang * s.lang ↔
      (∃ u v, w = u ++ v ∧ a :: u ∈ r.lang ∧ v ∈ s.lang) ∨ [] ∈ r.lang ∧ a :: w ∈ s.lang := by
  rw [Language.mem_mul]
  constructor
  · rintro ⟨u, hu, v, hv, huv⟩
    cases u with
    | nil =>
      rw [List.nil_append] at huv
      exact .inr ⟨hu, huv ▸ hv⟩
    | cons b u =>
      obtain ⟨rfl, rfl⟩ := List.cons.inj huv
      exact .inl ⟨u, v, rfl, hu, hv⟩
  · rintro (⟨u, v, rfl, hu, hv⟩ | ⟨hu, hv⟩)
    · exact ⟨a :: u, hu, v, hv, rfl⟩
    · exact ⟨[], hu, a :: w, hv, rfl⟩

theorem cons_mem_star :
    a :: w ∈ (star r).lang ↔ ∃ u v, w = u ++ v ∧ a :: u ∈ r.lang ∧ v ∈ (star r).lang := by
  constructor
  · intro h
    rw [lang, Language.kstar_def_nonempty] at h
    obtain ⟨S, hS, hmem⟩ := h
    cases S with
    | nil => cases hS
    | cons x S =>
      obtain ⟨hx, hne⟩ := hmem x List.mem_cons_self
      cases x with
      | nil => exact absurd rfl hne
      | cons b u =>
        obtain ⟨rfl, rfl⟩ := List.cons.inj hS
        exact ⟨u, S.flatten, rfl, hx,
          Language.join_mem_kstar fun y hy => (hmem y (List.mem_cons_of_mem _ hy)).1⟩
  · rintro ⟨u, v, rfl, hu, hv⟩
    obtain ⟨S, rfl, hmem⟩ := Language.mem_kstar.1 hv
    exact Language.mem_kstar.2 ⟨(a :: u) :: S, rfl, List.forall_mem_cons.2 ⟨hu, hmem⟩⟩

/-- The derivative matches what is left. -/
theorem mem_deriv : w ∈ (r.deriv a).lang ↔ a :: w ∈ r.lang := by
  induction r generalizing w with
  | none => simp [deriv, lang]
  | eps => simp [deriv, lang]
  | one p =>
    have hone : a :: w ∈ (one p).lang ↔ p a = true ∧ w = [] := by
      refine ⟨fun ⟨b, hb, h⟩ => ?_, fun ⟨h, hw⟩ => ⟨a, h, hw ▸ rfl⟩⟩
      obtain ⟨rfl, rfl⟩ := List.cons.inj h
      exact ⟨hb, rfl⟩
    rw [hone, deriv]
    by_cases h : p a = true <;> simp [h, lang]
  | alt r s ihr ihs => rw [deriv, lang_alt', lang, Language.mem_add, Language.mem_add, ihr, ihs]
  | seq r s ihr ihs =>
    have hseq : w ∈ (r.deriv a).lang * s.lang ↔ ∃ u v, w = u ++ v ∧ a :: u ∈ r.lang ∧ v ∈ s.lang := by
      rw [Language.mem_mul]
      constructor
      · rintro ⟨u, hu, v, hv, rfl⟩
        exact ⟨u, v, rfl, ihr.1 hu, hv⟩
      · rintro ⟨u, v, rfl, hu, hv⟩
        exact ⟨u, ihr.2 hu, v, hv, rfl⟩
    rw [deriv, lang, cons_mem_seq, ← nullable_iff, ← hseq]
    by_cases h : r.nullable = true
    · rw [if_pos h, lang_alt', Language.mem_add, lang_seq', ihs]
      simp [h]
    · rw [if_neg h, lang_seq']
      simp [h]
  | star r ih =>
    rw [deriv, lang_seq', cons_mem_star, Language.mem_mul]
    constructor
    · rintro ⟨u, hu, v, hv, rfl⟩
      exact ⟨u, v, rfl, ih.1 hu, hv⟩
    · rintro ⟨u, v, rfl, hu, hv⟩
      exact ⟨u, ih.2 hu, v, hv, rfl⟩

theorem dead_lang (h : r.dead = true) : r.lang = 0 := by
  cases r <;> first | rfl | cases h

theorem matchesPrefix_iff :
    matchesPrefix w r = true ↔ ∃ v x, w = v ++ x ∧ v ∈ r.lang := by
  induction w generalizing r with
  | nil =>
    rw [matchesPrefix, nullable_iff]
    refine ⟨fun h => ⟨[], [], rfl, h⟩, fun ⟨v, x, h, hv⟩ => ?_⟩
    exact (List.append_eq_nil_iff.1 h.symm).1 ▸ hv
  | cons a w ih =>
    rw [matchesPrefix, Bool.or_eq_true, Bool.and_eq_true, ih, nullable_iff]
    constructor
    · rintro (h | ⟨-, v, x, rfl, hv⟩)
      · exact ⟨[], a :: w, rfl, h⟩
      · exact ⟨a :: v, x, rfl, mem_deriv.1 hv⟩
    · rintro ⟨v, x, h, hv⟩
      cases v with
      | nil => exact .inl hv
      | cons b v =>
        obtain ⟨rfl, rfl⟩ := List.cons.inj h
        refine .inr ⟨?_, v, x, rfl, mem_deriv.2 hv⟩
        cases hd : r.dead with
        | false => rfl
        | true =>
          rw [dead_lang hd] at hv
          exact absurd hv (Language.notMem_zero _)

/-- `test` finds out whether some factor of the word matches. -/
theorem test_iff : r.test w = true ↔ ∃ u v x, w = u ++ v ++ x ∧ v ∈ r.lang := by
  induction w with
  | nil =>
    rw [test, nullable_iff]
    refine ⟨fun h => ⟨[], [], [], rfl, h⟩, fun ⟨u, v, x, h, hv⟩ => ?_⟩
    have huv := (List.append_eq_nil_iff.1 h.symm).1
    exact (List.append_eq_nil_iff.1 huv).2 ▸ hv
  | cons a w ih =>
    rw [test, Bool.or_eq_true, matchesPrefix_iff, ih]
    constructor
    · rintro (⟨v, x, h, hv⟩ | ⟨u, v, x, rfl, hv⟩)
      · exact ⟨[], v, x, h, hv⟩
      · exact ⟨a :: u, v, x, rfl, hv⟩
    · rintro ⟨u, v, x, h, hv⟩
      cases u with
      | nil => exact .inl ⟨v, x, h, hv⟩
      | cons b u =>
        obtain ⟨rfl, rfl⟩ := List.cons.inj h
        exact .inr ⟨u, v, x, rfl, hv⟩

end Text.Regex

/-!
## What a replacement leaves in place

A replacement without patterns is inserted as it is. Where it has been inserted, no new occurrence of a mark
is made if the mark can only begin and end where the inserted text does.
-/

namespace Text

variable {needle s t u before after : List UInt16}

theorem split?_eq_some (h : split? needle s = some (before, after)) : s = before ++ needle ++ after := by
  induction s generalizing before with
  | nil =>
    unfold split? at h
    by_cases hn : needle = []
    · rw [if_pos hn] at h
      cases h
      rw [hn]
      rfl
    · rw [if_neg hn] at h
      cases h
  | cons a s ih =>
    rw [split?] at h
    by_cases hpre : needle.isPrefixOf (a :: s) = true
    · rw [if_pos hpre] at h
      cases h
      obtain ⟨rest, hrest⟩ := List.isPrefixOf_iff_prefix.1 hpre
      rw [← hrest, List.drop_left, List.nil_append]
    · rw [if_neg hpre] at h
      obtain ⟨⟨b, c⟩, hsplit, heq⟩ := Option.map_eq_some_iff.1 h
      cases heq
      rw [ih hsplit]
      rfl

theorem split?_eq_none (h : split? needle s = none) : ¬needle <:+: s := by
  induction s with
  | nil =>
    intro hin
    rw [split?, if_pos (List.infix_nil.1 hin)] at h
    cases h
  | cons a s ih =>
    intro hin
    rw [split?] at h
    by_cases hpre : needle.isPrefixOf (a :: s) = true
    · rw [if_pos hpre] at h
      cases h
    · rw [if_neg hpre, Option.map_eq_none_iff] at h
      rcases List.infix_cons_iff.1 hin with hin | hin
      · exact hpre (List.isPrefixOf_iff_prefix.2 hin)
      · exact ih h hin

/-! ### Patterns -/

theorem substitution?_isSome {occurrence : List UInt16} (a : UInt16) :
    (substitution? before occurrence after a).isSome = (substitution? [] [] [] a).isSome := by
  unfold substitution?
  repeat' split
  all_goals rfl

/-- Text without patterns stands for itself. -/
theorem expand_of_plain {occurrence : List UInt16} (h : hasPattern s = false) :
    expand before occurrence after s = s := by
  induction s with
  | nil => rfl
  | cons a s ih =>
    cases s with
    | nil => rfl
    | cons b s =>
      rw [hasPattern, Bool.or_eq_false_iff] at h
      have hnone : (if a = 36 then substitution? before occurrence after b else none) = none := by
        by_cases ha : a = 36
        · rw [if_pos ha, ← Option.isNone_iff_eq_none, ← Option.not_isSome, substitution?_isSome,
            Bool.not_eq_true',
            ← h.1, beq_iff_eq.2 ha, Bool.true_and]
          rfl
        · exact if_neg ha
      rw [expand, hnone]
      exact congrArg (a :: ·) (ih h.2)

/-- Text without a pattern, and none that may go on behind it. -/
structure PatternFree (s : List UInt16) : Prop where
  noPattern : hasPattern s = false
  last : s.getLast? ≠ some 36

theorem PatternFree.of_not_mem (h : 36 ∉ s) : PatternFree s where
  noPattern := by
    induction s with
    | nil => rfl
    | cons a s ih =>
      obtain ⟨hne, hs⟩ := List.ne_and_not_mem_of_not_mem_cons h
      cases s with
      | nil => rfl
      | cons b s => rw [hasPattern, beq_false_of_ne (Ne.symm hne), Bool.false_and, Bool.false_or, ih hs]
  last := fun hlast => h (List.mem_of_getLast? hlast)

theorem PatternFree.append (hs : PatternFree s) (ht : PatternFree t) : PatternFree (s ++ t) where
  noPattern := by
    induction s with
    | nil => exact ht.noPattern
    | cons a s ih =>
      cases s with
      | nil =>
        have ha : a ≠ 36 := fun ha => hs.last (by rw [ha]; rfl)
        cases t with
        | nil => rfl
        | cons b t =>
          rw [List.singleton_append, hasPattern, beq_false_of_ne ha, Bool.false_and, Bool.false_or,
            ht.noPattern]
      | cons b s =>
        have hpattern := hs.noPattern
        rw [hasPattern, Bool.or_eq_false_iff] at hpattern
        rw [List.cons_append, List.cons_append, hasPattern, Bool.or_eq_false_iff]
        refine ⟨hpattern.1, ih ⟨hpattern.2, ?_⟩⟩
        have hlast := hs.last
        rwa [List.getLast?_cons_cons] at hlast
  last := by
    cases t with
    | nil => rw [List.append_nil]; exact hs.last
    | cons b t =>
      rw [List.getLast?_append_of_ne_nil s (List.cons_ne_nil b t)]
      exact ht.last

/-- A value without patterns, before text that does not complete one. -/
theorem PatternFree.value (hs : hasPattern s = false) (ht : PatternFree t) (hfirst : completes t = false) :
    PatternFree (s ++ t) where
  noPattern := by
    induction s with
    | nil => exact ht.noPattern
    | cons b s ih =>
      cases s with
      | nil =>
        cases t with
        | nil => cases hfirst
        | cons a t =>
          rw [List.singleton_append, hasPattern, hfirst, ht.noPattern, Bool.and_false, Bool.or_false]
      | cons c s =>
        rw [hasPattern, Bool.or_eq_false_iff] at hs
        rw [List.cons_append, List.cons_append, hasPattern, Bool.or_eq_false_iff]
        exact ⟨hs.1, ih hs.2⟩
  last := by
    cases t with
    | nil => cases hfirst
    | cons a t =>
      rw [List.getLast?_append_of_ne_nil s (List.cons_ne_nil a t)]
      exact ht.last

/-! ### Replacing -/

/-- A plain replacement is put in the place of the first occurrence. -/
theorem replaceFirst_of_infix (h : needle <:+: s) (hplain : hasPattern t = false) :
    ∃ before after, s = before ++ needle ++ after ∧ replaceFirst needle t s = before ++ t ++ after := by
  unfold replaceFirst
  cases hsplit : split? needle s with
  | none => exact absurd h (split?_eq_none hsplit)
  | some r =>
    refine ⟨r.1, r.2, split?_eq_some hsplit, ?_⟩
    show r.1 ++ expand r.1 needle r.2 t ++ r.2 = r.1 ++ t ++ r.2
    rw [expand_of_plain hplain]

/-! ### Marks -/

/-- A mark that begins with `a`, and only there. -/
theorem infix_append_of_head {a : UInt16} {mark : List UInt16} (ha : a ∉ mark)
    (h : a :: mark <:+: s ++ a :: t) : a :: mark <:+: s ∨ a :: mark <:+: a :: t := by
  rcases List.infix_append_iff_ne_nil.1 h with h | h | ⟨l₁, l₂, hl₁, hl₂, heq, -, hpre⟩
  · exact .inl h
  · exact .inr h
  · obtain ⟨b, l₁, rfl⟩ := List.exists_cons_of_ne_nil hl₁
    obtain ⟨c, l₂, rfl⟩ := List.exists_cons_of_ne_nil hl₂
    obtain rfl : c = a := (List.cons_prefix_cons.1 hpre).1
    have hmark : mark = l₁ ++ c :: l₂ := (List.cons.inj heq).2
    exact absurd (hmark ▸ List.mem_append_right l₁ List.mem_cons_self) ha

/-- A mark that begins with `a`, in text where `a` is only the first. -/
theorem prefix_of_head {a : UInt16} {mark : List UInt16} (ha : a ∉ s) (h : a :: mark <:+: a :: s) :
    mark <+: s := by
  rcases List.infix_cons_iff.1 h with h | h
  · exact (List.cons_prefix_cons.1 h).2
  · exact absurd (h.subset List.mem_cons_self) ha

/-- A mark that ends with `a`, and only there. -/
theorem infix_append_of_last {a : UInt16} {mark : List UInt16} (ha : a ∉ mark)
    (h : mark ++ [a] <:+: s ++ [a] ++ t) : mark ++ [a] <:+: s ++ [a] ∨ mark ++ [a] <:+: t := by
  have hrev : (s ++ [a] ++ t).reverse = t.reverse ++ a :: s.reverse := by
    rw [List.reverse_append, List.reverse_append, List.reverse_singleton, List.singleton_append]
  have hmark : (mark ++ [a]).reverse = a :: mark.reverse := by
    rw [List.reverse_append, List.reverse_singleton, List.singleton_append]
  rw [← List.reverse_infix, hrev, hmark] at h
  rw [← List.reverse_infix, hmark, ← @List.reverse_infix _ _ t, hmark]
  have hs : (s ++ [a]).reverse = a :: s.reverse := by
    rw [List.reverse_append, List.reverse_singleton, List.singleton_append]
  rw [hs]
  exact (infix_append_of_head (fun hin => ha (List.mem_reverse.1 hin)) h).symm

/-!
## What follows a mark
-/

section captured

variable {mark s t run before after : List UInt16} {stop a : UInt16}

/-- A mark at the beginning of a text, or further on. -/
theorem marked_cons : Marked mark stop (a :: s) before after ↔
    (before = [] ∧ mark ++ after = a :: s ∧ after.takeWhile (· != stop) ≠ []) ∨
      ∃ before', before = a :: before' ∧ Marked mark stop s before' after := by
  constructor
  · rintro ⟨hsplit, hgoes⟩
    cases before with
    | nil => exact .inl ⟨rfl, hsplit.symm, hgoes⟩
    | cons b before =>
      obtain ⟨rfl, hs⟩ := List.cons.inj hsplit
      exact .inr ⟨before, rfl, hs, hgoes⟩
  · rintro (⟨rfl, hs, hgoes⟩ | ⟨before', rfl, hs, hgoes⟩)
    · exact ⟨hs.symm, hgoes⟩
    · exact ⟨congrArg (a :: ·) hs, hgoes⟩

theorem captured?_cons (mark : List UInt16) (stop a : UInt16) (s : List UInt16) :
    (∃ after, mark ++ after = a :: s ∧ after.takeWhile (· != stop) ≠ [] ∧
      captured? mark stop (a :: s) = some (after.takeWhile (· != stop))) ∨
    (∀ after, mark ++ after = a :: s → after.takeWhile (· != stop) = []) ∧
      captured? mark stop (a :: s) = captured? mark stop s := by
  by_cases hpre : mark <+: a :: s
  · obtain ⟨after, hafter⟩ := hpre
    have hdrop : (a :: s).drop mark.length = after := by rw [← hafter, List.drop_left]
    have hmark : mark.isPrefixOf (a :: s) = true := List.isPrefixOf_iff_prefix.2 ⟨after, hafter⟩
    by_cases hrun : after.takeWhile (· != stop) = []
    · refine .inr ⟨fun after' h => ?_, ?_⟩
      · rwa [List.append_cancel_left (h.trans hafter.symm)]
      · rw [captured?, hdrop, hrun, hmark]
        rfl
    · refine .inl ⟨after, hafter, hrun, ?_⟩
      have hsome : (after.takeWhile (· != stop)).isEmpty = false :=
        Bool.eq_false_iff.2 fun h => hrun (List.isEmpty_iff.1 h)
      rw [captured?, hdrop, hmark, hsome]
      rfl
  · have hmark : mark.isPrefixOf (a :: s) = false :=
      Bool.eq_false_iff.2 fun h => hpre (List.isPrefixOf_iff_prefix.1 h)
    refine .inr ⟨fun after h => absurd ⟨after, h⟩ hpre, ?_⟩
    rw [captured?, hmark]
    rfl

/-- The search finds nothing where there is no mark. -/
theorem captured?_eq_none_iff :
    captured? mark stop s = none ↔ ∀ before after, ¬ Marked mark stop s before after := by
  induction s with
  | nil =>
    refine iff_of_true rfl fun before after h => h.goesOn ?_
    have hnil := List.append_eq_nil_iff.1 h.split.symm
    rw [(List.append_eq_nil_iff.1 hnil.2).2]
    rfl
  | cons a s ih =>
    rcases captured?_cons mark stop a s with ⟨after, hs, hrun, hsome⟩ | ⟨hnone, heq⟩
    · rw [hsome]
      exact iff_of_false nofun fun h => h [] after (marked_cons.2 (.inl ⟨rfl, hs, hrun⟩))
    · rw [heq, ih]
      constructor
      · rintro h before after hmarked
        rcases marked_cons.1 hmarked with ⟨-, hs, hrun⟩ | ⟨before', -, hs⟩
        · exact hrun (hnone after hs)
        · exact h before' after hs
      · exact fun h before after hs => h (a :: before) after (marked_cons.2 (.inr ⟨before, rfl, hs⟩))

/-- The search finds what follows the first mark. -/
theorem captured?_of_first (h : FirstMarked mark stop s before after) :
    captured? mark stop s = some (after.takeWhile (· != stop)) := by
  induction s generalizing before with
  | nil =>
    exact absurd h.toMarked (captured?_eq_none_iff.1 rfl before after)
  | cons a s ih =>
    rcases captured?_cons mark stop a s with ⟨after', hs, hrun, hsome⟩ | ⟨hnone, heq⟩
    · have hle := h.first [] after' (marked_cons.2 (.inl ⟨rfl, hs, hrun⟩))
      obtain rfl := List.length_eq_zero_iff.1 (Nat.le_zero.1 hle)
      rw [hsome, List.append_cancel_left (hs.trans h.split)]
    · rcases marked_cons.1 h.toMarked with ⟨-, hs, hrun⟩ | ⟨before', rfl, hs⟩
      · exact absurd (hnone after hs) hrun
      · rw [heq]
        refine ih ⟨hs, fun before₁ after₁ h₁ => ?_⟩
        exact Nat.le_of_succ_le_succ (h.first (a :: before₁) after₁ (marked_cons.2 (.inr ⟨before₁, rfl, h₁⟩)))

theorem captured?_eq_some (h : captured? mark stop s = some run) :
    ∃ before after, FirstMarked mark stop s before after ∧ run = after.takeWhile (· != stop) := by
  induction s with
  | nil => cases h
  | cons a s ih =>
    rcases captured?_cons mark stop a s with ⟨after, hs, hrun, hsome⟩ | ⟨hnone, heq⟩
    · rw [hsome] at h
      have hfirst : FirstMarked mark stop (a :: s) [] after :=
        ⟨marked_cons.2 (.inl ⟨rfl, hs, hrun⟩), fun _ _ _ => Nat.zero_le _⟩
      exact ⟨[], after, hfirst, (Option.some.inj h).symm⟩
    · rw [heq] at h
      obtain ⟨before, after, hfirst, hrun⟩ := ih h
      have hmarked : Marked mark stop (a :: s) (a :: before) after :=
        marked_cons.2 (.inr ⟨before, rfl, hfirst.toMarked⟩)
      refine ⟨a :: before, after, ⟨hmarked, fun before₁ after₁ h₁ => ?_⟩, hrun⟩
      rcases marked_cons.1 h₁ with ⟨-, hs, hrun₁⟩ | ⟨before', rfl, hs⟩
      · exact absurd (hnone after₁ hs) hrun₁
      · exact Nat.succ_le_succ (hfirst.first before' after₁ hs)

theorem captured?_mark_append (h : after.takeWhile (· != stop) ≠ []) :
    captured? mark stop (mark ++ after) = some (after.takeWhile (· != stop)) :=
  @captured?_of_first mark (mark ++ after) [] after stop ⟨⟨rfl, h⟩, fun _ _ _ => Nat.zero_le _⟩

theorem stop_not_mem_captured (h : captured? mark stop s = some run) : stop ∉ run := by
  obtain ⟨before, after, -, rfl⟩ := captured?_eq_some h
  intro hstop
  have hne := List.mem_takeWhile_imp hstop
  rw [bne_self_eq_false] at hne
  cases hne

/-- No mark begins where its first letter does not stand. -/
theorem captured?_append_of_not_mem {m : UInt16} (hm : mark.head? = some m) (ht : m ∉ t) :
    captured? mark stop (t ++ s) = captured? mark stop s := by
  induction t with
  | nil => rfl
  | cons b t ih =>
    obtain ⟨hne, ht⟩ := List.ne_and_not_mem_of_not_mem_cons ht
    rw [← ih ht]
    rcases captured?_cons mark stop b (t ++ s) with ⟨after, hs, -, -⟩ | ⟨-, heq⟩
    · cases mark with
      | nil => cases hm
      | cons c mark =>
        obtain rfl := Option.some.inj hm
        exact absurd (List.cons.inj hs).1 hne
    · exact heq

theorem takeWhile_stop (hs : stop ∉ s) : (s ++ stop :: t).takeWhile (· != stop) = s := by
  have hall : ∀ u ∈ s, (u != stop) = true := fun u hu => bne_iff_ne.2 fun heq => hs (heq ▸ hu)
  rw [List.takeWhile_append_of_pos hall, List.takeWhile_cons_of_neg (by simp), List.append_nil]

theorem takeWhile_of_not_mem (hs : stop ∉ s) : s.takeWhile (· != stop) = s :=
  List.takeWhile_eq_self_iff.2 fun _ hu => bne_iff_ne.2 fun heq => hs (heq ▸ hu)

/-- A search gets behind a `stop` only if it finds nothing before. -/
theorem captured?_append_stop (hmark : stop ∉ mark) (hs : stop ∉ s) :
    captured? mark stop (s ++ stop :: t) = (captured? mark stop s).or (captured? mark stop (stop :: t)) := by
  induction s with
  | nil => rfl
  | cons a s ih =>
    obtain ⟨hne, hs'⟩ := List.ne_and_not_mem_of_not_mem_cons hs
    have hprefix : ∀ after, mark ++ after = a :: s ++ stop :: t →
        ∃ after', mark ++ after' = a :: s ∧ after = after' ++ stop :: t := by
      intro after hafter
      rcases List.append_eq_append_iff.1 hafter with ⟨after', hall, hafter'⟩ | ⟨rest, hmarked, hrest⟩
      · exact ⟨after', hall.symm, hafter'⟩
      · cases rest with
        | nil => exact ⟨[], by simpa using hmarked, by simpa using hrest.symm⟩
        | cons b rest =>
          obtain rfl := (List.cons.inj hrest).1
          exact absurd (by rw [hmarked]; simp) hmark
    rw [List.cons_append]
    rcases captured?_cons mark stop a (s ++ stop :: t) with ⟨after, hafter, hrun, hsome⟩ | ⟨hnone, heq⟩
    · obtain ⟨after', hs₁, rfl⟩ := hprefix after hafter
      have hafter' : stop ∉ after' := fun hin => hs (hs₁ ▸ List.mem_append_right mark hin)
      rw [takeWhile_stop hafter'] at hsome hrun
      have hfirst : FirstMarked mark stop (a :: s) [] after' :=
        ⟨⟨hs₁.symm, by rwa [takeWhile_of_not_mem hafter']⟩, fun _ _ _ => Nat.zero_le _⟩
      rw [hsome, captured?_of_first hfirst, takeWhile_of_not_mem hafter', Option.some_or]
    · rcases captured?_cons mark stop a s with ⟨after, hafter, hrun, -⟩ | ⟨-, heq'⟩
      · have hafter' : stop ∉ after := fun hin => hs (hafter ▸ List.mem_append_right mark hin)
        have hlong := hnone (after ++ stop :: t) (by rw [← List.append_assoc, hafter, List.cons_append])
        rw [takeWhile_stop hafter'] at hlong
        exact absurd (by rw [hlong]; rfl) hrun
      · rw [heq, heq', ih hs']

end captured

end Text
