import HeraldGateway.Templates.Injection
import HeraldGateway.Templates.Proofs.MessagesProofs

/-!
# When variables are put into a template as they are

Among keys that are text as patterns it depends on the values alone: one with a `$` pattern shows in its own
placeholder, and one from which another placeholder arises shows where it stands between the parts of it.
-/

namespace HeraldGateway

open Text

/-! ### Placeholders -/

theorem placeholder_eq (key : JsString) : placeholder key = 123 :: 123 :: (key ++ [125, 125]) := rfl

theorem placeholder_injective {key key' : JsString} (h : placeholder key = placeholder key') :
    key = key' := by
  rw [placeholder_eq, placeholder_eq] at h
  exact List.append_cancel_right (List.cons.inj (List.cons.inj h).2).2

theorem placeholder_ne_nil (key : JsString) : placeholder key ≠ [] := List.cons_ne_nil _ _

/-- Placeholders of keys without braces are separate. -/
theorem separate_of_no_brace {keys : List JsString} (h : ∀ key ∈ keys, 123 ∉ key ∧ 125 ∉ key) :
    Filling.Separate (keys.map placeholder) where
  ne_nil p hp := by
    obtain ⟨key, -, rfl⟩ := List.mem_map.1 hp
    exact List.cons_ne_nil _ _
  apart p hp q hq v hv hne hcomp := by
    obtain ⟨key, hkey, rfl⟩ := List.mem_map.1 hp
    obtain ⟨key', hkey', rfl⟩ := List.mem_map.1 hq
    have heq : ∃ t t', v ++ t = placeholder key' ++ t' := by
      rcases hcomp with ⟨t, ht⟩ | ⟨t, ht⟩
      · exact ⟨t, [], by rw [ht, List.append_nil]⟩
      · exact ⟨[], t, by rw [ht, List.append_nil]⟩
    obtain ⟨t, t', heq⟩ := heq
    rw [placeholder_eq key', List.cons_append, List.cons_append] at heq
    rw [placeholder_eq key] at hv
    rcases List.suffix_cons_iff.1 hv with rfl | hv
    · refine ⟨rfl, ?_⟩
      have htail : key ++ [125, 125] ++ t = key' ++ [125, 125] ++ t' :=
        (List.cons.inj (List.cons.inj heq).2).2
      have hstop : key ++ 125 :: 125 :: t = key' ++ 125 :: 125 :: t' :=
        (List.append_assoc ..).symm.trans (htail.trans (List.append_assoc ..))
      have htake := congrArg (List.takeWhile (· != 125)) hstop
      rw [takeWhile_stop (h key hkey).2, takeWhile_stop (h key' hkey').2] at htake
      rw [htake]
    rcases List.suffix_cons_iff.1 hv with rfl | hv
    · have htail := (List.cons.inj heq).2
      cases key with
      | nil => exact absurd (List.cons.inj htail).1 (by decide)
      | cons a key => exact absurd ((List.cons.inj htail).1 ▸ List.mem_cons_self) (h _ hkey).1
    · cases v with
      | nil => exact absurd rfl hne
      | cons a v =>
        have hmem : a ∈ key ++ [125, 125] := hv.subset List.mem_cons_self
        rw [(List.cons.inj heq).1] at hmem
        rcases List.mem_append.1 hmem with hmem | hmem
        · exact absurd hmem (h key hkey).1
        · exact absurd hmem (by decide)

/-- From a value without braces a placeholder arises only if the value is part of it. -/
theorem infix_of_arises {key v : JsString} (hv : 123 ∉ v ∧ 125 ∉ v)
    (h : Filling.Arises v (placeholder key)) : v <:+: placeholder key := by
  obtain ⟨x, y, ⟨hx, hxne⟩, ⟨hy, hyne⟩, u, w, heq⟩ := h
  have hxlt : x.length < (placeholder key).length :=
    Nat.lt_of_le_of_ne hx.length_le fun hlen => hxne (hx.eq_of_length hlen)
  have hylt : y.length < (placeholder key).length :=
    Nat.lt_of_le_of_ne hy.length_le fun hlen => hyne (hy.eq_of_length hlen)
  have hin : ∀ {s : JsString}, placeholder key <:+: s → s.length < (placeholder key).length → False :=
    fun hs hlt => absurd hs.length_le (Nat.not_le.2 hlt)
  rw [List.append_assoc, List.append_assoc] at heq
  rcases List.append_eq_append_iff.1 heq with ⟨as, hxas, hrest⟩ | ⟨bs, -, hrest⟩
  · rcases List.append_eq_append_iff.1 hrest with ⟨c, hc, -⟩ | ⟨c, hc, hvy⟩
    · exact (hin ⟨u, c, by rw [hxas, hc, List.append_assoc]⟩ hxlt).elim
    · -- it begins before the value, and so it ends behind it
      rcases List.append_eq_append_iff.1 hvy with ⟨d, hd, -⟩ | ⟨d, hd, -⟩
      · exact ⟨as, d, by rw [hc, hd, List.append_assoc]⟩
      rcases List.eq_nil_or_concat c with rfl | ⟨c, z, rfl⟩
      · rw [List.append_nil] at hc
        exact (hin ⟨u, [], by rw [hxas, hc, List.append_nil]⟩ hxlt).elim
      · have hlast : 123 :: 123 :: (key ++ [125]) ++ [125] = as ++ c ++ [z] := by
          rw [List.concat_eq_append, ← List.append_assoc] at hc
          rw [← hc, placeholder_eq]
          simp
        have hz := (List.cons.inj (List.append_inj_right' hlast rfl)).1
        rw [hd, List.concat_eq_append] at hv
        exact absurd (by simp [hz]) hv.2
  · rcases List.append_eq_append_iff.1 hrest with ⟨c, -, hc⟩ | ⟨c, hc, hrest⟩
    · exact (hin ⟨c, w, by rw [hc, List.append_assoc]⟩ hylt).elim
    · cases c with
      | nil => exact (hin ⟨[], w, hrest⟩ hylt).elim
      | cons z c =>
        rw [placeholder_eq] at hrest
        rw [hc, ← (List.cons.inj hrest).1] at hv
        exact absurd (List.mem_append_right bs List.mem_cons_self) hv.1

variable {R : RegExps} {vars : Object JsString} {e : JsString × JsString} {es : List (JsString × JsString)}

/-! ### Keys -/

theorem quantifierAt_digits {a : UInt16} {s : JsString} (h : (a :: s).all isDigit = true) :
    quantifierAt (123 :: (a :: s ++ [125, 125])) = true := by
  have hall := List.all_eq_true.1 h
  have htake : (a :: s ++ [125, 125]).takeWhile isDigit = a :: s :=
    (List.takeWhile_append_of_pos hall).trans (List.append_nil _)
  have hdrop : (a :: s ++ [125, 125]).dropWhile isDigit = [125, 125] := List.dropWhile_append_of_pos hall
  rw [quantifierAt, htake, hdrop]
  rfl

/-- An array index is a repetition as a pattern. -/
theorem isIndex_of_literal {key : JsString} (h : isLiteral key = true) : Object.isIndex key = false := by
  by_contra hindex
  rw [Bool.not_eq_false, Object.isIndex, Object.index?] at hindex
  split at hindex
  · cases hindex
  · next hdigits =>
    rw [Bool.not_eq_true, Bool.or_eq_false_iff, Bool.or_eq_false_iff, Bool.not_eq_false'] at hdigits
    obtain ⟨⟨hempty, hall⟩, -⟩ := hdigits
    cases key with
    | nil => cases hempty
    | cons a s =>
      rw [isLiteral, placeholder_eq, hasQuantifier, hasQuantifier, quantifierAt_digits hall, Bool.true_or,
        Bool.or_true, Bool.not_true, Bool.and_false] at h
      cases h

namespace PlainKeys

variable (hkeys : PlainKeys vars)
include hkeys

theorem perm {vars' : Object JsString} (h : vars'.props.Perm vars.props) : PlainKeys vars' where
  literal key hkey := hkeys.literal key ((h.map Prod.fst).subset hkey)
  separate := hkeys.separate.subset ((h.map Prod.fst).map placeholder).subset

theorem literal_of_mem (he : e ∈ vars.props) : isLiteral e.1 = true :=
  hkeys.literal e.1 (List.mem_map_of_mem he)

theorem entries_eq : vars.entries = vars.props :=
  Object.entries_of_named fun key hkey => isIndex_of_literal (hkeys.literal key hkey)

theorem family : Filling.Family (placeholders vars) := by
  have hwords : (placeholders vars).map Prod.fst = vars.names.map placeholder := by
    rw [placeholders, Object.names, List.map_map, List.map_map]
    rfl
  refine ⟨?_, ?_⟩
  · rw [hwords]
    exact hkeys.separate
  · rw [hwords]
    exact vars.nodup.map fun _ _ => placeholder_injective

end PlainKeys

/-! ### The order of variables -/

/-- Variables may be given in any order. -/
theorem Injects.of_perm (hkeys : PlainKeys vars) (h : Injects R vars) (hperm : es.Perm vars.props)
    (template : JsString) : es.foldlM (injectVariable R) template = some (simultaneous vars template) := by
  have hnodup : (es.map Prod.fst).Nodup := (hperm.map Prod.fst).nodup_iff.2 vars.nodup
  have hkeys' : PlainKeys ⟨es, hnodup⟩ := hkeys.perm hperm
  have hinject := h ⟨es, hnodup⟩ hperm template
  rwa [injectVariables, hkeys'.entries_eq] at hinject

/-- Any variable may be the last. -/
theorem exists_perm_last {α : Type} {a : α} {l : List α} (h : a ∈ l) : ∃ others, (others ++ [a]).Perm l := by
  obtain ⟨front, back, rfl⟩ := List.append_of_mem h
  exact ⟨front ++ back, (List.perm_append_singleton a _).trans List.perm_middle.symm⟩

/-- Any two variables may be the last. -/
theorem exists_perm_last_two {α : Type} {a b : α} {l : List α} (ha : a ∈ l) (hb : b ∈ l) (hne : a ≠ b) :
    ∃ others, (others ++ [a, b]).Perm l := by
  obtain ⟨front, back, rfl⟩ := List.append_of_mem ha
  have hrest : b ∈ front ++ back := by
    rcases List.mem_append.1 hb with h | h
    · exact List.mem_append_left back h
    · exact List.mem_append_right front ((List.mem_cons.1 h).resolve_left (Ne.symm hne))
  obtain ⟨others, hperm⟩ := exists_perm_last hrest
  refine ⟨others, List.Perm.trans ?_ List.perm_middle.symm⟩
  exact List.perm_middle.trans (hperm.cons a)

/-- Keys of variables that are put into templates make patterns. -/
theorem Injects.valid (h : Injects R vars) : ∀ key ∈ vars.keys, R.valid (placeholder key) = true :=
  injectVariables_isSome.1 (by rw [h vars (List.Perm.refl _) []]; rfl)

/-! ### One variable after the other -/

section

variable (hR : R.MatchesText)
include hR

theorem injectVariable_eq (hliteral : isLiteral e.1 = true) (text : JsString) :
    injectVariable R text e = some (replaceEvery (placeholder e.1) e.2 text) := by
  rw [injectVariable, if_pos (hR.valid_literal e.1 hliteral), hR.replaceAll_literal e.1 e.2 text hliteral]

/-- Values without patterns are filled in for one placeholder after the other. -/
theorem foldlM_eq_fillEach (hliteral : ∀ e ∈ es, isLiteral e.1 = true)
    (hplain : ∀ e ∈ es, hasPattern e.2 = false) (text : JsString) :
    es.foldlM (injectVariable R) text =
      some (Filling.fillEach (es.map fun e => (placeholder e.1, e.2)) text) := by
  induction es generalizing text with
  | nil => rfl
  | cons e es ih =>
    obtain ⟨he, hes⟩ := List.forall_mem_cons.1 hliteral
    obtain ⟨hp, hps⟩ := List.forall_mem_cons.1 hplain
    rw [List.foldlM_cons, injectVariable_eq hR he, replaceEvery_eq_fill hp]
    exact ih hes hps _

/-- Variables whose placeholders do not occur leave a text as it is. -/
theorem foldlM_of_no_word {text : JsString} (hliteral : ∀ e ∈ es, isLiteral e.1 = true)
    (h : ∀ e ∈ es, ¬placeholder e.1 <:+: text) : es.foldlM (injectVariable R) text = some text := by
  induction es with
  | nil => rfl
  | cons e es ih =>
    obtain ⟨he, hes⟩ := List.forall_mem_cons.1 hliteral
    obtain ⟨hn, hns⟩ := List.forall_mem_cons.1 h
    rw [List.foldlM_cons, injectVariable_eq hR he, replaceEvery_of_no_word hn]
    exact ih hes hns

/-- With safe values variables are put into every template as they are. -/
theorem injects_of_safe (hkeys : PlainKeys vars) (hsafe : SafeValues vars) : Injects R vars := by
  intro vars' hperm template
  have hkeys' := hkeys.perm hperm
  rw [injectVariables, hkeys'.entries_eq, foldlM_eq_fillEach hR (fun e he => hkeys'.literal_of_mem he)
    fun e he => hsafe.no_pattern e (hperm.subset he)]
  refine congrArg some (Filling.fillEach_eq_fill_of_perm hkeys.family (hperm.map _) ?_ template)
  intro a ha b hb hne
  obtain ⟨e, he, rfl⟩ := List.mem_map.1 ha
  obtain ⟨e', he', rfl⟩ := List.mem_map.1 hb
  refine hsafe.no_arising e he e' he' fun hkey => hne ?_
  rw [List.inj_on_of_nodup_map vars.nodup he he' hkey]

/-- A value that is put into its own placeholder as it is has no pattern. -/
theorem no_pattern_of_injects (hkeys : PlainKeys vars) (h : Injects R vars) (he : e ∈ vars.props) :
    hasPattern e.2 = false := by
  obtain ⟨others, hperm⟩ := exists_perm_last he
  have hin : (placeholder e.1, e.2) ∈ placeholders vars := List.mem_map_of_mem he
  have hlit : ∀ e' ∈ others, isLiteral e'.1 = true := fun e' he' =>
    hkeys.literal_of_mem (hperm.subset (List.mem_append_left _ he'))
  have hnodup : ((others ++ [e]).map Prod.fst).Nodup := (hperm.map Prod.fst).nodup_iff.2 vars.nodup
  have hothers : others.foldlM (injectVariable R) (placeholder e.1) = some (placeholder e.1) := by
    refine foldlM_of_no_word hR hlit fun e' he' hinfix => ?_
    obtain ⟨u, w, huw⟩ := hinfix
    have hin' : (placeholder e'.1, e'.2) ∈ placeholders vars :=
      List.mem_map_of_mem (hperm.subset (List.mem_append_left _ he'))
    have hbegin := hkeys.family.begins hin hin' (u := u) (w := placeholder e'.1 ++ w) (t := [])
      (by rw [← huw, List.append_assoc]) (List.append_ne_nil_of_left_ne_nil (List.cons_ne_nil _ _) w)
      (by rw [List.append_nil]; exact List.prefix_append ..)
    rw [List.map_append, List.nodup_append] at hnodup
    exact hnodup.2.2 _ (List.mem_map_of_mem he') _ (List.mem_singleton_self e.1)
      (placeholder_injective (Prod.mk.inj hbegin.2).1).symm
  have hresult := h.of_perm hkeys hperm (placeholder e.1)
  have hvalue : simultaneous vars (placeholder e.1) = e.2 := by
    have hword := hkeys.family.fill_word hin []
    rwa [List.append_nil, Filling.fill_nil, List.append_nil] at hword
  rw [List.foldlM_append, hothers, hvalue, Option.bind_eq_bind, Option.bind_some, List.foldlM_cons,
    injectVariable_eq hR (hkeys.literal_of_mem he), replaceEvery_self (placeholder_ne_nil e.1)] at hresult
  have hbrace : 123 ∈ placeholder e.1 := List.mem_cons_self
  exact plain_of_expand hbrace (by decide) (Option.some.inj hresult)

/-- With values that are put into every template as they are no other placeholder arises. -/
theorem no_arising_of_injects (hkeys : PlainKeys vars) (h : Injects R vars) {r : JsString × JsString}
    (he : e ∈ vars.props) (hr : r ∈ vars.props) (hne : e.1 ≠ r.1) :
    placeholder r.1 = r.2 ∨ ¬Filling.Arises e.2 (placeholder r.1) := by
  obtain ⟨others, hperm⟩ := exists_perm_last_two he hr fun heq => hne (congrArg Prod.fst heq)
  have hwords : (others.map fun e => (placeholder e.1, e.2)) ++
    [(placeholder e.1, e.2), (placeholder r.1, r.2)] =
      (others ++ [e, r]).map fun e => (placeholder e.1, e.2) := by
    rw [List.map_append]
    rfl
  have hfamily : ((others ++ [e, r]).map fun e => (placeholder e.1, e.2)).Perm (placeholders vars) :=
    hperm.map _
  refine Filling.safe_of_fillEach (e := (placeholder e.1, e.2)) (r := (placeholder r.1, r.2))
    (hwords ▸ hkeys.family.perm hfamily) fun s => ?_
  have hresult := h.of_perm hkeys hperm s
  rw [foldlM_eq_fillEach hR (fun e he => hkeys.literal_of_mem (hperm.subset he))
    fun e he => no_pattern_of_injects hR hkeys h (hperm.subset he)] at hresult
  rw [hwords, hkeys.family.fill_perm hfamily]
  exact Option.some.inj hresult

/-- Variables whose keys are text as patterns are put into every template as they are, in every order, exactly
if their values are safe. -/
theorem injects_iff_safe (hkeys : PlainKeys vars) : Injects R vars ↔ SafeValues vars :=
  ⟨fun h => ⟨fun _ he => no_pattern_of_injects hR hkeys h he,
    fun _ he _ hr hne => no_arising_of_injects hR hkeys h he hr hne⟩, injects_of_safe hR hkeys⟩

end

/-! ### Variables that are put in, and some that are not -/

/-- Patterns that are text, of which a parenthesis alone makes none. -/
def RegExps.ofText : RegExps where
  valid pattern := !pattern.contains 40
  test := includes
  replaceAll := replaceEvery

theorem ofText_matchesText : RegExps.ofText.MatchesText where
  valid_literal key h := by
    rw [isLiteral, Bool.and_eq_true, List.all_eq_true] at h
    show (!(placeholder key).contains 40) = true
    rw [Bool.not_eq_true', ← Bool.not_eq_true, List.contains_iff_mem, placeholder_eq]
    intro hmem
    rw [List.mem_cons, List.mem_cons, List.mem_append] at hmem
    rcases hmem with hmem | hmem | hmem | hmem
    · exact absurd hmem (by decide)
    · exact absurd hmem (by decide)
    · exact absurd (h.1 40 hmem) (by decide)
    · exact absurd hmem (by decide)
  replaceAll_literal _ _ _ _ := rfl

/-- The variables of a price. -/
def priceVariables : Object JsString := ⟨[(js "amount", js "1.5"), (js "token", js "SOL")], by decide⟩

example : RegExps.ofText.replaceAll (js "\x7b\x7btoken\x7d\x7d") (js "SOL") (js "1.5 \x7b\x7btoken\x7d\x7d") =
    js "1.5 SOL" := by decide +kernel

theorem injects_price : Injects RegExps.ofText priceVariables := by
  have hkeys : PlainKeys priceVariables :=
    ⟨by decide +kernel, separate_of_no_brace (by decide)⟩
  have hparts : ∀ e ∈ priceVariables.props, ∀ e' ∈ priceVariables.props, ¬e.2 <:+: placeholder e'.1 := by
    decide
  have hbraces : ∀ e ∈ priceVariables.props, 123 ∉ e.2 ∧ 125 ∉ e.2 := by decide
  refine (injects_iff_safe ofText_matchesText hkeys).2 ⟨by decide, fun e he e' he' _ => .inr fun h => ?_⟩
  exact hparts e he e' he' (infix_of_arises (hbraces e he) h)

/-- Variables whose key is no pattern, whose value has a `$` pattern, and whose value is another's
placeholder. -/
theorem variables_not_literal :
    ¬Injects RegExps.ofText ⟨[(js "(", js "1")], by decide⟩ ∧
    ¬Injects RegExps.ofText ⟨[(js "a", js "$&")], by decide⟩ ∧
    ¬Injects RegExps.ofText ⟨[(js "a", js "\x7b\x7bb\x7d\x7d"), (js "b", js "1")], by decide⟩ := by
  refine ⟨fun h => ?_, fun h => ?_, fun h => ?_⟩
  · exact absurd (h _ (List.Perm.refl _) (js "\x7b\x7b(\x7d\x7d")) (by decide +kernel)
  · exact absurd (h _ (List.Perm.refl _) (js "\x7b\x7ba\x7d\x7d")) (by decide +kernel)
  · exact absurd (h _ (List.Perm.refl _) (js "\x7b\x7ba\x7d\x7d")) (by decide +kernel)

end HeraldGateway
