import HeraldGateway.Text.Proofs.PatternsProofs
import Mathlib.Data.List.Infix
import Mathlib.Data.List.Nodup
import Mathlib.Data.List.Perm.Basic

/-!
# Filling in words of a text

Words of a text are replaced from left to right, all at once, or one word after the other. The two agree where
no word begins within another and nothing that is filled in lets a word arise that was not there.
-/

namespace Text

namespace Filling

variable {α : Type} {p q s t v : List α} {a : α}

/-! ### Separate words -/

/-- No word is empty, and where one stands none begins but itself. -/
structure Separate (ps : List (List α)) : Prop where
  ne_nil : ∀ p ∈ ps, p ≠ []
  apart : ∀ p ∈ ps, ∀ q ∈ ps, ∀ v, v <:+ p → v ≠ [] → (v <+: q ∨ q <+: v) → v = p ∧ p = q

/-- A word arises from a text between parts of the word. -/
def Arises (v p : List α) : Prop := ∃ x y, (x <+: p ∧ x ≠ p) ∧ (y <:+ p ∧ y ≠ p) ∧ p <:+: x ++ v ++ y

section

variable {ps : List (List α)} (hsep : Separate ps)
include hsep

/-- What begins within a word is that word. -/
theorem Separate.begins (hp : p ∈ ps) (hq : q ∈ ps) {u w : List α} (hs : p = u ++ w) (hw : w ≠ [])
    (h : q <+: w ++ t) : u = [] ∧ p = q := by
  obtain ⟨heq, hpq⟩ := hsep.apart p hp q hq w ⟨u, hs.symm⟩ hw
    (List.prefix_or_prefix_of_prefix (List.prefix_append w t) h)
  rw [heq] at hs
  exact ⟨List.self_eq_append_left.1 hs, hpq⟩

/-- A text begins with one word at most. -/
theorem Separate.unique (hp : p ∈ ps) (hq : q ∈ ps) (h : p <+: s) (h' : q <+: s) : p = q := by
  obtain ⟨t, rfl⟩ := h
  exact (hsep.begins hp hq (u := []) rfl (hsep.ne_nil p hp) h').2

theorem Separate.subset {qs : List (List α)} (h : qs ⊆ ps) : Separate qs where
  ne_nil q hq := hsep.ne_nil q (h hq)
  apart p hp q hq := hsep.apart p (h hp) q (h hq)

end

/-- A word that begins in a value and goes on behind it arises from it. -/
theorem arises_of_begins {u w : List α} (hp : p ≠ []) (hv : v = u ++ w) (hw : w ≠ []) (h : p <+: w ++ t) :
    Arises v p := by
  rcases List.prefix_or_prefix_of_prefix h (List.prefix_append w t) with hin | ⟨y, rfl⟩
  · refine ⟨[], [], ⟨List.nil_prefix, hp.symm⟩, ⟨List.nil_suffix, hp.symm⟩, ?_⟩
    rw [List.nil_append, List.append_nil, hv]
    exact hin.isInfix.trans (List.suffix_append u w).isInfix
  · refine ⟨[], y, ⟨List.nil_prefix, hp.symm⟩, ⟨List.suffix_append .., fun he => hw ?_⟩, u, [], ?_⟩
    · exact List.self_eq_append_left.1 he
    · simp [hv]

/-- A word that begins before a value arises from it unless it ends there too. -/
theorem arises_of_crosses {b : List α} (hb : b ≠ []) (hbp : ¬p <+: b) (h : p <+: b ++ (v ++ t)) :
    Arises v p := by
  rcases List.prefix_or_prefix_of_prefix h (List.prefix_append b (v ++ t)) with hin | ⟨r, rfl⟩
  · exact absurd hin hbp
  · have hr : r <+: v ++ t := (List.prefix_append_right_inj b).1 h
    have hne : r ≠ [] := by
      rintro rfl
      exact hbp (by rw [List.append_nil])
    have hx : b <+: b ++ r ∧ b ≠ b ++ r :=
      ⟨List.prefix_append b r, fun he => hne (List.self_eq_append_right.1 he)⟩
    rcases List.prefix_or_prefix_of_prefix hr (List.prefix_append v t) with hin | ⟨y, rfl⟩
    · refine ⟨b, [], hx, ⟨List.nil_suffix, fun he => hb (List.append_eq_nil_iff.1 he.symm).1⟩, ?_⟩
      rw [List.append_nil]
      exact ((List.prefix_append_right_inj b).2 hin).isInfix
    · refine ⟨b, y, hx, ⟨?_, fun he => hb ?_⟩, ?_⟩
      · rw [← List.append_assoc]
        exact List.suffix_append ..
      · rw [← List.append_assoc] at he
        exact (List.append_eq_nil_iff.1 (List.self_eq_append_left.1 he)).1
      · rw [List.append_assoc]

/-! ### Filling in -/

variable [DecidableEq α] {es : List (List α × List α)} {e : List α × List α}

/-- The entry whose word a text begins with. -/
def entryAt? (es : List (List α × List α)) (s : List α) : Option (List α × List α) :=
  es.find? fun e => e.1.isPrefixOf s

/-- Fill in what stands for words, where `skip` letters of one are left. -/
def fillFrom (es : List (List α × List α)) : Nat → List α → List α
  | _, [] => []
  | skip + 1, _ :: s => fillFrom es skip s
  | 0, a :: s =>
    match entryAt? es (a :: s) with
    | some e => e.2 ++ fillFrom es (e.1.length - 1) s
    | none => a :: fillFrom es 0 s

/-- Fill in what stands for words, all at once. -/
def fill (es : List (List α × List α)) (s : List α) : List α := fillFrom es 0 s

/-- Fill in what stands for one word after the other. -/
def fillEach (es : List (List α × List α)) (s : List α) : List α := es.foldl (fun s e => fill [e] s) s

theorem entryAt?_eq_none : entryAt? es s = none ↔ ∀ e ∈ es, ¬e.1 <+: s := by
  unfold entryAt?
  rw [List.find?_eq_none]
  refine forall₂_congr fun e _ => ?_
  rw [List.isPrefixOf_iff_prefix]

theorem entryAt?_eq_some (h : entryAt? es s = some e) : e ∈ es ∧ e.1 <+: s := by
  have hfound : e.1.isPrefixOf s = true := (List.find?_eq_some_iff_append.1 h).1
  exact ⟨List.mem_of_find?_eq_some h, List.isPrefixOf_iff_prefix.1 hfound⟩

theorem entryAt?_singleton (h : e.1 <+: s) : entryAt? [e] s = some e :=
  List.find?_cons_of_pos (List.isPrefixOf_iff_prefix.2 h)

/-- A text is empty, begins with a word, or begins with a letter at which no word does. -/
@[elab_as_elim] theorem words_induction {P : List α → Prop} (hne : ∀ e ∈ es, e.1 ≠ []) (nil : P [])
    (word : ∀ e ∈ es, ∀ t, P t → P (e.1 ++ t))
    (letter : ∀ a t, (∀ e ∈ es, ¬e.1 <+: a :: t) → P t → P (a :: t)) (s : List α) : P s := by
  induction hn : s.length using Nat.strong_induction_on generalizing s with
  | _ n ih =>
    by_cases hword : ∃ e ∈ es, e.1 <+: s
    · obtain ⟨e, he, t, rfl⟩ := hword
      have hpos := List.length_pos_of_ne_nil (hne e he)
      rw [List.length_append] at hn
      exact word e he t (ih t.length (by omega) t rfl)
    · cases s with
      | nil => exact nil
      | cons a t =>
        rw [List.length_cons] at hn
        exact letter a t (fun e he hpre => hword ⟨e, he, hpre⟩) (ih t.length (by omega) t rfl)

theorem fillFrom_eq (n : Nat) (s : List α) : fillFrom es n s = fill es (s.drop n) := by
  induction n generalizing s with
  | zero => rfl
  | succ n ih =>
    cases s with
    | nil => rfl
    | cons a s => rw [fillFrom, ih, List.drop_succ_cons]

@[simp] theorem fill_nil (es : List (List α × List α)) : fill es [] = [] := rfl

theorem fill_cons (h : ∀ e ∈ es, ¬e.1 <+: a :: s) : fill es (a :: s) = a :: fill es s := by
  rw [fill, fillFrom, entryAt?_eq_none.2 h]
  rfl

/-- At a word its value is filled in. -/
theorem fill_word (hne : e.1 ≠ []) (h : entryAt? es (e.1 ++ t) = some e) :
    fill es (e.1 ++ t) = e.2 ++ fill es t := by
  obtain ⟨p, w⟩ := e
  cases p with
  | nil => exact absurd rfl hne
  | cons a p =>
    have hdrop : (p ++ t).drop ((a :: p).length - 1) = t := List.drop_left
    rw [List.cons_append] at h
    show fill es (a :: (p ++ t)) = w ++ fill es t
    rw [fill, fillFrom, h]
    show w ++ fillFrom es ((a :: p).length - 1) (p ++ t) = w ++ fill es t
    rw [fillFrom_eq, hdrop]

/-- A text within which no word begins stays, whatever follows. -/
theorem fill_append (h : ∀ u w, s = u ++ w → w ≠ [] → ∀ e ∈ es, ¬e.1 <+: w ++ t) :
    fill es (s ++ t) = s ++ fill es t := by
  induction s with
  | nil => rfl
  | cons a s ih =>
    have hhead : ∀ e ∈ es, ¬e.1 <+: a :: (s ++ t) := h [] (a :: s) rfl (List.cons_ne_nil a s)
    rw [List.cons_append, fill_cons hhead, ih fun u w hs => h (a :: u) w (by rw [hs, List.cons_append])]
    rfl

theorem fill_of_no_word (h : ∀ e ∈ es, ¬e.1 <:+: s) : fill es s = s := by
  have hsame : fill es (s ++ []) = s ++ fill es [] := fill_append fun u w hs _ e he hpre => by
    rw [List.append_nil] at hpre
    exact h e he (hpre.isInfix.trans ⟨u, [], by rw [List.append_nil, hs]⟩)
  rwa [List.append_nil, fill_nil, List.append_nil] at hsame

/-! ### Entries with separate words -/

/-- Entries with separate words. -/
structure Family (es : List (List α × List α)) : Prop where
  separate : Separate (es.map Prod.fst)
  nodup : (es.map Prod.fst).Nodup

namespace Family

variable {es' : List (List α × List α)} {e' : List α × List α} (hes : Family es)
include hes

omit [DecidableEq α] in
theorem ne_nil (he : e ∈ es) : e.1 ≠ [] := hes.separate.ne_nil e.1 (List.mem_map_of_mem he)

omit [DecidableEq α] in
theorem begins (he : e ∈ es) (he' : e' ∈ es) {u w : List α} (hs : e.1 = u ++ w) (hw : w ≠ [])
    (h : e'.1 <+: w ++ t) : u = [] ∧ e = e' := by
  obtain ⟨hu, heq⟩ := hes.separate.begins (List.mem_map_of_mem he) (List.mem_map_of_mem he') hs hw h
  exact ⟨hu, List.inj_on_of_nodup_map hes.nodup he he' heq⟩

omit [DecidableEq α] in
theorem unique (he : e ∈ es) (he' : e' ∈ es) (h : e.1 <+: s) (h' : e'.1 <+: s) : e = e' := by
  obtain ⟨t, rfl⟩ := h
  exact (hes.begins he he' (u := []) rfl (hes.ne_nil he) h').2

omit [DecidableEq α] in
theorem sublist (h : es'.Sublist es) : Family es' where
  separate := hes.separate.subset (h.map Prod.fst).subset
  nodup := hes.nodup.sublist (h.map Prod.fst)

omit [DecidableEq α] in
theorem perm (h : es'.Perm es) : Family es' where
  separate := hes.separate.subset (h.map Prod.fst).subset
  nodup := (h.map Prod.fst).nodup_iff.2 hes.nodup

theorem entryAt?_word (he : e ∈ es) (h : e.1 <+: s) : entryAt? es s = some e := by
  cases hat : entryAt? es s with
  | none => exact absurd h (entryAt?_eq_none.1 hat e he)
  | some e' =>
    obtain ⟨he', h'⟩ := entryAt?_eq_some hat
    rw [hes.unique he' he h' h]

theorem fill_word (he : e ∈ es) (t : List α) : fill es (e.1 ++ t) = e.2 ++ fill es t :=
  Filling.fill_word (hes.ne_nil he) (hes.entryAt?_word he (List.prefix_append ..))

/-- A word for which nothing is filled in stays. -/
theorem fill_other (hsub : es' ⊆ es) (he : e ∈ es) (hnot : e ∉ es') (t : List α) :
    fill es' (e.1 ++ t) = e.1 ++ fill es' t :=
  fill_append fun _ _ hs hw _ he' hpre => hnot ((hes.begins he (hsub he') hs hw hpre).2 ▸ he')

/-- The order of entries does not matter. -/
theorem fill_perm (h : es'.Perm es) (s : List α) : fill es' s = fill es s := by
  have hentry : ∀ s, entryAt? es' s = entryAt? es s := by
    intro s
    cases hat : entryAt? es s with
    | none => exact entryAt?_eq_none.2 fun e he => entryAt?_eq_none.1 hat e (h.subset he)
    | some e =>
      obtain ⟨he, hpre⟩ := entryAt?_eq_some hat
      exact (hes.perm h).entryAt?_word (h.symm.subset he) hpre
  have hfrom : ∀ n, fillFrom es' n s = fillFrom es n s := by
    induction s with
    | nil => exact fun n => by rw [fillFrom, fillFrom]
    | cons a s ih =>
      intro n
      cases n with
      | zero =>
        rw [fillFrom, fillFrom, hentry]
        cases entryAt? es (a :: s) with
        | none => exact congrArg (a :: ·) (ih 0)
        | some e => exact congrArg (e.2 ++ ·) (ih _)
      | succ n => exact ih n
  exact hfrom 0

end Family

omit [DecidableEq α] in
theorem Family.not_mem_tail (hes : Family (e :: es)) : e ∉ es := by
  have hnodup := hes.nodup
  rw [List.map_cons, List.nodup_cons] at hnodup
  exact fun he => hnodup.1 (List.mem_map_of_mem he)

/-! ### One word after the other -/

/-- Where a word begins once another is filled in it began before, unless it arises. -/
theorem begins_of_begins_fill {b : List α} (hb : b ≠ []) (hne : e.1 ≠ []) (h : p <+: b ++ fill [e] t) :
    p <+: b ++ t ∨ Arises e.2 p := by
  have hall : ∀ e' ∈ [e], e'.1 ≠ [] := fun e' he' => List.mem_singleton.1 he' ▸ hne
  induction t using words_induction hall generalizing b with
  | nil => exact .inl h
  | word e' he' t ih =>
    obtain rfl := List.mem_singleton.1 he'
    rw [fill_word hne (entryAt?_singleton (List.prefix_append ..))] at h
    by_cases hbp : p <+: b
    · exact .inl (hbp.trans (List.prefix_append ..))
    · exact .inr (arises_of_crosses hb hbp h)
  | letter a t hnone ih =>
    rw [fill_cons hnone, List.append_cons] at h
    rw [List.append_cons]
    exact ih (by simp) h

/-- To fill in one word and then the others is to fill them in at once, if no other arises from its value. -/
theorem fill_fill (hes : Family (e :: es)) (hsafe : ∀ e' ∈ es, ¬Arises e.2 e'.1) (s : List α) :
    fill es (fill [e] s) = fill (e :: es) s := by
  have hsub : [e] ⊆ e :: es := fun e' he' => List.mem_singleton.1 he' ▸ List.mem_cons_self
  have hrest : Family es := hes.sublist (List.sublist_cons_self ..)
  have hhead : e ∈ e :: es := List.mem_cons_self
  have hne : ∀ e' ∈ e :: es, e'.1 ≠ [] := fun _ he => hes.ne_nil he
  induction s using words_induction hne with
  | nil => rfl
  | word e' he' t ih =>
    rw [hes.fill_word he', ← ih]
    rcases List.mem_cons.1 he' with rfl | hin
    · -- what stands for the word is no place where another begins
      rw [fill_word (hes.ne_nil he') (entryAt?_singleton (List.prefix_append ..)),
        fill_append fun u w hs hw e'' he'' hpre =>
          hsafe e'' he'' (arises_of_begins (hrest.ne_nil he'') hs hw hpre)]
    · have hnot : e' ∉ [e] := fun hmem => hes.not_mem_tail (List.mem_singleton.1 hmem ▸ hin)
      rw [hes.fill_other hsub he' hnot, hrest.fill_word hin]
  | letter a t hnone ih =>
    have hstill : ∀ e' ∈ es, ¬e'.1 <+: a :: fill [e] t := by
      intro e' he' hpre
      rcases begins_of_begins_fill (b := [a]) (List.cons_ne_nil a []) (hes.ne_nil hhead) hpre with h | h
      · exact hnone e' (List.mem_cons_of_mem e he') h
      · exact hsafe e' he' h
    rw [fill_cons fun e' he' => hnone e' (hsub he'), fill_cons hnone, fill_cons hstill, ih]

/-- So it is for all words, one after the other. -/
theorem fillEach_eq_fill (hes : Family es)
    (hsafe : ∀ e ∈ es, ∀ e' ∈ es, e ≠ e' → ¬Arises e.2 e'.1) (s : List α) : fillEach es s = fill es s := by
  induction es generalizing s with
  | nil => exact (fill_of_no_word fun _ he => absurd he List.not_mem_nil).symm
  | cons e es ih =>
    have hne : ∀ e' ∈ es, e ≠ e' := fun e' he' heq => hes.not_mem_tail (heq ▸ he')
    have hstep :=
      fill_fill hes (fun e' he' => hsafe e List.mem_cons_self e' (List.mem_cons_of_mem e he') (hne e' he')) s
    rw [← hstep, ← ih (hes.sublist (List.sublist_cons_self ..)) fun e he e' he' =>
      hsafe e (List.mem_cons_of_mem _ he) e' (List.mem_cons_of_mem _ he')]
    rfl

/-! ### Words that stand for themselves -/

/-- Words that stand for themselves may be left out. -/
theorem fill_filter (hes : Family es) (s : List α) : fill (es.filter fun e => e.1 ≠ e.2) s = fill es s := by
  have hsub : es.filter (fun e => e.1 ≠ e.2) ⊆ es := (List.filter_sublist ..).subset
  have hne : ∀ e ∈ es, e.1 ≠ [] := fun _ he => hes.ne_nil he
  induction s using words_induction hne with
  | nil => rfl
  | word e he t ih =>
    rw [hes.fill_word he]
    by_cases hself : e.1 = e.2
    · rw [hes.fill_other hsub he (fun hmem => by simpa [hself] using List.of_mem_filter hmem), ih, hself]
    · have hmem : e ∈ es.filter fun e => e.1 ≠ e.2 := List.mem_filter.2 ⟨he, by simpa using hself⟩
      rw [(hes.sublist (List.filter_sublist ..)).fill_word hmem, ih]
  | letter a t hnone ih => rw [fill_cons hnone, fill_cons fun e he => hnone e (hsub he), ih]

theorem fill_self (hp : p ≠ []) (s : List α) : fill [(p, p)] s = s := by
  have hne : ∀ e ∈ [(p, p)], e.1 ≠ [] := fun e he => List.mem_singleton.1 he ▸ hp
  induction s using words_induction hne with
  | nil => rfl
  | word e he t ih =>
    obtain rfl := List.mem_singleton.1 he
    rw [fill_word (e := (p, p)) hp (entryAt?_singleton (List.prefix_append ..)), ih]
  | letter a t hnone ih => rw [fill_cons hnone, ih]

theorem fillEach_filter (hne : ∀ e ∈ es, e.1 ≠ []) (s : List α) :
    fillEach (es.filter fun e => e.1 ≠ e.2) s = fillEach es s := by
  induction es generalizing s with
  | nil => rfl
  | cons e es ih =>
    obtain ⟨he, hes⟩ := List.forall_mem_cons.1 hne
    by_cases hself : e.1 = e.2
    · obtain ⟨p, v⟩ := e
      obtain rfl : p = v := hself
      rw [List.filter_cons_of_neg (by simp), ih hes]
      show fillEach es s = fillEach es (fill [(p, p)] s)
      rw [fill_self he]
    · rw [List.filter_cons_of_pos (by simpa using hself)]
      exact ih hes _

/-- Words may be filled in one after the other in any order if none arises from a value but those that stand
for themselves. -/
theorem fillEach_eq_fill_of_perm {es' : List (List α × List α)} (hes : Family es) (hperm : es'.Perm es)
    (hsafe : ∀ e ∈ es, ∀ e' ∈ es, e ≠ e' → e'.1 = e'.2 ∨ ¬Arises e.2 e'.1) (s : List α) :
    fillEach es' s = fill es s := by
  have hes' := hes.perm hperm
  rw [← fillEach_filter fun e he => hes'.ne_nil he, ← hes.fill_perm hperm, ← fill_filter hes']
  refine fillEach_eq_fill (hes'.sublist (List.filter_sublist ..)) (fun e he e' he' hne => ?_) s
  obtain ⟨hin, -⟩ := List.mem_filter.1 he
  obtain ⟨hin', hself⟩ := List.mem_filter.1 he'
  exact (hsafe e (hperm.subset hin) e' (hperm.subset hin') hne).resolve_left (by simpa using hself)

/-! ### Between parts of a word -/

omit [DecidableEq α] in
/-- Between parts of a word one word stands, and no other. -/
theorem Family.between (hes : Family es) {e' r : List α × List α} (he : e ∈ es) (he' : e' ∈ es) (hr : r ∈ es)
    {x y u w : List α} (hx : x <+: r.1 ∧ x ≠ r.1) (hy : y <:+ r.1 ∧ y ≠ r.1)
    (h : u ++ e'.1 ++ w = x ++ e.1 ++ y) : u = x ∧ e' = e := by
  obtain ⟨⟨z, hz⟩, hxne⟩ := hx
  rw [List.append_assoc, List.append_assoc] at h
  rcases List.append_eq_append_iff.1 h with ⟨as, hxas, hrest⟩ | ⟨bs, hu, hrest⟩
  · -- it begins with what is before the word
    rcases eq_or_ne as [] with rfl | has
    · rw [List.append_nil] at hxas
      rw [List.nil_append] at hrest
      exact ⟨hxas.symm, hes.unique he' he ⟨w, hrest⟩ ⟨y, rfl⟩⟩
    rcases List.append_eq_append_iff.1 hrest with ⟨c, hc, -⟩ | ⟨c, hc, hy'⟩
    · have hr' : r.1 = u ++ (as ++ z) := by rw [← hz, hxas, List.append_assoc]
      obtain ⟨hu, hre⟩ := hes.begins hr he' hr' (List.append_ne_nil_of_left_ne_nil has z) (t := [])
        (by rw [hc, List.append_nil, List.append_assoc]; exact List.prefix_append ..)
      rw [hu, List.nil_append, hc, ← hre] at hxas
      refine absurd (List.IsPrefix.eq_of_length_le ⟨z, hz⟩ ?_) hxne
      rw [hxas, List.length_append]
      exact Nat.le_add_right ..
    · rcases eq_or_ne c [] with rfl | hcne
      · rw [List.append_nil] at hc
        have hr' : r.1 = u ++ (as ++ z) := by rw [← hz, hxas, List.append_assoc]
        obtain ⟨hu, hre⟩ := hes.begins hr he' hr' (List.append_ne_nil_of_left_ne_nil has z) (t := [])
          (by rw [hc, List.append_nil]; exact List.prefix_append ..)
        exact absurd (by rw [hxas, hu, List.nil_append, ← hc, hre]) hxne
      · exact absurd (hes.begins he' he hc hcne ⟨y, hy'⟩).1 has
  · -- it begins with the word, or behind it
    have hbehind : ∀ front, y = front ++ (e'.1 ++ w) → False := by
      rintro front hy'
      obtain ⟨⟨z', hz'⟩, hyne⟩ := hy
      have hr' : r.1 = (z' ++ front) ++ (e'.1 ++ w) := by rw [← hz', hy', List.append_assoc]
      obtain ⟨hnil, -⟩ :=
        hes.begins hr he' hr' (List.append_ne_nil_of_left_ne_nil (hes.ne_nil he') w) (t := [])
        (by rw [List.append_nil]; exact List.prefix_append ..)
      rw [(List.append_eq_nil_iff.1 hnil).1, List.nil_append] at hz'
      exact hyne hz'
    rcases List.append_eq_append_iff.1 hrest with ⟨front, -, hy'⟩ | ⟨c, hc, hw⟩
    · exact (hbehind front hy').elim
    · rcases eq_or_ne c [] with rfl | hcne
      · exact (hbehind [] hw.symm).elim
      · obtain ⟨hbs, heq⟩ := hes.begins he he' hc hcne ⟨w, hw⟩
        rw [hbs, List.append_nil] at hu
        exact ⟨hu, heq.symm⟩

theorem length_fill (hp : p ≠ []) (s : List α) :
    (v.length ≤ p.length → (fill [(p, v)] s).length ≤ s.length) ∧
      (p.length ≤ v.length → s.length ≤ (fill [(p, v)] s).length) := by
  have hne : ∀ e ∈ [(p, v)], e.1 ≠ [] := fun e he => List.mem_singleton.1 he ▸ hp
  induction s using words_induction hne with
  | nil => exact ⟨fun _ => Nat.le_refl _, fun _ => Nat.le_refl _⟩
  | word e he t ih =>
    obtain rfl := List.mem_singleton.1 he
    obtain ⟨hle, hge⟩ := ih
    rw [fill_word (e := (p, v)) hp (entryAt?_singleton (List.prefix_append ..)), List.length_append,
      List.length_append]
    exact ⟨fun h => Nat.add_le_add h (hle h), fun h => Nat.add_le_add h (hge h)⟩
  | letter a t hnone ih =>
    rw [fill_cons hnone, List.length_cons, List.length_cons]
    exact ⟨fun h => Nat.succ_le_succ (ih.1 h), fun h => Nat.succ_le_succ (ih.2 h)⟩

/-- A text that stays when a word in it is filled in has it filled in with itself. -/
theorem eq_of_fill_eq (hp : p ≠ []) (h : fill [(p, v)] s = s) (hin : p <:+: s) : v = p := by
  induction s with
  | nil => exact absurd (List.infix_nil.1 hin) hp
  | cons a t ih =>
    by_cases hword : p <+: a :: t
    · obtain ⟨t', ht⟩ := hword
      rw [← ht, fill_word (e := (p, v)) hp (entryAt?_singleton (List.prefix_append ..))] at h
      obtain ⟨hle, hge⟩ := length_fill (v := v) hp t'
      have hlen := congrArg List.length h
      rw [List.length_append, List.length_append] at hlen
      dsimp only at hlen
      have hsame : v.length = p.length := by
        rcases Nat.le_total v.length p.length with hvp | hpv
        · have := hle hvp
          omega
        · have := hge hpv
          omega
      exact List.append_inj_left h hsame
    · rw [fill_cons fun e he => List.mem_singleton.1 he ▸ hword] at h
      exact ih (List.cons.inj h).2 ((List.infix_cons_iff.1 hin).resolve_left hword)

section

variable {es' : List (List α × List α)} {x y : List α} {r : List α × List α} (hes : Family es) (he : e ∈ es)
  (hr : r ∈ es) (hx : x <+: r.1 ∧ x ≠ r.1) (hy : y <:+ r.1 ∧ y ≠ r.1)
include hes he hr hx hy

/-- The word that stands between parts of one is filled in. -/
theorem Family.fill_between (hsub : es' ⊆ es) (hmem : e ∈ es') (hes' : Family es') :
    fill es' (x ++ e.1 ++ y) = x ++ e.2 ++ y := by
  have htail : fill es' y = y := by
    refine fill_of_no_word fun e' he' hin => ?_
    obtain ⟨c, d, hcd⟩ := hin
    obtain ⟨hnil, -⟩ := hes.between he (hsub he') hr hx hy (u := x ++ e.1 ++ c) (w := d)
      (by rw [← hcd]; simp only [List.append_assoc])
    rw [List.append_assoc, List.append_right_eq_self] at hnil
    exact hes.ne_nil he (List.append_eq_nil_iff.1 hnil).1
  rw [List.append_assoc, fill_append fun u w hs hw e' he' hpre => ?_, hes'.fill_word hmem, htail,
    List.append_assoc]
  obtain ⟨d, hd⟩ := hpre
  obtain ⟨hu, -⟩ := hes.between he (hsub he') hr hx hy (u := u) (w := d)
    (by rw [hs, List.append_assoc, hd]; simp only [List.append_assoc])
  rw [hu, List.self_eq_append_right] at hs
  exact hw hs

/-- Others are not. -/
theorem Family.fill_around (hsub : es' ⊆ es) (hnot : e ∉ es') : fill es' (x ++ e.1 ++ y) = x ++ e.1 ++ y := by
  refine fill_of_no_word fun e' he' hin => ?_
  obtain ⟨u, w, huw⟩ := hin
  exact hnot ((hes.between he (hsub he') hr hx hy huw).2 ▸ he')

end

theorem fillEach_append (es es' : List (List α × List α)) (s : List α) :
    fillEach (es ++ es') s = fillEach es' (fillEach es s) := List.foldl_append

theorem fillEach_of_same (h : ∀ e ∈ es, fill [e] s = s) : fillEach es s = s := by
  induction es with
  | nil => rfl
  | cons e es ih =>
    obtain ⟨he, hes⟩ := List.forall_mem_cons.1 h
    show fillEach es (fill [e] s) = s
    rw [he, ih hes]

/-- A word that is filled in with something shorter makes a text shorter. -/
theorem length_fill_lt (hlt : v.length < p.length) (hin : p <:+: s) : (fill [(p, v)] s).length < s.length := by
  have hp : p ≠ [] := List.ne_nil_of_length_pos (Nat.zero_lt_of_lt hlt)
  induction s with
  | nil => exact absurd (List.infix_nil.1 hin) hp
  | cons a t ih =>
    by_cases hword : p <+: a :: t
    · obtain ⟨t', ht⟩ := hword
      rw [← ht, fill_word (e := (p, v)) hp (entryAt?_singleton (List.prefix_append ..)), List.length_append,
        List.length_append]
      exact Nat.add_lt_add_of_lt_of_le hlt ((length_fill hp t').1 hlt.le)
    · rw [fill_cons fun e he => List.mem_singleton.1 he ▸ hword]
      exact Nat.succ_lt_succ (ih ((List.infix_cons_iff.1 hin).resolve_left hword))

/-- A text stays when words are filled in with something shorter exactly if it has none of them. -/
theorem fillEach_eq_self_iff (h : ∀ e ∈ es, e.2.length < e.1.length) :
    fillEach es s = s ↔ ∀ e ∈ es, ¬e.1 <:+: s := by
  have hle : ∀ es : List (List α × List α), (∀ e ∈ es, e.2.length < e.1.length) → ∀ s,
      (fillEach es s).length ≤ s.length := by
    intro es
    induction es with
    | nil => exact fun _ s => Nat.le_refl _
    | cons e es ih =>
      intro h s
      obtain ⟨he, hes⟩ := List.forall_mem_cons.1 h
      have hp : e.1 ≠ [] := List.ne_nil_of_length_pos (Nat.zero_lt_of_lt he)
      exact (ih hes (fill [e] s)).trans ((length_fill hp s).1 he.le)
  have hlt : (∃ e ∈ es, e.1 <:+: s) → (fillEach es s).length < s.length := by
    induction es with
    | nil => exact fun ⟨e, he, _⟩ => absurd he List.not_mem_nil
    | cons e es ih =>
      intro hex
      obtain ⟨he, hes⟩ := List.forall_mem_cons.1 h
      show (fillEach es (fill [e] s)).length < s.length
      by_cases hin : e.1 <:+: s
      · exact (hle es hes (fill [e] s)).trans_lt (length_fill_lt he hin)
      · rw [fill_of_no_word fun e' he' => List.mem_singleton.1 he' ▸ hin]
        obtain ⟨e', he', hin'⟩ := hex
        exact ih hes ⟨e', (List.mem_cons.1 he').resolve_left fun heq => hin (heq ▸ hin'), hin'⟩
  constructor
  · intro hsame e he hin
    exact absurd (congrArg List.length hsame) (hlt ⟨e, he, hin⟩).ne
  · exact fun hno => fillEach_of_same fun e he => fill_of_no_word fun e' he' =>
      List.mem_singleton.1 he' ▸ hno e he

/-- If words filled in one after the other, two of them last, come out as if filled in at once, the last does
not arise from the value of the other, or stands for itself. -/
theorem safe_of_fillEach {others : List (List α × List α)} {r : List α × List α}
    (hes : Family (others ++ [e, r])) (h : ∀ s, fillEach (others ++ [e, r]) s = fill (others ++ [e, r]) s) :
    r.1 = r.2 ∨ ¬Arises e.2 r.1 := by
  refine or_iff_not_imp_right.2 fun harises => ?_
  obtain ⟨x, y, hx, hy, hin⟩ := not_not.1 harises
  have he : e ∈ others ++ [e, r] := List.mem_append_right others List.mem_cons_self
  have hr : r ∈ others ++ [e, r] := List.mem_append_right others (List.mem_cons_of_mem e List.mem_cons_self)
  have hne : ∀ a ∈ others, a ≠ e := by
    intro a ha hae
    have hnodup := hes.nodup
    rw [List.map_append, List.nodup_append] at hnodup
    exact hnodup.2.2 _ (List.mem_map_of_mem ha) _ (List.mem_map_of_mem (f := Prod.fst) List.mem_cons_self)
      (congrArg Prod.fst hae)
  -- others leave the text between the parts of the word alone, and so the last one has to
  have hothers : fillEach others (x ++ e.1 ++ y) = x ++ e.1 ++ y := by
    refine fillEach_of_same fun a ha => hes.fill_around he hr hx hy (fun b hb => ?_) fun hmem => ?_
    · exact List.mem_singleton.1 hb ▸ List.mem_append_left _ ha
    · exact hne a ha (List.mem_singleton.1 hmem).symm
  have hone : fill [e] (x ++ e.1 ++ y) = x ++ e.2 ++ y :=
    hes.fill_between he hr hx hy (fun b hb => List.mem_singleton.1 hb ▸ he) (List.mem_singleton_self e)
      (hes.sublist (List.singleton_sublist.2 he))
  have hlast := h (x ++ e.1 ++ y)
  rw [fillEach_append, hothers, hes.fill_between he hr hx hy (fun _ h => h) he hes] at hlast
  have htwo : fillEach [e, r] (x ++ e.1 ++ y) = fill [r] (fill [e] (x ++ e.1 ++ y)) := rfl
  rw [htwo, hone] at hlast
  exact (eq_of_fill_eq (hes.ne_nil hr) hlast hin).symm

end Filling

/-! ### Patterns of a replacement -/

/-- Replace every occurrence of a needle, where `skip` letters of one are left. -/
def replaceFrom (needle replacement : List UInt16) : List UInt16 → Nat → List UInt16 → List UInt16
  | _, _, [] => []
  | before, skip + 1, a :: s => replaceFrom needle replacement (before ++ [a]) skip s
  | before, 0, a :: s =>
    if needle.isPrefixOf (a :: s) then
      expand before needle ((a :: s).drop needle.length) replacement ++
        replaceFrom needle replacement (before ++ [a]) (needle.length - 1) s
    else a :: replaceFrom needle replacement (before ++ [a]) 0 s

/-- `s.replaceAll(needle, replacement)` -/
def replaceEvery (needle replacement s : List UInt16) : List UInt16 := replaceFrom needle replacement [] 0 s

variable {needle value : List UInt16}

/-- A replacement without `$` patterns is filled in as it is. -/
theorem replaceEvery_eq_fill (h : hasPattern value = false) (s : List UInt16) :
    replaceEvery needle value s = Filling.fill [(needle, value)] s := by
  have hfrom : ∀ before n, replaceFrom needle value before n s = Filling.fillFrom [(needle, value)] n s := by
    induction s with
    | nil => exact fun before n => by rw [replaceFrom, Filling.fillFrom]
    | cons a s ih =>
      intro before n
      cases n with
      | succ n => exact ih _ n
      | zero =>
        rw [replaceFrom, Filling.fillFrom]
        by_cases hpre : needle <+: a :: s
        · rw [if_pos (List.isPrefixOf_iff_prefix.2 hpre), Filling.entryAt?_singleton hpre,
            expand_of_plain h, ih]
        · rw [if_neg fun h => hpre (List.isPrefixOf_iff_prefix.1 h),
            Filling.entryAt?_eq_none.2 fun e he => List.mem_singleton.1 he ▸ hpre, ih]
  exact hfrom [] 0

/-- A text without an occurrence stays, whatever the replacement is. -/
theorem replaceEvery_of_no_word {s : List UInt16} (h : ¬needle <:+: s) : replaceEvery needle value s = s := by
  have hfrom : ∀ before, replaceFrom needle value before 0 s = s := by
    induction s with
    | nil => exact fun before => rfl
    | cons a s ih =>
      intro before
      have hhead : ¬needle <+: a :: s := fun hpre => h hpre.isInfix
      rw [replaceFrom, if_neg fun hpre => hhead (List.isPrefixOf_iff_prefix.1 hpre),
        ih fun hin => h (List.infix_cons hin)]
  exact hfrom []

theorem replaceEvery_self (hne : needle ≠ []) :
    replaceEvery needle value needle = expand [] needle [] value := by
  cases needle with
  | nil => exact absurd rfl hne
  | cons a s =>
    have hrest : ∀ n before (t : List UInt16), t.length ≤ n → replaceFrom (a :: s) value before n t = [] := by
      intro n
      induction n with
      | zero =>
        intro before t ht
        rw [List.length_eq_zero_iff.1 (Nat.le_zero.1 ht), replaceFrom]
      | succ n ih =>
        intro before t ht
        cases t with
        | nil => rw [replaceFrom]
        | cons b t => exact ih _ t (Nat.le_of_succ_le_succ ht)
    rw [replaceEvery, replaceFrom, if_pos (List.isPrefixOf_iff_prefix.2 (List.prefix_refl _)),
      List.drop_length,
      hrest ((a :: s).length - 1) _ s (Nat.le_of_eq rfl), List.append_nil]

/-- What a pattern stands for where there is only the occurrence. -/
theorem substitution?_alone {b : UInt16} {t : List UInt16} (h : substitution? [] needle [] b = some t) :
    (b = 38 ∧ t = needle) ∨ (b = 36 ∧ t = [36]) ∨ ((b = 96 ∨ b = 39) ∧ t = []) := by
  unfold substitution? at h
  split at h
  · next hb => exact .inr (.inl ⟨hb, (Option.some.inj h).symm⟩)
  split at h
  · next hb => exact .inl ⟨hb, (Option.some.inj h).symm⟩
  split at h
  · next hb => exact .inr (.inr ⟨.inl hb, (Option.some.inj h).symm⟩)
  split at h
  · next hb => exact .inr (.inr ⟨.inr hb, (Option.some.inj h).symm⟩)
  · cases h

/-- Where there is only the occurrence, a replacement with a pattern becomes shorter or has more of a letter
of the needle. -/
theorem expand_spec {d : UInt16} (hd : d ∈ needle) (hplain : d ≠ 36 ∧ d ≠ 38 ∧ d ≠ 96 ∧ d ≠ 39)
    (s : List UInt16) : s.count d ≤ (expand [] needle [] s).count d ∧
      (s.count d = (expand [] needle [] s).count d →
        (hasPattern s = false ∧ expand [] needle [] s = s) ∨ (expand [] needle [] s).length < s.length) := by
  have hpos : 0 < needle.count d := List.count_pos_iff.2 hd
  induction s using expand.induct [] needle [] with
  | case1 a b s t ht ih =>
    obtain ⟨hle, heq⟩ := ih
    have ha : a = 36 := by
      by_contra hne
      rw [if_neg hne] at ht
      cases ht
    rw [expand, ht]
    rw [if_pos ha] at ht
    simp only [List.count_append, List.length_append, List.length_cons]
    rcases substitution?_alone ht with ⟨rfl, rfl⟩ | ⟨rfl, rfl⟩ | ⟨hb, rfl⟩
    · rw [ha, List.count_cons_of_ne hplain.1.symm, List.count_cons_of_ne hplain.2.1.symm]
      exact ⟨by omega, fun h => by omega⟩
    · rw [ha, List.count_cons_of_ne hplain.1.symm, List.count_cons_of_ne hplain.1.symm,
        List.count_cons_of_ne hplain.1.symm, List.count_nil]
      refine ⟨by omega, fun h => .inr ?_⟩
      rcases heq (by omega) with ⟨-, hsame⟩ | hlt
      · rw [hsame, List.length_singleton]
        omega
      · rw [List.length_singleton]
        omega
    · have hbd : b ≠ d := by
        rcases hb with rfl | rfl
        · exact hplain.2.2.1.symm
        · exact hplain.2.2.2.symm
      rw [ha, List.count_cons_of_ne hplain.1.symm, List.count_cons_of_ne hbd, List.count_nil]
      refine ⟨by omega, fun h => .inr ?_⟩
      rcases heq (by omega) with ⟨-, hsame⟩ | hlt
      · rw [hsame, List.length_nil]
        omega
      · rw [List.length_nil]
        omega
  | case2 a b s hnone ih =>
    obtain ⟨hle, heq⟩ := ih
    have hhead : (a == 36 && completes (b :: s)) = false := by
      by_cases ha : a = 36
      · rw [if_pos ha] at hnone
        rw [beq_iff_eq.2 ha, Bool.true_and, completes, ← @substitution?_isSome [] [] needle b, hnone]
        rfl
      · rw [beq_eq_false_iff_ne.2 ha, Bool.false_and]
    rw [expand, hnone, hasPattern, hhead, Bool.false_or]
    dsimp only
    rw [List.count_cons, List.count_cons (l := expand [] needle [] (b :: s)), List.length_cons,
      @List.length_cons _ a (b :: s)]
    refine ⟨by omega, fun h => ?_⟩
    rcases heq (by omega) with ⟨hfree, hsame⟩ | hlt
    · exact .inl ⟨hfree, by rw [hsame]⟩
    · exact .inr (by omega)
  | case3 s hshort =>
    have hsame : expand [] needle [] s = s := by
      cases s with
      | nil => rfl
      | cons a s =>
        cases s with
        | nil => rfl
        | cons b s => exact absurd rfl (hshort a b s)
    have hfree : hasPattern s = false := by
      cases s with
      | nil => rfl
      | cons a s =>
        cases s with
        | nil => rfl
        | cons b s => exact absurd rfl (hshort a b s)
    rw [hsame]
    exact ⟨Nat.le_refl _, fun _ => .inl ⟨hfree, rfl⟩⟩

/-- A value that stands for itself where there is only the occurrence has no `$` pattern. -/
theorem plain_of_expand {d : UInt16} (hd : d ∈ needle) (hplain : d ≠ 36 ∧ d ≠ 38 ∧ d ≠ 96 ∧ d ≠ 39)
    (h : expand [] needle [] value = value) : hasPattern value = false := by
  have hspec := (expand_spec hd hplain value).2
  rw [h] at hspec
  exact (hspec rfl).elim And.left fun hlt => absurd hlt (Nat.lt_irrefl _)

end Text
