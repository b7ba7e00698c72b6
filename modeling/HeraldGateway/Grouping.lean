import HeraldGateway.Js
import Mathlib.Data.List.Induction
import Mathlib.Algebra.BigOperators.Group.List.Basic

/-!
# Grouping by a key

A list that is grouped by a key falls into parts: each element is in the group of its key, once, and
the elements of a group are in the order of the list.
-/

namespace HeraldGateway

variable {κ α : Type} [DecidableEq κ]

/-- The groups are those of the elements of the list, by their keys. -/
structure Grouped (key : α → κ) (as : List α) (gs : List (κ × List α)) : Prop where
  nodup : (gs.map Prod.fst).Nodup
  keys : ∀ k, k ∈ gs.map Prod.fst ↔ ∃ a ∈ as, key a = k
  group : ∀ g ∈ gs, g.2 = as.filter fun a => decide (key a = g.1)

/-! ### Inserting an element -/

theorem insertGroup_keys (k : κ) (a : α) (gs : List (κ × List α)) :
    (insertGroup k a gs).map Prod.fst =
      if k ∈ gs.map Prod.fst then gs.map Prod.fst else gs.map Prod.fst ++ [k] := by
  induction gs with
  | nil => rfl
  | cons g gs ih =>
    by_cases hg : g.1 = k
    · simp [insertGroup, hg]
    · have hne : k ≠ g.1 := fun h => hg h.symm
      simp only [insertGroup, if_neg hg, List.map_cons, ih, List.mem_cons, hne, false_or]
      split <;> rfl

/-- Where keys are distinct, an insertion adds the element to the group of its key only. -/
theorem mem_insertGroup {k : κ} {a : α} {gs : List (κ × List α)} (hn : (gs.map Prod.fst).Nodup)
    {g : κ × List α} (hg : g ∈ insertGroup k a gs) :
    (g ∈ gs ∧ g.1 ≠ k) ∨ (g = (k, [a]) ∧ k ∉ gs.map Prod.fst) ∨ ∃ as, (k, as) ∈ gs ∧ g = (k, as ++ [a]) := by
  induction gs with
  | nil =>
    rw [insertGroup, List.mem_singleton] at hg
    exact .inr (.inl ⟨hg, List.not_mem_nil⟩)
  | cons g' gs ih =>
    obtain ⟨hnew, hn'⟩ := List.nodup_cons.1 hn
    by_cases hk : g'.1 = k
    · subst hk
      rw [insertGroup, if_pos rfl] at hg
      rcases List.mem_cons.1 hg with rfl | hg
      · exact .inr (.inr ⟨g'.2, List.mem_cons_self, rfl⟩)
      · refine .inl ⟨List.mem_cons_of_mem _ hg, fun hkey => hnew ?_⟩
        rw [← hkey]
        exact List.mem_map_of_mem hg
    · rw [insertGroup, if_neg hk] at hg
      rcases List.mem_cons.1 hg with rfl | hg
      · exact .inl ⟨List.mem_cons_self, hk⟩
      · rcases ih hn' hg with ⟨hold, hne⟩ | ⟨rfl, hfresh⟩ | ⟨as, has, rfl⟩
        · exact .inl ⟨List.mem_cons_of_mem _ hold, hne⟩
        · refine .inr (.inl ⟨rfl, fun hmem => ?_⟩)
          rcases List.mem_cons.1 hmem with heq | hmem
          · exact hk heq.symm
          · exact hfresh hmem
        · exact .inr (.inr ⟨as, List.mem_cons_of_mem _ has, rfl⟩)

theorem insertGroup_perm (k : κ) (a : α) (gs : List (κ × List α)) :
    ((insertGroup k a gs).flatMap Prod.snd).Perm (gs.flatMap Prod.snd ++ [a]) := by
  induction gs with
  | nil => exact List.Perm.refl _
  | cons g gs ih =>
    by_cases hg : g.1 = k
    · rw [insertGroup, if_pos hg, List.flatMap_cons, List.flatMap_cons, List.append_assoc, List.append_assoc]
      exact List.perm_append_comm.append_left g.2
    · rw [insertGroup, if_neg hg, List.flatMap_cons, List.flatMap_cons, List.append_assoc]
      exact ih.append_left g.2

theorem Grouped.insert {key : α → κ} {as : List α} {gs : List (κ × List α)} (h : Grouped key as gs) (a : α) :
    Grouped key (as ++ [a]) (insertGroup (key a) a gs) where
  nodup := by
    rw [insertGroup_keys]
    split
    · exact h.nodup
    · next hnew => exact List.nodup_append.2 ⟨h.nodup, List.pairwise_singleton _ _, by
        rintro k hk _ hk' rfl
        exact hnew (List.mem_singleton.1 hk' ▸ hk)⟩
  keys k := by
    have hkeys : k ∈ (insertGroup (key a) a gs).map Prod.fst ↔ k ∈ gs.map Prod.fst ∨ k = key a := by
      rw [insertGroup_keys]
      split
      · next hold => exact ⟨.inl, fun hk => hk.elim id fun hk => hk ▸ hold⟩
      · rw [List.mem_append, List.mem_singleton]
    rw [hkeys, h.keys k]
    constructor
    · rintro (⟨a', ha', rfl⟩ | rfl)
      · exact ⟨a', List.mem_append_left _ ha', rfl⟩
      · exact ⟨a, List.mem_append_right _ (List.mem_singleton.2 rfl), rfl⟩
    · rintro ⟨a', ha', rfl⟩
      rcases List.mem_append.1 ha' with ha' | ha'
      · exact .inl ⟨a', ha', rfl⟩
      · exact .inr (congrArg key (List.mem_singleton.1 ha'))
  group g hg := by
    rw [List.filter_append]
    rcases mem_insertGroup h.nodup hg with ⟨hold, hne⟩ | ⟨rfl, hfresh⟩ | ⟨as', has', rfl⟩
    · rw [List.filter_singleton, decide_eq_false fun heq => hne heq.symm, h.group g hold]
      exact (List.append_nil _).symm
    · have hnone : as.filter (fun a' => decide (key a' = key a)) = [] := by
        refine List.filter_eq_nil_iff.2 fun a' ha' heq => hfresh ?_
        exact (h.keys _).2 ⟨a', ha', of_decide_eq_true heq⟩
      rw [hnone, List.filter_singleton, decide_eq_true rfl]
      rfl
    · rw [List.filter_singleton, decide_eq_true rfl]
      exact congrArg (· ++ [a]) (h.group _ has')

/-! ### Grouping a list -/

theorem groupBy_concat (key : α → κ) (as : List α) (a : α) :
    groupBy key (as ++ [a]) = insertGroup (key a) a (groupBy key as) := List.foldl_concat ..

theorem grouped_groupBy (key : α → κ) (as : List α) : Grouped key as (groupBy key as) := by
  induction as using List.reverseRecOn with
  | nil => exact ⟨List.nodup_nil, fun k => by simp [groupBy], fun g hg => nomatch hg⟩
  | append_singleton as a ih =>
    rw [groupBy_concat]
    exact ih.insert a

/-- The groups hold every element of the list once. -/
theorem groupBy_perm (key : α → κ) (as : List α) : ((groupBy key as).flatMap Prod.snd).Perm as := by
  induction as using List.reverseRecOn with
  | nil => exact List.Perm.refl _
  | append_singleton as a ih =>
    rw [groupBy_concat]
    exact (insertGroup_perm (key a) a _).trans (ih.append_right [a])

theorem groupBy_lengths (key : α → κ) (as : List α) :
    ((groupBy key as).map fun g => g.2.length).sum = as.length := by
  rw [← (groupBy_perm key as).length_eq, List.length_flatMap]

end HeraldGateway
