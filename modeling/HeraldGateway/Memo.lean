import Mathlib.Data.List.Basic

/-!
# Memo tables

Results of a function, kept under a key of its argument. What is looked up is the result for some earlier
argument with the same key, whatever is evicted, so the table is transparent for the arguments whose keys
tell their results apart.
-/

namespace Memo

variable {σ κ β : Type} [BEq κ] [LawfulBEq κ] {key : σ → κ} {f : σ → β} {room : List (κ × β) → List (κ × β)}
  {table : List (κ × β)} {seen : List σ}

/-- Take the entry of an argument, or make room for it and compute it. -/
def fetch (key : σ → κ) (f : σ → β) (room : List (κ × β) → List (κ × β)) (table : List (κ × β)) (s : σ) :
    List (κ × β) × β :=
  match table.lookup (key s) with
  | some b => (table, b)
  | none => (room table ++ [(key s, f s)], f s)

/-- The results for arguments one after the other. -/
def fetchAll (key : σ → κ) (f : σ → β) (room : List (κ × β) → List (κ × β)) : List (κ × β) → List σ → List β
  | _, [] => []
  | table, s :: ss => (fetch key f room table s).2 :: fetchAll key f room (fetch key f room table s).1 ss

/-- Every entry is the result for an argument that was seen, under the key of that argument. -/
def Sound (key : σ → κ) (f : σ → β) (seen : List σ) (table : List (κ × β)) : Prop :=
  ∀ e ∈ table, ∃ s ∈ seen, key s = e.1 ∧ f s = e.2

theorem mem_of_lookup {k : κ} {b : β} (h : table.lookup k = some b) : (k, b) ∈ table := by
  obtain ⟨before, after, rfl, -⟩ := List.lookup_eq_some_iff.1 h
  exact List.mem_append_right before List.mem_cons_self

/-- What is fetched is the result for an argument with the same key, and the table stays sound. -/
theorem fetch_sound (hroom : ∀ table, room table ⊆ table) (h : Sound key f seen table) (s : σ) :
    Sound key f (s :: seen) (fetch key f room table s).1 ∧
      ∃ t ∈ s :: seen, key t = key s ∧ f t = (fetch key f room table s).2 := by
  have hold : ∀ e ∈ table, ∃ t ∈ s :: seen, key t = e.1 ∧ f t = e.2 := fun e he => by
    obtain ⟨t, ht, hentry⟩ := h e he
    exact ⟨t, List.mem_cons_of_mem s ht, hentry⟩
  unfold fetch
  cases hlookup : table.lookup (key s) with
  | some b => exact ⟨hold, hold _ (mem_of_lookup hlookup)⟩
  | none =>
    refine ⟨fun e he => ?_, s, List.mem_cons_self, rfl, rfl⟩
    rcases List.mem_append.1 he with he | he
    · exact hold e (hroom table he)
    · rw [List.mem_singleton.1 he]
      exact ⟨s, List.mem_cons_self, rfl, rfl⟩

theorem fetchAll_of_sound (hroom : ∀ table, room table ⊆ table) (h : Sound key f seen table) {ss : List σ}
    (hkeys : ∀ s ∈ seen ++ ss, ∀ t ∈ seen ++ ss, key s = key t → f s = f t) :
    fetchAll key f room table ss = ss.map f := by
  induction ss generalizing table seen with
  | nil => rfl
  | cons s ss ih =>
    obtain ⟨hsound, t, ht, hkey, hresult⟩ := fetch_sound hroom h s
    have hmem : ∀ t ∈ s :: seen ++ ss, t ∈ seen ++ s :: ss := fun t ht => by
      rw [List.cons_append, List.mem_cons, List.mem_append] at ht
      rw [List.mem_append, List.mem_cons]
      tauto
    have hown : f t = f s :=
      hkeys t (hmem t (List.mem_append_left ss ht)) s (hmem s List.mem_cons_self) hkey
    rw [fetchAll, List.map_cons, ← hresult, hown,
      ih hsound fun s' hs' t' ht' => hkeys s' (hmem s' hs') t' (hmem t' ht')]

/-- A table is transparent for arguments that agree in their results where they agree in their keys. -/
theorem fetchAll_eq_map (hroom : ∀ table, room table ⊆ table) {ss : List σ}
    (hkeys : ∀ s ∈ ss, ∀ t ∈ ss, key s = key t → f s = f t) : fetchAll key f room [] ss = ss.map f := by
  have hempty : Sound key f [] [] := fun _ he => absurd he List.not_mem_nil
  exact fetchAll_of_sound hroom hempty hkeys

end Memo
