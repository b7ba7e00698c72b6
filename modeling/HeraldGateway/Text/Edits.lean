import HeraldGateway.Text.RegExp
import Mathlib.Data.List.Perm.Basic

/-!
# Edits

A text is edited where letters are dropped, each for some letters that are new or for none. What is within a part
of which no letter is dropped stays together, and nothing that is not new is added. Replacements of the matches of
an expression are edits where those of each match are.
-/

namespace Text

variable {α : Type}

/-- One text becomes another: of the letters in `D` some are dropped, each for letters that are new. -/
inductive Edits (New D : α → Prop) : List α → List α → Prop where
  | nil : Edits New D [] []
  | keep (a : α) {s t : List α} (rest : Edits New D s t) : Edits New D (a :: s) (a :: t)
  | drop {a : α} {new s t : List α} (dropped : D a) (fresh : ∀ b ∈ new, New b) (rest : Edits New D s t) :
      Edits New D (a :: s) (new ++ t)

namespace Edits

variable {New D D' : α → Prop} {s s' t t' u w : List α}

theorem refl (s : List α) : Edits New D s s := by
  induction s with
  | nil => exact .nil
  | cons a s ih => exact .keep a ih

theorem mono (h : Edits New D s t) (hD : ∀ a ∈ s, D a → D' a) : Edits New D' s t := by
  induction h with
  | nil => exact .nil
  | keep a _ ih => exact .keep a (ih fun b hb => hD b (List.mem_cons_of_mem a hb))
  | @drop a _ s _ hdrop hfresh _ ih =>
    exact .drop (hD _ (List.mem_cons_self ..) hdrop) hfresh (ih fun b hb => hD b (List.mem_cons_of_mem a hb))

theorem append (h : Edits New D s t) (h' : Edits New D s' t') : Edits New D (s ++ s') (t ++ t') := by
  induction h with
  | nil => exact h'
  | keep a _ ih => exact .keep a ih
  | drop hdrop hfresh _ ih =>
    rw [List.cons_append, List.append_assoc]
    exact .drop hdrop hfresh ih

/-- A text is dropped as a whole. -/
theorem dropAll (h : ∀ a ∈ s, D a) : Edits New D s [] := by
  induction s with
  | nil => exact .nil
  | cons a s ih =>
    obtain ⟨ha, hs⟩ := List.forall_mem_cons.1 h
    exact .drop ha (fun b hb => absurd hb List.not_mem_nil) (ih hs)

/-- A text is dropped for a new one. -/
theorem swap (hne : s ≠ []) (h : ∀ a ∈ s, D a) (hfresh : ∀ b ∈ t, New b) : Edits New D s t := by
  cases s with
  | nil => exact absurd rfl hne
  | cons a s =>
    obtain ⟨ha, hs⟩ := List.forall_mem_cons.1 h
    have hdrop : Edits New D (a :: s) (t ++ []) := .drop ha hfresh (dropAll hs)
    rwa [List.append_nil] at hdrop

/-- What becomes of two parts. -/
theorem split (h : Edits New D (s ++ s') u) : ∃ t t', u = t ++ t' ∧ Edits New D s t ∧ Edits New D s' t' := by
  induction s generalizing u with
  | nil => exact ⟨[], u, rfl, .nil, h⟩
  | cons a s ih =>
    cases h with
    | keep _ hrest =>
      obtain ⟨t, t', rfl, hs, hs'⟩ := ih hrest
      exact ⟨a :: t, t', rfl, .keep a hs, hs'⟩
    | @drop _ new _ _ hdrop hfresh hrest =>
      obtain ⟨t, t', rfl, hs, hs'⟩ := ih hrest
      exact ⟨new ++ t, t', (List.append_assoc ..).symm, .drop hdrop hfresh hs, hs'⟩

/-- What is new stays new. -/
theorem fresh (h : Edits New D s t) (hs : ∀ a ∈ s, New a) : ∀ b ∈ t, New b := by
  induction h with
  | nil => exact hs
  | keep a _ ih =>
    obtain ⟨ha, hs⟩ := List.forall_mem_cons.1 hs
    exact List.forall_mem_cons.2 ⟨ha, ih hs⟩
  | drop _ hfresh _ ih =>
    intro b hb
    exact (List.mem_append.1 hb).elim (hfresh b) (ih (List.forall_mem_cons.1 hs).2 b)

/-- One edit after another. -/
theorem trans (h : Edits New D s t) (h' : Edits New D t u) : Edits New D s u := by
  induction h generalizing u with
  | nil =>
    cases h'
    exact .nil
  | keep a _ ih =>
    cases h' with
    | keep _ hrest => exact .keep a (ih hrest)
    | drop hdrop hfresh hrest => exact .drop hdrop hfresh (ih hrest)
  | drop hdrop hfresh _ ih =>
    obtain ⟨v, v', rfl, hnew, hrest⟩ := h'.split
    exact .drop hdrop (hnew.fresh hfresh) (ih hrest)

/-- What is there afterwards was there before, or is new. -/
theorem source (h : Edits New D s t) {b : α} (hb : b ∈ t) : b ∈ s ∨ New b := by
  induction h with
  | nil => exact .inl hb
  | keep a _ ih =>
    rcases List.mem_cons.1 hb with rfl | hb
    · exact .inl (List.mem_cons_self ..)
    · exact (ih hb).imp_left (List.mem_cons_of_mem a)
  | @drop a _ _ _ _ hfresh _ ih =>
    rcases List.mem_append.1 hb with hb | hb
    · exact .inr (hfresh b hb)
    · exact (ih hb).imp_left (List.mem_cons_of_mem a)

theorem not_mem (h : Edits New D s t) {a : α} (ha : a ∉ s) (hold : ¬New a) : a ∉ t := fun ht =>
  (h.source ht).elim ha hold

/-- Letters that are not dropped are there afterwards. -/
theorem mem (h : Edits New D s t) {a : α} (ha : a ∈ s) (hkeep : ¬D a) : a ∈ t := by
  induction h with
  | nil => exact ha
  | keep b _ ih =>
    rcases List.mem_cons.1 ha with rfl | ha
    · exact List.mem_cons_self ..
    · exact List.mem_cons_of_mem b (ih ha)
  | drop hdrop _ _ ih =>
    rcases List.mem_cons.1 ha with rfl | ha
    · exact absurd hdrop hkeep
    · exact List.mem_append_right _ (ih ha)

/-- A part of which nothing is dropped stays. -/
theorem unchanged (h : Edits New D w t) (hw : ∀ a ∈ w, ¬D a) : t = w := by
  induction h with
  | nil => rfl
  | keep a _ ih => rw [ih (List.forall_mem_cons.1 hw).2]
  | drop hdrop _ _ _ => exact absurd hdrop (hw _ (List.mem_cons_self ..))

theorem infix_of (h : Edits New D s t) (hin : w <:+: s) (hw : ∀ a ∈ w, ¬D a) : w <:+: t := by
  obtain ⟨x, y, rfl⟩ := hin
  obtain ⟨u, z, rfl, hu, -⟩ := h.split
  obtain ⟨x', w', rfl, -, hw'⟩ := hu.split
  rw [hw'.unchanged hw]
  exact ⟨x', z, rfl⟩

/-- What is not new was there before, in the same order. -/
theorem sublist [DecidablePred New] (h : Edits New D s t) :
    (t.filter fun a => ¬New a).Sublist (s.filter fun a => ¬New a) := by
  induction h with
  | nil => exact List.Sublist.refl _
  | keep a _ ih =>
    by_cases ha : New a
    · rw [List.filter_cons_of_neg (by simpa using ha), List.filter_cons_of_neg (by simpa using ha)]
      exact ih
    · rw [List.filter_cons_of_pos (by simpa using ha), List.filter_cons_of_pos (by simpa using ha)]
      exact ih.cons_cons a
  | @drop a new s t _ hfresh _ ih =>
    have hnew : new.filter (fun a => ¬New a) = [] :=
      List.filter_eq_nil_iff.2 fun b hb => by simpa using hfresh b hb
    rw [List.filter_append, hnew, List.nil_append]
    exact ih.trans ((List.sublist_cons_self a s).filter _)

end Edits

namespace RegExp

open Coded (code)

variable [Coded α] {New D : α → Prop} {r : RegExp} {f : Match α → List α} {s : List α}

/-- A replacement is an edit where that of each match is. -/
theorem edits_replaceAll (hr : 0 < r.least)
    (hf : ∀ m, .hit m ∈ pieces r 0 none s → Edits New D m.text (f m)) : Edits New D s (replaceAll r f s) := by
  have hedits : ∀ ps : List (Piece α), (∀ m, .hit m ∈ ps → Edits New D m.text (f m)) →
      Edits New D (ps.flatMap Piece.text) (ps.flatMap (Piece.replace f)) := by
    intro ps
    induction ps with
    | nil => exact fun _ => .nil
    | cons piece ps ih =>
      intro hps
      rw [List.flatMap_cons, List.flatMap_cons]
      refine Edits.append ?_ (ih fun m hm => hps m (List.mem_cons_of_mem piece hm))
      cases piece with
      | letter a => exact .refl [a]
      | hit m => exact hps m (List.mem_cons_self ..)
  have hpieces := hedits (pieces r 0 none s) hf
  rwa [flatMap_pieces hr] at hpieces

/-- What a replacement drops of its matches. -/
def takenFrom (r : RegExp) (taken : Match α → List α) (s : List α) : List α :=
  (pieces r 0 none s).flatMap fun
    | .letter _ => []
    | .hit m => taken m

theorem mem_takenFrom {taken : Match α → List α} {a : α} :
    a ∈ takenFrom r taken s ↔ ∃ m, .hit m ∈ pieces r 0 none s ∧ a ∈ taken m := by
  unfold takenFrom
  rw [List.mem_flatMap]
  constructor
  · rintro ⟨piece, hpiece, ha⟩
    cases piece with
    | letter b => cases ha
    | hit m => exact ⟨m, hpiece, ha⟩
  · rintro ⟨m, hm, ha⟩
    exact ⟨.hit m, hm, ha⟩

/-- Matches that are replaced by something new are dropped as a whole. -/
theorem edits_swap {new : List α} (hr : 0 < r.least) (hfresh : ∀ b ∈ new, New b) :
    Edits New (· ∈ takenFrom r Match.text s) s (replaceAll r (fun _ => new) s) := by
  refine edits_replaceAll hr fun m hm => ?_
  obtain ⟨u, -, hway⟩ := exists_of_hit hr hm
  have hne := List.ne_nil_of_length_pos (hr.trans_le (least_le hway))
  exact Edits.swap hne (fun a ha => mem_takenFrom.2 ⟨m, hm, ha⟩) hfresh

theorem code_of_taken {q : UInt16 → Bool} {a : α} (hr : 0 < r.least) (hwithin : r.Within q)
    (ha : a ∈ takenFrom r Match.text s) : q (code a) = true := by
  obtain ⟨m, hm, ha⟩ := mem_takenFrom.1 ha
  obtain ⟨u, -, hway⟩ := exists_of_hit hr hm
  exact code_of_within hwithin hway a ha

/-- Where what is dropped of each match and what is left of it are the match, the letters of a text are those that
are left and those that are dropped. -/
theorem perm_replaceAll (hr : 0 < r.least) {taken : Match α → List α}
    (hf : ∀ m, .hit m ∈ pieces r 0 none s → (f m ++ taken m).Perm m.text) :
    (replaceAll r f s ++ takenFrom r taken s).Perm s := by
  have hperm : ∀ ps : List (Piece α), (∀ m, .hit m ∈ ps → (f m ++ taken m).Perm m.text) →
      (ps.flatMap (Piece.replace f) ++ ps.flatMap fun
        | .letter _ => []
        | .hit m => taken m).Perm (ps.flatMap Piece.text) := by
    intro ps
    induction ps with
    | nil => exact fun _ => .nil
    | cons piece ps ih =>
      intro hps
      have ih := ih fun m hm => hps m (List.mem_cons_of_mem piece hm)
      rw [List.flatMap_cons, List.flatMap_cons, List.flatMap_cons]
      cases piece with
      | letter a => exact ih.cons a
      | hit m =>
        have hm := hps m (List.mem_cons_self ..)
        refine List.Perm.trans ?_ (hm.append ih)
        rw [List.append_assoc, List.append_assoc]
        refine List.Perm.append_left _ ?_
        rw [← List.append_assoc, ← List.append_assoc]
        exact List.Perm.append_right _ List.perm_append_comm
  have hpieces := hperm (pieces r 0 none s) hf
  rwa [flatMap_pieces hr] at hpieces

/-- What is dropped of a text without repetitions is gone. -/
theorem not_mem_of_taken (hr : 0 < r.least) {taken : Match α → List α}
    (hf : ∀ m, .hit m ∈ pieces r 0 none s → (f m ++ taken m).Perm m.text) {a : α} [DecidableEq α]
    (hone : s.count a ≤ 1) (ha : a ∈ takenFrom r taken s) : a ∉ replaceAll r f s := by
  intro hleft
  have hcount := (perm_replaceAll hr hf).count_eq a
  rw [List.count_append] at hcount
  have hpos := List.count_pos_iff.2 hleft
  have hpos' := List.count_pos_iff.2 ha
  omega

/-- What a match takes around its first group, which begins at the place `k` of it. -/
def around (k : Nat) (m : Match α) : List α := m.text.take k ++ m.text.drop (k + (m.group 1).length)

omit [Coded α] in
theorem around_eq {m : Match α} {d d' : List α} (h : m.text = d ++ (m.group 1 ++ d')) :
    around d.length m = d ++ d' := by
  have htake : m.text.take d.length = d := by
    rw [h, List.take_left]
  have hdrop : m.text.drop (d.length + (m.group 1).length) = d' := by
    rw [h, List.drop_length_add_append, List.drop_left]
  rw [around, htake, hdrop]

/-- Whether the first group of each match begins at the place `k` of it. -/
def GroupAt (r : RegExp) (k : Nat) (s : List α) : Prop :=
  ∀ m, .hit m ∈ pieces r 0 none s → ∃ d d', m.text = d ++ (m.group 1 ++ d') ∧ d.length = k

/-- Matches that are replaced by their first group lose what is around it. -/
theorem edits_group {k : Nat} (hr : 0 < r.least) (hgroup : r.GroupAt k s) :
    Edits New (· ∈ takenFrom r (around k) s) s (replaceAll r (·.group 1) s) := by
  refine edits_replaceAll hr fun m hm => ?_
  obtain ⟨d, d', htext, rfl⟩ := hgroup m hm
  have htaken : ∀ a ∈ d ++ d', a ∈ takenFrom r (around d.length) s := fun a ha =>
    mem_takenFrom.2 ⟨m, hm, around_eq htext ▸ ha⟩
  have hleft := @Edits.dropAll α New _ d fun a ha => htaken a (List.mem_append_left d' ha)
  have hright := @Edits.dropAll α New _ d' fun a ha => htaken a (List.mem_append_right d ha)
  have hedits := hleft.append ((Edits.refl (m.group 1)).append hright)
  rwa [← htext, List.nil_append, List.append_nil] at hedits

/-- What they lose is gone. -/
theorem not_mem_of_around {k : Nat} (hr : 0 < r.least) (hgroup : r.GroupAt k s) [DecidableEq α] {a : α}
    (hone : s.count a ≤ 1) (ha : a ∈ takenFrom r (around k) s) : a ∉ replaceAll r (·.group 1) s := by
  refine not_mem_of_taken hr (fun m hm => ?_) hone ha
  obtain ⟨d, d', htext, rfl⟩ := hgroup m hm
  have hperm : (m.group 1 ++ (d ++ d')).Perm (d ++ (m.group 1 ++ d')) := by
    rw [← List.append_assoc, ← List.append_assoc]
    exact List.perm_append_comm.append_right d'
  rwa [around_eq htext, htext]

/-! ### Marks -/

variable {mark : List UInt16} {p : UInt16 → Bool}

theorem least_enclosed (hmark : mark ≠ []) : 0 < (enclosed mark p).least := by
  have hpos := List.length_pos_of_ne_nil hmark
  show 0 < mark.length + (1 + mark.length)
  omega

theorem groupAt_enclosed (hmark : mark ≠ []) : (enclosed mark p).GroupAt mark.length s := by
  intro m hm
  obtain ⟨u, -, hway⟩ := exists_of_hit (least_enclosed hmark) hm
  obtain ⟨d, d', htext, hd, -, -, -⟩ := exists_of_enclosed hway
  exact ⟨d, d', htext, by rw [← hd, List.length_map]⟩

/-- What is dropped around the first group is the mark. -/
theorem code_of_around {a : α} (hmark : mark ≠ []) (ha : a ∈ takenFrom (enclosed mark p) (around mark.length) s) :
    code a ∈ mark := by
  obtain ⟨m, hm, ha⟩ := mem_takenFrom.1 ha
  obtain ⟨u, -, hway⟩ := exists_of_hit (least_enclosed hmark) hm
  obtain ⟨d, d', htext, hd, hd', -, -⟩ := exists_of_enclosed hway
  have hlen : mark.length = d.length := by rw [← hd, List.length_map]
  rw [hlen, around_eq htext] at ha
  rcases List.mem_append.1 ha with ha | ha
  · exact hd ▸ List.mem_map_of_mem ha
  · exact hd' ▸ List.mem_map_of_mem ha

/-- Marks are dropped. -/
theorem edits_enclosed (hmark : mark ≠ []) : Edits New (fun a => code a ∈ mark) s
    (replaceAll (enclosed mark p) (·.group 1) s) :=
  (edits_group (least_enclosed hmark) (groupAt_enclosed hmark)).mono fun _ _ => code_of_around hmark

end RegExp

end Text
