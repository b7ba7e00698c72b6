import HeraldGateway.Text.RegExp

/-!
# Spans of a text

Parts of a text that follow each other are replaced. It does not matter whether that is done from left to right, or
from right to left in place, where the parts that are left keep their positions. The matches of a search are such
parts, and a replacement of the matches replaces them.
-/

namespace Text

namespace Spans

variable {α ι : Type} (start stop : ι → Nat) (f : ι → List α)

/-- Replace parts of a text from a position on. -/
def spliceFrom (s : List α) : Nat → List ι → List α
  | position, [] => s.drop position
  | position, i :: is => (s.take (start i)).drop position ++ f i ++ spliceFrom s (stop i) is

/-- Replace parts of a text. -/
def splice (s : List α) (is : List ι) : List α := spliceFrom start stop f s 0 is

/-- Replace a part in place. -/
def replacePart (s : List α) (i : ι) : List α := s.take (start i) ++ f i ++ s.drop (stop i)

/-- Parts of a text that follow each other. -/
structure InOrder (s : List α) (is : List ι) : Prop where
  ordered : is.Pairwise fun i j => stop i ≤ start j
  proper : ∀ i ∈ is, start i < stop i ∧ stop i ≤ s.length

variable {start stop f} {s : List α} {is : List ι}

/-- Parts that are replaced from right to left. -/
theorem foldr_replacePart (h : InOrder start stop s is) (position : Nat) (hpos : ∀ i ∈ is, position ≤ start i) :
    is.foldr (fun i t => replacePart start stop f t i) s = s.take position ++ spliceFrom start stop f s position is := by
  induction is generalizing position with
  | nil => exact (List.take_append_drop position s).symm
  | cons i is ih =>
    obtain ⟨hi, his⟩ := List.pairwise_cons.1 h.ordered
    obtain ⟨hproper, hproper'⟩ := List.forall_mem_cons.1 h.proper
    have hlen : (s.take (stop i)).length = stop i := List.length_take_of_le hproper.2
    have htake : (s.take (stop i) ++ spliceFrom start stop f s (stop i) is).take (start i) = s.take (start i) := by
      rw [List.take_append_of_le_length (by omega), List.take_take, Nat.min_eq_left (by omega)]
    have hdrop : (s.take (stop i) ++ spliceFrom start stop f s (stop i) is).drop (stop i) =
        spliceFrom start stop f s (stop i) is := List.drop_left' hlen
    have hsplit : s.take (start i) = s.take position ++ (s.take (start i)).drop position := by
      have hmin : s.take position = (s.take (start i)).take position := by
        rw [List.take_take, Nat.min_eq_left (hpos i (List.mem_cons_self ..))]
      rw [hmin, List.take_append_drop]
    calc List.foldr (fun i t => replacePart start stop f t i) s (i :: is)
        = s.take (start i) ++ f i ++ spliceFrom start stop f s (stop i) is := by
          rw [List.foldr_cons, ih ⟨his, hproper'⟩ (stop i) hi, replacePart, htake, hdrop]
      _ = s.take position ++ ((s.take (start i)).drop position ++ f i ++ spliceFrom start stop f s (stop i) is) := by
          rw [← List.append_assoc, ← List.append_assoc, ← hsplit]

theorem spliceFrom_map {κ : Type} (g : κ → ι) (s : List α) (position : Nat) (ks : List κ) :
    spliceFrom start stop f s position (ks.map g) =
      spliceFrom (fun k => start (g k)) (fun k => stop (g k)) (fun k => f (g k)) s position ks := by
  induction ks generalizing position with
  | nil => rfl
  | cons k ks ih => rw [List.map_cons, spliceFrom, ih, spliceFrom]

/-- Parts may be replaced from right to left, in place. -/
theorem foldl_reverse (h : InOrder start stop s is) :
    is.reverse.foldl (replacePart start stop f) s = splice start stop f s is := by
  rw [List.foldl_reverse, foldr_replacePart h 0 fun _ _ => Nat.zero_le _]
  rfl

end Spans

/-! ### Matches as spans -/

namespace RegExp

open Spans

variable {α : Type} {s : List α} {n : Nat} {ps : List (Piece α)}

/-- The matches among pieces, with their positions. -/
def placed : Nat → List (Piece α) → List (Nat × Match α)
  | _, [] => []
  | n, .letter _ :: ps => placed (n + 1) ps
  | n, .hit m :: ps => (n, m) :: placed (n + m.text.length) ps

/-- Where a match ends. -/
def stopAt (i : Nat × Match α) : Nat := i.1 + i.2.text.length

/-- The text at the position of a match is the match. -/
theorem placed_text (h : s.drop n = ps.flatMap Piece.text) :
    ∀ i ∈ placed n ps, .hit i.2 ∈ ps ∧ n ≤ i.1 ∧ i.2.text <+: s.drop i.1 := by
  induction ps generalizing n with
  | nil => exact fun i hi => absurd hi List.not_mem_nil
  | cons piece ps ih =>
    rw [List.flatMap_cons] at h
    have hdrop : s.drop (n + piece.text.length) = ps.flatMap Piece.text := by
      rw [← List.drop_drop, h, List.drop_left]
    have ih := ih hdrop
    cases piece with
    | letter a =>
      intro i hi
      obtain ⟨hhit, hle, hpre⟩ := ih i hi
      exact ⟨List.mem_cons_of_mem _ hhit, (Nat.le_succ n).trans hle, hpre⟩
    | hit m =>
      intro i hi
      rcases List.mem_cons.1 hi with rfl | hi
      · exact ⟨List.mem_cons_self .., Nat.le_refl n, h ▸ List.prefix_append ..⟩
      · obtain ⟨hhit, hle, hpre⟩ := ih i hi
        exact ⟨List.mem_cons_of_mem _ hhit, (Nat.le_add_right ..).trans hle, hpre⟩

/-- The matches of a text follow each other. -/
theorem placed_inOrder (h : s.drop n = ps.flatMap Piece.text) (hne : ∀ m, .hit m ∈ ps → m.text ≠ []) :
    InOrder (fun i : Nat × Match α => i.1) stopAt s (placed n ps) where
  ordered := by
    induction ps generalizing n with
    | nil => exact List.Pairwise.nil
    | cons piece ps ih =>
      rw [List.flatMap_cons] at h
      have hdrop : s.drop (n + piece.text.length) = ps.flatMap Piece.text := by
        rw [← List.drop_drop, h, List.drop_left]
      have ih := ih hdrop fun m hm => hne m (List.mem_cons_of_mem piece hm)
      cases piece with
      | letter a => exact ih
      | hit m => exact List.pairwise_cons.2 ⟨fun i hi => (placed_text hdrop i hi).2.1, ih⟩
  proper := by
    intro i hi
    obtain ⟨hhit, -, hpre⟩ := placed_text h i hi
    have hpos := List.length_pos_of_ne_nil (hne i.2 hhit)
    have hlen := hpre.length_le
    rw [List.length_drop] at hlen
    unfold stopAt
    omega

/-- A replacement of the matches replaces their spans. -/
theorem spliceFrom_placed {f : Match α → List α} (position : Nat) (hpos : position ≤ n) (hn : n ≤ s.length)
    (h : s.drop n = ps.flatMap Piece.text) :
    spliceFrom (fun i : Nat × Match α => i.1) stopAt (fun i => f i.2) s position (placed n ps) =
      (s.take n).drop position ++ ps.flatMap (Piece.replace f) := by
  induction ps generalizing n position with
  | nil =>
    have hall : s.take n = s := by
      have hdrop : s.drop n = [] := h
      rw [← List.take_append_drop n s, hdrop, List.append_nil, List.take_take, Nat.min_self]
    rw [placed, spliceFrom, hall, List.flatMap_nil, List.append_nil]
  | cons piece ps ih =>
    rw [List.flatMap_cons] at h
    have hdrop : s.drop (n + piece.text.length) = ps.flatMap Piece.text := by
      rw [← List.drop_drop, h, List.drop_left]
    have hle : n + piece.text.length ≤ s.length := by
      have hlen := congrArg List.length h
      rw [List.length_drop, List.length_append] at hlen
      omega
    rw [List.flatMap_cons]
    cases piece with
    | letter a =>
      have hstep := ih position (hpos.trans (Nat.le_succ n)) hle hdrop
      have htake : s.take (n + 1) = s.take n ++ [a] := by
        rw [List.take_add, h]
        rfl
      have hin : (s.take (n + 1)).drop position = (s.take n).drop position ++ [a] := by
        rw [htake, List.drop_append_of_le_length (by rw [List.length_take_of_le hn]; exact hpos)]
      rw [placed, hstep]
      show (s.take (n + 1)).drop position ++ _ = _
      rw [hin, List.append_assoc]
      rfl
    | hit m =>
      have hstep := ih (n + m.text.length) (Nat.le_refl _) hle hdrop
      have hnone : (s.take (n + m.text.length)).drop (n + m.text.length) = [] :=
        List.drop_eq_nil_of_le (List.length_take_le ..)
      rw [hnone, List.nil_append] at hstep
      rw [placed, spliceFrom, List.append_assoc]
      exact congrArg (fun t => (s.take n).drop position ++ (f m ++ t)) hstep

variable [Coded α] {r : RegExp}

/-- The matches of a search follow each other. -/
theorem pieces_inOrder (hr : 0 < r.least) (s : List α) :
    InOrder (fun i : Nat × Match α => i.1) stopAt s (placed 0 (pieces r 0 none s)) := by
  refine placed_inOrder (flatMap_pieces hr none s).symm fun m hm => ?_
  obtain ⟨u, -, hmem⟩ := exists_of_hit hr hm
  exact List.ne_nil_of_length_pos (hr.trans_le (least_le hmem))

theorem replaceAll_eq_splice (hr : 0 < r.least) (f : Match α → List α) (s : List α) :
    replaceAll r f s = splice (fun i : Nat × Match α => i.1) stopAt (fun i => f i.2) s (placed 0 (pieces r 0 none s)) := by
  unfold splice
  rw [spliceFrom_placed 0 (Nat.le_refl 0) (Nat.zero_le _) (flatMap_pieces hr none s).symm]
  rfl

/-- A search that goes on from the end of each match finds the matches. -/
theorem placed_of_exec (hr : 0 < r.least) (s : List α) (n : Nat) (hn : n ≤ s.length) :
    match exec r n s with
    | none => placed n (pieces r 0 (s.take n).getLast? (s.drop n)) = []
    | some (index, m) => placed n (pieces r 0 (s.take n).getLast? (s.drop n)) =
        (index, m) :: placed (index + m.text.length)
          (pieces r 0 (s.take (index + m.text.length)).getLast? (s.drop (index + m.text.length))) ∧
        n ≤ index ∧ index + m.text.length ≤ s.length ∧ m.text ≠ [] := by
  have hletters : ∀ (n : Nat) (t : List α) (ps : List (Piece α)),
      placed n (t.map .letter ++ ps) = placed (n + t.length) ps := by
    intro n t ps
    induction t generalizing n with
    | nil => rfl
    | cons a t ih =>
      rw [List.map_cons, List.cons_append, placed, ih, List.length_cons]
      congr 1
      omega
  have hfind := pieces_of_find? hr (s.take n).getLast? (s.drop n)
  unfold exec
  cases hf : find? r (s.take n).getLast? (s.drop n) with
  | none =>
    rw [hf] at hfind
    show placed n (pieces r 0 (s.take n).getLast? (s.drop n)) = []
    have hnil := hletters n (s.drop n) []
    rw [List.append_nil] at hnil
    rw [show pieces r 0 (s.take n).getLast? (s.drop n) = _ from hfind, hnil, placed]
  | some found =>
    obtain ⟨i, m⟩ := found
    rw [hf] at hfind
    obtain ⟨hpieces, hs⟩ := hfind
    have hmem : .hit m ∈ pieces r 0 (s.take n).getLast? (s.drop n) := by
      rw [hpieces]
      exact List.mem_append_right _ (List.mem_cons_self ..)
    obtain ⟨u, -, hway⟩ := exists_of_hit hr hmem
    have hi : ((s.drop n).take i).length = i := by
      have hpre := congrArg List.length hs
      have hle := List.length_take_le i (s.drop n)
      by_contra hne
      rw [List.take_of_length_le (by rw [List.length_take] at hne hle; omega)] at hpre
      have hpos := hr.trans_le (least_le hway)
      simp only [List.length_append] at hpre
      omega
    have hlen : n + (i + m.text.length) ≤ s.length := by
      have hpre := congrArg List.length hs
      simp only [List.length_append, hi, List.length_drop] at hpre
      omega
    have hdrop : s.drop (n + i + m.text.length) = m.rest := by
      rw [Nat.add_assoc, ← List.drop_drop]
      conv_lhs => rw [hs, ← List.append_assoc]
      exact List.drop_left' (by rw [List.length_append, hi])
    have htake : s.take (n + i + m.text.length) = s.take n ++ ((s.drop n).take i ++ m.text) := by
      rw [Nat.add_assoc, List.take_add]
      congr 1
      conv_lhs => rw [hs, ← List.append_assoc]
      exact List.take_left' (by rw [List.length_append, hi])
    have hlast : (s.take (n + i + m.text.length)).getLast? =
        ((s.drop n).take i ++ m.text).getLast?.or (s.take n).getLast? := by
      rw [htake]
      exact List.getLast?_append
    refine ⟨?_, Nat.le_add_right n i, by omega, List.ne_nil_of_length_pos (hr.trans_le (least_le hway))⟩
    rw [hpieces, hletters, hi, placed, hdrop, hlast]

end RegExp

end Text
