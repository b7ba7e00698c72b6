import HeraldGateway.Telegram.Messages
import Mathlib.Algebra.BigOperators.Ring.List
import Mathlib.Algebra.Order.BigOperators.Group.List

/-!
# Proofs: the chunks of a text

The three loops share the chunks so far and the one that grows. `Kept` says what each step keeps of them: the sizes, the
code units, and that the chunks are on average not too small. The last is what bounds their number.
-/

namespace HeraldGateway.TelegramService

/-! ## Pieces between line breaks -/

theorem join_splitOn (c : UInt16) (s : JsString) : join [c] (splitOn c s) = s := by
  induction s with
  | nil => rfl
  | cons a s ih =>
    obtain ⟨part, parts, hparts⟩ := List.exists_cons_of_ne_nil (splitOn_ne_nil c s)
    rw [hparts] at ih
    rw [splitOn, hparts]
    by_cases hsep : a = c
    · rw [if_pos hsep, hsep]
      exact congrArg (c :: ·) ih
    · rw [if_neg hsep]
      cases parts with
      | nil => exact congrArg (a :: ·) ih
      | cons next parts => exact congrArg (a :: ·) ih

theorem splitParagraphs_ne_nil (s : JsString) : splitParagraphs s ≠ [] := by
  fun_cases splitParagraphs s <;> exact nofun

theorem join_splitParagraphs (s : JsString) : join [10, 10] (splitParagraphs s) = s := by
  fun_induction splitParagraphs s with
  | case1 s ih =>
    obtain ⟨para, paras, hparas⟩ := List.exists_cons_of_ne_nil (splitParagraphs_ne_nil s)
    rw [hparas] at ih ⊢
    exact congrArg (10 :: 10 :: ·) ih
  | case2 a s _ hparas ih => exact absurd hparas (splitParagraphs_ne_nil s)
  | case3 a s _ para paras hparas ih =>
    rw [hparas] at ih
    cases paras with
    | nil => exact congrArg (a :: ·) ih
    | cons next paras => exact congrArg (a :: ·) ih
  | case4 => rfl

theorem withoutBreaks_append (s t : JsString) :
    withoutBreaks (s ++ t) = withoutBreaks s ++ withoutBreaks t :=
  List.filter_append s t

/-- What stands between the pieces does not count where it is line breaks. -/
theorem withoutBreaks_join {sep : JsString} (hsep : withoutBreaks sep = []) (pieces : List JsString) :
    withoutBreaks (join sep pieces) = withoutBreaks pieces.flatten := by
  fun_induction join sep pieces with
  | case1 => rfl
  | case2 s => rw [List.flatten_singleton]
  | case3 s ss _ ih =>
    rw [withoutBreaks_append, withoutBreaks_append, hsep, List.append_nil, ih, List.flatten_cons,
      withoutBreaks_append]

theorem length_join (sep : JsString) {pieces : List JsString} (hne : pieces ≠ []) :
    (join sep pieces).length + sep.length = (pieces.map fun s => s.length + sep.length).sum := by
  fun_induction join sep pieces with
  | case1 => contradiction
  | case2 s => simp
  | case3 s ss hss ih =>
    have := ih hss
    simp only [List.length_append, List.map_cons, List.sum_cons]
    omega

theorem length_le_of_mem {sep piece : JsString} {pieces : List JsString} (hpiece : piece ∈ pieces) :
    piece.length ≤ (join sep pieces).length := by
  have hall := length_join sep (List.ne_nil_of_mem hpiece)
  have hpart := List.single_le_sum (fun _ _ => Nat.zero_le _) _
    (List.mem_map.2 ⟨piece, hpiece, rfl⟩ : _ ∈ pieces.map fun s => s.length + sep.length)
  omega

/-! ## One step -/

/-- What the loops keep of the units they have gone over. `bound` limits how many chunks there are. -/
structure Kept (effectiveMax : Nat) (units : JsString) (bound : Nat) (c : Chunking) : Prop where
  chunks_fit : ∀ chunk ∈ c.chunks, chunk ≠ [] ∧ chunk.length ≤ effectiveMax
  current_fits : c.current.length ≤ effectiveMax
  units_eq : withoutBreaks (c.chunks.flatten ++ c.current) = units
  count_le : effectiveMax * c.chunks.length + c.current.length ≤ bound

theorem withoutBreaks_separator {sep : JsString} (hsep : withoutBreaks sep = []) (current : JsString) :
    withoutBreaks (separator sep current) = [] := by
  unfold separator
  split
  · rfl
  · exact hsep

theorem length_separator_le (sep current : JsString) : (separator sep current).length ≤ sep.length := by
  unfold separator
  split
  · exact Nat.zero_le _
  · rfl

theorem flatten_addChunk (chunks : List JsString) (s : JsString) :
    (addChunk chunks s).flatten = chunks.flatten ++ s := by
  cases s with
  | nil => exact (List.append_nil _).symm
  | cons a s => exact (List.flatten_append).trans (congrArg _ (List.append_nil _))

theorem length_addChunk_le (chunks : List JsString) (s : JsString) :
    (addChunk chunks s).length ≤ chunks.length + 1 := by
  unfold addChunk
  split
  · exact Nat.le_succ _
  · exact (List.length_append).le

variable {effectiveMax bound : Nat} {units : JsString} {c : Chunking}

theorem Kept.mono (hc : Kept effectiveMax units bound c) {bound' : Nat} (hle : bound ≤ bound') :
    Kept effectiveMax units bound' c :=
  { hc with count_le := hc.count_le.trans hle }

theorem Kept.addChunk_fit (hc : Kept effectiveMax units bound c) :
    ∀ chunk ∈ addChunk c.chunks c.current, chunk ≠ [] ∧ chunk.length ≤ effectiveMax := by
  intro chunk hchunk
  unfold addChunk at hchunk
  split at hchunk
  · exact hc.chunks_fit chunk hchunk
  · rename_i hne
    rcases List.mem_append.1 hchunk with hold | hnew
    · exact hc.chunks_fit chunk hold
    · rw [List.mem_singleton.1 hnew]
      exact ⟨fun hnil => hne (List.isEmpty_iff.2 hnil), hc.current_fits⟩

/-- A piece that still fits is appended. -/
theorem Kept.append (hc : Kept effectiveMax units bound c) {sep piece : JsString}
    (hsep : withoutBreaks sep = []) (hfits : (c.current ++ separator sep c.current ++ piece).length ≤ effectiveMax) :
    Kept effectiveMax (units ++ withoutBreaks piece) (bound + (piece.length + sep.length))
      { c with current := c.current ++ separator sep c.current ++ piece } where
  chunks_fit := hc.chunks_fit
  current_fits := hfits
  units_eq := by
    rw [← hc.units_eq]
    simp only [withoutBreaks_append, withoutBreaks_separator hsep, List.nil_append, List.append_assoc]
  count_le := by
    have := hc.count_le
    have := length_separator_le sep c.current
    simp only [List.length_append]
    omega

/-- A piece that fits no more follows the chunk that it closes. The chunk and the piece are longer together than a chunk
may be, so the piece pays for the chunk. -/
theorem Kept.restart (hc : Kept effectiveMax units bound c) {sep piece : JsString}
    (hover : effectiveMax < (c.current ++ separator sep c.current ++ piece).length)
    (hpiece : piece.length ≤ effectiveMax) :
    Kept effectiveMax (units ++ withoutBreaks piece) (bound + 2 * (piece.length + sep.length))
      ⟨addChunk c.chunks c.current, piece⟩ where
  chunks_fit := hc.addChunk_fit
  current_fits := hpiece
  units_eq := by rw [flatten_addChunk, withoutBreaks_append, hc.units_eq]
  count_le := by
    have hcount := hc.count_le
    have hsep := length_separator_le sep c.current
    have hchunks := Nat.mul_le_mul_left effectiveMax (length_addChunk_le c.chunks c.current)
    simp only [List.length_append] at hover
    simp only [Nat.mul_succ] at hchunks ⊢
    omega

theorem length_flatten_eq {slices : List JsString} {n : Nat} (hall : ∀ slice ∈ slices, slice.length = n) :
    slices.flatten.length = n * slices.length := by
  rw [List.length_flatten, List.map_congr_left hall, List.map_const', List.sum_replicate_nat, Nat.mul_comm]

/-- The rest of a line as slices of full length and one that is not longer. -/
theorem cutLine_eq {line : JsString} (hmax : 0 < effectiveMax) {fuel pos : Nat} (hpos : pos < line.length)
    (hfuel : line.length - pos < fuel) (c : Chunking) :
    ∃ slices last, cutLine effectiveMax line fuel pos c = some ⟨c.chunks ++ slices, last⟩ ∧
      slices.flatten ++ last = line.drop pos ∧ (∀ slice ∈ slices, slice.length = effectiveMax) ∧
      last.length ≤ effectiveMax := by
  induction fuel generalizing pos c with
  | zero => omega
  | succ fuel ih =>
    rw [cutLine, if_pos hpos]
    dsimp only
    by_cases hmore : pos + effectiveMax < line.length
    · have hlength : ((line.drop pos).take effectiveMax).length = effectiveMax := by
        rw [List.length_take, List.length_drop]
        omega
      have hadd : addChunk c.chunks ((line.drop pos).take effectiveMax) =
          c.chunks ++ [(line.drop pos).take effectiveMax] :=
        if_neg fun hempty => by
          rw [List.isEmpty_iff.1 hempty] at hlength
          exact hmax.ne hlength
      rw [if_pos hmore, hadd]
      obtain ⟨slices, last, heq, hunits, hslices, hlast⟩ := ih hmore (by omega)
        { c with chunks := c.chunks ++ [(line.drop pos).take effectiveMax] }
      refine ⟨(line.drop pos).take effectiveMax :: slices, last, ?_, ?_, ?_, hlast⟩
      · rw [heq, List.append_assoc]
        rfl
      · rw [List.flatten_cons, List.append_assoc, hunits, ← List.drop_drop]
        exact List.take_append_drop _ _
      · exact List.forall_mem_cons.2 ⟨hlength, hslices⟩
    · obtain ⟨fuel, rfl⟩ := Nat.exists_eq_succ_of_ne_zero (show fuel ≠ 0 by omega)
      rw [if_neg hmore, cutLine, if_neg (by omega)]
      refine ⟨[], _, by rw [List.append_nil], ?_, nofun, List.length_take_le _ _⟩
      exact List.take_of_length_le (by rw [List.length_drop]; omega)

/-- What a line costs of the bound. -/
theorem addLine_kept (hmax : 0 < effectiveMax) (hc : Kept effectiveMax units bound c) {line : JsString} {fuel : Nat}
    (hfuel : line.length < fuel) :
    ∃ c', addLine effectiveMax fuel c line = some c' ∧
      Kept effectiveMax (units ++ withoutBreaks line) (bound + 2 * (line.length + 1)) c' := by
  unfold addLine
  by_cases hfits : (c.current ++ separator (js "\n") c.current ++ line).length ≤ effectiveMax
  · exact ⟨_, if_pos hfits, (hc.append (by decide) hfits).mono (by rw [show (js "\n").length = 1 from rfl]; omega)⟩
  rw [if_neg hfits]
  by_cases hline : line.length ≤ effectiveMax
  · exact ⟨_, if_pos hline, hc.restart (Nat.lt_of_not_le hfits) hline⟩
  dsimp only
  rw [if_neg hline]
  obtain ⟨slices, last, heq, hunits, hslices, hlast⟩ := cutLine_eq hmax (show 0 < line.length by omega)
    (show line.length - 0 < fuel from hfuel) { c with chunks := addChunk c.chunks c.current }
  refine ⟨_, heq, ?_, hlast, ?_, ?_⟩
  · intro chunk hchunk
    rcases List.mem_append.1 hchunk with hold | hnew
    · exact hc.addChunk_fit chunk hold
    · have hlength := hslices chunk hnew
      exact ⟨fun hnil => by rw [hnil] at hlength; exact hmax.ne hlength, hlength.le⟩
  · rw [List.flatten_append, List.append_assoc, hunits, flatten_addChunk, withoutBreaks_append, hc.units_eq]
    rfl
  · have hcount := hc.count_le
    have hchunks := Nat.mul_le_mul_left effectiveMax (length_addChunk_le c.chunks c.current)
    have hlength := congrArg List.length hunits
    rw [List.length_append, length_flatten_eq hslices, List.drop_zero] at hlength
    dsimp only
    rw [List.length_append, Nat.mul_add]
    rw [Nat.mul_succ] at hchunks
    omega

/-- What the steps of a loop keep, its run keeps. -/
theorem foldlM_kept {step : Chunking → JsString → Option Chunking} {cost : JsString → Nat} {pieces : List JsString}
    (hstep : ∀ piece ∈ pieces, ∀ units bound c, Kept effectiveMax units bound c →
      ∃ c', step c piece = some c' ∧ Kept effectiveMax (units ++ withoutBreaks piece) (bound + cost piece) c')
    (hc : Kept effectiveMax units bound c) :
    ∃ c', pieces.foldlM step c = some c' ∧
      Kept effectiveMax (units ++ withoutBreaks pieces.flatten) (bound + (pieces.map cost).sum) c' := by
  induction pieces generalizing units bound c with
  | nil => exact ⟨c, rfl, by rwa [List.flatten_nil, List.map_nil, List.sum_nil, withoutBreaks, List.filter_nil,
      List.append_nil]⟩
  | cons piece pieces ih =>
    obtain ⟨c₁, hfirst, hc₁⟩ := hstep piece List.mem_cons_self units bound c hc
    obtain ⟨c₂, hrest, hc₂⟩ := ih (fun p hp => hstep p (List.mem_cons_of_mem _ hp)) hc₁
    refine ⟨c₂, ?_, ?_⟩
    · rw [List.foldlM_cons, hfirst]
      exact hrest
    · rwa [List.flatten_cons, withoutBreaks_append, List.map_cons, List.sum_cons, ← List.append_assoc, ← Nat.add_assoc]

/-- A paragraph. One that is too long is longer than a chunk, so it pays for the chunk before it as well. -/
theorem addParagraph_kept (hmax : 0 < effectiveMax) (hc : Kept effectiveMax units bound c) {para : JsString}
    {fuel : Nat} (hfuel : para.length < fuel) :
    ∃ c', addParagraph effectiveMax fuel c para = some c' ∧
      Kept effectiveMax (units ++ withoutBreaks para) (bound + 3 * (para.length + 2)) c' := by
  unfold addParagraph
  by_cases hfits : (c.current ++ separator (js "\n\n") c.current ++ para).length ≤ effectiveMax
  · exact ⟨_, if_pos hfits, (hc.append (by decide) hfits).mono (by rw [show (js "\n\n").length = 2 from rfl]; omega)⟩
  rw [if_neg hfits]
  by_cases hpara : para.length ≤ effectiveMax
  · have hbreak : (js "\n\n").length = 2 := rfl
    exact ⟨_, if_pos hpara, (hc.restart (Nat.lt_of_not_le hfits) hpara).mono (by rw [hbreak]; omega)⟩
  dsimp only
  rw [if_neg hpara]
  have hflushed : Kept effectiveMax units (bound + effectiveMax) ⟨addChunk c.chunks c.current, []⟩ :=
    { chunks_fit := hc.addChunk_fit
      current_fits := Nat.zero_le _
      units_eq := by rw [flatten_addChunk, List.append_nil, hc.units_eq]
      count_le := by
        have hcount := hc.count_le
        have hchunks := Nat.mul_le_mul_left effectiveMax (length_addChunk_le c.chunks c.current)
        rw [Nat.mul_succ] at hchunks
        exact (Nat.add_le_add_right hchunks 0).trans (by omega) }
  have hlines := join_splitOn 10 para
  have hline_fuel : ∀ line ∈ splitOn 10 para, line.length < fuel := by
    intro line hline
    have hle := @length_le_of_mem [10] _ _ hline
    rw [hlines] at hle
    omega
  obtain ⟨c', heq, hc'⟩ := foldlM_kept
    (fun line hline _ _ _ hkept => addLine_kept hmax hkept (hline_fuel line hline)) hflushed
  have hunits : withoutBreaks (splitOn 10 para).flatten = withoutBreaks para := by
    rw [← @withoutBreaks_join [10] rfl, hlines]
  have hlength := length_join [10] (splitOn_ne_nil 10 para)
  rw [hlines, List.length_singleton] at hlength
  rw [hunits, List.sum_map_mul_left, ← hlength] at hc'
  exact ⟨c', heq, hc'.mono (by omega)⟩

/-! ## The chunks -/

/-- What `splitIntoChunks` returns for a text that is longer than a chunk, with the bound that its length sets. -/
theorem splitIntoChunks_spec (text : JsString) {maxLength fuel : Nat} (hmax : 15 < maxLength)
    (hfuel : text.length < fuel) :
    ∃ chunks, splitIntoChunks fuel text maxLength = some chunks ∧
      (∀ chunk ∈ chunks, (text ≠ [] → chunk ≠ []) ∧ chunk.length ≤ maxLength - 15) ∧
      withoutBreaks chunks.flatten = withoutBreaks text ∧
      (maxLength - 15) * (chunks.length - 1) ≤ 3 * (text.length + 2) := by
  unfold splitIntoChunks
  by_cases hshort : text.length ≤ maxLength - 15
  · refine ⟨[text], if_pos hshort, ?_, by rw [List.flatten_singleton], Nat.zero_le _⟩
    intro chunk hchunk
    rw [List.mem_singleton.1 hchunk]
    exact ⟨id, hshort⟩
  have hparas := join_splitParagraphs text
  have hpara_fuel : ∀ para ∈ splitParagraphs text, para.length < fuel := by
    intro para hpara
    have hle := @length_le_of_mem [10, 10] _ _ hpara
    rw [hparas] at hle
    omega
  obtain ⟨c, heq, hc⟩ := foldlM_kept
    (fun para hpara _ _ _ hkept =>
      addParagraph_kept (show 0 < maxLength - 15 by omega) hkept (hpara_fuel para hpara))
    (show Kept (maxLength - 15) [] 0 {} from ⟨nofun, Nat.zero_le _, rfl, le_rfl⟩)
  dsimp only
  rw [if_neg hshort, heq]
  have hunits : withoutBreaks (splitParagraphs text).flatten = withoutBreaks text := by
    rw [← @withoutBreaks_join [10, 10] rfl, hparas]
  have hlength := length_join [10, 10] (splitParagraphs_ne_nil text)
  rw [hparas, show ([10, 10] : JsString).length = 2 from rfl] at hlength
  refine ⟨_, rfl, fun chunk hchunk => ?_, ?_, ?_⟩
  · have hfit := hc.addChunk_fit chunk hchunk
    exact ⟨fun _ => hfit.1, hfit.2⟩
  · rw [flatten_addChunk, hc.units_eq, List.nil_append, hunits]
  · have hcount := hc.count_le
    rw [List.sum_map_mul_left] at hcount
    have hchunks := Nat.mul_le_mul_left (maxLength - 15)
      (show (addChunk c.chunks c.current).length - 1 ≤ c.chunks.length by
        have := length_addChunk_le c.chunks c.current
        omega)
    omega

/-- Chunking terminates and loses nothing: what is no line break stands in the chunks, in its order. -/
theorem chunks_lose_nothing (text : JsString) {maxLength fuel : Nat} (hmax : 15 < maxLength)
    (hfuel : text.length < fuel) :
    ∃ chunks, splitIntoChunks fuel text maxLength = some chunks ∧
      (∀ chunk ∈ chunks, (text ≠ [] → chunk ≠ []) ∧ chunk.length ≤ maxLength - 15) ∧
      withoutBreaks chunks.flatten = withoutBreaks text := by
  obtain ⟨chunks, heq, hfit, hunits, -⟩ := splitIntoChunks_spec text hmax hfuel
  exact ⟨chunks, heq, hfit, hunits⟩

theorem chunks_lose_nothing_short :
    ∃ chunks, splitIntoChunks 12 (js "one\ntwo\nten") 18 = some chunks ∧
      (∀ chunk ∈ chunks, (js "one\ntwo\nten" ≠ [] → chunk ≠ []) ∧ chunk.length ≤ 18 - 15) ∧
      withoutBreaks chunks.flatten = withoutBreaks (js "one\ntwo\nten") :=
  chunks_lose_nothing (js "one\ntwo\nten") (by decide) (by decide)

end HeraldGateway.TelegramService
