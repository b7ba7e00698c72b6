import HeraldGateway.Formatting.PlainText
import HeraldGateway.Formatting.Proofs.LinksProofs

/-!
# What plain text keeps of identifiers

Each step of `stripMarkdown` is an edit that drops signs of Markdown and white space, but for the steps that take
fenced code, link targets and marks of emphasis. An identifier stays together as long as none of its letters is among
these, and what is dropped once does not come back.
-/

namespace HeraldGateway.LinkParser

open Text RegExp
open Coded (code lit)

/-! ### The same text with other letters -/

section

variable {α β : Type} [Coded α] [Coded β] {f : α → β} (hf : ∀ a, code (f a) = code a)
include hf

theorem splitLetters_map (c : UInt16) (s : List α) :
    splitLetters c (s.map f) = (splitLetters c s).map (List.map f) := by
  induction s with
  | nil => rfl
  | cons a s ih =>
    rw [List.map_cons, splitLetters, splitLetters, hf, ih]
    split
    · rfl
    · cases splitLetters c s <;> rfl

theorem trimLetters_map (s : List α) : trimLetters (s.map f) = (trimLetters s).map f := by
  have hpred : (fun b : β => isSpace (code b)) ∘ f = fun a => isSpace (code a) :=
    funext fun a => congrArg isSpace (hf a)
  unfold trimLetters
  rw [List.dropWhile_map, hpred, ← List.map_reverse, List.dropWhile_map, hpred, ← List.map_reverse]

theorem replaceAll_group_map (r : RegExp) (s : List α) :
    r.replaceAll (·.group 1) (s.map f) = (r.replaceAll (·.group 1) s).map f :=
  replaceAll_map hf (fun m => m.group_map f 1) r s

variable (hlit : ∀ u, f (lit u) = lit u)
include hlit

omit hf in
theorem lits_map (us : JsString) : (lits us).map f = lits us := by
  unfold lits
  rw [List.map_map]
  exact List.map_congr_left fun u _ => hlit u

theorem joinCells_map (between : JsString) (s : List α) :
    joinCells between (s.map f) = (joinCells between s).map f := by
  have hjoin : ∀ parts : List (List α), (lits between).intercalate (parts.map (List.map f)) =
      ((lits between).intercalate parts).map f := by
    intro parts
    induction parts with
    | nil => rfl
    | cons part parts ih =>
      cases parts with
      | nil => simp only [List.map_cons, List.map_nil, List.intercalate_singleton]
      | cons part' parts =>
        have hne : part' :: parts ≠ [] := List.cons_ne_nil part' parts
        have hne' : (part' :: parts).map (List.map f) ≠ [] := List.cons_ne_nil _ _
        rw [List.map_cons, List.intercalate_cons_of_ne_nil hne', ih, List.intercalate_cons_of_ne_nil hne,
          List.map_append, List.map_append, lits_map hlit]
  have hempty : (fun part : List β => !part.isEmpty) ∘ List.map f = fun part => !part.isEmpty :=
    funext fun part => congrArg not (List.isEmpty_map ..)
  have htrim : trimLetters ∘ List.map f = List.map f ∘ trimLetters := funext fun part => trimLetters_map hf part
  unfold joinCells
  rw [splitLetters_map hf, List.map_map, htrim, ← List.map_map, List.filter_map, hempty, hjoin]

theorem beforeLinks_map (s : List α) : beforeLinks (s.map f) = (beforeLinks s).map f := by
  unfold beforeLinks
  rw [replaceAll_map hf (fun _ => (lits_map hlit _).symm), replaceAll_group_map hf]

theorem beforeBold_map (s : List α) : beforeBold (s.map f) = (beforeBold s).map f := by
  unfold beforeBold
  dsimp only
  rw [beforeLinks_map hf hlit, replaceAll_group_map hf, replaceAll_map (g := fun _ => []) hf (fun _ => rfl),
    replaceAll_map hf (fun m => (congrArg _ (m.group_map f 1)).trans (joinCells_map hf hlit _ _)),
    replaceAll_group_map hf]

theorem beforeItalic_map (s : List α) : beforeItalic (s.map f) = (beforeItalic s).map f := by
  unfold beforeItalic
  dsimp only
  rw [beforeBold_map hf hlit, replaceAll_group_map hf, replaceAll_group_map hf]

theorem strip_map (s : List α) : strip (s.map f) = (strip s).map f := by
  unfold strip
  dsimp only
  rw [beforeItalic_map hf hlit, replaceAll_group_map hf, replaceAll_group_map hf,
    replaceAll_map (g := fun _ => []) hf (fun _ => rfl),
    replaceAll_map (g := fun _ => []) hf (fun _ => rfl), replaceAll_map (g := fun _ => []) hf (fun _ => rfl),
    replaceAll_map hf (fun _ => (lits_map hlit _).symm), trimLetters_map hf]

end

/-! ### Edits of a row -/

section

variable {α : Type} [Coded α] {New D : α → Prop} {s : List α}

/-- What is trimmed is white space. -/
theorem edits_trimLetters (hD : ∀ a ∈ s, isSpace (code a) = true → D a) : Edits New D s (trimLetters s) := by
  have hspace : ∀ u : List α, ∀ a ∈ u.takeWhile fun a => isSpace (code a), isSpace (code a) = true := fun u a ha =>
    List.mem_takeWhile_imp (p := fun a => isSpace (code a)) ha
  obtain ⟨t, ht⟩ : ∃ t, t = s.dropWhile fun a => isSpace (code a) := ⟨_, rfl⟩
  have hs : (s.takeWhile fun a => isSpace (code a)) ++ t = s := ht ▸ List.takeWhile_append_dropWhile
  have hright : trimLetters s ++ (t.reverse.takeWhile fun a => isSpace (code a)).reverse = t := by
    rw [trimLetters, ← ht, ← List.reverse_append, List.takeWhile_append_dropWhile, List.reverse_reverse]
  have hmem : ∀ a ∈ t, a ∈ s := fun a ha => hs ▸ List.mem_append_right _ ha
  have hleft' := @Edits.dropAll α New D _ fun a ha =>
    hD a (hs ▸ List.mem_append_left t ha) (hspace s a ha)
  have hright' := @Edits.dropAll α New D _ fun a ha =>
    hD a (hmem a (hright ▸ List.mem_append_right _ ha)) (hspace t.reverse a (List.mem_reverse.1 ha))
  have hedits := hleft'.append ((Edits.refl (trimLetters s)).append hright')
  rwa [hright, hs, List.nil_append, List.append_nil] at hedits

/-- A text without a sign is one part, and else there is a part up to the sign. -/
theorem splitLetters_cases (c : UInt16) (s : List α) : splitLetters c s = [s] ∨
    ∃ part a s', s = part ++ a :: s' ∧ code a = c ∧ splitLetters c s = part :: splitLetters c s' := by
  induction s with
  | nil => exact .inl rfl
  | cons a s ih =>
    rw [splitLetters]
    split
    · next ha => exact .inr ⟨[], a, s, rfl, ha, rfl⟩
    · rcases ih with hs | ⟨part, b, s', rfl, hb, hs⟩
      · rw [hs]
        exact .inl rfl
      · rw [hs]
        exact .inr ⟨a :: part, b, s', rfl, hb, rfl⟩

/-- A row is one cell, or else a cell, what is written behind it, and the row behind the sign. -/
theorem joinCells_cases (between : JsString) (s : List α) : joinCells between s = trimLetters s ∨
    ∃ part a s' new, s = part ++ a :: s' ∧ code a = 124 ∧ (∀ b ∈ new, b ∈ lits between) ∧
      joinCells between s = trimLetters part ++ (new ++ joinCells between s') := by
  unfold joinCells
  rcases splitLetters_cases 124 s with hs | ⟨part, a, s', rfl, ha, hs⟩
  · left
    rw [hs, List.map_singleton]
    cases ht : trimLetters s with
    | nil => rfl
    | cons b t => exact List.intercalate_singleton
  · right
    rw [hs, List.map_cons]
    obtain ⟨cells, hcells⟩ : ∃ cells, cells = ((splitLetters 124 s').map trimLetters).filter (!·.isEmpty) := ⟨_, rfl⟩
    cases ht : trimLetters part with
    | nil =>
      refine ⟨part, a, s', [], rfl, ha, nofun, ?_⟩
      rw [ht]
      rfl
    | cons b t =>
      have hfilter : ((b :: t) :: (splitLetters 124 s').map trimLetters).filter (!·.isEmpty) = (b :: t) :: cells := by
        rw [hcells]
        rfl
      rw [hfilter]
      by_cases hne : cells = []
      · refine ⟨part, a, s', [], rfl, ha, nofun, ?_⟩
        rw [ht, ← hcells, hne, List.intercalate_singleton, List.intercalate_nil, List.append_nil, List.append_nil]
      · refine ⟨part, a, s', lits between, rfl, ha, fun b hb => hb, ?_⟩
        rw [ht, ← hcells, List.intercalate_cons_of_ne_nil hne, List.append_assoc]

/-- Cells lose white space around them and the signs between them, for what is written between them. -/
theorem edits_joinCells {between : JsString} (hnew : ∀ a ∈ lits between, New a)
    (hD : ∀ a ∈ s, isSpace (code a) = true ∨ code a = 124 → D a) : Edits New D s (joinCells between s) := by
  induction hn : s.length using Nat.strong_induction_on generalizing s with
  | _ n ih =>
    rcases joinCells_cases between s with hs | ⟨part, bar, s', new, rfl, hbar, hwritten, hs⟩
    · rw [hs]
      exact edits_trimLetters fun a ha h => hD a ha (.inl h)
    · have hlen : s'.length < n := by
        rw [← hn, List.length_append, List.length_cons]
        omega
      have hpart := @edits_trimLetters _ _ New D part fun a ha h => hD a (List.mem_append_left _ ha) (.inl h)
      have hrest := ih _ hlen (fun a ha => hD a (List.mem_append_right _ (List.mem_cons_of_mem bar ha))) rfl
      rw [hs]
      exact hpart.append (.drop (hD bar (by simp) (.inr hbar)) (fun b hb => hnew b (hwritten b hb)) hrest)

end

/-! ### Edits of a body -/

/-- What the program writes itself. -/
def Written (b : Traced) : Prop := b.index = none

instance : DecidablePred Written := fun b => inferInstanceAs (Decidable (b.index = none))

/-- Signs of Markdown and white space, but underscores. -/
def isLayout (u : UInt16) : Bool := (isDelimiter u || isSpace u) && u != 95

theorem isLayout_of_space {u : UInt16} (h : isSpace u = true) : isLayout u = true := by
  have hne : u ≠ 95 := by
    rintro rfl
    exact absurd h (by decide)
  rw [isLayout, h, Bool.or_true, Bool.true_and, bne_iff_ne]
  exact hne

theorem isLayout_of_mem {us : JsString} {u : UInt16} (hus : us.all isLayout = true) (h : u ∈ us) : isLayout u = true :=
  List.all_eq_true.1 hus u h

theorem within_blanks : blanksToEnd.Within isLayout := by
  refine ⟨fun u hu => isLayout_of_space ?_, trivial⟩
  rw [Bool.or_eq_true, beq_iff_eq, beq_iff_eq] at hu
  rcases hu with rfl | rfl <;> decide

variable {body : JsString} {s t w : List Traced} {a : Traced}

/-- The steps on code drop what is fenced, and backticks. -/
theorem edits_beforeLinks (body : JsString) :
    Edits Written (fun a => a ∈ fenced body ∨ isLayout (code a) = true) (traced body) (beforeLinks (traced body)) := by
  have hfresh : ∀ b ∈ lits (js "[code]"), Written b := fun b hb => by
    obtain ⟨u, -, rfl⟩ := List.mem_map.1 hb
    rfl
  have hfence := @edits_swap _ _ Written fencedCode (traced body) _ (by decide) hfresh
  have hinline := @edits_enclosed _ _ Written (fencedCode.replaceAll (fun _ => lits (js "[code]")) (traced body))
    (js "`") (· != 96) (by decide)
  have hbacktick : (js "`").all isLayout = true := by
    decide
  exact (hfence.mono fun a _ ha => .inl ha).trans (hinline.mono fun a _ ha => .inr (isLayout_of_mem hbacktick ha))

/-- What the link step drops of a match: its brackets and its target. -/
theorem around_link {m : Match Traced} (hm : .hit m ∈ RegExp.pieces MARKDOWN_LINK_REGEX 0 none s) :
    ∃ b₁ b₂ b₃, around 1 m = b₁ ++ (b₂ ++ (m.group 2 ++ b₃)) ∧ b₁.map code = js "[" ∧ b₂.map code = js "](" ∧
      b₃.map code = js ")" ∧ m.text = b₁ ++ (m.group 1 ++ (b₂ ++ (m.group 2 ++ b₃))) ∧ b₁.length = 1 := by
  obtain ⟨u, -, hway⟩ := exists_of_hit least_link hm
  obtain ⟨b₁, b₂, b₃, htext, ⟨hb₁, hb₂, hb₃⟩, -, -⟩ := exists_of_link hway
  have hlen : b₁.length = 1 := (List.length_map code).symm.trans (congrArg List.length hb₁)
  exact ⟨b₁, b₂, b₃, hlen ▸ around_eq htext, hb₁, hb₂, hb₃, htext, hlen⟩

theorem groupAt_link : MARKDOWN_LINK_REGEX.GroupAt 1 s := by
  intro m hm
  obtain ⟨b₁, b₂, b₃, -, -, -, -, htext, hlen⟩ := around_link hm
  exact ⟨b₁, _, htext, hlen⟩

theorem taken_of_link (h : a ∈ MARKDOWN_LINK_REGEX.takenFrom (around 1) s) :
    a ∈ MARKDOWN_LINK_REGEX.takenFrom (·.group 2) s ∨ isLayout (code a) = true := by
  obtain ⟨m, hm, ha⟩ := mem_takenFrom.1 h
  obtain ⟨b₁, b₂, b₃, haround, hb₁, hb₂, hb₃, -, -⟩ := around_link hm
  have hsign : ∀ {b : List Traced} {us : JsString}, b.map code = us → us.all isLayout = true → a ∈ b →
      isLayout (code a) = true := fun hb hus ha => isLayout_of_mem hus (hb ▸ List.mem_map_of_mem ha)
  rw [haround] at ha
  simp only [List.mem_append] at ha
  rcases ha with ha | ha | ha | ha
  · exact .inr (hsign hb₁ (by decide) ha)
  · exact .inr (hsign hb₂ (by decide) ha)
  · exact .inl (mem_takenFrom.2 ⟨m, hm, ha⟩)
  · exact .inr (hsign hb₃ (by decide) ha)

theorem taken_of_target (h : a ∈ MARKDOWN_LINK_REGEX.takenFrom (·.group 2) s) :
    a ∈ MARKDOWN_LINK_REGEX.takenFrom (around 1) s := by
  obtain ⟨m, hm, ha⟩ := mem_takenFrom.1 h
  obtain ⟨b₁, b₂, b₃, haround, -⟩ := around_link hm
  refine mem_takenFrom.2 ⟨m, hm, ?_⟩
  rw [haround]
  exact List.mem_append_right _ (List.mem_append_right _ (List.mem_append_left _ ha))

/-- What stands between the outer signs of a row. -/
theorem exists_of_row {m : Match Traced} {before : Option Traced} (h : m ∈ tableRow.ways before s) :
    ∃ d d', m.text = d ++ (m.group 1 ++ d') ∧ (∀ a ∈ d, isLayout (code a) = true) ∧
      ∀ a ∈ d', isLayout (code a) = true := by
  obtain ⟨m₁, h₁, t₁, hrest₁, rfl⟩ := mem_ways_seq.1 h
  obtain ⟨m₂, h₂, t₂, hrest₂, rfl⟩ := mem_ways_seq.1 hrest₁
  obtain ⟨m₃, h₃, t₃, hrest₃, rfl⟩ := mem_ways_seq.1 hrest₂
  obtain ⟨m₄, h₄, m₅, h₅, rfl⟩ := mem_ways_seq.1 hrest₃
  obtain ⟨-, rfl⟩ := mem_ways_lineStart.1 h₁
  obtain ⟨-, -, hgroups₂⟩ := mem_ways_word.1 h₂
  obtain ⟨-, -, -, hgroups₃⟩ := mem_ways_taken.1 h₃
  have hgroup : (Match.append ⟨[], s, []⟩ (m₂.append (m₃.append (m₄.append m₅)))).group 1 = m₃.text := by
    simp [Match.group, Match.append, hgroups₂, hgroups₃]
  have hbar : (RegExp.word (js "|")).Within isLayout := fun u hu => isLayout_of_mem (by decide) hu
  rw [hgroup]
  refine ⟨m₂.text, m₄.text ++ m₅.text, rfl, code_of_within hbar h₂, fun a ha => ?_⟩
  exact (List.mem_append.1 ha).elim (code_of_within hbar h₄ a) (code_of_within within_blanks h₅ a)

theorem lits_written (us : JsString) : ∀ b ∈ (lits us : List Traced), Written b := by
  intro b hb
  obtain ⟨u, -, rfl⟩ := List.mem_map.1 hb
  rfl

theorem edits_tableRow (s : List Traced) : Edits Written (fun a => isLayout (code a) = true) s
    (tableRow.replaceAll (fun m => joinCells (js " | ") (m.group 1)) s) := by
  have hleast : 0 < tableRow.least := by decide
  refine edits_replaceAll hleast fun m hm => ?_
  obtain ⟨u, -, hway⟩ := exists_of_hit hleast hm
  obtain ⟨d, d', htext, hd, hd'⟩ := exists_of_row hway
  have hcells : Edits Written (fun a => isLayout (code a) = true) (m.group 1) (joinCells (js " | ") (m.group 1)) := by
    refine edits_joinCells (lits_written _) fun a _ ha => ?_
    rcases ha with ha | ha
    · exact isLayout_of_space ha
    · rw [ha]
      decide
  have hedits := (Edits.dropAll hd).append (hcells.append (Edits.dropAll hd'))
  rwa [← htext, List.nil_append, List.append_nil] at hedits

/-- Marks that are no underscores are layout. -/
theorem edits_marks (mark : JsString) (p : UInt16 → Bool) (hmark : mark ≠ [] ∧ mark.all isLayout = true)
    (s : List Traced) : Edits Written (fun a => isLayout (code a) = true) s
      ((enclosed mark p).replaceAll (·.group 1) s) :=
  (edits_enclosed hmark.1).mono fun _ _ ha => isLayout_of_mem hmark.2 ha

/-- Matches of layout are dropped for what the program writes. -/
theorem edits_layout {r : RegExp} (hr : 0 < r.least) (hwithin : r.Within isLayout) (us : JsString) (s : List Traced) :
    Edits Written (fun a => isLayout (code a) = true) s (r.replaceAll (fun _ => lits us) s) :=
  (edits_swap hr (lits_written us)).mono fun _ _ ha => code_of_taken hr hwithin ha

theorem within_separator : tableSeparator.Within isLayout :=
  ⟨trivial, fun _ => isLayout_of_mem (by decide), fun _ hu => isLayout_of_mem (by decide) (List.contains_iff_mem.1 hu),
    fun _ => isLayout_of_mem (by decide), within_blanks⟩

/-- The steps behind that on links drop layout. -/
theorem edits_afterLinks (s : List Traced) : Edits Written (fun a => isLayout (code a) = true)
    (MARKDOWN_LINK_REGEX.replaceAll (·.group 1) (beforeLinks s)) (beforeBold s) :=
  ((edits_layout (by decide) within_separator [] _).trans (edits_tableRow _)).trans
    (edits_marks (js "**") (within 42) (by decide) _)

theorem edits_beforeBold (s : List Traced) :
    Edits Written (fun a => a ∈ MARKDOWN_LINK_REGEX.takenFrom (·.group 2) (beforeLinks s) ∨ isLayout (code a) = true)
      (beforeLinks s) (beforeBold s) :=
  ((edits_group least_link groupAt_link).mono fun _ _ => taken_of_link).trans
    ((edits_afterLinks s).mono fun _ _ ha => .inr ha)

/-- The step behind that on `__text__` drops layout. -/
theorem edits_afterBold (s : List Traced) : Edits Written (fun a => isLayout (code a) = true)
    (boldUnderscores.replaceAll (·.group 1) (beforeBold s)) (beforeItalic s) :=
  edits_marks (js "*") (within 42) (by decide) _

theorem least_boldUnderscores : 0 < boldUnderscores.least := by
  decide

theorem groupAt_boldUnderscores : boldUnderscores.GroupAt 2 s := groupAt_enclosed (List.cons_ne_nil 95 [95])

theorem edits_beforeItalic (s : List Traced) :
    Edits Written (fun a => a ∈ boldUnderscores.takenFrom (around 2) (beforeBold s) ∨ isLayout (code a) = true)
      (beforeBold s) (beforeItalic s) :=
  ((edits_group least_boldUnderscores groupAt_boldUnderscores).mono fun _ _ ha => .inl ha).trans
    ((edits_afterBold s).mono fun _ _ ha => .inr ha)

/-- The text up to the horizontal rules. -/
def beforeRule (text : List Traced) : List Traced :=
  let result := italicUnderscores.replaceAll (·.group 1) (beforeItalic text)
  let result := strikethrough.replaceAll (·.group 1) result
  header.replaceAll (fun _ => []) result

/-- The steps behind that on `_text_` drop layout, up to the rules. -/
theorem edits_afterItalic (s : List Traced) : Edits Written (fun a => isLayout (code a) = true)
    (italicUnderscores.replaceAll (·.group 1) (beforeItalic s)) (beforeRule s) := by
  have hwithin : header.Within isLayout := by
    refine ⟨trivial, fun u hu => ?_, fun _ => isLayout_of_space⟩
    rw [beq_iff_eq.1 hu]
    decide
  exact (edits_marks (js "~~") (within 126) (by decide) _).trans (edits_layout (by decide) hwithin [] _)

theorem least_italicUnderscores : 0 < italicUnderscores.least := by
  decide

theorem groupAt_italicUnderscores : italicUnderscores.GroupAt 1 s := groupAt_enclosed (List.cons_ne_nil 95 [])

theorem edits_beforeRule (s : List Traced) :
    Edits Written (fun a => a ∈ italicUnderscores.takenFrom (around 1) (beforeItalic s) ∨ isLayout (code a) = true)
      (beforeItalic s) (beforeRule s) :=
  ((edits_group least_italicUnderscores groupAt_italicUnderscores).mono fun _ _ ha => .inl ha).trans
    ((edits_afterItalic s).mono fun _ _ ha => .inr ha)

/-- The last steps drop the rules, and layout. -/
theorem edits_strip (s : List Traced) :
    Edits Written (fun a => a ∈ horizontalRule.takenFrom Match.text (beforeRule s) ∨ isLayout (code a) = true)
      (beforeRule s) (strip s) := by
  have hrule := @edits_swap _ _ Written horizontalRule (beforeRule s) [] (by decide) nofun
  have hquote : blockquote.Within isLayout :=
    ⟨trivial, fun _ => isLayout_of_mem (by decide), fun _ => isLayout_of_space⟩
  have hblank : blankLines.Within isLayout := by
    intro u hu
    rw [beq_iff_eq.1 hu]
    decide
  have htrim := fun t : List Traced => @edits_trimLetters _ _ Written (fun a => isLayout (code a) = true) t
    fun _ _ ha => isLayout_of_space ha
  have hrest := ((edits_layout (by decide) hquote [] (horizontalRule.replaceAll (fun _ => []) (beforeRule s))).trans
    (edits_layout (by decide) hblank (js "\n\n") _)).trans (htrim _)
  exact (hrule.mono fun _ _ ha => .inl ha).trans (hrest.mono fun _ _ ha => .inr ha)

/-- A rule is signs of Markdown and white space up to the end of a line. -/
theorem exists_of_rule (h : a ∈ horizontalRule.takenFrom Match.text s) :
    ∃ (u : List Traced) (m : Match Traced), s = u ++ (m.text ++ m.rest) ∧ a ∈ m.text ∧
      (∀ b ∈ m.text, (isDelimiter (code b) || isSpace (code b)) = true) ∧
      ∀ b ∈ m.rest.head?, isTerminator (code b) = true := by
  obtain ⟨m, hm, ha⟩ := mem_takenFrom.1 h
  obtain ⟨u, hu, hway⟩ := exists_of_hit (by decide) hm
  have hone : ∀ c : UInt16, isDelimiter c = true → ∀ u, (u == c) = true → (isDelimiter u || isSpace u) = true := by
    intro c hc u hu
    rw [beq_iff_eq.1 hu, hc, Bool.true_or]
  have hwithin : horizontalRule.Within fun u => isDelimiter u || isSpace u := by
    refine ⟨trivial, ⟨hone 42 (by decide), hone 45 (by decide), hone 95 (by decide)⟩, fun u hu => ?_, trivial⟩
    have hlayout := within_blanks.1 u hu
    rw [isLayout, Bool.and_eq_true] at hlayout
    exact hlayout.1
  refine ⟨u, m, hu, ha, code_of_within hwithin hway, ?_⟩
  obtain ⟨m₁, -, t₁, hrest₁, rfl⟩ := mem_ways_seq.1 hway
  obtain ⟨m₂, -, t₂, hrest₂, rfl⟩ := mem_ways_seq.1 hrest₁
  obtain ⟨m₃, -, m₄, h₄, rfl⟩ := mem_ways_seq.1 hrest₂
  obtain ⟨hend, rfl⟩ := mem_ways_lineEnd.1 h₄
  exact hend

/-! ### Places -/

theorem traced_unit (body : JsString) : (traced body).map Traced.unit = body := by
  refine List.ext_getElem (by simp [traced]) fun i _ _ => ?_
  simp [traced]

theorem index_of_traced (h : a ∈ traced body) : ¬Written a := by
  obtain ⟨i, hi, rfl⟩ := List.mem_mapIdx.1 h
  exact nofun

theorem traced_nodup (body : JsString) : (traced body).Nodup := by
  refine List.Nodup.of_map Traced.index ?_
  have hindex : (traced body).map Traced.index = (List.range body.length).map some := by
    refine List.ext_getElem (by simp [traced]) fun i _ _ => ?_
    simp [traced]
  rw [hindex]
  exact List.nodup_range.map (Option.some_injective Nat)

/-- Letters of a body are nowhere twice. -/
theorem count_le_one {D : Traced → Prop} (h : Edits Written D (traced body) s) (ha : ¬Written a) : s.count a ≤ 1 := by
  have hsub : (s.filter fun a => ¬Written a).Nodup := h.sublist.nodup ((traced_nodup body).filter _)
  have hcount := List.nodup_iff_count_le_one.1 hsub a
  rwa [List.count_filter (by simpa using ha)] at hcount

/-! ### Rules and identifiers -/

variable {letters : Letters}

theorem isSpace_of_terminator {u : UInt16} (h : isTerminator u = true) : isSpace u = true := by
  simp only [isTerminator, Bool.or_eq_true, beq_iff_eq] at h
  rcases h with ((rfl | rfl) | rfl) | rfl <;> decide

theorem not_letter {u : UInt16} (h : (isDelimiter u || isSpace u) = true) : letters.mem u = false := by
  rw [Bool.eq_false_iff]
  intro hletter
  rw [letters.not_delimiter u hletter, letters.not_space u hletter] at h
  cases h

/-- A run that ends with a letter has no part in a rule, as it would have to go on to the end of the line. -/
theorem not_mem_of_rule (hin : w <:+: s) (hone : s.count a ≤ 1)
    (hunits : ∀ a ∈ w, letters.mem a.unit = true ∨ a.unit = 95) (hlast : ∃ b ∈ w.getLast?, letters.mem b.unit = true)
    (ha : a ∈ w) : a ∉ horizontalRule.takenFrom Match.text s := by
  intro h
  obtain ⟨u, m, hs, ham, htext, hend⟩ := exists_of_rule h
  obtain ⟨b, hb, hletter⟩ := hlast
  obtain ⟨p, q, hpq⟩ := hin
  obtain ⟨w₁, w₂, rfl⟩ := List.append_of_mem ha
  obtain ⟨t₁, t₂, ht⟩ := List.append_of_mem ham
  -- the letter is at one place, so the run and the rule go on with the same letters
  have hsame : (p ++ w₁) ++ a :: (w₂ ++ q) = (u ++ t₁) ++ a :: (t₂ ++ m.rest) := by
    rw [ht] at hs
    simpa only [List.append_assoc, List.cons_append] using hpq.trans hs
  have hbehind : w₂ ++ q = t₂ ++ m.rest := by
    have hs' : s = (p ++ w₁) ++ a :: (w₂ ++ q) := by
      rw [← hpq]
      simp only [List.append_assoc, List.cons_append]
    rw [hs', List.count_append, List.count_cons_self] at hone
    have hleft : a ∉ p ++ w₁ := List.count_eq_zero.1 (by omega)
    have hright : a ∉ w₂ ++ q := List.count_eq_zero.1 (by omega)
    exact ((List.append_cons_inj_of_notMem hleft hright).1 hsame).2.2
  have hnot : ∀ c ∈ a :: t₂, c ≠ b := by
    rintro c hc rfl
    have hsign := @not_letter letters _ (htext c (ht ▸ List.mem_append_right t₁ hc))
    cases hsign.symm.trans hletter
  -- the run has a letter behind that, which is not of the rule
  have hmem : b ∈ w₂ := by
    rw [List.getLast?_append_of_ne_nil _ (List.cons_ne_nil a w₂), List.getLast?_cons, Option.mem_some_iff] at hb
    cases hw : w₂.getLast? with
    | none =>
      rw [hw] at hb
      exact absurd hb (hnot a (List.mem_cons_self ..))
    | some c =>
      rw [hw] at hb
      exact hb ▸ List.mem_of_getLast? hw
  have hbeyond : ∀ x, t₂ ≠ w₂ ++ x := by
    rintro x rfl
    exact hnot b (List.mem_cons_of_mem a (List.mem_append_left x hmem)) rfl
  rcases List.append_eq_append_iff.1 hbehind with ⟨x, hx, -⟩ | ⟨x, hx, hrest⟩
  · exact hbeyond x hx
  · cases x with
    | nil =>
      rw [List.append_nil] at hx
      exact hbeyond [] (by rw [List.append_nil, hx])
    | cons c x =>
      -- it would go on with the end of a line
      have hterminator := hend c (by rw [hrest]; rfl)
      have hc : c ∈ w₁ ++ a :: w₂ := by
        rw [hx]
        simp
      rcases hunits c hc with hc | hc
      · cases (letters.not_space _ hc).symm.trans (isSpace_of_terminator hterminator)
      · have hunder : isTerminator 95 = true := hc ▸ hterminator
        exact absurd hunder (by decide)

/-! ### What is kept -/

theorem toLinks (body : JsString) : Edits Written (fun _ => True) (traced body) (beforeLinks (traced body)) :=
  (edits_beforeLinks body).mono fun _ _ _ => trivial

theorem toBold (body : JsString) : Edits Written (fun _ => True) (traced body) (beforeBold (traced body)) :=
  (toLinks body).trans ((edits_beforeBold _).mono fun _ _ _ => trivial)

theorem toItalic (body : JsString) : Edits Written (fun _ => True) (traced body) (beforeItalic (traced body)) :=
  (toBold body).trans ((edits_beforeItalic _).mono fun _ _ _ => trivial)

theorem toRule (body : JsString) : Edits Written (fun _ => True) (traced body) (beforeRule (traced body)) :=
  (toItalic body).trans ((edits_beforeRule _).mono fun _ _ _ => trivial)

theorem toStrip (body : JsString) : Edits Written (fun _ => True) (traced body) (strip (traced body)) :=
  (toRule body).trans ((edits_strip _).mono fun _ _ _ => trivial)

variable {before behind : List Traced}

theorem not_isLayout {u : UInt16} (hdelimiter : isDelimiter u = false) (hspace : isSpace u = false) :
    ¬isLayout u = true := by
  rw [isLayout, hdelimiter, hspace]
  exact nofun

theorem Identifier.not_isLayout (h : Identifier letters body before w behind) (ha : a ∈ w) :
    ¬isLayout (code a) = true := by
  rcases h.units a ha with hletter | hunder
  · exact LinkParser.not_isLayout (letters.not_delimiter _ hletter) (letters.not_space _ hletter)
  · show ¬isLayout a.unit = true
    rw [hunder]
    decide

/-- An identifier stays together through all steps. -/
theorem Undisturbed.unchanged (hu : Undisturbed letters body) (h : Identifier letters body before w behind) :
    w <:+: strip (traced body) := by
  have hin : ∀ a ∈ w, InIdentifier letters body a := fun a ha => ⟨before, w, behind, h, ha⟩
  have hlayout : ∀ a ∈ w, ¬isLayout (code a) = true := fun a ha => h.not_isLayout ha
  have hbody : w <:+: traced body := ⟨before, behind, by rw [h.text, List.append_assoc]⟩
  have hlinks := (edits_beforeLinks body).infix_of hbody fun a ha hD => hD.elim (h.outside a ha).2.1 (hlayout a ha)
  have hbold := (edits_beforeBold _).infix_of hlinks fun a ha hD =>
    hD.elim (fun htaken => (hu.links a htaken (h.outside a ha)).2 (hin a ha)) (hlayout a ha)
  have hitalic := (edits_beforeItalic _).infix_of hbold fun a ha hD =>
    hD.elim (fun htaken => hu.bold a htaken (hin a ha)) (hlayout a ha)
  have hrule := (edits_beforeRule _).infix_of hitalic fun a ha hD =>
    hD.elim (fun htaken => hu.italic a htaken (hin a ha)) (hlayout a ha)
  refine (edits_strip _).infix_of hrule fun a ha hD => hD.elim ?_ (hlayout a ha)
  have hone := count_le_one (toRule body) (index_of_traced (h.outside a ha).1)
  exact not_mem_of_rule hrule hone h.units h.last ha

/-- What is no sign of Markdown and no white space is there after all steps. -/
theorem Undisturbed.only (hu : Undisturbed letters body) (hout : Outside body a)
    (hdelimiter : isDelimiter a.unit = false) (hspace : isSpace a.unit = false) : a ∈ strip (traced body) := by
  have hlayout : ¬isLayout (code a) = true := not_isLayout hdelimiter hspace
  have hunder : a.unit ≠ 95 := by
    intro he
    rw [he] at hdelimiter
    exact absurd hdelimiter (by decide)
  have hmark : ∀ us : JsString, us.all (· == 95) = true → code a ∉ us := fun us hus hmem =>
    hunder (beq_iff_eq.1 (List.all_eq_true.1 hus _ hmem))
  have hlinks := (edits_beforeLinks body).mem hout.1 fun hD => hD.elim hout.2.1 hlayout
  have hbold := (edits_beforeBold _).mem hlinks fun hD => hD.elim (fun htaken =>
    (hu.links a htaken hout).1.elim (fun h => (Bool.false_ne_true (hdelimiter.symm.trans h)).elim)
      fun h => (Bool.false_ne_true (hspace.symm.trans h)).elim) hlayout
  have hitalic := (edits_beforeItalic _).mem hbold fun hD => hD.elim (fun htaken =>
    hmark (js "__") (by decide) (code_of_around (List.cons_ne_nil _ _) htaken)) hlayout
  have hrule := (edits_beforeRule _).mem hitalic fun hD => hD.elim (fun htaken =>
    hmark (js "_") (by decide) (code_of_around (List.cons_ne_nil _ _) htaken)) hlayout
  refine (edits_strip _).mem hrule fun hD => hD.elim (fun htaken => ?_) hlayout
  obtain ⟨-, m, -, ha, htext, -⟩ := exists_of_rule htaken
  have hsign : (isDelimiter a.unit || isSpace a.unit) = true := htext a ha
  rw [hdelimiter, hspace] at hsign
  cases hsign

theorem inOrder (body : JsString) : ((strip (traced body)).filter (·.index.isSome)).Sublist (traced body) := by
  have hsub := (toStrip body).sublist.trans List.filter_sublist
  have hold : ∀ a ∈ strip (traced body), (decide ¬Written a) = a.index.isSome := by
    rintro ⟨u, index⟩ -
    cases index <;> rfl
  rwa [List.filter_congr hold] at hsub

/-! ### What is lost -/

theorem gone_of_link (hout : Outside body a)
    (h : a ∈ MARKDOWN_LINK_REGEX.takenFrom (·.group 2) (beforeLinks (traced body))) : a ∉ strip (traced body) := by
  have hold := index_of_traced hout.1
  have hone := count_le_one (toLinks body) hold
  have hgone := not_mem_of_around least_link groupAt_link hone (taken_of_target h)
  exact (edits_strip _).not_mem ((edits_beforeRule _).not_mem ((edits_beforeItalic _).not_mem
    ((edits_afterLinks _).not_mem hgone hold) hold) hold) hold

theorem gone_of_bold (hout : Outside body a)
    (h : a ∈ boldUnderscores.takenFrom (around 2) (beforeBold (traced body))) : a ∉ strip (traced body) := by
  have hold := index_of_traced hout.1
  have hone := count_le_one (toBold body) hold
  have hgone := not_mem_of_around least_boldUnderscores groupAt_boldUnderscores hone h
  exact (edits_strip _).not_mem ((edits_beforeRule _).not_mem ((edits_afterBold _).not_mem hgone hold) hold) hold

theorem gone_of_italic (hout : Outside body a)
    (h : a ∈ italicUnderscores.takenFrom (around 1) (beforeItalic (traced body))) : a ∉ strip (traced body) := by
  have hold := index_of_traced hout.1
  have hone := count_le_one (toItalic body) hold
  have hgone := not_mem_of_around least_italicUnderscores groupAt_italicUnderscores hone h
  exact (edits_strip _).not_mem ((edits_afterItalic _).not_mem hgone hold) hold

/-- What is kept where no identifier is lost. -/
theorem KeepsIdentifiers.undisturbed (h : KeepsIdentifiers letters body) : Undisturbed letters body := by
  have hthere : ∀ a, InIdentifier letters body a → Outside body a ∧ a ∈ strip (traced body) := by
    rintro a ⟨before, w, behind, hid, ha⟩
    exact ⟨hid.outside a ha, (h.unchanged before w behind hid).subset ha⟩
  refine ⟨fun a ha hout => ⟨?_, fun hin => gone_of_link hout ha (hthere a hin).2⟩, fun a ha hin => ?_,
    fun a ha hin => ?_⟩
  · by_contra hsign
    rw [not_or, Bool.not_eq_true, Bool.not_eq_true] at hsign
    exact gone_of_link hout ha (h.only a hout hsign.1 hsign.2)
  · exact gone_of_bold (hthere a hin).1 ha (hthere a hin).2
  · exact gone_of_italic (hthere a hin).1 ha (hthere a hin).2

/-- Plain text is the units of a text that is followed from the body, and it keeps identifiers exactly where no step
takes them for something else. -/
theorem keeps_identifiers_iff (letters : Letters) (body : JsString) :
    (strip (traced body)).map Traced.unit = stripMarkdown body ∧
      (KeepsIdentifiers letters body ↔ Undisturbed letters body) := by
  refine ⟨?_, fun h => h.undisturbed, fun hu => ⟨fun before w behind hid => hu.unchanged hid, inOrder body,
    fun a hout hdelimiter hspace => hu.only hout hdelimiter hspace⟩⟩
  have hmap := strip_map (f := Traced.unit) (fun _ => rfl) (fun _ => rfl) (traced body)
  rw [traced_unit] at hmap
  exact hmap.symm

/-- The letters and digits of ASCII. -/
def asciiLetters : Letters where
  mem u := (48 ≤ u && u ≤ 57) || (65 ≤ u && u ≤ 90) || (97 ≤ u && u ≤ 122)
  not_delimiter u hu := by
    rw [Bool.eq_false_iff]
    intro hsign
    have hsigns : (js "`*_~#>-|[]():").all (fun u =>
        !((48 ≤ u && u ≤ 57) || (65 ≤ u && u ≤ 90) || (97 ≤ u && u ≤ 122))) = true := by
      decide
    have hnot := List.all_eq_true.1 hsigns u (List.contains_iff_mem.1 hsign)
    rw [hu] at hnot
    cases hnot
  not_space u hu := by
    simp only [isSpace, Bool.or_eq_true, Bool.and_eq_true, decide_eq_true_eq, Bool.or_eq_false_iff,
      beq_eq_false_iff_ne, decide_eq_false_iff_not, Bool.and_eq_false_iff, UInt16.le_iff_toNat_le, ne_eq,
      ← UInt16.toNat_inj] at hu ⊢
    simp only [UInt16.reduceToNat] at hu ⊢
    omega

/-- Two names on a line lose the underscores between which the second begins. -/
theorem names_lose_underscores : stripMarkdown (js "foo_bar and baz_qux") = js "foobar and bazqux" ∧
    ¬KeepsIdentifiers asciiLetters (js "foo_bar and baz_qux") := by
  have hgone : (⟨95, some 3⟩ : Traced) ∉ strip (traced (js "foo_bar and baz_qux")) := by
    decide +kernel
  refine ⟨by decide +kernel, fun h => ?_⟩
  have hid : Identifier asciiLetters (js "foo_bar and baz_qux") [] ((traced (js "foo_bar and baz_qux")).take 7)
      ((traced (js "foo_bar and baz_qux")).drop 7) := by
    refine ⟨by decide, by decide, by decide, by decide, ?_, by decide, by decide⟩
    unfold Outside
    decide +kernel
  exact hgone ((h.unchanged _ _ _ hid).subset (by decide))

end HeraldGateway.LinkParser
