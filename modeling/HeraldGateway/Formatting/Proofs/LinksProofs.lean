import HeraldGateway.Formatting.Proofs.EscapingProofs

/-!
# Links are all that conversion touches

The loop of the parser goes from match to match and so reports the matches of the search with their positions. The
replacement from the right keeps the positions of the links that are left, and the clean text is made by the same
search.
-/

namespace HeraldGateway.LinkParser

open Text RegExp
open Coded (code)

/-! ### Matches -/

section

variable {α : Type} [Coded α] {m : Match α} {before : Option α} {s : List α}

theorem least_link : 0 < MARKDOWN_LINK_REGEX.least := by
  decide

/-- A match of the expression is a link: its brackets, its label and its target. -/
theorem exists_of_link (h : m ∈ MARKDOWN_LINK_REGEX.ways before s) :
    ∃ b₁ b₂ b₃, m.text = b₁ ++ (m.group 1 ++ (b₂ ++ (m.group 2 ++ b₃))) ∧
      (b₁.map code = js "[" ∧ b₂.map code = js "](" ∧ b₃.map code = js ")") ∧
      (m.group 1 ≠ [] ∧ ∀ a ∈ m.group 1, code a ≠ 93) ∧ (m.group 2 ≠ [] ∧ ∀ a ∈ m.group 2, code a ≠ 41) := by
  obtain ⟨m₁, h₁, t₁, hrest₁, rfl⟩ := mem_ways_seq.1 h
  obtain ⟨m₂, h₂, t₂, hrest₂, rfl⟩ := mem_ways_seq.1 hrest₁
  obtain ⟨m₃, h₃, t₃, hrest₃, rfl⟩ := mem_ways_seq.1 hrest₂
  obtain ⟨m₄, h₄, m₅, h₅, rfl⟩ := mem_ways_seq.1 hrest₃
  obtain ⟨hopen, -, hgroups₁⟩ := mem_ways_word.1 h₁
  obtain ⟨hlabel, hlabel', -, hgroups₂⟩ := mem_ways_taken.1 h₂
  obtain ⟨hmiddle, -, hgroups₃⟩ := mem_ways_word.1 h₃
  obtain ⟨hurl, hurl', -, hgroups₄⟩ := mem_ways_taken.1 h₄
  obtain ⟨hclose, -, -⟩ := mem_ways_word.1 h₅
  have hgroup₁ : (m₁.append (m₂.append (m₃.append (m₄.append m₅)))).group 1 = m₂.text := by
    simp [Match.group, Match.append, hgroups₁, hgroups₂]
  have hgroup₂ : (m₁.append (m₂.append (m₃.append (m₄.append m₅)))).group 2 = m₄.text := by
    simp only [Match.group, Match.append, hgroups₁, hgroups₂, hgroups₃, hgroups₄, List.nil_append,
      List.singleton_append]
    rfl
  rw [hgroup₁, hgroup₂]
  exact ⟨m₁.text, m₃.text, m₅.text, rfl, ⟨hopen, hmiddle, hclose⟩,
    ⟨List.ne_nil_of_length_pos hlabel', fun a ha => bne_iff_ne.1 (hlabel a ha)⟩,
    ⟨List.ne_nil_of_length_pos hurl', fun a ha => bne_iff_ne.1 (hurl a ha)⟩⟩

end

variable {text s : JsString} {m : Match UInt16} {before : Option UInt16}

/-- The text of a link. -/
theorem linkOf_source (index : Nat) (h : m ∈ MARKDOWN_LINK_REGEX.ways before s) :
    m.text = (linkOf index m).source := by
  obtain ⟨b₁, b₂, b₃, htext, ⟨h₁, h₂, h₃⟩, -, -⟩ := exists_of_link h
  have hid : ∀ b : JsString, b.map code = b := fun b => List.map_id b
  rw [hid] at h₁ h₂ h₃
  rw [htext, h₁, h₂, h₃]
  simp only [ParsedLink.source, linkOf, List.append_assoc]

/-! ### The loop -/

/-- The matches of a text, with their positions. -/
def found (text : JsString) : List (Nat × Match UInt16) := placed 0 (MARKDOWN_LINK_REGEX.pieces 0 none text)

/-- The loop goes on with the matches that are left. -/
theorem collectLinks_eq {fuel lastIndex : Nat} (links : List ParsedLink) (hlast : lastIndex ≤ text.length)
    (hfuel : text.length < lastIndex + fuel) :
    collectLinks text fuel lastIndex links = some (links ++ (placed lastIndex
      (MARKDOWN_LINK_REGEX.pieces 0 (text.take lastIndex).getLast? (text.drop lastIndex))).map fun i =>
        linkOf i.1 i.2) := by
  induction fuel generalizing lastIndex links with
  | zero => omega
  | succ fuel ih =>
    have hexec := placed_of_exec least_link text lastIndex hlast
    unfold collectLinks
    cases he : MARKDOWN_LINK_REGEX.exec lastIndex text with
    | none =>
      rw [he] at hexec
      rw [show placed lastIndex _ = _ from hexec, List.map_nil, List.append_nil]
    | some found =>
      obtain ⟨index, m⟩ := found
      rw [he] at hexec
      obtain ⟨hplaced, hle, hend, hne⟩ := hexec
      have hpos := List.length_pos_of_ne_nil hne
      show collectLinks text fuel (index + m.text.length) (links ++ [linkOf index m]) = _
      rw [ih (links ++ [linkOf index m]) hend (by omega), hplaced, List.map_cons, List.append_assoc]
      rfl

/-- The parser ends and reports the matches of the search. -/
theorem parseMarkdownLinks_eq (text : JsString) : parseMarkdownLinks text = some
    ⟨MARKDOWN_LINK_REGEX.replaceAll (·.group 1) text, (found text).map fun i => linkOf i.1 i.2⟩ := by
  have hloop := @collectLinks_eq text (text.length + 1) 0 [] (Nat.zero_le _) (by omega)
  unfold parseMarkdownLinks
  rw [hloop]
  rfl

/-! ### The links -/

/-- The links of a text follow each other as its matches do. -/
theorem linksOf_found (text : JsString) : LinksOf text ((found text).map fun i => linkOf i.1 i.2) where
  inOrder := by
    obtain ⟨hordered, hproper⟩ := pieces_inOrder least_link text
    refine ⟨List.pairwise_map.2 hordered, fun link hlink => ?_⟩
    obtain ⟨i, hi, rfl⟩ := List.mem_map.1 hlink
    exact hproper i hi
  source := by
    intro link hlink
    obtain ⟨i, hi, rfl⟩ := List.mem_map.1 hlink
    obtain ⟨hhit, -, hpre⟩ := @placed_text _ text 0 _ (flatMap_pieces least_link none text).symm i hi
    obtain ⟨u, -, hway⟩ := exists_of_hit least_link hhit
    obtain ⟨rest, hrest⟩ := hpre
    show (text.take (i.1 + i.2.text.length)).drop i.1 = _
    rw [List.drop_take, Nat.add_sub_cancel_left, ← hrest, List.take_left]
    exact linkOf_source i.1 hway

/-- A replacement of the links is one of the matches. -/
theorem replaceLinks_found {f : ParsedLink → JsString} (hf : ∀ i m, f (linkOf i m) = f (linkOf 0 m)) (text : JsString) :
    replaceLinks f text ((found text).map fun i => linkOf i.1 i.2) =
      MARKDOWN_LINK_REGEX.replaceAll (fun m => f (linkOf 0 m)) text := by
  have hsame : (fun i : Nat × Match UInt16 => f (linkOf i.1 i.2)) = fun i => f (linkOf 0 i.2) :=
    funext fun i => hf i.1 i.2
  rw [replaceAll_eq_splice least_link, replaceLinks, Spans.splice, Spans.spliceFrom_map, hsame]
  rfl

/-- Links in order are sorted into the reverse order. -/
theorem insertionSort_links {links : List ParsedLink} (h : LinksOf text links) :
    links.insertionSort (fun a b => b.startIndex ≤ a.startIndex) = links.reverse := by
  have hbehind : ∀ (a : ParsedLink) (ls : List ParsedLink), (∀ b ∈ ls, ¬b.startIndex ≤ a.startIndex) →
      ls.orderedInsert (fun a b => b.startIndex ≤ a.startIndex) a = ls ++ [a] := by
    intro a ls hls
    induction ls with
    | nil => rfl
    | cons b ls ih =>
      obtain ⟨hb, hls⟩ := List.forall_mem_cons.1 hls
      rw [List.orderedInsert_cons, if_neg hb, ih hls, List.cons_append]
  obtain ⟨⟨hordered, hproper⟩, -⟩ := h
  induction links with
  | nil => rfl
  | cons a links ih =>
    obtain ⟨ha, hordered⟩ := List.pairwise_cons.1 hordered
    obtain ⟨hproper, hproper'⟩ := List.forall_mem_cons.1 hproper
    rw [List.insertionSort_cons, ih hordered hproper', List.reverse_cons]
    refine hbehind a links.reverse fun b hb => ?_
    have hle := ha b (List.mem_reverse.1 hb)
    omega

/-- Replacing the links from the right keeps the positions of those that are left. -/
theorem convertLinksToHtml_eq {links : List ParsedLink} (h : LinksOf text links) :
    convertLinksToHtml text links = replaceLinks renderHtmlElement text links := by
  unfold convertLinksToHtml
  split
  · next hempty =>
    rw [List.isEmpty_iff.1 hempty]
    rfl
  · rw [insertionSort_links h]
    exact Spans.foldl_reverse h.inOrder

/-- The spans of the links of a text are apart and in order, each is the link that is reported there, conversion
puts the element of each link in its place and nothing else, and the clean text has the labels in theirs. -/
theorem conversion_touches_links (text : JsString) :
    ∃ r, parseMarkdownLinks text = some r ∧ TouchesLinks text r := by
  have hlinks := linksOf_found text
  refine ⟨_, parseMarkdownLinks_eq text, hlinks, convertLinksToHtml_eq hlinks, ?_⟩
  exact (replaceLinks_found (f := ParsedLink.label) (fun _ _ => rfl) text).symm

/-! ### The same without positions -/

/-- A link that begins here matches. -/
theorem exists_link {label url rest : JsString} (hlabel : label ≠ [] ∧ 93 ∉ label) (hurl : url ≠ [] ∧ 41 ∉ url) :
    ∃ m, m ∈ MARKDOWN_LINK_REGEX.ways before (91 :: (label ++ 93 :: 40 :: (url ++ 41 :: rest))) := by
  have hid : ∀ b : JsString, b.map code = b := fun b => List.map_id b
  refine ⟨_, mem_ways_seq.2 ⟨⟨js "[", label ++ 93 :: 40 :: (url ++ 41 :: rest), []⟩,
    mem_ways_word.2 ⟨hid _, rfl, rfl⟩, _, mem_ways_seq.2 ⟨⟨label, 93 :: 40 :: (url ++ 41 :: rest), [(1, label)]⟩,
    mem_ways_taken.2 ⟨fun a ha => bne_iff_ne.2 fun he => hlabel.2 (he ▸ ha), List.length_pos_of_ne_nil hlabel.1,
      rfl, rfl⟩, _, mem_ways_seq.2 ⟨⟨js "](", url ++ 41 :: rest, []⟩, mem_ways_word.2 ⟨hid _, rfl, rfl⟩, _,
    mem_ways_seq.2 ⟨⟨url, 41 :: rest, [(2, url)]⟩, mem_ways_taken.2 ⟨fun a ha => bne_iff_ne.2 fun he =>
      hurl.2 (he ▸ ha), List.length_pos_of_ne_nil hurl.1, rfl, rfl⟩, ⟨js ")", rest, []⟩,
      mem_ways_word.2 ⟨hid _, rfl, rfl⟩, rfl⟩, rfl⟩, rfl⟩, rfl⟩⟩

theorem dropWhile_stop {stop : UInt16} {t : JsString} (hs : stop ∉ s) :
    (s ++ stop :: t).dropWhile (· != stop) = stop :: t := by
  have hall : ∀ a ∈ s, (a != stop) = true := fun a ha => bne_iff_ne.2 fun he => hs (he ▸ ha)
  rw [List.dropWhile_append_of_pos hall, List.dropWhile_cons_of_neg (by simp)]

/-- What a text is up to the first occurrence of a code unit. -/
theorem eq_of_dropWhile {stop : UInt16} {t : JsString} (h : s.dropWhile (· != stop) = stop :: t) :
    s = s.takeWhile (· != stop) ++ stop :: t := by
  rw [← h, List.takeWhile_append_dropWhile]

theorem not_mem_takeWhile (stop : UInt16) (s : JsString) : stop ∉ s.takeWhile (· != stop) := fun h =>
  bne_iff_ne.1 (List.mem_takeWhile_imp (p := (· != stop)) h) rfl

/-- A link that begins here. -/
theorem exists_of_linkAt? {label url : JsString} (h : linkAt? s = some (label, url)) :
    ∃ rest, s = 91 :: (label ++ 93 :: 40 :: (url ++ 41 :: rest)) ∧ (label ≠ [] ∧ 93 ∉ label) ∧
      (url ≠ [] ∧ 41 ∉ url) := by
  unfold linkAt? at h
  split at h
  · next s =>
    dsimp only at h
    split at h
    · next s' hdrop =>
      split at h
      · cases h
      · next hcond =>
        simp only [Bool.or_eq_true, not_or, Bool.not_eq_true, List.isEmpty_eq_false_iff, Bool.not_eq_false'] at hcond
        obtain ⟨⟨hlabel, hurl⟩, hclose⟩ := hcond
        obtain ⟨rfl, rfl⟩ := Prod.mk.inj (Option.some.inj h)
        obtain ⟨rest, hrest⟩ : ∃ rest, s'.dropWhile (· != 41) = 41 :: rest := by
          cases hd : s'.dropWhile (· != 41) with
          | nil =>
            have hall := List.dropWhile_eq_nil_iff.1 hd 41 (List.contains_iff_mem.1 hclose)
            exact absurd rfl (bne_iff_ne.1 hall)
          | cons a rest =>
            have hhead := List.head?_dropWhile_not (· != (41 : UInt16)) s'
            rw [hd] at hhead
            exact ⟨rest, by simpa using hhead⟩
        refine ⟨rest, ?_, ⟨hlabel, not_mem_takeWhile 93 s⟩, hurl, not_mem_takeWhile 41 s'⟩
        rw [← eq_of_dropWhile hrest, ← eq_of_dropWhile hdrop]
    · cases h
  · cases h

/-- Where a link begins is where the expression matches. -/
theorem linkAt?_eq (before : Option UInt16) (s : JsString) :
    linkAt? s = (MARKDOWN_LINK_REGEX.matchAt? before s).map fun m => (m.group 1, m.group 2) := by
  cases hmatch : MARKDOWN_LINK_REGEX.matchAt? before s with
  | some m =>
    have hway := matchAt?_mem hmatch
    obtain ⟨b₁, b₂, b₃, htext, ⟨h₁, h₂, h₃⟩, ⟨hne, hlabel⟩, ⟨hne', hurl⟩⟩ := exists_of_link hway
    have hid : ∀ b : JsString, b.map code = b := fun b => List.map_id b
    rw [hid] at h₁ h₂ h₃
    have hs : s = 91 :: (m.group 1 ++ 93 :: 40 :: (m.group 2 ++ 41 :: m.rest)) := by
      rw [← text_append_rest hway, htext, h₁, h₂, h₃]
      simp only [List.append_assoc]
      rfl
    have hlabel : (93 : UInt16) ∉ m.group 1 := fun h => hlabel 93 h rfl
    have hurl : (41 : UInt16) ∉ m.group 2 := fun h => hurl 41 h rfl
    have hcontains : (m.group 2 ++ 41 :: m.rest).contains 41 = true :=
      List.contains_iff_mem.2 (List.mem_append_right _ (List.mem_cons_self ..))
    rw [hs, linkAt?, takeWhile_stop hlabel, dropWhile_stop hlabel]
    simp only [takeWhile_stop hurl, List.isEmpty_eq_false_iff.2 hne, List.isEmpty_eq_false_iff.2 hne', hcontains,
      Bool.not_true, Bool.or_false, Bool.false_eq_true, if_false, Option.map_some]
  | none =>
    rw [Option.map_none, Option.eq_none_iff_forall_ne_some]
    rintro ⟨label, url⟩ hlink
    obtain ⟨rest, rfl, hlabel, hurl⟩ := exists_of_linkAt? hlink
    obtain ⟨m, hm⟩ := @exists_link before label url rest hlabel hurl
    exact List.ne_nil_of_mem hm (List.head?_eq_none_iff.1 hmatch)

theorem text_length (h : m ∈ MARKDOWN_LINK_REGEX.ways before s) :
    m.text.length = (m.group 1).length + (m.group 2).length + 4 := by
  rw [linkOf_source 0 h]
  simp only [ParsedLink.source, linkOf, List.length_append, show (js "[").length = 1 from rfl,
    show (js "](").length = 2 from rfl, show (js ")").length = 1 from rfl]
  omega

/-- The expression is replaced where links begin. -/
theorem pieces_eq {f : Match UInt16 → JsString} {g : JsString → JsString → JsString}
    {convert : Nat → JsString → JsString} (hf : ∀ m : Match UInt16, f m = g (m.group 1) (m.group 2))
    (hnil : ∀ skip, convert skip [] = []) (hskip : ∀ skip u s, convert (skip + 1) (u :: s) = convert skip s)
    (hstep : ∀ u s, convert 0 (u :: s) = match linkAt? (u :: s) with
      | some (label, url) => g label url ++ convert (label.length + url.length + 3) s
      | none => u :: convert 0 s) (skip : Nat) (before : Option UInt16) (s : JsString) :
    convert skip s = (MARKDOWN_LINK_REGEX.pieces skip before s).flatMap (RegExp.Piece.replace f) := by
  induction s generalizing skip before with
  | nil => rw [hnil, RegExp.pieces, List.flatMap_nil]
  | cons u s ih =>
    cases skip with
    | succ skip => rw [hskip, ih skip (some u), RegExp.pieces]
    | zero =>
      rw [hstep, linkAt?_eq before, RegExp.pieces]
      cases hmatch : MARKDOWN_LINK_REGEX.matchAt? before (u :: s) with
      | none => exact congrArg (u :: ·) (ih 0 (some u))
      | some m =>
        have hlen := text_length (matchAt?_mem hmatch)
        dsimp only [Option.map_some]
        rw [List.flatMap_cons, ih _ (some u), hlen]
        exact congrArg (· ++ _) (hf m).symm

/-- Escaping sign by sign is escaping all at once. -/
theorem escapeHtml_same (s : JsString) : escapeHtml s = HeraldGateway.escapeHtml s := by
  rw [escapeHtml_eq]
  refine List.flatMap_congr fun u _ => ?_
  by_cases hsign : u ∈ [38, 60, 62, 34, 39]
  · have hall : ([38, 60, 62, 34, 39] : List UInt16).all (fun u => escapeUnit ((38, js "&amp;") :: ESCAPES) u ==
        if u = 38 then js "&amp;" else if u = 60 then js "&lt;" else if u = 62 then js "&gt;"
        else if u = 34 then js "&quot;" else if u = 39 then js "&#039;" else [u]) = true := by
      decide
    exact eq_of_beq (List.all_eq_true.1 hall u hsign)
  · simp only [List.mem_cons, List.not_mem_nil, or_false, not_or] at hsign
    obtain ⟨h38, h60, h62, h34, h39⟩ := hsign
    have hlookup : ((38, js "&amp;") :: ESCAPES).lookup u = none := by
      simp [ESCAPES, List.lookup_eq_none_iff, h38, h60, h62, h34, h39]
    rw [escapeUnit_of_none hlookup]
    simp [h38, h60, h62, h34, h39]

/-- The links that rendering converts, and the text that a message shows for a body, are what the parser's links
and its clean text make of it. -/
theorem conversion_same (text : JsString) :
    ∃ r, parseMarkdownLinks text = some r ∧ convertLinks 0 text = convertLinksToHtml text r.links ∧
      cleanText 0 text = r.cleanText := by
  refine ⟨_, parseMarkdownLinks_eq text, ?_, ?_⟩
  · rw [convertLinksToHtml_eq (linksOf_found text), replaceLinks_found (fun _ _ => rfl)]
    refine pieces_eq (g := HeraldGateway.renderHtmlElement) (fun m => ?_) (fun skip => ?_) (fun _ _ _ => rfl)
      (fun u s => ?_) 0 none text
    · show _ = HeraldGateway.renderHtmlElement (linkOf 0 m).label (linkOf 0 m).url
      unfold renderHtmlElement HeraldGateway.renderHtmlElement
      rewrite [escapeHtml_same, escapeHtml_same]
      rfl
    · cases skip <;> rfl
    · exact convertLinks.eq_3 u s
  · refine pieces_eq (g := fun label _ => label) (fun m => rfl) (fun skip => ?_) (fun _ _ _ => rfl)
      (fun u s => ?_) 0 none text
    · cases skip <;> rfl
    · exact cleanText.eq_3 u s

end HeraldGateway.LinkParser
