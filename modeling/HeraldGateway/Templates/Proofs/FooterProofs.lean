import HeraldGateway.Templates.Rendering
import HeraldGateway.Text.Proofs.PatternsProofs

/-!
# When the footer stays

The footer is put into HTML that has none of the texts by which footers are recognized, unless a value that it
shows has a `$` pattern, which the replacement of the end of the body expands.
-/

namespace HeraldGateway

open Text

variable {html s t : JsString} {vars : Variables} {key : FooterKey} {env : RenderEnv} {cache : TemplateCache}
  {named defaults : Option (List TemplateRow)} {params : RenderParams} {row : TemplateRow} {email : RenderedEmail}

/-! ### Literals -/

/-- A literal is checked by its characters. -/
theorem forall_js {p : UInt16 → Bool} {l : List Char} (h : l.all (fun c => (utf16 c).all p) = true) :
    ∀ u ∈ js (String.ofList l), p u = true := by
  rw [js, String.toList_ofList]
  intro u hu
  obtain ⟨c, hc, hu⟩ := List.mem_flatMap.1 hu
  exact List.all_eq_true.1 (List.all_eq_true.1 h c hc) u hu

theorem plain_js {l : List Char} (h : l.all (fun c => (utf16 c).all (· != 36)) = true) :
    PatternFree (js (String.ofList l)) :=
  PatternFree.of_not_mem fun hin => absurd (forall_js h 36 hin) (by decide)

theorem completes_js {c : Char} {l : List Char} (h : completes (utf16 c) = false) :
    completes (js (String.ofList (c :: l))) = false := by
  rw [js, String.toList_ofList, List.flatMap_cons]
  cases hc : utf16 c with
  | nil =>
    rw [hc] at h
    cases h
  | cons u s => rwa [hc] at h

/-! ### The footer has no patterns of its own -/

theorem deliveredTo_plain (h : hasPattern s = false) : PatternFree (deliveredTo s) := by
  unfold deliveredTo
  by_cases hs : s.isEmpty = true
  · rw [if_pos hs]
    exact PatternFree.of_not_mem List.not_mem_nil
  · rw [if_neg hs, List.append_assoc _ s]
    refine PatternFree.append ?_ (PatternFree.value h (plain_js rfl) (completes_js rfl))
    unfold monoStack
    repeat' with_reducible apply PatternFree.append
    all_goals exact plain_js rfl

theorem protocolRef_plain (hs : hasPattern s = false) (ht : hasPattern t = false) :
    PatternFree (protocolRef s t) := by
  have hname : hasPattern (if t.isEmpty then js "The sending protocol" else t) = false := by
    by_cases hempty : t.isEmpty = true
    · rw [if_pos hempty]
      decide
    · rwa [if_neg hempty]
  unfold protocolRef
  by_cases hempty : s.isEmpty = true
  · rw [if_pos hempty, List.append_assoc]
    exact (plain_js rfl).append (PatternFree.value hname (plain_js rfl) (completes_js rfl))
  · rw [if_neg hempty, List.append_assoc _ t, List.append_assoc _ s]
    refine PatternFree.append ?_ (PatternFree.value ht (plain_js rfl) (completes_js rfl))
    exact (plain_js rfl).append (PatternFree.value hs (plain_js rfl) (completes_js rfl))

theorem privacyNote_plain {wallet : JsString} (hs : hasPattern s = false) (ht : hasPattern t = false) :
    PatternFree (privacyNote wallet s t) := by
  have hmargin : PatternFree (if wallet.isEmpty then js "0" else js "14px") := by
    by_cases hempty : wallet.isEmpty = true
    · rw [if_pos hempty]
      exact plain_js rfl
    · rw [if_neg hempty]
      exact plain_js rfl
  unfold privacyNote
  repeat' with_reducible apply PatternFree.append
  · exact plain_js rfl
  · exact hmargin
  · exact plain_js rfl
  · exact protocolRef_plain hs ht
  · exact plain_js rfl

theorem divider_plain : PatternFree divider := plain_js rfl

theorem logo_plain : PatternFree (logoTd ++ nameTd ++ pipeTd) := by
  unfold logoTd nameTd pipeTd heraldLogoUrl
  repeat' with_reducible apply PatternFree.append
  all_goals exact plain_js rfl

theorem unsubTd_plain (h : hasPattern s = false) : PatternFree (unsubTd s) := by
  unfold unsubTd
  rw [List.append_assoc]
  exact (plain_js rfl).append (PatternFree.value h (plain_js rfl) (completes_js rfl))

theorem mkTable_plain (h : PatternFree s) : PatternFree (mkTable s) := by
  unfold mkTable
  repeat' with_reducible apply PatternFree.append
  · exact plain_js rfl
  · exact plain_js rfl
  · exact h
  · exact plain_js rfl

theorem fullBrandRow_plain (h : hasPattern s = false) : PatternFree (fullBrandRow s) := by
  refine mkTable_plain (PatternFree.append (PatternFree.append (logo_plain.append (unsubTd_plain h)) ?_) ?_)
  · unfold pipeTd
    exact (plain_js rfl).append (plain_js rfl)
  · unfold siteTd
    exact (plain_js rfl).append (plain_js rfl)

theorem shortBrandRow_plain (h : hasPattern s = false) : PatternFree (shortBrandRow s) :=
  mkTable_plain (logo_plain.append (unsubTd_plain h))

theorem wrapFooter_plain (hs : PatternFree s) (ht : PatternFree t) : PatternFree (wrapFooter s t) := by
  unfold wrapFooter fontStack hrlSentinel
  repeat' with_reducible apply PatternFree.append
  · exact plain_js rfl
  · exact plain_js rfl
  · exact plain_js rfl
  · exact plain_js rfl
  · exact plain_js rfl
  · exact ht
  · exact plain_js rfl
  · exact hs
  · exact plain_js rfl

theorem unsub_noPattern (h : hasPattern (vars.text "unsubscribeUrl") = false) :
    hasPattern (unsub vars) = false := by
  unfold unsub
  by_cases hempty : (vars.text "unsubscribeUrl").isEmpty = true
  · exact (if_pos hempty).symm ▸ rfl
  · rwa [if_neg hempty]

/-- A footer has only the patterns of the values that it shows. -/
theorem footerHtml_plain (h : ∀ v ∈ footerValues vars key, hasPattern v = false) :
    PatternFree (footerHtml vars key) := by
  have hnone : PatternFree [] := PatternFree.of_not_mem List.not_mem_nil
  cases key with
  | full =>
    simp only [footerValues, List.forall_mem_cons] at h
    obtain ⟨hwallet, hwebsite, hname, hlink, -⟩ := h
    exact wrapFooter_plain ((((deliveredTo_plain hwallet).append (privacyNote_plain hwebsite hname)).append
      divider_plain).append (fullBrandRow_plain (unsub_noPattern hlink))) hnone
  | small =>
    simp only [footerValues, List.forall_mem_cons] at h
    obtain ⟨hwallet, hlink, -⟩ := h
    exact wrapFooter_plain (((deliveredTo_plain hwallet).append divider_plain).append
      (fullBrandRow_plain (unsub_noPattern hlink))) hnone
  | minimal | enterprise =>
    simp only [footerValues, List.forall_mem_cons] at h
    obtain ⟨hwallet, hlink, -⟩ := h
    exact wrapFooter_plain (((deliveredTo_plain hwallet).append divider_plain).append
      (shortBrandRow_plain (unsub_noPattern hlink))) hnone
  | none =>
    simp only [footerValues, List.forall_mem_cons] at h
    refine wrapFooter_plain ?_ (plain_js rfl)
    rw [List.append_assoc]
    exact (plain_js rfl).append
      (PatternFree.value (unsub_noPattern h.1) (plain_js rfl) (completes_js rfl))

theorem containedFooter_plain (h : PatternFree s) : PatternFree (containedFooter s) := by
  unfold containedFooter
  repeat' with_reducible apply PatternFree.append
  · exact plain_js rfl
  · exact plain_js rfl
  · exact h
  · exact plain_js rfl

/-! ### Styles -/

theorem join_concat (sep : JsString) (lines : List JsString) (last : JsString) :
    join sep (lines ++ [last]) = lines.flatMap (· ++ sep) ++ last := by
  induction lines with
  | nil => rfl
  | cons line lines ih =>
    have hne : lines ++ [last] ≠ [] := List.append_ne_nil_of_right_ne_nil lines (List.cons_ne_nil last [])
    obtain ⟨next, rest, hrest⟩ := List.exists_cons_of_ne_nil hne
    have hjoin : join sep (line :: next :: rest) = line ++ sep ++ join sep (next :: rest) := rfl
    rw [List.cons_append, hrest, hjoin, ← hrest, ih, List.flatMap_cons, List.append_assoc, List.append_assoc,
      List.append_assoc]

/-- The rules have neither dollars nor tags. -/
theorem footerRules_spec : ∀ line ∈ footerRules, ∀ u ∈ line, (u != 36 && u != 60) = true := by
  unfold footerRules
  simp only [List.forall_mem_cons, List.forall_mem_append]
  repeat' apply And.intro
  all_goals first | exact forall_js rfl | exact fun _ h => absurd h List.not_mem_nil

/-- The styles begin and end with their tags, and have no other. -/
theorem heraldFooterStyles_eq :
    ∃ rules, heraldFooterStyles = js "<style>" ++ rules ++ js "</style>" ∧
    ∀ u ∈ rules, (u != 36 && u != 60) = true := by
  refine ⟨js "\n" ++ footerRules.flatMap (· ++ js "\n"), ?_, fun u hu => ?_⟩
  · rw [heraldFooterStyles, ← List.cons_append, join_concat, List.flatMap_cons,
      List.append_assoc (js "<style>")]
  · have hbreak : ∀ u ∈ js "\n", (u != 36 && u != 60) = true := forall_js rfl
    rcases List.mem_append.1 hu with hu | hu
    · exact hbreak u hu
    · obtain ⟨line, hline, hu⟩ := List.mem_flatMap.1 hu
      rcases List.mem_append.1 hu with hu | hu
      · exact footerRules_spec line hline u hu
      · exact hbreak u hu

theorem heraldFooterStyles_head : ∃ s, heraldFooterStyles = 60 :: s := by
  obtain ⟨rules, heq, -⟩ := heraldFooterStyles_eq
  have hbegin : js "<style>" = 60 :: js "style>" := by decide
  exact ⟨js "style>" ++ rules ++ js "</style>", by rw [heq, hbegin]; rfl⟩

theorem heraldFooterStyles_plain : PatternFree heraldFooterStyles := by
  obtain ⟨rules, heq, hrules⟩ := heraldFooterStyles_eq
  rw [heq]
  exact ((plain_js rfl).append (PatternFree.of_not_mem fun hin => absurd (hrules 36 hin) (by decide))).append
    (plain_js rfl)

theorem bodyEnd_eq : bodyEnd = 60 :: js "/body>" := by decide

theorem not_mem_bodyEnd : (60 : UInt16) ∉ js "/body>" := by decide

/-- The body does not end within the styles. -/
theorem bodyEnd_after_styles (h : bodyEnd <:+: heraldFooterStyles ++ t) :
    bodyEnd <:+: js "</style>" ++ t := by
  obtain ⟨rules, heq, hrules⟩ := heraldFooterStyles_eq
  have hbegin : js "<style>" = 60 :: js "style>" := by decide
  have hend : js "</style>" = 60 :: js "/style>" := by decide
  have hsplit : heraldFooterStyles ++ t = (60 :: (js "style>" ++ rules)) ++ 60 :: (js "/style>" ++ t) := by
    rw [heq, hbegin, hend, List.append_assoc, List.append_assoc]
    rfl
  rw [hsplit, bodyEnd_eq] at h
  rw [hend, bodyEnd_eq]
  rcases infix_append_of_head not_mem_bodyEnd h with h | h
  · have hno : (60 : UInt16) ∉ js "style>" ++ rules := by
      intro hin
      rcases List.mem_append.1 hin with hin | hin
      · exact absurd hin (by decide)
      · exact absurd (hrules 60 hin) (by decide)
    have hpre := prefix_of_head hno h
    have hhead : (js "/body>").head? = (js "style>" ++ rules).head? := by
      obtain ⟨rest, hrest⟩ := hpre
      rw [← hrest, List.head?_append_of_ne_nil _ (by decide)]
    rw [List.head?_append_of_ne_nil _ (by decide)] at hhead
    exact absurd hhead (by decide)
  · exact h

/-- The styles do not end the body. -/
theorem bodyEnd_injectStyles (h : bodyEnd <:+: injectStyles html) : bodyEnd <:+: html := by
  unfold injectStyles at h
  by_cases hfooter : includes (js "data-hrl-footer") html = true
  · rwa [if_pos hfooter] at h
  · rw [if_neg hfooter] at h
    by_cases hhead : includes headEnd html = true
    · rw [if_pos hhead] at h
      have hplain : PatternFree (heraldFooterStyles ++ js "\n" ++ headEnd) :=
        (heraldFooterStyles_plain.append (plain_js rfl)).append (plain_js rfl)
      obtain ⟨before, after, hhtml, hreplaced⟩ :=
        replaceFirst_of_infix (includes_iff.1 hhead) hplain.noPattern
      obtain ⟨s, hs⟩ := heraldFooterStyles_head
      have hsplit : before ++ (heraldFooterStyles ++ js "\n" ++ headEnd) ++ after =
          before ++ 60 :: (s ++ (js "\n" ++ headEnd ++ after)) := by
        rw [hs]
        simp only [List.append_assoc, List.cons_append]
      rw [hreplaced, hsplit, bodyEnd_eq] at h
      rcases infix_append_of_head not_mem_bodyEnd h with h | h
      · rw [hhtml, bodyEnd_eq, List.append_assoc]
        exact h.trans (List.infix_append [] before _)
      · rw [← List.cons_append, ← hs, ← bodyEnd_eq] at h
        have hend : js "</style>" ++ (js "\n" ++ headEnd ++ after) = js "</style>\n" ++
          60 :: (js "/head>" ++ after) := by
          rw [headEnd, show js "</head>" = 60 :: js "/head>" by decide,
            show js "</style>\n" = js "</style>" ++ js "\n" by decide]
          simp only [List.append_assoc, List.cons_append]
        have h := bodyEnd_after_styles h
        rw [hend, bodyEnd_eq] at h
        rcases infix_append_of_head not_mem_bodyEnd h with h | h
        · exact absurd (includes_iff.2 h) (by decide)
        · rw [hhtml, bodyEnd_eq, List.append_assoc, headEnd, show js "</head>" = 60 :: js "/head>" by decide]
          exact h.trans (List.suffix_append before _).isInfix
    · rw [if_neg hhead] at h
      have h := bodyEnd_after_styles h
      rw [show js "</style>" = js "</style" ++ [62] by decide,
        show bodyEnd = js "</body" ++ [62] by decide] at h
      rcases infix_append_of_last (by decide) h with h | h
      · exact absurd (includes_iff.2 h) (by decide)
      · rwa [show bodyEnd = js "</body" ++ [62] by decide]

/-! ### The footer stays -/

theorem includes_footer_of_keeps (h : KeepsFooter html vars key) :
    includes (footerHtml vars key) (injectHeraldFooter html vars (some key)) = true := by
  have hcontained : footerHtml vars key <:+: containedFooter (footerHtml vars key) :=
    List.infix_append _ _ _
  have hinject : injectHeraldFooter html vars (some key) =
      appendFooter (containedFooter (footerHtml vars key)) (injectStyles html) := by
    simp only [injectHeraldFooter, h.brand, h.sentinel, Bool.false_eq_true, if_false]
  rw [hinject, includes_iff]
  refine hcontained.trans ?_
  unfold appendFooter
  by_cases hend : includes bodyEnd (injectStyles html) = true
  · have hbody : includes bodyEnd html = true := includes_iff.2 (bodyEnd_injectStyles (includes_iff.1 hend))
    have hplain : PatternFree (containedFooter (footerHtml vars key) ++ js "\n" ++ bodyEnd) :=
      ((containedFooter_plain (footerHtml_plain (h.plain hbody))).append (plain_js rfl)).append
        (plain_js rfl)
    obtain ⟨before, after, -, hreplaced⟩ := replaceFirst_of_infix (includes_iff.1 hend) hplain.noPattern
    rw [if_pos hend, hreplaced]
    exact ⟨before, js "\n" ++ bodyEnd ++ after, by simp only [List.append_assoc]⟩
  · rw [if_neg hend]
    exact (List.suffix_append _ _).isInfix

/-- HTML in which a footer is recognized is left as it is. -/
theorem injectHeraldFooter_of_marked
    (h : includes footerBrand html = true ∨ includes hrlSentinel html = true) :
    injectHeraldFooter html vars (some key) = html := by
  simp only [injectHeraldFooter]
  by_cases hbrand : includes footerBrand html = true
  · rw [if_pos hbrand]
  · rw [if_neg hbrand, if_pos (h.resolve_left hbrand)]

/-- The HTML of an email is what its template renders to, with the footer of the tier. -/
theorem render_html (hrow : customTemplate named defaults params = some row)
    (hhtml : htmlWithPreheader env (getCompiledTemplate env.compile cache (hbsSource env (some row) params.template)).2
      (some row) params.vars = some html)
    (hemail : (render env cache named defaults params).2 = some email) :
    email.html = injectHeraldFooter html params.vars (some (tierToFooterKey params.tier)) := by
  simp only [render, hrow, hhtml, Option.map_some] at hemail
  cases htext : plainText env (some row) params.vars with
  | none =>
    rw [htext] at hemail
    cases hemail
  | some text =>
    rw [htext] at hemail
    cases hemail
    rfl

/-- An environment that takes templates as they are. -/
def verbatim : RenderEnv where
  compile source _ := some source
  juice html := some html
  systemFile _ := none

/-- A template of a protocol. -/
def storedTemplate (htmlSource : JsString) : TemplateRow where
  id := js "t1"
  protocolId := js "acme"
  category := js "defi"
  htmlSource := some htmlSource

/-- A render of the template with a link. -/
def storedParams : RenderParams where
  template := js "defi-alert"
  vars := [(js "unsubscribeUrl", js "https://notify.useherald.xyz/u"), (js "protocolName", js "Acme")]
  protocolId := some (js "acme")
  templateId := some (js "t1")

end HeraldGateway
