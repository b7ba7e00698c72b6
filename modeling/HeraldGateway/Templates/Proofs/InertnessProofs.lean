import HeraldGateway.Templates.Inertness

/-!
# Bodies without active markup

The anchor of a link in the text is read as its own tags, since its target and its label are escaped. So the
tags that begin in the slot are those of these links and those that the body embeds besides.
-/

namespace HeraldGateway

open Text

variable {decode parse : JsString → JsString} {s label url rest : JsString}

/-! ### Anchors -/

/-- An escaped text has no quote and no tag. -/
theorem escapeHtml_units : ∀ u ∈ escapeHtml s, u ≠ 34 ∧ u ≠ 60 := by
  intro u hu
  obtain ⟨v, -, hv⟩ := List.mem_flatMap.1 hu
  have hescapes : ∀ reference ∈ [js "&amp;", js "&lt;", js "&gt;", js "&quot;", js "&#039;"],
      ∀ u ∈ reference, u ≠ 34 ∧ u ≠ 60 := by
    have hall : [js "&amp;", js "&lt;", js "&gt;", js "&quot;", js "&#039;"].all
        (·.all fun u => u != 34 && u != 60) = true := by decide
    intro reference href u hu
    have hone := List.all_eq_true.1 (List.all_eq_true.1 hall reference href) u hu
    exact ⟨bne_iff_ne.1 (Bool.and_eq_true_iff.1 hone).1, bne_iff_ne.1 (Bool.and_eq_true_iff.1 hone).2⟩
  split_ifs at hv with h38 h60 h62 h34 h39
  · exact hescapes _ (by simp) u hv
  · exact hescapes _ (by simp) u hv
  · exact hescapes _ (by simp) u hv
  · exact hescapes _ (by simp) u hv
  · exact hescapes _ (by simp) u hv
  · rw [List.mem_singleton.1 hv]
    exact ⟨h34, h60⟩

theorem run_escaped_value {close : Bool} {tag : Html.Tag} {n : JsString} :
    Html.run (.quoted close tag n 34 []) (escapeHtml s) = (.quoted close tag n 34 (escapeHtml s), []) :=
  Html.run_quoted fun u hu => (escapeHtml_units u hu).1

theorem run_escaped_text : Html.run .text (escapeHtml s) = (.text, []) :=
  Html.run_text fun u hu => (escapeHtml_units u hu).2

/-- The tags of the anchor of a link. -/
def anchorTags (label url : JsString) : List Html.Tag :=
  let target := (js "href", escapeHtml url)
  match detectLinkType url with
  | .image => [⟨js "a", [target]⟩, ⟨js "img", [(js "src", escapeHtml url), (js "alt", escapeHtml label),
      (js "style", js "max-width:100%;height:auto;")]⟩]
  | .video | .url => [⟨js "a", [target]⟩]

/-- An anchor is read as its tags, and leaves the reader in the text. -/
theorem run_anchor : Html.run .text (renderHtmlElement label url) = (.text, anchorTags label url) := by
  have hopen : Html.run .text (js "<a href=\"") = (.quoted false ⟨js "a", []⟩ (js "href") 34 [], []) := rfl
  have hlabel : ∀ v, Html.run (.quoted false ⟨js "a", []⟩ (js "href") 34 v) (js "\">") =
      (.text, [⟨js "a", [(js "href", v)]⟩]) := fun _ => rfl
  have hclose : Html.run .text (js "</a>") = (.text, []) := rfl
  have himage : ∀ v, Html.run (.quoted false ⟨js "a", []⟩ (js "href") 34 v) (js "\"><img src=\"") =
      (.quoted false ⟨js "img", []⟩ (js "src") 34 [], [⟨js "a", [(js "href", v)]⟩]) := fun _ => rfl
  have halt : ∀ v, Html.run (.quoted false ⟨js "img", []⟩ (js "src") 34 v) (js "\" alt=\"") =
      (.quoted false ⟨js "img", [(js "src", v)]⟩ (js "alt") 34 [], []) := fun _ => rfl
  have hstyle : ∀ v w, Html.run (.quoted false ⟨js "img", [(js "src", v)]⟩ (js "alt") 34 w)
      (js "\" style=\"max-width:100%;height:auto;\" /></a>") =
        (.text, [⟨js "img", [(js "src", v), (js "alt", w), (js "style", js "max-width:100%;height:auto;")]⟩]) := by
    intro v w
    have hsplit : js "\" style=\"max-width:100%;height:auto;\" /></a>" =
        js "\" style=\"" ++ (js "max-width:100%;height:auto;" ++ js "\" /></a>") := by decide
    have hname : Html.run (.quoted false ⟨js "img", [(js "src", v)]⟩ (js "alt") 34 w) (js "\" style=\"") =
        (.quoted false ⟨js "img", [(js "src", v), (js "alt", w)]⟩ (js "style") 34 [], []) := rfl
    have hend : ∀ x, Html.run (.quoted false ⟨js "img", [(js "src", v), (js "alt", w)]⟩ (js "style") 34 x)
        (js "\" /></a>") = (.text, [⟨js "img", [(js "src", v), (js "alt", w), (js "style", x)]⟩]) :=
          fun _ => rfl
    have hquote : (js "max-width:100%;height:auto;").all (· != 34) = true := by decide
    rw [hsplit, Html.run_append, Html.run_append, hname,
      Html.run_quoted fun u hu => bne_iff_ne.1 (List.all_eq_true.1 hquote u hu), hend]
    rfl
  unfold renderHtmlElement anchorTags
  cases detectLinkType url with
  | image =>
    simp only [Html.run_append, hopen, run_escaped_value, himage, halt, hstyle, List.nil_append,
      List.append_nil, List.singleton_append]
  | video | url =>
    simp only [Html.run_append, hopen, run_escaped_value, hlabel, run_escaped_text, hclose, List.nil_append,
      List.append_nil]

/-- The tags of an anchor are active where the target of its link is not allowed. -/
theorem anchorTags_active (hdecode : ∀ s, decode (escapeHtml s) = s) :
    (anchorTags label url).filter (isActive decode) = [] ↔ allowedTarget url = true := by
  have ha : isActive decode ⟨js "a", [(js "href", escapeHtml url)]⟩ = !allowedTarget url := by
    have hname : (js "a" == js "script") = false := by decide
    have hhandler : isHandler (js "href") = false := by decide
    have htarget : targetNames.contains (js "href") = true := by decide
    simp only [isActive, List.any_cons, List.any_nil, hdecode, hname, hhandler, htarget, Bool.false_or,
      Bool.true_and, Bool.or_false]
  have himg : isActive decode ⟨js "img", [(js "src", escapeHtml url), (js "alt", escapeHtml label),
      (js "style", js "max-width:100%;height:auto;")]⟩ = !allowedTarget url := by
    have hname : (js "img" == js "script") = false := by decide
    have hhandlers : isHandler (js "src") = false ∧ isHandler (js "alt") = false ∧
        isHandler (js "style") = false := by
      decide
    have htargets : targetNames.contains (js "src") = true ∧ targetNames.contains (js "alt") = false ∧
        targetNames.contains (js "style") = false := by
      decide
    simp only [isActive, List.any_cons, List.any_nil, hdecode, hname, hhandlers, htargets, Bool.false_or,
      Bool.true_and, Bool.false_and, Bool.or_false]
  rw [List.filter_eq_nil_iff]
  unfold anchorTags
  cases detectLinkType url with
  | image => simp [ha, himg]
  | video | url => simp [ha]

/-! ### Pieces -/

/-- The pieces of a body, each as it is shown, are the body with its links converted. -/
theorem convertLinks_eq {skip : Nat} : convertLinks skip s = (bodyPieces skip s).flatMap (·.html) := by
  fun_induction bodyPieces skip s with
  | case1 => simp [convertLinks]
  | case2 skip u s ih => rw [convertLinks, ih]
  | case3 u s label url hlink ih =>
    rw [convertLinks, hlink, List.flatMap_cons]
    exact congrArg _ ih
  | case4 u s hlink ih =>
    rw [convertLinks, hlink, List.flatMap_cons]
    exact congrArg _ ih

/-- Pieces as they are shown leave the reader where what they embed does, and the tags that are active in them
are those of their links and of what they embed. -/
theorem run_pieces (hdecode : ∀ s, decode (escapeHtml s) = s) (st : Html.State) (ps : List BodyPiece) :
    (Html.run st (ps.flatMap (·.html))).1 = (Html.run st (embeddedFrom st ps)).1 ∧
    ((Html.run st (ps.flatMap (·.html))).2.filter (isActive decode) = [] ↔
      (∀ url ∈ targetsFrom st ps, allowedTarget url = true) ∧
        (Html.run st (embeddedFrom st ps)).2.filter (isActive decode) = []) := by
  induction ps generalizing st with
  | nil => exact ⟨rfl, by simp [targetsFrom, embeddedFrom]⟩
  | cons p ps ih =>
    rw [List.flatMap_cons, Html.run_append]
    cases p with
    | unit u =>
      obtain ⟨hend, hactive⟩ := ih (Html.step st u).1
      have hone : Html.run st (BodyPiece.unit u).html = Html.step st u := by
        rw [BodyPiece.html, Html.run, Html.run, List.append_nil]
      rw [hone, embeddedFrom, targetsFrom, Html.run]
      refine ⟨hend, ?_⟩
      simp only [List.filter_append, List.append_eq_nil_iff, hactive]
      tauto
    | link label url =>
      rw [BodyPiece.html, embeddedFrom, targetsFrom]
      by_cases htext : st = .text
      · subst htext
        obtain ⟨hend, hactive⟩ := ih .text
        rw [run_anchor, if_pos rfl, if_pos rfl]
        refine ⟨hend, ?_⟩
        simp only [List.filter_append, List.append_eq_nil_iff, hactive, anchorTags_active hdecode,
          List.forall_mem_cons]
        tauto
      · obtain ⟨hend, hactive⟩ := ih (Html.run st (renderHtmlElement label url)).1
        rw [if_neg htext, if_neg htext, Html.run_append]
        refine ⟨hend, ?_⟩
        simp only [List.filter_append, List.append_eq_nil_iff, hactive]
        tauto

/-- A body with its links converted has no active tag where the body has none. -/
theorem activeTags_converted (hdecode : ∀ s, decode (escapeHtml s) = s) :
    activeTags decode (convertLinks 0 s) rest = [] ↔ InertBody decode rest s := by
  obtain ⟨hend, hactive⟩ := run_pieces hdecode .text (bodyPieces 0 s)
  have hiff : activeTags decode (convertLinks 0 s) rest = [] ↔
      (∀ url ∈ targetsFrom .text (bodyPieces 0 s), allowedTarget url = true) ∧
        activeTags decode (embeddedFrom .text (bodyPieces 0 s)) rest = [] := by
    rw [convertLinks_eq, activeTags, activeTags, Html.begun, Html.begun]
    simp only [List.filter_append, List.append_eq_nil_iff, hactive, hend]
    tauto
  rw [hiff]
  exact ⟨fun h => ⟨h.1, h.2⟩, fun h => ⟨h.targets, h.embedded⟩⟩

/-! ### The email -/

/-- The body of the processed variables is the body with its links converted. -/
theorem processBodyLinks_body {vars : Variables} :
    (processBodyLinks vars).text "body" = convertLinks 0 (vars.text "body") := by
  rw [processBodyLinks, Variables.text, Variables.text]
  induction vars with
  | nil => rfl
  | cons v vars ih =>
    rw [List.map_cons]
    by_cases hbody : v.1 = js "body"
    · rw [if_pos hbody, List.lookup_cons, List.lookup_cons, hbody, beq_self_eq_true]
      rfl
    · rw [if_neg hbody, List.lookup_cons, List.lookup_cons, beq_eq_false_iff_ne.2 (Ne.symm hbody)]
      exact ih

/-- The tags of the email are those of the template before the slot, those that begin in the slot and others
of the template. -/
theorem htmlWithVars_tags {t : SystemTemplate} {vars : Variables} :
    let processedVars := processBodyLinks vars
    ∃ others, (Html.run .text (t.htmlWithVars parse vars)).2 = (Html.run .text (t.before processedVars)).2 ++
      Html.begun (markdownHelper parse (processedVars.text "body")) (t.after processedVars) ++ others := by
  intro processedVars
  obtain ⟨others, hothers⟩ := Html.run_begun (s := markdownHelper parse (processedVars.text "body"))
    (t := t.after processedVars)
  refine ⟨others, ?_⟩
  rw [SystemTemplate.htmlWithVars, SystemTemplate.compiled, List.append_assoc, Html.run_append, t.opens,
    hothers, List.append_assoc]

/-- The references of an escaped text stand for its signs. -/
theorem decodeReferences_escapeHtml : Html.decodeReferences (escapeHtml s) = s := by
  induction s with
  | nil => rfl
  | cons u s ih =>
    have hcons : escapeHtml (u :: s) = escapeHtml [u] ++ escapeHtml s := by
      rw [escapeHtml, escapeHtml, escapeHtml, List.flatMap_cons, List.flatMap_singleton]
    rw [hcons]
    by_cases h38 : u = 38
    · subst h38
      exact congrArg _ ih
    by_cases h60 : u = 60
    · subst h60
      exact congrArg _ ih
    by_cases h62 : u = 62
    · subst h62
      exact congrArg _ ih
    by_cases h34 : u = 34
    · subst h34
      exact congrArg _ ih
    by_cases h39 : u = 39
    · subst h39
      exact congrArg _ ih
    have hone : escapeHtml [u] = [u] := by simp [escapeHtml, h38, h60, h62, h34, h39]
    rw [hone, List.singleton_append]
    -- Every reference begins with `&`.
    simp [Html.decodeReferences, h38, ih]

/-- The slot of a system template. -/
def slotOnly : SystemTemplate where
  before := fun _ => js "<div class=\"body-text\">"
  after := fun _ => js "</div>"
  opens := fun _ => rfl

/-- Markdown of a text in one line. -/
def paragraph (text : JsString) : JsString := js "<p>" ++ text ++ js "</p>\n"

example : Html.decodeReferences (escapeHtml (js "<a href=\"\">")) = js "<a href=\"\">" := by decide +kernel

end HeraldGateway
