import HeraldGateway.Formatting.Previews
import HeraldGateway.Telegram.Proofs.PartsProofs

/-!
# Proofs: previews and what is sent

The preview has an empty line behind its first line, and the message has none. No name can hide that, as an escaped name
has no `<`.
-/

namespace HeraldGateway.NotifyController

open Text LinkParser SnsService TelegramService

theorem not_mem_replaced {c u : UInt16} {reference s : JsString} (hreference : c ∉ reference) (hs : c = u ∨ c ∉ s) :
    c ∉ s.flatMap fun a => if a = u then reference else [a] := by
  intro hmem
  obtain ⟨a, ha, hc⟩ := List.mem_flatMap.1 hmem
  split at hc
  · exact hreference hc
  · rename_i hau
    obtain rfl := List.mem_singleton.1 hc
    exact hs.elim hau fun hnot => hnot ha

theorem not_mem_escapeHtmlForTelegram (text : JsString) : 60 ∉ escapeHtmlForTelegram text := by
  have hplain : ∀ reference ∈ [js "&amp;", js "&lt;", js "&gt;", js "&quot;"], hasPattern reference = false := by
    decide
  unfold escapeHtmlForTelegram
  show 60 ∉ replaceEvery [34] _ (replaceEvery [62] _ (replaceEvery [60] _ (replaceEvery [38] _ text)))
  rw [replaceEvery_sign (hplain _ (by simp)), replaceEvery_sign (hplain _ (by simp)),
    replaceEvery_sign (hplain _ (by simp))]
  exact not_mem_replaced (by decide) (.inr (not_mem_replaced (by decide) (.inr
    (not_mem_replaced (by decide) (.inl rfl)))))

/-- The units up to the limit stay. -/
theorem take_cut (n : Nat) (text : JsString) : (cut n text).take (n - 1) = text.take (n - 1) := by
  unfold cut
  split
  · rw [List.take_append_of_le_length (by rw [List.length_take]; omega), List.take_take, Nat.min_self]
  · rfl

theorem take_cancel {head s t : JsString} {n : Nat} (h : (head ++ s).take n = (head ++ t).take n) :
    s.take (n - head.length) = t.take (n - head.length) := by
  rw [List.take_append, List.take_append] at h
  exact List.append_cancel_left h

/-- Two texts that agree on their first units have the first `<` at the same place, and agree behind it. -/
theorem agree_behind {name name' t t' : JsString} {m : Nat} (hname : 60 ∉ name) (hname' : 60 ∉ name')
    (h : (name ++ 60 :: t).take m = (name' ++ 60 :: t').take m) (hm : name'.length < m) {i : Nat}
    (hi : name'.length + 1 + i < m) : t[i]? = t'[i]? := by
  have hall : ∀ j < m, (name ++ 60 :: t)[j]? = (name' ++ 60 :: t')[j]? := by
    intro j hj
    have := congrArg (·[j]?) h
    simpa only [List.getElem?_take, if_pos hj] using this
  have hat : ∀ name t : JsString, (name ++ 60 :: t)[name.length]? = some 60 := by
    intro name t
    rw [List.getElem?_append_right le_rfl, Nat.sub_self]
    rfl
  have hlength : name.length = name'.length := by
    rcases Nat.lt_trichotomy name.length name'.length with hlt | heq | hgt
    · have hj := hall name.length (hlt.trans hm)
      rw [hat, List.getElem?_append_left hlt] at hj
      exact absurd (List.mem_of_getElem? hj.symm) hname'
    · exact heq
    · have hj := hall name'.length hm
      rw [hat, List.getElem?_append_left hgt] at hj
      exact absurd (List.mem_of_getElem? hj) hname
  have hj := hall (name'.length + 1 + i) hi
  rw [List.getElem?_append_right (by omega), List.getElem?_append_right (by omega), hlength,
    show name'.length + 1 + i - name'.length = i + 1 by omega] at hj
  exact hj

theorem lookup_concat_of_ne {key k : JsString} (hne : key ≠ k) (map : List (JsString × JsString)) (v : JsString) :
    (map ++ [(k, v)]).lookup key = map.lookup key := by
  rw [List.lookup_append, List.lookup_cons, beq_false_of_ne hne]
  exact Option.or_none

/-- But for the category that has a sign in the preview only, the signs are the same. -/
theorem icon_eq {category : JsString} (hcategory : category ≠ js "security") :
    (([(js "defi", js "💰"), (js "governance", js "🗳️"), (js "system", js "⚙️"), (js "marketing", js "📢"),
      (js "security", js "🔒")] : List (JsString × JsString)).lookup category).getD (js "🔔") =
      getCategoryEmoji category :=
  congrArg (·.getD (js "🔔")) (lookup_concat_of_ne hcategory
    [(js "defi", js "💰"), (js "governance", js "🗳️"), (js "system", js "⚙️"), (js "marketing", js "📢")] (js "🔒"))

theorem length_getCategoryEmoji (category : JsString) : (getCategoryEmoji category).length ≤ 3 := by
  unfold getCategoryEmoji
  dsimp only
  cases h : List.lookup category
    [(js "defi", js "💰"), (js "governance", js "🗳️"), (js "system", js "⚙️"), (js "marketing", js "📢")] with
  | none => decide
  | some icon =>
    obtain ⟨l, l', heq, -⟩ := List.lookup_eq_some_iff.1 h
    have hmem : icon ∈ [js "💰", js "🗳️", js "⚙️", js "📢"] := by
      have := congrArg (List.map Prod.snd) heq
      rw [List.map_append, List.map_cons] at this
      exact this ▸ List.mem_append_right _ List.mem_cons_self
    exact (by decide : ∀ icon ∈ [js "💰", js "🗳️", js "⚙️", js "📢"], icon.length ≤ 3) icon hmem

/-- How a message begins. -/
theorem joinLines_headLines (params : TextParams) (emoji : JsString) (more : List JsString) : ∃ rest,
    joinLines (headLines params emoji ++ more) =
      emoji ++ (js " <b>" ++ (escapeHtmlForTelegram params.protocolName ++ 60 :: (js "/b>\n<" ++ rest))) := by
  have hfirst : [emoji ++ js " <b>" ++ escapeHtmlForTelegram params.protocolName ++ js "</b>"].filter (!·.isEmpty) =
      [emoji ++ js " <b>" ++ escapeHtmlForTelegram params.protocolName ++ js "</b>"] := by
    rw [List.filter_singleton, List.isEmpty_eq_false_iff.2 (List.append_ne_nil_of_right_ne_nil _ (by decide))]
    rfl
  have hlines : headLines params emoji ++ more =
      [emoji ++ js " <b>" ++ escapeHtmlForTelegram params.protocolName ++ js "</b>"] ++
        ([] :: (js "<b>" ++ escapeHtmlForTelegram params.subject ++ js "</b>") :: [] :: more) := rfl
  rw [hlines, joinLines_append (by rw [hfirst]; exact List.cons_ne_nil _ _)]
  refine ⟨js "b>" ++ (escapeHtmlForTelegram params.subject ++ (js "</b>" ++ more.flatMap lineOf)), ?_⟩
  have hsubject : lineOf (js "<b>" ++ escapeHtmlForTelegram params.subject ++ js "</b>") =
      js "\n<b>" ++ (escapeHtmlForTelegram params.subject ++ js "</b>") := rfl
  rw [List.flatMap_cons, List.flatMap_cons, List.flatMap_cons, hsubject]
  rw [joinLines, hfirst, join]
  simp only [List.append_assoc]
  rfl

theorem formatText_begins (params : TextParams) (emoji : JsString) : ∃ rest, (formatText params emoji).take 4095 =
    (emoji ++ (js " <b>" ++ (escapeHtmlForTelegram params.protocolName ++ 60 :: (js "/b>\n<" ++ rest)))).take 4095 := by
  obtain ⟨rest, hrest⟩ := joinLines_headLines params emoji
    ([cut TELEGRAM_MAX_CAPTION_LENGTH (parseMarkdownToTelegramHtml params.body)] ++ footLines params)
  refine ⟨rest, ?_⟩
  rw [← hrest, ← List.append_assoc]
  exact take_cut TELEGRAM_MAX_MESSAGE_LENGTH _

theorem preview_begins (subject body category : JsString) {icon : JsString}
    (hicon : icon = (([(js "defi", js "💰"), (js "governance", js "🗳️"), (js "system", js "⚙️"),
      (js "marketing", js "📢"), (js "security", js "🔒")] : List (JsString × JsString)).lookup category).getD (js "🔔")) :
    ∃ rest, buildTelegramPreview subject body category =
      icon ++ (js " <b>" ++ (js "Preview" ++ 60 :: (js "/b>\n\n" ++ rest))) := by
  refine ⟨js "<b>" ++ (subject ++ (js "</b>\n\n" ++ (body ++
    (js "\n\n<i>via Herald • " ++ (category ++ js "</i>"))))), ?_⟩
  unfold buildTelegramPreview
  simp only [List.append_assoc, hicon]
  rfl

/-- The preview says that it is one, and has an empty line behind that. -/
theorem preview_never_sent (R : RegExps) (dto : NotifyDto) (protocol : AuthenticatedProtocol) (p : TelegramParams) :
    ¬ShowsWhatIsSent R dto protocol p := by
  rintro ⟨-, h⟩
  have htext : messageText R (notificationOf dto protocol p) none = some (formatText
      (builtInText (notificationOf dto protocol p)) (getCategoryEmoji (categoryOf dto))) := by
    rw [messageText, telegramMessage, templateOf, ite_self]
    rfl
  have heq := congrArg (List.take 4095) (Option.some.inj (htext.symm.trans h))
  obtain ⟨rest, hrest⟩ := formatText_begins (builtInText (notificationOf dto protocol p))
    (getCategoryEmoji (categoryOf dto))
  obtain ⟨rest', hrest'⟩ := preview_begins dto.subject dto.body (categoryOf dto) rfl
  rw [hrest, preview, hrest'] at heq
  dsimp only at heq
  by_cases hsecurity : categoryOf dto = js "security"
  · rw [hsecurity] at heq
    have hsecond := congrArg (·[1]?) heq
    simp only [List.getElem?_take] at hsecond
    cases hsecond
  have hshort := length_getCategoryEmoji (categoryOf dto)
  rw [icon_eq hsecurity] at heq
  have hmark : (js " <b>").length = 4 := rfl
  have hname : (js "Preview").length = 7 := rfl
  have hunit := agree_behind (not_mem_escapeHtmlForTelegram _) (by decide) (take_cancel (take_cancel heq))
    (show (js "Preview").length < _ by omega) (show (js "Preview").length + 1 + 4 < _ by omega)
  cases hunit

/-- A body with Markdown is shown with it, and sent without. -/
theorem preview_of_markdown :
    ∃ (dto : NotifyDto) (protocol : AuthenticatedProtocol) (p : TelegramParams), dto.body = js "**gm**" ∧
      (preview dto protocol).smsText ≠ (buildSmsBody ⟨nameOf protocol, dto.subject, dto.body⟩).body ∧
      messageText RegExps.literal (notificationOf dto protocol p) none ≠ some (preview dto protocol).telegramText := by
  refine ⟨{ wallet := js "w", subject := js "Hi", body := js "**gm**" },
    ⟨js "p", js "k", js "i", 0, .production, none, none, none, none⟩, bodyAlone [], rfl, ?_, ?_⟩ <;> decide +kernel

end HeraldGateway.NotifyController
