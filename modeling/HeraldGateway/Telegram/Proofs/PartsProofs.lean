import HeraldGateway.Formatting.Proofs.LinksProofs
import HeraldGateway.Telegram.Proofs.ChunksProofs
import HeraldGateway.Templates.Proofs.MessagesProofs

/-!
# Proofs: the parts of a message

Each part leaves room for its indicator as long as the number of parts is one digit. A text is cut at the length of a
message before it is split, so there are four parts at most.
-/

namespace HeraldGateway.TelegramService

open Text LinkParser

/-! ## Lengths -/

theorem length_cut_le {n : Nat} (hn : 0 < n) (text : JsString) : (cut n text).length ≤ n := by
  unfold cut
  split
  · rw [List.length_append, List.length_take, show (js "…").length = 1 from rfl]
    omega
  · omega

variable {R : RegExps} {settings : Settings} {p : TelegramParams} {found : Option TemplateRecord}

theorem length_formatCustomMessage_le {textTemplate text : JsString}
    (htext : formatCustomMessage R p textTemplate = some text) : text.length ≤ TELEGRAM_MAX_MESSAGE_LENGTH := by
  obtain ⟨result, -, hcut⟩ := Option.bind_eq_some_iff.1 htext
  rw [← Option.some.inj hcut]
  exact length_cut_le (show 0 < TELEGRAM_MAX_MESSAGE_LENGTH by decide) _

theorem length_formatText_le (params : TextParams) (emoji : JsString) :
    (formatText params emoji).length ≤ TELEGRAM_MAX_MESSAGE_LENGTH :=
  length_cut_le (by decide) _

/-- Both kinds of text are cut at the length of a message. -/
theorem length_messageText_le {text : JsString} (htext : messageText R p found = some text) :
    text.length ≤ TELEGRAM_MAX_MESSAGE_LENGTH := by
  obtain ⟨m, hm, rfl⟩ := Option.map_eq_some_iff.1 htext
  unfold telegramMessage at hm
  split at hm
  · rw [← Option.some.inj hm]
    exact length_formatText_le _ _
  · obtain ⟨custom, hcustom, hrest⟩ := Option.bind_eq_some_iff.1 hm
    obtain ⟨buttons, -, hm⟩ := Option.bind_eq_some_iff.1 hrest
    rw [← Option.some.inj hm]
    cases hempty : custom.isEmpty with
    | true => exact length_formatText_le _ _
    | false => exact length_formatCustomMessage_le hcustom

/-! ## Parts -/

theorem length_decimal : ∀ n < 10, (decimal n).length = 1 := by
  decide

/-- An indicator with one digit for each number fits in the room that is left for it. -/
theorem length_indicator {i n : Nat} (hi : i < 10) (hn : n < 10) : (indicator i n).length = 14 := by
  simp only [indicator, List.length_append, length_decimal i hi, length_decimal n hn]
  rfl

theorem partTexts_length (chunks : List JsString) : (partTexts chunks).length = chunks.length :=
  List.length_mapIdx

theorem length_part_le {chunks : List JsString} (hcount : chunks.length < 10) {max : Nat} (hmax : 15 ≤ max)
    (hfit : ∀ chunk ∈ chunks, chunk.length ≤ max - 15) {part : JsString} (hpart : part ∈ partTexts chunks) :
    part.length ≤ max := by
  obtain ⟨i, hi, rfl⟩ := List.mem_mapIdx.1 hpart
  have hchunk := hfit _ (List.getElem_mem hi)
  split
  · have hindicator := length_indicator (show i + 1 < 10 by omega) hcount
    rw [List.length_append]
    omega
  · omega

/-- The chunks of what is no longer than a message. -/
theorem messageChunks {text : JsString} (htext : text.length ≤ TELEGRAM_MAX_MESSAGE_LENGTH) :
    ∃ chunks, splitIntoChunks (text.length + 1) text TELEGRAM_MAX_MESSAGE_LENGTH = some chunks ∧
      chunks.length ≤ 4 ∧ (∀ chunk ∈ chunks, chunk.length ≤ TELEGRAM_MAX_MESSAGE_LENGTH - 15) ∧
      withoutBreaks chunks.flatten = withoutBreaks text := by
  obtain ⟨chunks, heq, hfit, hunits, hcount⟩ :=
    splitIntoChunks_spec text (show 15 < TELEGRAM_MAX_MESSAGE_LENGTH by decide) (Nat.lt_succ_self text.length)
  simp only [TELEGRAM_MAX_MESSAGE_LENGTH] at htext hcount
  exact ⟨chunks, heq, by omega, fun chunk hchunk => (hfit chunk hchunk).2, hunits⟩

/-- What `sendNotification` sends, given the text of its message. -/
theorem sendCalls_cases {text : JsString} (htext : messageText R p found = some text) :
    (∃ call, sendCalls R settings p found = some [call] ∧ (truthy p.videoUrl ∨ truthy p.bannerUrl) ∧
        call.text? = none ∧ call.caption? = some (cut TELEGRAM_MAX_CAPTION_LENGTH text)) ∨
      ∃ options chunks, splitIntoChunks (text.length + 1) text TELEGRAM_MAX_MESSAGE_LENGTH = some chunks ∧
        sendCalls R settings p found = some (partCalls p options (partTexts chunks)) := by
  obtain ⟨m, hm, -⟩ := Option.map_eq_some_iff.1 htext
  obtain ⟨chunks, hchunks, -⟩ := messageChunks (length_messageText_le htext)
  unfold sendCalls
  simp only [parseMarkdownLinks_eq, hm, htext, hchunks, Option.bind_eq_bind, Option.bind_some, pure]
  split
  · exact .inl ⟨_, rfl, .inl ‹_›, rfl, rfl⟩
  split
  · exact .inl ⟨_, rfl, .inr ‹_›, rfl, rfl⟩
  · exact .inr ⟨_, _, rfl, rfl⟩

/-- The limits of a message and of a caption hold of all that is sent, and there are fewer parts than ten. -/
theorem limits_never_exceeded (R : RegExps) (settings : Settings) (p : TelegramParams)
    (found : Option TemplateRecord) :
    match sendCalls R settings p found with
    | some calls => calls.length < 10 ∧ ∀ call ∈ calls,
        (∀ text ∈ call.text?, text.length ≤ TELEGRAM_MAX_MESSAGE_LENGTH) ∧
          ∀ caption ∈ call.caption?, caption.length ≤ TELEGRAM_MAX_CAPTION_LENGTH
    | none => messageText R p found = none := by
  cases htext : messageText R p found with
  | none =>
    have hm : telegramMessage R p found = none := Option.map_eq_none_iff.1 htext
    rw [sendCalls, parseMarkdownLinks_eq, hm]
    rfl
  | some text =>
    rcases sendCalls_cases htext with ⟨call, heq, -, hnone, hcaption⟩ | ⟨options, chunks, hchunks, heq⟩
    · rw [heq]
      refine ⟨show 1 < 10 by decide, List.forall_mem_singleton.2 ⟨?_, ?_⟩⟩
      · rw [hnone]
        exact nofun
      · rw [hcaption]
        rintro _ ⟨⟩
        exact length_cut_le (by decide) _
    · obtain ⟨chunks', hchunks', hcount, hfit, -⟩ := messageChunks (length_messageText_le htext)
      obtain rfl := Option.some.inj (hchunks'.symm.trans hchunks)
      rw [heq]
      refine ⟨by rw [partCalls, List.length_mapIdx, partTexts_length]; omega, fun call hcall => ?_⟩
      obtain ⟨i, hi, rfl⟩ := List.mem_mapIdx.1 hcall
      refine ⟨?_, nofun⟩
      rintro _ ⟨⟩
      exact length_part_le (by omega) (by decide) hfit (List.getElem_mem hi)

/-! ## Bodies -/

/-- The indicators go as they came. -/
theorem withoutIndicators_partTexts (chunks : List JsString) : withoutIndicators (partTexts chunks) = chunks := by
  refine List.ext_getElem ((List.length_mapIdx).trans (partTexts_length chunks)) fun i hi hi' => ?_
  simp only [withoutIndicators, List.getElem_mapIdx, partTexts_length]
  split
  · rename_i hmany
    simp only [partTexts, List.getElem_mapIdx, if_pos hmany, List.length_append, Nat.add_sub_cancel]
    exact List.take_left
  · rename_i hone
    simp only [partTexts, List.getElem_mapIdx, if_neg hone]

theorem join_cons (sep s : JsString) (more : List JsString) :
    join sep (s :: more) = s ++ more.flatMap (sep ++ ·) := by
  induction more generalizing s with
  | nil => exact (List.append_nil s).symm
  | cons t more ih => rw [join, ih, List.flatMap_cons, List.append_assoc, List.append_assoc]; exact nofun

theorem joinLines_append {lines : List JsString} (hne : lines.filter (!·.isEmpty) ≠ []) (more : List JsString) :
    joinLines (lines ++ more) = joinLines lines ++ more.flatMap lineOf := by
  obtain ⟨s, ss, hlines⟩ := List.exists_cons_of_ne_nil hne
  rw [joinLines, joinLines, List.filter_append, hlines, List.cons_append, join_cons, join_cons, List.flatMap_append,
    List.append_assoc]
  congr 2
  induction more with
  | nil => rfl
  | cons line more ih =>
    rw [List.flatMap_cons, ← ih]
    cases line <;> rfl

variable (params : TextParams) (emoji : JsString)

theorem headLines_ne_nil : (headLines params emoji).filter (!·.isEmpty) ≠ [] := by
  have hline : (emoji ++ js " <b>" ++ escapeHtmlForTelegram params.protocolName ++ js "</b>").isEmpty = false := by
    rw [List.isEmpty_eq_false_iff]
    exact List.append_ne_nil_of_right_ne_nil _ (by decide)
  rw [headLines, List.filter_cons, hline]
  exact nofun

theorem beginning_eq : beginning params emoji =
    joinLines (headLines params emoji) ++ lineOf (parseMarkdownToTelegramHtml params.body) := by
  rw [beginning, joinLines_append (headLines_ne_nil params emoji), List.flatMap_singleton]

theorem bodyEnd_le : bodyEnd params emoji ≤ (beginning params emoji).length :=
  Nat.sub_le _ _

/-- A line after `head`, cut at `n` units. -/
theorem lineOf_cut {n : Nat} (hn : 0 < n) (head body : JsString) :
    head ++ lineOf (cut n body) =
      (head ++ lineOf body).take
          ((head ++ lineOf body).length - (body.length - if body.length > n then n - 1 else body.length)) ++
        if body.length > n then js "…" else [] := by
  by_cases hlong : body.length > n
  · have hcut : (body.take (n - 1) ++ js "…").isEmpty = false := by
      rw [List.isEmpty_eq_false_iff]
      exact List.append_ne_nil_of_right_ne_nil _ (by decide)
    have hbody : body.isEmpty = false := by
      rw [List.isEmpty_eq_false_iff]
      rintro rfl
      exact Nat.not_lt_zero n hlong
    have hstop : (head ++ js "\n" ++ body).length - (body.length - (n - 1)) =
        (head ++ js "\n").length + (n - 1) := by
      rw [List.length_append]
      omega
    simp only [cut, lineOf, if_pos hlong, hcut, hbody, Bool.false_eq_true, if_false]
    rw [← List.append_assoc, ← List.append_assoc, ← List.append_assoc, hstop, List.take_length_add_append]
  · simp only [cut, if_neg hlong, Nat.sub_self, Nat.sub_zero, List.take_length, List.append_nil]

/-- The text is the beginning as far as the limit of a body leaves it, and what follows. -/
theorem formatText_eq : formatText params emoji = cut TELEGRAM_MAX_MESSAGE_LENGTH
    ((beginning params emoji).take (bodyEnd params emoji) ++ bodyRest params) := by
  refine congrArg (cut _) ?_
  rw [List.append_assoc, joinLines_append (headLines_ne_nil params emoji), List.flatMap_append,
    List.flatMap_singleton, ← List.append_assoc, lineOf_cut (show 0 < TELEGRAM_MAX_CAPTION_LENGTH by decide),
    ← beginning_eq, List.append_assoc]
  rfl

/-- What stands in place of the end of a text. -/
theorem prefix_iff (s t : JsString) (n : Nat) :
    withoutBreaks s <+: withoutBreaks (s.take n ++ t) ↔ withoutBreaks (s.drop n) <+: withoutBreaks t := by
  have hsplit : withoutBreaks s = withoutBreaks (s.take n) ++ withoutBreaks (s.drop n) := by
    rw [← withoutBreaks_append, List.take_append_drop]
  rw [hsplit, withoutBreaks_append, List.prefix_append_right_inj]

/-- The text says the whole body exactly when nothing of it is cut off that is not put back by chance. -/
theorem prefix_formatText_iff :
    withoutBreaks (beginning params emoji) <+: withoutBreaks (formatText params emoji) ↔
      if bodyEnd params emoji + (bodyRest params).length ≤ TELEGRAM_MAX_MESSAGE_LENGTH then
        withoutBreaks ((beginning params emoji).drop (bodyEnd params emoji)) <+: withoutBreaks (bodyRest params)
      else
        withoutBreaks ((beginning params emoji).drop (min (bodyEnd params emoji) (TELEGRAM_MAX_MESSAGE_LENGTH - 1))) <+:
          withoutBreaks ((bodyRest params).take (TELEGRAM_MAX_MESSAGE_LENGTH - 1 - bodyEnd params emoji)) ++ js "…" := by
  have hstop := bodyEnd_le params emoji
  have htake : ((beginning params emoji).take (bodyEnd params emoji)).length = bodyEnd params emoji :=
    List.length_take_of_le hstop
  have hlength : ((beginning params emoji).take (bodyEnd params emoji) ++ bodyRest params).length =
      bodyEnd params emoji + (bodyRest params).length := by
    rw [List.length_append, htake]
  rw [formatText_eq, cut, hlength]
  split
  · rename_i hlong
    rw [if_neg (Nat.not_le.2 hlong), List.take_append, htake, List.take_take, Nat.min_comm, List.append_assoc,
      prefix_iff, withoutBreaks_append]
    rfl
  · rename_i hshort
    rw [if_pos (Nat.le_of_not_lt hshort), prefix_iff]

variable {params emoji}

theorem filterMap_mapIdx {α β : Type} {g : β → Option α} {f : Nat → α → β} (h : ∀ i a, g (f i a) = some a)
    (l : List α) : (l.mapIdx f).filterMap g = l := by
  induction l generalizing f with
  | nil => rfl
  | cons a l ih => rw [List.mapIdx_cons, List.filterMap_cons_some (h 0 a), ih fun i => h (i + 1)]

theorem texts_partCalls (p : TelegramParams) (options : SendOptions) (parts : List JsString) :
    (partCalls p options parts).filterMap SendCall.text? = parts := by
  refine filterMap_mapIdx ?_ parts
  exact fun _ _ => rfl

/-- What the parts say without a template and without media is the text, line breaks aside. -/
theorem sendCalls_plain (R : RegExps) (settings : Settings) {p : TelegramParams} {found : Option TemplateRecord}
    (hmedia : truthy p.videoUrl = false ∧ truthy p.bannerUrl = false) (htemplate : templateOf p found = none) :
    ∃ calls, sendCalls R settings p found = some calls ∧
      withoutBreaks (withoutIndicators (calls.filterMap SendCall.text?)).flatten =
        withoutBreaks (formatText (builtInText p) (getCategoryEmoji p.category)) := by
  have htext : messageText R p found = some (formatText (builtInText p) (getCategoryEmoji p.category)) := by
    rw [messageText, telegramMessage, htemplate]
    rfl
  obtain ⟨chunks, hchunks, -, -, hunits⟩ := messageChunks (length_messageText_le htext)
  rcases @sendCalls_cases R settings p found _ htext with ⟨-, -, hvideo | hbanner, -⟩ |
    ⟨options, chunks', hchunks', heq⟩
  · cases hmedia.1.symm.trans hvideo
  · cases hmedia.2.symm.trans hbanner
  · obtain rfl := Option.some.inj (hchunks'.symm.trans hchunks)
    exact ⟨_, heq, by rw [texts_partCalls, withoutIndicators_partTexts, hunits]⟩

/-- Without a template and without media the parts of a message contain its whole body exactly when it fits. -/
theorem containsBody_iff (R : RegExps) (settings : Settings) {p : TelegramParams} {found : Option TemplateRecord}
    (hmedia : truthy p.videoUrl = false ∧ truthy p.bannerUrl = false) (htemplate : templateOf p found = none) :
    ∃ calls, sendCalls R settings p found = some calls ∧
      (ContainsBody (builtInText p) (getCategoryEmoji p.category) (calls.filterMap SendCall.text?) ↔
        BodyFits (builtInText p) (getCategoryEmoji p.category)) := by
  obtain ⟨calls, heq, hunits⟩ := sendCalls_plain R settings hmedia htemplate
  exact ⟨calls, heq, by rw [ContainsBody, BodyFits, hunits, prefix_formatText_iff]⟩

/-! ### A long body -/

/-- The units that each expression of Markdown needs one of. -/
def isMark (u : UInt16) : Bool := (js "`|-*_~#").contains u

/-- A text without them is rendered as it is. -/
theorem parseMarkdownToTelegramHtml_plain {text : JsString} (hplain : ∀ u ∈ text, isMark u = false) :
    parseMarkdownToTelegramHtml text = text := by
  have hall : ∀ (r : RegExp) (f : Match UInt16 → JsString), 0 < r.least → r.Needs isMark → r.replaceAll f text = text :=
    fun r f hr hneeds => RegExp.replaceAll_of_lacking hr hneeds hplain f
  have henclosed : ∀ {mark : JsString} {p : UInt16 → Bool} (f : Match UInt16 → JsString) (u : UInt16), u ∈ mark →
      isMark u = true → (RegExp.enclosed mark p).replaceAll f text = text :=
    fun f u hu hmark =>
      hall _ f (by simp [RegExp.enclosed, RegExp.all, RegExp.least, RegExp.atLeast]) (.inl ⟨u, hu, hmark⟩)
  have hmark : ∀ c : UInt16, isMark c = true → ∀ u, (u == c) = true → isMark u = true :=
    fun c hc u hu => eq_of_beq hu ▸ hc
  unfold parseMarkdownToTelegramHtml
  dsimp only
  rw [hall fencedLines _ (by decide) (.inl ⟨96, by decide, by decide⟩), inlineCode,
    henclosed _ 96 (by decide) (by decide),
    hall tableSeparator _ (by decide) (.inr (.inl ⟨124, by decide, by decide⟩)),
    hall tableRow _ (by decide) (.inr (.inl ⟨124, by decide, by decide⟩)),
    hall divider _ (by decide) (.inr (.inl ⟨⟨by decide, hmark 45 (by decide)⟩, ⟨by decide, hmark 42 (by decide)⟩,
      ⟨by decide, hmark 95 (by decide)⟩⟩)),
    boldItalicStars, henclosed _ 42 (by decide) (by decide), boldStars, henclosed _ 42 (by decide) (by decide),
    italicStars, henclosed _ 42 (by decide) (by decide), boldUnderscores, henclosed _ 95 (by decide) (by decide),
    strikethrough, henclosed _ 126 (by decide) (by decide),
    hall headerLine _ (by decide) (.inr (.inl ⟨by decide, hmark 35 (by decide)⟩))]

example : parseMarkdownToTelegramHtml (js "**gm** and *wagmi*") = js "<b>gm</b> and <i>wagmi</i>" := by
  decide +kernel

/-- An accepted notification of a body alone. -/
def bodyAlone (body : JsString) : TelegramParams where
  target := .subscriber
  chatId := js "1"
  protocolName := js "Acme"
  protocolId := js "p"
  subject := js "Hi"
  body := body
  category := js "defi"
  notificationId := .uuid 0
  tier := none
  templateId := none
  templateVariables := none
  bannerUrl := none
  videoUrl := none
  customBotToken := none
  messageThreadId := none
  priority := none
  trackEngagement := false

theorem containsBody_iff_short :
    ∃ calls, sendCalls RegExps.literal {} (bodyAlone (js "ok")) none = some calls ∧
      (ContainsBody (builtInText (bodyAlone (js "ok"))) (getCategoryEmoji (js "defi")) (calls.filterMap SendCall.text?) ↔
        BodyFits (builtInText (bodyAlone (js "ok"))) (getCategoryEmoji (js "defi"))) :=
  containsBody_iff RegExps.literal {} ⟨rfl, rfl⟩ rfl

/-- A body of one letter many times. -/
def longBody : TelegramParams := bodyAlone (List.replicate 1100 113)

theorem builtInText_longBody : (builtInText longBody).body = List.replicate 1100 113 := by
  obtain ⟨r, hr, -, hclean⟩ := conversion_same (List.replicate 1100 113)
  refine hclean.trans ?_
  rw [parseMarkdownLinks_eq] at hr
  rw [← Option.some.inj hr]
  have hneeds : MARKDOWN_LINK_REGEX.Needs (· == 91) := .inl ⟨91, by decide, rfl⟩
  exact RegExp.replaceAll_of_lacking (by decide) hneeds (fun u hu => List.eq_of_mem_replicate hu ▸ rfl) _

theorem rendered_longBody : parseMarkdownToTelegramHtml (builtInText longBody).body = List.replicate 1100 113 := by
  rw [builtInText_longBody]
  exact parseMarkdownToTelegramHtml_plain fun u hu => List.eq_of_mem_replicate hu ▸ rfl

theorem count_longBody :
    (withoutBreaks (formatText (builtInText longBody) (getCategoryEmoji longBody.category))).count 113 = 1023 := by
  rw [formatText, rendered_longBody]
  decide +kernel

/-- The body is cut at the limit of a caption, so that letters of it are in no part. -/
theorem longBody_cut : longBody.body.length ≤ 10000 ∧
    ∃ calls, sendCalls RegExps.literal {} longBody none = some calls ∧
      ¬ContainsBody (builtInText longBody) (getCategoryEmoji longBody.category) (calls.filterMap SendCall.text?) ∧
      ¬(withoutBreaks (parseMarkdownToTelegramHtml (builtInText longBody).body)).Sublist
        (withoutBreaks (withoutIndicators (calls.filterMap SendCall.text?)).flatten) := by
  refine ⟨by rw [longBody, bodyAlone, List.length_replicate]; decide, ?_⟩
  obtain ⟨calls, heq, hunits⟩ := @sendCalls_plain RegExps.literal {} longBody none ⟨rfl, rfl⟩ rfl
  have hlost : ¬(withoutBreaks (parseMarkdownToTelegramHtml (builtInText longBody).body)).Sublist
      (withoutBreaks (withoutIndicators (calls.filterMap SendCall.text?)).flatten) := by
    intro hsub
    have hcount := hsub.count_le 113
    have hbody : withoutBreaks (List.replicate 1100 113) = List.replicate 1100 113 :=
      List.filter_replicate_of_pos (by decide)
    rw [hunits, count_longBody, rendered_longBody, hbody, List.count_replicate_self] at hcount
    exact absurd hcount (by decide)
  refine ⟨calls, heq, fun hcontains => ?_, hlost⟩
  rcases hcontains with hnil | hprefix
  · exact hlost (hnil ▸ List.nil_sublist _)
  · refine hlost (List.Sublist.trans ?_ hprefix.sublist)
    rw [beginning_eq, withoutBreaks_append, lineOf, rendered_longBody]
    exact List.sublist_append_right _ _

end HeraldGateway.TelegramService
