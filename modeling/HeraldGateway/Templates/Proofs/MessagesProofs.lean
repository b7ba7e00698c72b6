import HeraldGateway.Gateway.Proofs.FootprintProofs
import HeraldGateway.Templates.Messages

/-!
# Whose subject a message shows

The fields of a job keep their places in email and SMS whatever the template variables are. In the text of a
Telegram template a variable of the same name wins, and in its buttons one whose pattern matches the
placeholder.
-/

namespace HeraldGateway

open Text

variable {R : RegExps} {vars : Object JsString} {name own : JsString} {p : TelegramParams}

/-! ### Injecting -/

/-- Injection succeeds exactly if every key makes a pattern. -/
theorem injectVariables_isSome {template : JsString} :
    (injectVariables R template vars).isSome = true ↔
    ∀ key ∈ vars.keys, R.valid (placeholder key) = true := by
  have hfold : ∀ (es : List (JsString × JsString)) (text : JsString),
      (es.foldlM (injectVariable R) text).isSome = true ↔ ∀ e ∈ es, R.valid (placeholder e.1) = true := by
    intro es
    induction es with
    | nil => simp
    | cons e es ih =>
      intro text
      rw [List.foldlM_cons, List.forall_mem_cons, injectVariable]
      by_cases he : R.valid (placeholder e.1) = true
      · rw [if_pos he]
        exact (ih _).trans ⟨fun h => ⟨he, h⟩, And.right⟩
      · rw [if_neg he]
        exact ⟨nofun, fun h => absurd h.1 he⟩
  refine (hfold _ template).trans ⟨fun h key hkey => ?_, fun h e he => h e.1 (Object.mem_entries.1 he).1⟩
  obtain ⟨a, ha⟩ := Object.exists_get?_of_mem_keys hkey
  exact h (key, a) (Object.mem_entries.2 ⟨hkey, ha⟩)

/-- Variables whose patterns do not match leave a text as it is. -/
theorem injectVariables_skips (hR : R.Documented) {es : List (JsString × JsString)} {text : JsString}
    (hvalid : ∀ e ∈ es, R.valid (placeholder e.1) = true)
    (h : ∀ e ∈ es, R.test (placeholder e.1) text = false) :
    es.foldlM (injectVariable R) text = some text := by
  induction es with
  | nil => rfl
  | cons e es ih =>
    rw [List.foldlM_cons, injectVariable, if_pos (hvalid e List.mem_cons_self),
      hR.replaceAll_of_no_match _ _ _ (h e List.mem_cons_self)]
    exact ih (fun e' he' => hvalid e' (List.mem_cons_of_mem e he'))
      fun e' he' => h e' (List.mem_cons_of_mem e he')

/-- What stands for a placeholder is what it is first replaced with. -/
theorem injectVariables_standsFor (hR : R.Documented) {value : JsString}
    (hvalid : ∀ key ∈ vars.keys, R.valid (placeholder key) = true) (h : standsFor R vars name = some value) :
    ∃ key, ∃ rest : List (JsString × JsString), takes R name key = true ∧ (key, value) ∈ vars.entries ∧
      injectVariables R (placeholder name) vars = rest.foldlM (injectVariable R)
      (R.replaceAll (placeholder key) value (placeholder name)) := by
  obtain ⟨key, hfirst, hvalue⟩ := Option.bind_eq_some_iff.1 h
  obtain ⟨htakes, before, after, hkeys, hbefore⟩ := List.find?_eq_some_iff_append.1 hfirst
  have hmem : key ∈ vars.keys := by simp [hkeys]
  have hentries : vars.entries = before.filterMap (fun key => (vars.get? key).map fun a => (key, a)) ++
      (key, value) :: after.filterMap fun key => (vars.get? key).map fun a => (key, a) := by
    rw [Object.entries, hkeys, List.filterMap_append, List.filterMap_cons, hvalue]
    rfl
  have hskip : (before.filterMap fun key => (vars.get? key).map fun a => (key, a)).foldlM (injectVariable R)
      (placeholder name) = some (placeholder name) := by
    refine injectVariables_skips hR (fun e he => ?_) fun e he => ?_
    · obtain ⟨k, hk, hsome⟩ := List.mem_filterMap.1 he
      obtain ⟨a, -, rfl⟩ := Option.map_eq_some_iff.1 hsome
      exact hvalid k (by simp [hkeys, hk])
    · obtain ⟨k, hk, hsome⟩ := List.mem_filterMap.1 he
      obtain ⟨a, -, rfl⟩ := Option.map_eq_some_iff.1 hsome
      exact (Bool.not_eq_true' _).mp (hbefore k hk)
  refine ⟨key, after.filterMap fun key => (vars.get? key).map fun a => (key, a), htakes,
    Object.mem_entries.2 ⟨hmem, hvalue⟩, ?_⟩
  rw [injectVariables, hentries, List.foldlM_append, hskip, Option.bind_eq_bind, Option.bind_some,
    List.foldlM_cons,
    injectVariable, if_pos (hvalid key hmem)]
  rfl

/-! ### The fields of a job -/

/-- The names of the fields. -/
def fieldNames : List JsString := [js "protocolName", js "subject", js "body", js "category"]

theorem fieldNames_nodup : fieldNames.Nodup := by decide

theorem fieldNames_letters : ∀ key ∈ fieldNames, key.all isLetter = true := by decide

theorem fieldNames_named : ∀ key ∈ fieldNames, Object.isIndex key = false := by decide

/-- No field's placeholder contains another one. -/
theorem includes_placeholder : ∀ key ∈ fieldNames, ∀ name ∈ fieldNames,
    includes (placeholder key) (placeholder name) = decide (key = name) := by decide +kernel

theorem takes_field (hR : R.Documented) {key : JsString} (hkey : key ∈ fieldNames)
    (hname : name ∈ fieldNames) :
    takes R name key = decide (key = name) := by
  rw [takes, hR.test_letters _ _ (fieldNames_letters key hkey), includes_placeholder key hkey name hname]

theorem map_fieldProps (p : TelegramParams) : (fieldProps p).map Prod.fst = fieldNames := rfl

theorem names_fields (p : TelegramParams) : (Object.ofList (fieldProps p)).names = fieldNames := by
  rw [Object.ofList, Object.names_assignAll (by rw [map_fieldProps]; exact fieldNames_nodup), map_fieldProps]
  rfl

theorem get?_fields (p : TelegramParams) (key : JsString) :
    (Object.ofList (fieldProps p)).get? key = (fieldProps p).lookup key := by
  rw [Object.ofList, Object.get?_assignAll (by rw [map_fieldProps]; exact fieldNames_nodup)]
  exact Option.or_none

theorem lookup_fieldProps {key : JsString} (hkey : key ∉ fieldNames) : (fieldProps p).lookup key = none := by
  rw [List.lookup_eq_none_iff]
  exact fun e he => bne_iff_ne.2 fun h => hkey (by rw [h, ← map_fieldProps p]; exact List.mem_map_of_mem he)

/-- Among names of fields the placeholder of one of them is taken by itself. -/
theorem find?_takes (hR : R.Documented) {keys : List JsString} (hkeys : ∀ key ∈ keys, key ∈ fieldNames)
    (hmem : name ∈ keys) : keys.find? (takes R name) = some name := by
  induction keys with
  | nil => cases hmem
  | cons key keys ih =>
    rw [List.find?_cons, takes_field hR (hkeys key List.mem_cons_self) (hkeys name hmem)]
    by_cases h : key = name
    · rw [decide_eq_true h, h]
    · rw [decide_eq_false h]
      refine ih (fun key' hkey' => hkeys key' (List.mem_cons_of_mem key hkey')) ?_
      exact (List.mem_cons.1 hmem).resolve_left fun h' => h h'.symm

/-- In a text a field stands for its placeholder exactly if the template variables leave it alone. -/
theorem standsFor_text (hR : R.Documented) (hname : name ∈ fieldNames)
    (hown : (fieldProps p).lookup name = some own) :
    standsFor R (textVariables p) name = some own ↔ LeavesText R (givenVariables p) name own := by
  have hkeys : (textVariables p).keys = (givenVariables p).indexKeys ++ (fieldNames ++
      (givenVariables p).namedKeys.filter fun key => key ∉ fieldNames) := by
    have hspread : ((Object.ofList (fieldProps p)).spread (givenVariables p)).keys = _ :=
      Object.keys_spread (by rw [names_fields]; exact fieldNames_named)
    rwa [names_fields] at hspread
  have hget : ∀ key, (textVariables p).get? key =
    ((givenVariables p).get? key).or ((fieldProps p).lookup key) :=
    fun key => Object.get?_spread.trans (congrArg _ (get?_fields p key))
  rw [standsFor, hkeys, List.find?_append, List.find?_append, find?_takes hR (fun _ => id) hname,
    Option.some_or,
    LeavesText]
  cases hfirst : (givenVariables p).indexKeys.find? (takes R name) with
  | some key =>
    have hmem : key ∈ (givenVariables p).keys := List.mem_append_left _ (List.mem_of_find?_eq_some hfirst)
    obtain ⟨value, hvalue⟩ := Object.exists_get?_of_mem_keys hmem
    simp [hget, hvalue]
  | none =>
    rw [Option.none_or, Option.bind_some, hget, hown]
    cases (givenVariables p).get? name <;> simp

/-- In a button a field stands for its placeholder exactly if the template variables leave it alone. -/
theorem standsFor_button (hR : R.Documented) (hname : name ∈ fieldNames)
    (hown : (fieldProps p).lookup name = some own) :
    standsFor R (buttonVariables p) name = some own ↔ LeavesButtons R (givenVariables p) name own := by
  have hnodup : ((fieldProps p).map Prod.fst).Nodup := fieldNames_nodup
  have hkeys : (buttonVariables p).keys =
      (givenVariables p).keys ++ fieldNames.filter fun key => key ∉ (givenVariables p).names :=
    Object.keys_assignAll hnodup fieldNames_named
  have hget : ∀ key, (buttonVariables p).get? key =
    ((fieldProps p).lookup key).or ((givenVariables p).get? key) :=
    fun key => Object.get?_assignAll hnodup
  rw [standsFor, hkeys, List.find?_append, LeavesButtons]
  cases hfirst : (givenVariables p).keys.find? (takes R name) with
  | some key =>
    rw [Option.some_or, Option.bind_some, hget]
    by_cases hkey : key = name
    · simp [hkey, hown]
    · have hother : key ∉ fieldNames := fun hmem => by
        have htakes := List.find?_some hfirst
        rw [takes_field hR hmem hname, decide_eq_true_iff] at htakes
        exact hkey htakes
      simp [lookup_fieldProps hother, hkey]
  | none =>
    have hnew : name ∉ (givenVariables p).names := fun hmem => by
      have htakes := List.find?_eq_none.1 hfirst name (Object.mem_keys.2 hmem)
      rw [takes_field hR hname hname, decide_eq_true rfl] at htakes
      exact htakes rfl
    have hmem : name ∈ fieldNames.filter fun key => key ∉ (givenVariables p).names :=
      List.mem_filter.2 ⟨hname, decide_eq_true hnew⟩
    rw [Option.none_or, find?_takes hR (fun key hkey => (List.mem_filter.1 hkey).1) hmem,
      Option.bind_some, hget, hown]
    simp

/-- The patterns of a text are those of the template variables, besides the fields. -/
theorem valid_text (hR : R.Documented) : (∀ key ∈ (textVariables p).keys, R.valid (placeholder key) = true) ↔
    ∀ key ∈ (givenVariables p).keys, R.valid (placeholder key) = true := by
  have hnames : (textVariables p).names =
      fieldNames ++ (givenVariables p).names.filter fun key => key ∉ fieldNames := by
    have hspread := Object.names_assignAll (o := Object.ofList (fieldProps p)) (givenVariables p).nodup
    rwa [names_fields] at hspread
  constructor
  · intro h key hkey
    by_cases hfield : key ∈ fieldNames
    · exact hR.valid_letters key (fieldNames_letters key hfield)
    · exact h key (Object.mem_keys.2 (hnames ▸ List.mem_append_right _
        (List.mem_filter.2 ⟨Object.mem_keys.1 hkey, decide_eq_true hfield⟩)))
  · intro h key hkey
    rcases List.mem_append.1 (hnames ▸ Object.mem_keys.1 hkey) with hfield | hgiven
    · exact hR.valid_letters key (fieldNames_letters key hfield)
    · exact h key (Object.mem_keys.2 (List.mem_filter.1 hgiven).1)

theorem valid_button (hR : R.Documented)
    (h : ∀ key ∈ (givenVariables p).keys, R.valid (placeholder key) = true) :
    ∀ key ∈ (buttonVariables p).keys, R.valid (placeholder key) = true := by
  have hkeys : (buttonVariables p).keys =
      (givenVariables p).keys ++ fieldNames.filter fun key => key ∉ (givenVariables p).names :=
    @Object.keys_assignAll _ (givenVariables p) (fieldProps p) fieldNames_nodup fieldNames_named
  intro key hkey
  rcases List.mem_append.1 (hkeys ▸ hkey) with hgiven | hfield
  · exact h key hgiven
  · exact hR.valid_letters key (fieldNames_letters key (List.mem_filter.1 hfield).1)

theorem mapM_isSome {α β : Type} {f : α → Option β} {as : List α} (h : ∀ a ∈ as, (f a).isSome = true) :
    (as.mapM f).isSome = true := by
  induction as with
  | nil => rfl
  | cons a as ih =>
    obtain ⟨b, hb⟩ := Option.isSome_iff_exists.1 (h a List.mem_cons_self)
    obtain ⟨bs, hbs⟩ := Option.isSome_iff_exists.1 (ih fun a' ha' => h a' (List.mem_cons_of_mem a ha'))
    rw [List.mapM_cons, hb, hbs]
    rfl

/-- A message is made of a template exactly if every key makes a pattern. -/
theorem telegramMessage_isSome (hR : R.Documented) {found : Option TemplateRecord} {t : TemplateRecord}
    (ht : templateOf p found = some t) :
    (telegramMessage R p found).isSome = true ↔
    ∀ key ∈ (givenVariables p).keys, R.valid (placeholder key) = true := by
  rw [telegramMessage, ht]
  constructor
  · intro h
    obtain ⟨m, hm⟩ := Option.isSome_iff_exists.1 h
    obtain ⟨text, htext, -⟩ := Option.bind_eq_some_iff.1 hm
    obtain ⟨result, hresult, -⟩ := Option.bind_eq_some_iff.1 htext
    exact (valid_text hR).1 (injectVariables_isSome.1 (by rw [hresult]; rfl))
  · intro h
    have hinject : ∀ template, (injectVariables R template (buttonVariables p)).isSome = true :=
      fun _ => injectVariables_isSome.2 (valid_button hR h)
    have htext : (injectVariables R t.textTemplate (textVariables p)).isSome = true :=
      injectVariables_isSome.2 ((valid_text hR).2 h)
    obtain ⟨result, hresult⟩ := Option.isSome_iff_exists.1 htext
    have hbuttons : (t.buttons.mapM (customButton R p)).isSome = true := mapM_isSome fun b _ => by
      obtain ⟨label, hlabel⟩ := Option.isSome_iff_exists.1 (hinject b.label)
      obtain ⟨url, hurl⟩ := Option.isSome_iff_exists.1 (hinject b.urlTemplate)
      rw [customButton, hlabel, hurl]
      rfl
    obtain ⟨buttons, hbuttons⟩ := Option.isSome_iff_exists.1 hbuttons
    simp only [formatCustomMessage, hresult, hbuttons]
    rfl

/-! ### Email -/

theorem emailNames_nodup : [js "protocolName", js "subject", js "body", js "category", js "walletAddress",
    js "unsubscribeUrl", js "logoUrl", js "websiteUrl", js "bannerUrl"].Nodup := by decide

/-- The variables of an email have the subject and the body of its request. -/
theorem lookup_vars (r : RenderRequest) (unsubscribeUrl : JsString) :
    (r.vars unsubscribeUrl).lookup (js "subject") = some r.subject ∧
      (r.vars unsubscribeUrl).lookup (js "body") = some r.body := by
  have hobject : ∀ key, (r.object unsubscribeUrl).get? key = _ :=
    fun key => Object.get?_assignAll emailNames_nodup
  rw [RenderRequest.vars, Object.lookup_present, Object.lookup_present, hobject, hobject]
  exact ⟨rfl, rfl⟩

/-! ### Dispatch -/

section dispatches

open Async

variable {env : Env} {job : NotificationJobData} {assets : List ProtocolAsset}
  {settings : Option ProtocolSettings}

/-- A property of programs: what they render and send is the job's. -/
abbrev HandsOutOnly {α : Type} (job : NotificationJobData) (program : Gateway α) : Prop :=
  program.Within (HandsOut job) fun _ _ => True

theorem handsOut_relays {o : Op} (h : o.relays = true) : HandsOut job o := by
  cases o <;> trivial

theorem handsOutOnly_deliverGroup {chatId groupChatId : JsString} {token : Option JsString} :
    HandsOutOnly job (deliverGroup env job settings (baseParams chatId job assets settings) groupChatId token) := by
  refine Within.bind (within_orNull (within_call trivial))
    fun alreadySent => Within.ite (fun _ => .ret _) fun _ => ?_
  refine Within.bind (Within.settle (within_sendNotification (fun o => handsOut_relays) fun _ =>
    ⟨chatId, assets, settings, rfl⟩)) fun sent => ?_
  cases sent with
  | error e => trivial
  | ok messageId =>
    refine Within.bind (within_call trivial) fun _ => ?_
    refine Within.bind (within_swallow (within_call trivial)) fun _ => ?_
    exact Within.ite (fun _ => within_swallow (within_call trivial)) fun _ => .ret _

theorem handsOutOnly_deliverTelegram {chatId : JsString} :
    HandsOutOnly job (deliverTelegram env chatId job assets) := by
  refine Within.tryCatch (Within.bind (Within.ite (fun _ => .ret _) fun _ => within_call trivial)
    fun settings => ?_) fun _ => .ret _
  cases customBotToken env job settings with
  | error e => trivial
  | ok token =>
    refine Within.bind (within_orNull (within_call trivial)) fun protocolMuted => ?_
    refine Within.ite (fun _ => .ret _) fun _ => ?_
    refine Within.bind (within_orNull (within_call trivial)) fun categoryMuted => ?_
    refine Within.ite (fun _ => .ret _) fun _ => ?_
    refine Within.bind (within_deliverSubscriber (fun o => handsOut_relays) fun _ _ =>
      ⟨chatId, assets, settings, rfl⟩) fun messageId => ?_
    exact Within.ite (fun _ => Within.bind handsOutOnly_deliverGroup fun _ => .ret _) fun _ => .ret _

theorem handsOutOnly_sendEmailMessage {email : JsString} :
    HandsOutOnly job (sendEmailMessage env email job assets) := by
  have hlink : ∀ walletHash category, HandsOutOnly job (generateSignedUnsubscribeUrl walletHash category) :=
    fun _ _ => Within.bind (within_call trivial) fun _ => .ret _
  have hsend : ∀ domain rendered tracked,
    HandsOutOnly job (sendRendered env email job domain rendered tracked) := by
    intro domain rendered tracked
    refine Within.bind (within_swallow (within_call trivial)) fun _ => ?_
    refine Within.bind (within_call trivial) fun now => Within.bind (hlink _ _) fun link => ?_
    exact Within.bind (within_call ⟨email, domain, rendered, tracked, now, link, rfl⟩) fun _ => .ret _
  refine Within.bind (within_call trivial) fun domain => Within.bind (within_call trivial) fun settings => ?_
  refine Within.bind (hlink _ _) fun link => ?_
  refine Within.bind (within_call ⟨assets, settings, link, rfl⟩)
    fun rendered => Within.ite (fun _ => ?_) fun _ => ?_
  · exact Within.bind (within_swallow (within_call trivial)) fun _ => hsend _ _ _
  · exact hsend _ _ _

/-- Dispatch renders and sends the messages of its job only. -/
theorem dispatch_handsOutOnly (channels : DecryptedChannels) :
    HandsOutOnly job (dispatch env channels job) := by
  refine Within.bind (Within.tryCatch (within_call trivial) fun _ => .ret _) fun assets => ?_
  refine Within.ite (fun _ => .ret _) fun _ => ?_
  refine Within.bind (Within.allSettled fun p hmem => ?_) fun settled =>
    Within.bind (within_swallow (within_call trivial)) fun _ => .ret _
  rcases List.mem_append.1 hmem with h | h
  · rcases List.mem_append.1 h with h | h
    · split at h
      · rw [List.mem_singleton.1 h]
        refine Within.bind (Within.ite (fun _ => within_call trivial) fun _ => .ret _) fun found => ?_
        cases found with
        | some suppressed => trivial
        | none => exact Within.tryCatch handsOutOnly_sendEmailMessage fun _ => .ret _
      · cases h
    · split at h
      · rw [List.mem_singleton.1 h]
        exact handsOutOnly_deliverTelegram
      · cases h
  · split at h
    · rw [List.mem_singleton.1 h]
      exact Within.tryCatch (Within.bind (Within.ite (fun _ => within_call ⟨_, rfl⟩) fun _ => .throw _)
        fun _ => .ret _) fun _ => .ret _
    · cases h

end dispatches

/-! ### Messages -/

/-- A template of Telegram shows the content of a request exactly if the template variables leave it alone. -/
theorem showsIn_iff (hR : R.Documented) :
    (ShowsIn R (textVariables p) p.subject (cleanText 0 p.body) ↔
      LeavesText R (givenVariables p) (js "subject") p.subject ∧
        LeavesText R (givenVariables p) (js "body") (cleanText 0 p.body)) ∧
    (ShowsIn R (buttonVariables p) p.subject (cleanText 0 p.body) ↔
      LeavesButtons R (givenVariables p) (js "subject") p.subject ∧
        LeavesButtons R (givenVariables p) (js "body") (cleanText 0 p.body)) := by
  have hsubject : (fieldProps p).lookup (js "subject") = some p.subject := rfl
  have hbody : (fieldProps p).lookup (js "body") = some (cleanText 0 p.body) := rfl
  have hnames : js "subject" ∈ fieldNames ∧ js "body" ∈ fieldNames := by decide
  refine ⟨⟨fun h => ⟨?_, ?_⟩, fun h => ⟨?_, ?_⟩⟩, ⟨fun h => ⟨?_, ?_⟩, fun h => ⟨?_, ?_⟩⟩⟩
  · exact (standsFor_text hR hnames.1 hsubject).1 h.subject
  · exact (standsFor_text hR hnames.2 hbody).1 h.body
  · exact (standsFor_text hR hnames.1 hsubject).2 h.1
  · exact (standsFor_text hR hnames.2 hbody).2 h.2
  · exact (standsFor_button hR hnames.1 hsubject).1 h.subject
  · exact (standsFor_button hR hnames.2 hbody).1 h.body
  · exact (standsFor_button hR hnames.1 hsubject).2 h.1
  · exact (standsFor_button hR hnames.2 hbody).2 h.2

theorem templateOf_eq_some {found : Option TemplateRecord} {t : TemplateRecord} :
    templateOf p found = some t ↔ found = some t ∧ 2 ≤ p.tier.getD 0 ∧ p.protocolId ≠ [] := by
  unfold templateOf
  by_cases h : 2 ≤ p.tier.getD 0 ∧ p.protocolId ≠ []
  · rw [if_pos (by simpa using h)]
    exact ⟨fun ht => ⟨ht, h⟩, And.left⟩
  · rw [if_neg (by simpa using h)]
    exact ⟨nofun, fun ht => absurd ht.2 h⟩

/-- Replace every occurrence of a pattern, where `skip` code units of one are left. -/
def replaceLiteral (pattern value : JsString) : Nat → JsString → JsString
  | _, [] => []
  | skip + 1, _ :: s => replaceLiteral pattern value skip s
  | 0, a :: s =>
    if pattern.isPrefixOf (a :: s) then value ++ replaceLiteral pattern value (pattern.length - 1) s
    else a :: replaceLiteral pattern value 0 s

/-- Regular expressions that match themselves only. -/
def RegExps.literal : RegExps where
  valid _ := true
  test := includes
  replaceAll pattern value := replaceLiteral pattern value 0

theorem literal_documented : RegExps.literal.Documented where
  valid_letters _ _ := rfl
  test_letters _ _ _ := rfl
  replaceAll_of_no_match pattern value text h := by
    have hsame : replaceLiteral pattern value 0 text = text := by
      induction text with
      | nil => rfl
      | cons a s ih =>
        obtain ⟨hhead, htail⟩ := Bool.or_eq_false_iff.1 h
        rw [replaceLiteral, if_neg (by rw [hhead]; exact Bool.false_ne_true), ih htail]
    exact hsame

/-- A protocol that has templates. -/
def growing : AuthenticatedProtocol := { client .production with tier := 2 }

/-- A template that shows a subject and an amount. -/
def paidTemplate : TemplateRecord where
  textTemplate := js "\x7b\x7bsubject\x7d\x7d: \x7b\x7bamount\x7d\x7d"
  buttons := [⟨js "\x7b\x7bsubject\x7d\x7d", js "https://a.io"⟩]

/-- A request with a variable. -/
def paidRequest (key value : JsString) : NotifyDto where
  wallet := js "w"
  subject := js "Paid"
  body := js "Thanks"
  variableValues := some [(key, value)]

end HeraldGateway
