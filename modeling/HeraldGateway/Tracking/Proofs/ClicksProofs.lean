import HeraldGateway.Templates.Rendering
import HeraldGateway.Text.Proofs.UriProofs
import HeraldGateway.Tracking.Clicks
import Mathlib.Data.List.TakeWhile

/-!
# Tracking, proved
-/

namespace HeraldGateway

open Text

/-!
## Where tracked links lead

A tracked link leads to the text of the attribute that it replaced, since the text is encoded without reading
it. That is what the client would have opened if the text stands for itself, and only then.
-/

section

/-! ### Emails -/

theorem eq_takeWhile_append {c : UInt16} {s : JsString} (h : c ∈ s) :
    ∃ rest, s = s.takeWhile (· ≠ c) ++ c :: rest := by
  induction s with
  | nil => cases h
  | cons a s ih =>
    by_cases ha : a = c
    · refine ⟨s, ?_⟩
      rw [List.takeWhile_cons_of_neg (by simp [ha]), ha, List.nil_append]
    · obtain ⟨rest, hrest⟩ := ih ((List.mem_cons.1 h).resolve_left fun heq => ha heq.symm)
      refine ⟨rest, ?_⟩
      rw [List.takeWhile_cons_of_pos (by simp [ha]), List.cons_append, ← hrest]

theorem hrefAt?_eq_some {s url : JsString} (h : hrefAt? s = some url) :
    ∃ rest, s = Piece.original (.href url) ++ rest := by
  unfold hrefAt? at h
  by_cases hstart : ((js "href=\"").isPrefixOf s && (s.drop 6).contains 34) = true
  · rw [if_pos hstart] at h
    obtain ⟨hpre, hquote⟩ := Bool.and_eq_true_iff.1 hstart
    obtain ⟨rest, rfl⟩ := List.isPrefixOf_iff_prefix.1 hpre
    have hdrop : (js "href=\"" ++ rest).drop 6 = rest := rfl
    rw [hdrop] at h hquote
    have hurl : rest.takeWhile (· ≠ 34) = url := by
      dsimp only at h
      split at h
      · split_ifs at h
        exact Option.some.inj h
      · cases h
    obtain ⟨tail, htail⟩ := eq_takeWhile_append (List.contains_iff_mem.1 hquote)
    refine ⟨tail, ?_⟩
    rw [hurl] at htail
    rw [htail, Piece.original, List.append_assoc, List.append_assoc]
    rfl
  · rw [if_neg hstart] at h
    cases h

/-- The pieces of an email make up its text. -/
theorem pieces_original (skip : Nat) (html : JsString) :
    (pieces skip html).flatMap (·.original) = html.drop skip := by
  induction html generalizing skip with
  | nil =>
    rw [pieces, List.drop_nil]
    rfl
  | cons a s ih =>
    cases skip with
    | succ skip => rw [pieces, ih, List.drop_succ_cons]
    | zero =>
      rw [pieces, List.drop_zero]
      cases hhref : hrefAt? (a :: s) with
      | none =>
        show a :: (pieces 0 s).flatMap (·.original) = a :: s
        rw [ih, List.drop_zero]
      | some url =>
        obtain ⟨rest, hrest⟩ := hrefAt?_eq_some hhref
        show Piece.original (.href url) ++ (pieces (url.length + 6) s).flatMap (·.original) = a :: s
        have hlength : (Piece.original (.href url)).length = url.length + 7 := by
          rw [Piece.original, List.length_append, List.length_append]
          have hfirst : (js "href=\"").length = 6 := rfl
          have hlast : (js "\"").length = 1 := rfl
          omega
        have hdrop : s.drop (url.length + 6) = (a :: s).drop (url.length + 7) := rfl
        rw [ih, hdrop, hrest, ← hlength, List.drop_left]

variable {client : MailClient} {base : PublicUrl} {replaceInvalid : List UInt8 → JsString}
  {notificationId protocolId html url : JsString}

/-- The tracked link stands in the email that is sent. -/
theorem trackedUrl_infix (h : .href url ∈ pieces 0 html) :
    js "href=\"" ++ trackedUrl base notificationId protocolId url ++ js "\"" <:+:
      trackLinks base notificationId protocolId html := by
  obtain ⟨before, after, hpieces⟩ := List.append_of_mem h
  refine ⟨before.flatMap (·.tracked base notificationId protocolId),
    after.flatMap (·.tracked base notificationId protocolId), ?_⟩
  rw [trackLinks, hpieces, List.flatMap_append, List.flatMap_cons, List.append_assoc]
  rfl

/-! ### A client -/

/-- The character references that the renderers of the gateway write. -/
def references : List (JsString × UInt16) :=
  [(js "&amp;", 38), (js "&lt;", 60), (js "&gt;", 62), (js "&quot;", 34), (js "&#039;", 39), (js "&#x27;", 39),
    (js "&#x60;", 96), (js "&#x3D;", 61)]

/-- The value of an attribute with references, where `skip` code units of one are left. -/
def readReferences : Nat → JsString → JsString
  | _, [] => []
  | skip + 1, _ :: s => readReferences skip s
  | 0, a :: s =>
    match references.find? fun r => r.1.isPrefixOf (a :: s) with
    | some r => r.2 :: readReferences (r.1.length - 1) s
    | none => a :: readReferences 0 s

theorem readReferences_append {s : JsString} (hs : 38 ∉ s) (t : JsString) :
    readReferences 0 (s ++ t) = s ++ readReferences 0 t := by
  induction s with
  | nil => rfl
  | cons a s ih =>
    obtain ⟨hne, hs⟩ := List.ne_and_not_mem_of_not_mem_cons hs
    have hnone : (references.find? fun r => r.1.isPrefixOf (a :: (s ++ t))) = none := by
      refine List.find?_eq_none.2 fun r hr hpre => ?_
      have hstart : ∀ r ∈ references, r.1.head? = some 38 := by decide
      obtain ⟨rest, hrest⟩ := List.isPrefixOf_iff_prefix.1 hpre
      obtain ⟨tail, htail⟩ := List.head?_eq_some_iff.1 (hstart r hr)
      rw [htail] at hrest
      exact hne (List.cons.inj hrest).1
    rw [List.cons_append, readReferences, hnone]
    exact congrArg (a :: ·) (ih hs)

theorem not_mem_of_visible {s : JsString} (h : ∀ u ∈ s, isVisible u = true) : 38 ∉ s :=
  fun hmem => absurd (h 38 hmem) (by decide)

/-- A client that reads these references. -/
def referenceClient : MailClient where
  reads := readReferences 0
  reads_query := by
    intro s t h
    have hs := not_mem_of_visible fun u hu => h u (List.mem_append_left t hu)
    have ht := not_mem_of_visible fun u hu => h u (List.mem_append_right s hu)
    have hnil : readReferences 0 [] = [] := rfl
    have htail := readReferences_append ht []
    rw [List.append_nil, hnil, List.append_nil] at htail
    have hquery : readReferences 0 (js "&url=" ++ t) = js "&url=" ++ readReferences 0 t := rfl
    rw [List.append_assoc, readReferences_append hs, hquery, htail]

/-- A base to try this with. -/
def exampleUrl : PublicUrl where
  url := js "https://gateway.example"
  plain := by
    have hall : (js "https://gateway.example").all (fun u => isVisible u && u != 35 && u != 63) = true := by
      decide
    intro u hu
    have hplain := List.all_eq_true.1 hall u hu
    rw [Bool.and_eq_true_iff, Bool.and_eq_true_iff, bne_iff_ne, bne_iff_ne] at hplain
    exact ⟨hplain.1.1, hplain.1.2, hplain.2⟩

/-! ### Requests -/

theorem isVisible_of_safe {u : UInt16} (h : Uri.isSafe u = true) : isVisible u = true := by
  obtain ⟨hrange, hnot⟩ := Bool.and_eq_true_iff.1 h
  have hne : u ≠ 38 := by
    rintro rfl
    cases hnot
  rw [isVisible, hrange, Bool.true_and]
  exact bne_iff_ne.2 hne

theorem isVisible_lt {u : UInt16} (h : isVisible u = true) : u < 0xD800 := by
  have hlt : u < 127 := of_decide_eq_true (Bool.and_eq_true_iff.1 (Bool.and_eq_true_iff.1 h).1).2
  exact UInt16.lt_trans hlt (by decide)

/-- The link up to the parameter that carries the URL. -/
def linkStart (base : PublicUrl) (notificationId protocolId : JsString) : JsString :=
  base.url ++ js "/v1/track/click/" ++ Uri.encodeComponent notificationId ++ js "?p=" ++
    Uri.encodeComponent protocolId

theorem linkStart_visible : ∀ u ∈ linkStart base notificationId protocolId, isVisible u = true := by
  intro u hu
  unfold linkStart at hu
  simp only [List.mem_append] at hu
  rcases hu with (((hu | hu) | hu) | hu) | hu
  · exact (base.plain u hu).1
  · exact List.all_eq_true.1 (show (js "/v1/track/click/").all isVisible = true by decide) u hu
  · exact isVisible_of_safe (Uri.encodeComponent_safe _ u hu)
  · exact List.all_eq_true.1 (show (js "?p=").all isVisible = true by decide) u hu
  · exact isVisible_of_safe (Uri.encodeComponent_safe _ u hu)

/-- A tracked link is opened as it is written. -/
theorem opens_tracked :
    client.opens (trackedUrl base notificationId protocolId url) =
    trackedUrl base notificationId protocolId url := by
  have hencoded : ∀ u ∈ Base64url.encode (Utf8.encode url), isVisible u = true :=
    fun u hu => isVisible_of_safe (Uri.base64url_safe _ u hu).1
  have hplain : ∀ u ∈ linkStart base notificationId protocolId ++ Base64url.encode (Utf8.encode url),
      isVisible u = true := by
    intro u hu
    rcases List.mem_append.1 hu with hu | hu
    · exact linkStart_visible u hu
    · exact hencoded u hu
  have hascii : ∀ u ∈ trackedUrl base notificationId protocolId url, u < 0xD800 := by
    intro u hu
    rcases List.mem_append.1 hu with hu | hu
    · rcases List.mem_append.1 hu with hu | hu
      · exact isVisible_lt (linkStart_visible u hu)
      · exact of_decide_eq_true (List.all_eq_true.1 (show (js "&url=").all (· < 0xD800) = true by decide) u hu)
    · exact isVisible_lt (hencoded u hu)
  rw [MailClient.opens, Utf8.wellFormed_of_lt hascii]
  exact client.reads_query _ _ hplain

theorem encodeComponent_ne_nil {s : JsString} (h : s ≠ []) : Uri.encodeComponent s ≠ [] := by
  intro hnil
  have hbytes := Uri.percentBytes?_escape (Utf8.encode s)
  rw [show (Utf8.encode s).flatMap Uri.escapeByte = [] from hnil] at hbytes
  exact Utf8.encode_ne_nil h (Option.some.inj hbytes).symm

/-- The parameter of a tracked link is read as it was written. -/
theorem queryValue_tracked {p : JsString} (hp : 38 ∉ p) (b : List UInt8) :
    queryValue (js "url") (js "p=" ++ p ++ js "&url=" ++ Base64url.encode b) = some (Base64url.encode b) := by
  have hencoded := Uri.base64url_safe b
  have hamp : 38 ∉ js "url=" ++ Base64url.encode b := by
    intro hmem
    rcases List.mem_append.1 hmem with hmem | hmem
    · exact absurd hmem (by decide)
    · exact Uri.not_mem_of_safe (fun u hu => (hencoded u hu).1) rfl hmem
  have hfirst : 38 ∉ js "p=" ++ p := by
    intro hmem
    rcases List.mem_append.1 hmem with hmem | hmem
    · exact absurd hmem (by decide)
    · exact hp hmem
  have hsplit : splitOn 38 (js "p=" ++ p ++ js "&url=" ++ Base64url.encode b) =
      [js "p=" ++ p, js "url=" ++ Base64url.encode b] := by
    rw [List.append_assoc, show js "&url=" = 38 :: js "url=" from rfl, List.cons_append,
      splitOn_append hfirst,
      splitOn_of_not_mem hamp]
  have hvalue : Uri.parameter (js "url=" ++ Base64url.encode b) = (js "url", Base64url.encode b) := by
    have hplain : Uri.decodeComponent (Base64url.encode b) = Base64url.encode b :=
      Uri.decodeComponent_of_plain (Uri.not_mem_of_safe (fun u hu => (hencoded u hu).1) rfl)
        fun hmem => (hencoded 37 hmem).2 rfl
    show (Uri.decodeComponent (js "url"), Uri.decodeComponent (Base64url.encode b)) = _
    rw [hplain]
    rfl
  have hname : (Uri.parameter (js "p=" ++ p)).1 = js "p" := rfl
  rw [queryValue, hsplit, List.map_cons, List.map_singleton, hvalue,
    List.find?_cons_of_neg (by rw [hname]; decide),
    List.find?_singleton, if_pos (beq_self_eq_true (js "url"))]
  rfl

/-- The request for a tracked link carries its URL. -/
theorem clickRequest?_tracked (hid : notificationId ≠ []) :
    ∃ id p, clickRequest? base (trackedUrl base notificationId protocolId url) =
      some ⟨id, p, some (Base64url.encode (Utf8.encode url))⟩ := by
  have hnot : ∀ {u : UInt16}, Uri.isSafe u = false → u ∉ Uri.encodeComponent notificationId :=
    fun hu => Uri.not_mem_of_safe (Uri.encodeComponent_safe notificationId) hu
  obtain ⟨id, hsegment⟩ := Option.isSome_iff_exists.1 (Uri.decodeSegment?_encodeComponent notificationId)
  have hne := encodeComponent_ne_nil hid
  have hquery : ∀ u ∈ js "p=" ++ Uri.encodeComponent protocolId ++ js "&url=" ++
    Base64url.encode (Utf8.encode url),
      u ≠ 35 := by
    rintro u hu rfl
    simp only [List.mem_append] at hu
    rcases hu with ((hu | hu) | hu) | hu
    · exact absurd hu (by decide)
    · exact Uri.not_mem_of_safe (Uri.encodeComponent_safe protocolId) rfl hu
    · exact absurd hu (by decide)
    · exact Uri.not_mem_of_safe (fun v hv => (Uri.base64url_safe _ v hv).1) rfl hu
  have hvalue := queryValue_tracked (p := Uri.encodeComponent protocolId)
    (Uri.not_mem_of_safe (Uri.encodeComponent_safe protocolId) rfl) (Utf8.encode url)
  have htarget : trackedUrl base notificationId protocolId url =
      (base.url ++ js "/v1/track/click/") ++ (Uri.encodeComponent notificationId ++
        63 :: (js "p=" ++ Uri.encodeComponent protocolId ++ js "&url=" ++ Base64url.encode (Utf8.encode url))) := by
    simp only [trackedUrl, List.append_assoc]
    rfl
  generalize js "p=" ++ Uri.encodeComponent protocolId ++ js "&url=" ++
    Base64url.encode (Utf8.encode url) = query at *
  generalize Uri.encodeComponent notificationId = segment at *
  have hrest : ∀ u ∈ segment ++ 63 :: query, decide (u ≠ 35) = true := by
    intro u hu
    refine decide_eq_true ?_
    rcases List.mem_append.1 hu with hu | hu
    · exact fun heq => hnot (u := 35) rfl (heq ▸ hu)
    · rcases List.mem_cons.1 hu with rfl | hu
      · decide
      · exact hquery u hu
  have hsegmentEnd : ∀ u ∈ segment, decide (u ≠ 63) = true :=
    fun u hu => decide_eq_true fun heq => hnot (u := 63) rfl (heq ▸ hu)
  refine ⟨id, queryValue (js "p") query, ?_⟩
  unfold clickRequest?
  dsimp only
  rw [htarget, if_pos (List.isPrefixOf_iff_prefix.2 (List.prefix_append _ _)), List.drop_left,
    List.takeWhile_eq_self_iff.2 hrest, List.takeWhile_append_of_pos hsegmentEnd,
    List.dropWhile_append_of_pos hsegmentEnd, List.takeWhile_cons_of_neg (by decide),
    List.dropWhile_cons_of_neg (by decide), List.append_nil, List.drop_one, List.tail_cons, hsegment, hvalue,
    if_neg]
  · rfl
  · rw [Bool.or_eq_true, not_or]
    exact ⟨fun hempty => hne (List.isEmpty_iff.1 hempty), fun hslash => hnot rfl (List.contains_iff_mem.1 hslash)⟩

/-- A tracked link leads to the text of the attribute. -/
theorem follow_tracked (hid : notificationId ≠ []) :
    client.follow base replaceInvalid (trackedUrl base notificationId protocolId url) =
      some (Utf8.wellFormed url) := by
  obtain ⟨id, p, hrequest⟩ : ∃ id p, clickRequest? base (trackedUrl base notificationId protocolId url) =
      some ⟨id, p, some (Base64url.encode (Utf8.encode url))⟩ := clickRequest?_tracked hid
  rw [MailClient.follow, opens_tracked, hrequest, Option.map_some, trackClick]
  show some ((Utf8.decode? (Base64url.decode (Base64url.encode (Utf8.encode url)))).getD _) = _
  rw [Base64url.decode_encode, Utf8.decode?_encode, Option.getD_some]

end

/-!
## Requests that are answered safely

The endpoint of Telegram looks at the scheme of its link and at the protocol of the notification. That of
emails takes both from the request.
-/

section

variable {rt : WebRuntime} {dir : Directory} {taken : Bool}

theorem isWebScheme_default : ∀ scheme ∈ Url.scheme? (js "https://useherald.xyz"), IsWebScheme scheme := by
  decide +kernel

/-- The endpoint of Telegram leads to the web. -/
theorem telegramDestination_web (url : Option JsString) :
    ∀ scheme ∈ Url.scheme? (rt.telegramDestination url), IsWebScheme scheme := by
  unfold WebRuntime.telegramDestination
  split
  · dsimp only
    split
    · next protocol hprotocol =>
      split
      · exact isWebScheme_default
      · next hweb =>
        intro scheme hscheme
        unfold WebRuntime.protocol? at hprotocol
        split at hprotocol
        · rw [Url.scheme?_strip hscheme] at hprotocol
          obtain rfl := Option.some.inj hprotocol
          by_cases hhttp : scheme = js "http"
          · exact .inl hhttp
          · exact .inr (by_contra fun hhttps => hweb ⟨hhttp, hhttps⟩)
        · cases hprotocol
    · exact isWebScheme_default
  · exact isWebScheme_default

/-- What the endpoint of Telegram records is filed under the owner. -/
theorem recordClick_filed {notifId : JsString} {row : EngagementRow}
    (h : row ∈ dir.recordClick taken notifId) :
    dir.owner? row.notificationId = some row.protocolId := by
  unfold Directory.recordClick at h
  split at h
  · split at h
    · next howner =>
      split at h
      · obtain rfl := Option.some.inj h
        exact howner
      · cases h
    · cases h
  · cases h

/-- What is created for a notification and a protocol is filed under the owner exactly if that is the
protocol. -/
theorem create_filed_iff (notificationId eventType : JsString) (protocolId linkUrl : Option JsString) :
    (∀ row ∈ (if truthy (some notificationId) && truthy protocolId then
        dir.create taken notificationId (protocolId.getD []) eventType linkUrl else none),
      dir.owner? row.notificationId = some row.protocolId) ↔
    (taken = true → NamesOwner dir notificationId protocolId) := by
  constructor
  · intro h htaken hid hp n hn owner howner p hprot hhas
    have hrow : (⟨n, p, eventType, linkUrl⟩ : EngagementRow) ∈ (if truthy (some notificationId) && truthy protocolId then
        dir.create taken notificationId (protocolId.getD []) eventType linkUrl else none) := by
      rw [if_pos (by rw [hid, hp]; rfl), Directory.create, show dir.uuid? notificationId = some n from hn,
        show dir.uuid? (protocolId.getD []) = some p from hprot]
      dsimp only
      rw [if_pos (by rw [htaken, show dir.owner? n = some owner from howner, hhas]; rfl)]
      rfl
    have hfiled := h _ hrow
    rw [show dir.owner? n = some owner from howner] at hfiled
    exact (Option.some.inj hfiled).symm
  · intro h row hrow
    split at hrow
    · next hgiven =>
      rw [Bool.and_eq_true] at hgiven
      unfold Directory.create at hrow
      split at hrow
      · next n p hn hp =>
        split at hrow
        · next htaken =>
          obtain rfl := Option.some.inj hrow
          simp only [Bool.and_eq_true] at htaken
          obtain ⟨owner, howner⟩ := Option.isSome_iff_exists.1 htaken.1.2
          rw [howner, h htaken.1.1 hgiven.1 hgiven.2 n hn owner howner p hp htaken.2]
        · cases hrow
      · cases hrow
    · cases hrow

/-- Where a click on an email leads. -/
theorem trackClick_web_iff {r : ClickRequest} :
    (∀ scheme ∈ Url.scheme? (trackClick rt.replaceInvalid r).2, IsWebScheme scheme) ↔
      ∀ encoded ∈ r.url, ∀ scheme ∈ Url.scheme? (rt.textOf encoded), IsWebScheme scheme := by
  cases hurl : r.url with
  | none =>
    refine iff_of_true ?_ nofun
    simp only [trackClick, hurl]
    exact isWebScheme_default
  | some encoded =>
    simp only [trackClick, hurl, Option.mem_some_iff, forall_eq']
    rfl

/-- An answer is safe exactly if the request is harmless. -/
theorem tracking_safe_iff (r : TrackingRequest) :
    (trackingAnswer rt dir taken r).Safe dir ↔ r.Harmless rt dir taken := by
  cases r with
  | pixel notificationId protocolId =>
    exact Iff.trans ⟨fun h => h.filed, fun h => ⟨nofun, h⟩⟩ (create_filed_iff notificationId (js "open") protocolId none)
  | click r =>
    have hred : (∀ location ∈ (trackingAnswer rt dir taken (.click r)).location, ∀ scheme ∈ Url.scheme? location,
        IsWebScheme scheme) ↔ ∀ encoded ∈ r.url, ∀ scheme ∈ Url.scheme? (rt.textOf encoded),
          IsWebScheme scheme := by
      refine Iff.trans ?_ trackClick_web_iff
      simp only [trackingAnswer, Option.mem_some_iff, forall_eq', rt.encodeUrl_scheme]
    have hfiled : (∀ row ∈ (trackingAnswer rt dir taken (.click r)).recorded,
        dir.owner? row.notificationId = some row.protocolId) ↔
          (taken = true → NamesOwner dir r.notificationId r.protocolId) := by
      refine Iff.trans ?_ (create_filed_iff r.notificationId (js "click") r.protocolId
        (some (trackClick rt.replaceInvalid r).2))
      have hrec : (trackingAnswer rt dir taken (.click r)).recorded =
          (if truthy (some r.notificationId) && truthy r.protocolId then
            dir.create taken r.notificationId (r.protocolId.getD []) (js "click")
              (some (trackClick rt.replaceInvalid r).2) else none) := by
        simp only [trackingAnswer, trackClick]
        split <;> rfl
      rw [hrec]
    exact Iff.trans ⟨fun h => ⟨h.redirect, h.filed⟩, fun h => ⟨h.1, h.2⟩⟩ (and_congr hred hfiled)
  | telegramClick notifId url =>
    refine iff_of_true ⟨?_, fun row hrow => recordClick_filed hrow⟩ trivial
    intro location hlocation scheme hscheme
    obtain rfl := Option.some.inj hlocation
    rw [rt.encodeUrl_scheme] at hscheme
    exact telegramDestination_web url scheme hscheme

/-! ### Requests that are answered unsafely -/

/-- A runtime that has nothing to replace and nothing to escape. -/
def WebRuntime.plain : WebRuntime where
  replaceInvalid _ := []
  isUrl _ := true
  encodeUrl s := s
  encodeUrl_scheme _ := rfl

/-- A database of two protocols, of which one owns every notification. -/
def twoProtocols : Directory where
  uuid? := some
  owner? _ := some (js "p")
  hasProtocol p := p = js "p" ∨ p = js "q"

/-- A click on an email with a link of its own. -/
def scriptedClick : TrackingRequest :=
  .click ⟨js "n", none, some (Base64url.encode (Utf8.encode (js "javascript:alert(1)")))⟩

/-- A click leads to a script, and an open is filed under a protocol that has nothing to do with it. -/
theorem script_followed_and_stranger_credited :
    ¬ (trackingAnswer .plain twoProtocols true scriptedClick).Safe twoProtocols ∧
      ¬ (trackingAnswer .plain twoProtocols true (.pixel (js "n") (some (js "q")))).Safe twoProtocols := by
  refine ⟨fun h => ?_, fun h => ?_⟩
  · have hscript : js "javascript:alert(1)" ∈ (trackingAnswer .plain twoProtocols true scriptedClick).location := by
      decide +kernel
    have hweb := h.redirect _ hscript (js "javascript") (by decide +kernel)
    revert hweb
    decide +kernel
  · have hrow : ⟨js "n", js "q", js "open", none⟩ ∈
        (trackingAnswer .plain twoProtocols true (.pixel (js "n") (some (js "q")))).recorded := by
          decide +kernel
    have howner := h.filed _ hrow
    revert howner
    decide +kernel

end

end HeraldGateway
