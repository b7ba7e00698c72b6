import HeraldGateway.Templates.UrlPolicy
import HeraldGateway.Text.Proofs.UriProofs

/-!
# Proofs: the URL policy

What a URL begins with behind its white space is compared with what a parser finds: a scheme that is spelled out there is
the scheme of the URL, unless the URL has none.
-/

namespace HeraldGateway.UrlValidator

open Text Url

variable {url w r : JsString}

/-! ## Schemes at the beginning -/

/-- A scheme in lower case, as far as the colon. -/
def SpellsScheme (w : JsString) : Prop := w ≠ [] ∧ ∀ u ∈ w, (97 ≤ u && u ≤ 122) = true

theorem isLetter_of_lower {u : UInt16} (h : (97 ≤ lower u && lower u ≤ 122) = true) : isLetter u = true := by
  unfold isLetter
  by_cases hupper : (65 ≤ u && u ≤ 90) = true
  · rw [hupper, Bool.true_or]
  · rw [lower, if_neg hupper] at h
    rw [h, Bool.or_true]

theorem lower_eq_colon {u : UInt16} (h : lower u = 58) : u = 58 := by
  unfold lower at h
  split at h
  · rename_i hupper
    rw [Bool.and_eq_true, decide_eq_true_iff, decide_eq_true_iff] at hupper
    simp only [UInt16.le_iff_toNat_le, ← UInt16.toNat_inj, UInt16.toNat_add] at hupper h
    simp only [UInt16.reduceToNat] at hupper h
    omega
  · exact h

/-- White space that is no blank is beyond ASCII. -/
theorem isSpace_beyond {u : UInt16} (h : isSpace u = true) (hcontrol : isControl u = false) :
    isSchemeUnit u = false ∧ isSlash u = false ∧ isBreak u = false := by
  simp only [isSpace, isControl, isSchemeUnit, isLetter, isSlash, isBreak, Bool.or_eq_true, Bool.and_eq_true,
    decide_eq_true_eq, beq_iff_eq, Bool.or_eq_false_iff, beq_eq_false_iff_ne, decide_eq_false_iff_not,
    Bool.and_eq_false_iff, UInt16.le_iff_toNat_le, ne_eq, ← UInt16.toNat_inj] at h hcontrol ⊢
  simp only [UInt16.reduceToNat] at h hcontrol ⊢
  omega

/-- A text that begins with a scheme behind its white space has that scheme, or it has none for the white space. -/
theorem schemeOf_of_begins (hw : SpellsScheme w) (h : w ++ 58 :: r <+: HeraldGateway.toLowerCase (trim url)) :
    schemeOf url = some w ∨ schemeOf url = none ∧ (strip url).takeWhile isSlash = [] := by
  obtain ⟨t, ht⟩ := h
  rw [List.append_assoc, List.cons_append] at ht
  obtain ⟨w', rest, htrim, hw', hrest⟩ := List.map_eq_append_iff.1 ht.symm
  obtain ⟨c, rest, rfl, hc, -⟩ := List.map_eq_cons_iff.1 hrest
  obtain rfl := lower_eq_colon hc
  have hunits : ∀ u ∈ w', isLetter u = true := fun u hu =>
    isLetter_of_lower (hw.2 _ (hw' ▸ List.mem_map_of_mem hu))
  have hfirst : w'.head?.any isLetter = true := by
    cases w' with
    | nil => exact absurd hw'.symm hw.1
    | cons u w' => exact hunits u List.mem_cons_self
  obtain ⟨a, b, hurl, ha, -⟩ := exists_trim url
  have hdrop : url.dropWhile isControl = (a ++ (w' ++ 58 :: (rest ++ b))).dropWhile isControl := by
    conv_lhs => rw [hurl, htrim]
    simp only [List.append_assoc, List.cons_append]
  rw [List.dropWhile_append] at hdrop
  split at hdrop
  · -- Nothing but blanks stands before the scheme.
    refine .inl ?_
    have hscheme : scheme? (w' ++ 58 :: (rest ++ b)) = some w :=
      scheme?_eq_some.2 ⟨w', rest ++ b, rfl, fun u hu => by rw [isSchemeUnit, hunits u hu]; rfl, hfirst, hw'⟩
    rw [schemeOf, strip, hdrop]
    exact scheme?_strip hscheme
  · -- Some other white space stands there, which a parser keeps.
    rename_i hne
    obtain ⟨v, a', ha'⟩ := List.exists_cons_of_ne_nil fun hnil => hne (List.isEmpty_iff.2 hnil)
    have hspace : isSpace v = true :=
      ha v ((List.dropWhile_sublist isControl).subset (ha' ▸ List.mem_cons_self))
    have hcontrol : isControl v = false := by
      have := List.head_dropWhile_not isControl (l := a) (by rw [ha']; exact List.cons_ne_nil _ _)
      simpa only [ha', List.head_cons, Bool.not_eq_true] using this
    obtain ⟨hunit, hslash, hbreak⟩ := isSpace_beyond hspace hcontrol
    have hstrip : ∃ t, strip url = v :: t := by
      refine ⟨((a' ++ (w' ++ 58 :: (rest ++ b))).rdropWhile isControl).filter (!isBreak ·), ?_⟩
      have hkeep : (v :: (a' ++ (w' ++ 58 :: (rest ++ b)))).rdropWhile isControl =
          v :: (a' ++ (w' ++ 58 :: (rest ++ b))).rdropWhile isControl :=
        @rdropWhile_append_cons _ [] v isControl (by rw [hcontrol]; exact Bool.false_ne_true)
      rw [strip, hdrop, ha', List.cons_append, hkeep, List.filter_cons_of_pos (by rw [hbreak]; rfl)]
    obtain ⟨t, ht⟩ := hstrip
    refine .inr ⟨?_, ?_⟩
    · rw [schemeOf, ht, scheme?, List.takeWhile_cons_of_neg (by rw [hunit]; exact Bool.false_ne_true)]
      rfl
    · rw [ht, List.takeWhile_cons_of_neg (by rw [hslash]; exact Bool.false_ne_true)]

/-! ## The tests -/

variable {platform : Platform} {options : UrlValidationOptions} {host word : JsString}

/-- The scheme that a word tests for. -/
def schemeIn (word : JsString) : JsString := word.takeWhile (· != 58)

/-- The words that `validate` tests for. -/
abbrev TESTED : List JsString := js "http:" :: js "https://" :: js "data:image/" :: BLOCKED_PROTOCOLS

theorem spellsScheme_tested : ∀ word ∈ TESTED,
    SpellsScheme (schemeIn word) ∧ word = schemeIn word ++ 58 :: (word.dropWhile (· != 58)).drop 1 := by
  have hall : ∀ word ∈ TESTED, schemeIn word ≠ [] ∧ ((schemeIn word).all fun u => 97 ≤ u && u ≤ 122) = true ∧
      word = schemeIn word ++ 58 :: (word.dropWhile (· != 58)).drop 1 := by
    decide
  intro word hword
  obtain ⟨hne, hunits, hword⟩ := hall word hword
  exact ⟨⟨hne, List.all_eq_true.1 hunits⟩, hword⟩

/-- A word at the beginning is the scheme of the URL, unless it has none. -/
theorem schemeOf_of_startsWith (hword : word ∈ TESTED) (h : word <+: trimmedUrl platform url) :
    schemeOf url = some (schemeIn word) ∨ schemeOf url = none ∧ (strip url).takeWhile isSlash = [] := by
  obtain ⟨hspells, heq⟩ := spellsScheme_tested word hword
  have hprefix := (platform.startsWith_toLowerCase (trim url) word hword).1 h
  rw [heq] at hprefix
  exact schemeOf_of_begins hspells hprefix

theorem startsWith_scheme {x : JsString} (hword : word ∈ TESTED) (hx : schemeOf url = some x)
    (hne : schemeIn word ≠ x) : ¬word <+: trimmedUrl platform url := by
  intro h
  rcases schemeOf_of_startsWith hword h with hscheme | ⟨hnone, -⟩
  · exact hne (Option.some.inj (hscheme.symm.trans hx))
  · rw [hnone] at hx
    cases hx

/-- A URL of the web does not begin with another scheme. -/
theorem startsWith_web (hword : word ∈ TESTED) (hhost : webHost? platform.parseHost url = some host)
    (hne : isWebScheme (schemeIn word) = false) : ¬word <+: trimmedUrl platform url := by
  intro h
  unfold webHost? hostname? at hhost
  rcases schemeOf_of_startsWith hword h with hscheme | ⟨hnone, hslash⟩
  · rw [show scheme? (strip url) = _ from hscheme, Option.any_some, hne] at hhost
    simp at hhost
  · rw [show scheme? (strip url) = _ from hnone, hslash] at hhost
    simp at hhost

theorem blocked_not_web : ∀ word ∈ BLOCKED_PROTOCOLS, word ∈ TESTED ∧ isWebScheme (schemeIn word) = false := by
  decide

theorem ne_nil_of_schemeOf {x : JsString} (h : schemeOf url = some x) : url ≠ [] := by
  rintro rfl
  cases h

theorem ne_nil_of_webHost (h : webHost? platform.parseHost url = some host) : url ≠ [] := by
  rintro rfl
  cases h

/-! ## What is accepted -/

/-- What the options add to the blocked protocols is blocked anyway. -/
theorem mem_blockedProtocols : word ∈ blockedProtocols options ↔ word ∈ BLOCKED_PROTOCOLS := by
  refine ⟨fun h => ?_, fun h => List.mem_append_left _ (List.mem_append_left _ h)⟩
  rcases List.mem_append.1 h with h | h
  · rcases List.mem_append.1 h with h | h
    · exact h
    · split at h
      · cases h
      · rw [List.mem_singleton.1 h]
        decide
  · split at h
    · cases h
    · rw [List.mem_singleton.1 h]
      decide

/-- What is accepted begins with nothing blocked, and where it begins with a scheme of the web the parsed host is
allowed. -/
theorem accepts_iff (hne : url ≠ []) : accepts platform url options = true ↔
    (∀ word ∈ BLOCKED_PROTOCOLS, ¬word <+: trimmedUrl platform url) ∧
      (js "http:" <+: trimmedUrl platform url ∨ js "https://" <+: trimmedUrl platform url →
        (parsedHostname platform (trimmedUrl platform url)).any (isAllowedHost options) = true) := by
  unfold accepts validate
  rw [if_neg fun hempty => hne (List.isEmpty_iff.1 hempty)]
  dsimp only
  generalize trimmedUrl platform url = trimmed
  cases hfind : (blockedProtocols options).find? fun protocol => protocol.isPrefixOf trimmed with
  | some protocol =>
    have hmem := mem_blockedProtocols.1 (List.mem_of_find?_eq_some hfind)
    have hstarts := List.isPrefixOf_iff_prefix.1
      (List.find?_some (p := fun protocol => List.isPrefixOf protocol trimmed) hfind)
    exact ⟨nofun, fun h => absurd hstarts (h.1 protocol hmem)⟩
  | none =>
    have hfree : ∀ word ∈ BLOCKED_PROTOCOLS, ¬word <+: trimmed := fun word hword hstarts =>
      List.find?_eq_none.1 hfind word (mem_blockedProtocols.2 hword) (List.isPrefixOf_iff_prefix.2 hstarts)
    have hdata : (js "data:").isPrefixOf trimmed = false := by
      rw [← Bool.not_eq_true, List.isPrefixOf_iff_prefix]
      exact hfree _ (by decide)
    rw [and_iff_right hfree]
    simp only [hdata, Bool.false_and, Bool.false_eq_true, if_false]
    by_cases hweb : ((js "http:").isPrefixOf trimmed || (js "https://").isPrefixOf trimmed) = true
    · have hstarts : js "http:" <+: trimmed ∨ js "https://" <+: trimmed := by
        rwa [Bool.or_eq_true, List.isPrefixOf_iff_prefix, List.isPrefixOf_iff_prefix] at hweb
      rw [if_pos hweb, forall_prop_of_true hstarts]
      cases parsedHostname platform trimmed with
      | none => exact Iff.rfl
      | some hostname =>
        simp only [Option.map_some, Option.any_some]
        split <;> simp_all
    · have hstarts : ¬(js "http:" <+: trimmed ∨ js "https://" <+: trimmed) := by
        rwa [Bool.or_eq_true, List.isPrefixOf_iff_prefix, List.isPrefixOf_iff_prefix] at hweb
      rw [if_neg hweb]
      exact ⟨fun _ h => absurd h hstarts, fun _ => rfl⟩

/-- Where another scheme is blocked, it is so exactly when the URL begins with it. -/
theorem accepts_blocked_iff {x : JsString} (hx : schemeOf url = some x) (hword : word ∈ BLOCKED_PROTOCOLS)
    (hunique : ∀ word' ∈ TESTED, schemeIn word' = x → word <+: word') :
    accepts platform url options = true ↔ ¬word <+: trimmedUrl platform url := by
  rw [accepts_iff (ne_nil_of_schemeOf hx)]
  refine ⟨fun h => h.1 word hword, fun hnot => ?_⟩
  have hfree : ∀ word' ∈ TESTED, ¬word' <+: trimmedUrl platform url := by
    intro word' hword' hstarts
    by_cases hsame : schemeIn word' = x
    · exact hnot ((hunique word' hword' hsame).trans hstarts)
    · exact startsWith_scheme hword' hx hsame hstarts
  refine ⟨fun word' hword' => hfree word' (blocked_not_web word' hword').1, fun h => ?_⟩
  rcases h with h | h
  · exact absurd h (hfree _ (by decide))
  · exact absurd h (hfree _ (by decide))

/-- What a parser keeps behind a text without blanks. -/
theorem strip_append_cons {t : JsString} {u : UInt16} (hw : ∀ v ∈ w, isControl v = false) (hu : isControl u = false) :
    strip (w ++ u :: t) = w ++ u :: (t.rdropWhile isControl).filter (!isBreak ·) := by
  have hbreak : ∀ v, isControl v = false → (!isBreak v) = true := by
    intro v hv
    simp only [isControl, isBreak, Bool.not_eq_true', Bool.or_eq_false_iff, beq_eq_false_iff_ne,
      decide_eq_false_iff_not, UInt16.le_iff_toNat_le, ne_eq, ← UInt16.toNat_inj] at hv ⊢
    simp only [UInt16.reduceToNat] at hv ⊢
    omega
  have hleft : (w ++ u :: t).dropWhile isControl = w ++ u :: t := by
    cases w with
    | nil => exact List.dropWhile_cons_of_neg (by rw [hu]; exact Bool.false_ne_true)
    | cons v w => exact List.dropWhile_cons_of_neg (by rw [hw v List.mem_cons_self]; exact Bool.false_ne_true)
  rw [strip, hleft, rdropWhile_append_cons (by rw [hu]; exact Bool.false_ne_true), List.filter_append,
    List.filter_eq_self.2 fun v hv => hbreak v (hw v hv),
    List.filter_cons_of_pos (p := fun v => !isBreak v) (hbreak u hu)]

/-- With `https://` the parser sees the name of the scheme as a host. -/
theorem parsedHostname_https {trimmed : JsString} (h : js "https://" <+: trimmed) :
    parsedHostname platform trimmed = some (js "https") := by
  obtain ⟨rest, rfl⟩ := h
  have hplain : (js "https://https:/").all (fun v => !isControl v) = true := by
    decide
  have hunits : (js "https").all isSchemeUnit = true := by
    decide
  have hstrip : strip (js "https://https:/" ++ 47 :: rest) =
      js "https" ++ 58 :: (js "//https://" ++ (rest.rdropWhile isControl).filter (!isBreak ·)) :=
    strip_append_cons (fun v hv => Bool.not_eq_true' _ ▸ List.all_eq_true.1 hplain v hv) (by decide)
  have hscheme := scheme?_eq_some.2
    ⟨js "https", js "//https://" ++ (rest.rdropWhile isControl).filter (!isBreak ·), rfl,
      List.all_eq_true.1 hunits, by decide, rfl⟩
  have hparse : hostname? platform.parseHost (js "https://https:/" ++ 47 :: rest) =
      platform.parseHost (js "https") := by
    rw [hostname?, hstrip, hscheme]
    rfl
  exact hparse.trans platform.parseHost_https

/-- A URL of the web is accepted by how it begins. -/
theorem accepts_web (hhost : webHost? platform.parseHost url = some host) : accepts platform url options =
    if js "http:" <+: trimmedUrl platform url then
      (hostname? platform.parseHost (trimmedUrl platform url)).any (isAllowedHost options)
    else if js "https://" <+: trimmedUrl platform url then isAllowedHost options (js "https")
    else true := by
  have hfree : ∀ word ∈ BLOCKED_PROTOCOLS, ¬word <+: trimmedUrl platform url := fun word hword =>
    startsWith_web (blocked_not_web word hword).1 hhost (blocked_not_web word hword).2
  rw [Bool.eq_iff_iff, accepts_iff (ne_nil_of_webHost hhost), and_iff_right hfree]
  split
  · rename_i hhttp
    rw [forall_prop_of_true (.inl hhttp), parsedHostname, if_pos (List.isPrefixOf_iff_prefix.2 hhttp)]
  · rename_i hhttp
    split
    · rename_i hhttps
      rw [forall_prop_of_true (.inr hhttps), parsedHostname_https hhttps, Option.any_some]
    · rename_i hhttps
      exact ⟨fun _ => rfl, fun _ h => absurd h (not_or.2 ⟨hhttp, hhttps⟩)⟩

theorem eq_iff_of_iff {a b : Bool} {q : Prop} (h : a = true ↔ q) : a = b ↔ (b = true ↔ q) := by
  rw [Bool.eq_iff_iff, h]
  exact iff_comm

/-- The policy is enforced on a URL exactly when it is spelled so that the tests and the parser agree on it. -/
theorem enforced_iff (platform : Platform) (url : JsString) (options : UrlValidationOptions) :
    Enforced platform url options ↔ SpelledWell platform url options := by
  have hmailto : schemeOf url = some (js "mailto") → (accepts platform url options = options.allowMailto ↔
      (options.allowMailto = true ↔ ¬js "mailto:" <+: trimmedUrl platform url)) := fun hx =>
    eq_iff_of_iff (accepts_blocked_iff hx (by decide) (by decide))
  have htel : schemeOf url = some (js "tel") → (accepts platform url options = options.allowTel ↔
      (options.allowTel = true ↔ ¬js "tel:" <+: trimmedUrl platform url)) := fun hx =>
    eq_iff_of_iff (accepts_blocked_iff hx (by decide) (by decide))
  have hdata : isImageData url = true → (accepts platform url options = options.allowDataImages ↔
      (options.allowDataImages = true ↔ ¬js "data:" <+: trimmedUrl platform url)) := fun himage =>
    eq_iff_of_iff (accepts_blocked_iff (eq_of_beq (Bool.and_eq_true_iff.1 himage).1) (by decide) (by decide))
  constructor
  · intro h
    refine ⟨fun hhttp host hhost => ?_, fun hhttps host hhost => ?_, fun hhttp hhttps host hhost => ?_,
      fun hx => (hmailto hx).1 (h.mailto hx), fun hx => (htel hx).1 (h.tel hx),
      fun hx => (hdata hx).1 (h.dataImages hx)⟩
    · rw [← h.web host hhost, accepts_web hhost, if_pos hhttp]
    · have hhttp : ¬js "http:" <+: trimmedUrl platform url := fun hhttp =>
        absurd (List.prefix_of_prefix_length_le hhttp hhttps (by decide)) (by decide)
      rw [← h.web host hhost, accepts_web hhost, if_neg hhttp, if_pos hhttps]
    · rw [← h.web host hhost, accepts_web hhost, if_neg hhttp, if_neg hhttps]
  · intro h
    refine ⟨fun host hhost => ?_, fun hx => (hmailto hx).2 (h.mailto hx), fun hx => (htel hx).2 (h.tel hx),
      fun hx => (hdata hx).2 (h.dataImages hx)⟩
    rw [accepts_web hhost]
    split
    · exact h.http ‹_› host hhost
    split
    · exact h.https ‹_› host hhost
    · exact (h.otherWeb ‹_› ‹_› host hhost).symm

/-! ### URLs of ASCII -/

/-- Blanks around a text do not matter to a parser. -/
theorem strip_blanks {a s b : JsString} (ha : ∀ u ∈ a, isControl u = true) (hb : ∀ u ∈ b, isControl u = true) :
    strip (a ++ s ++ b) = strip s := by
  have hdrop : ∀ a s : JsString, (∀ u ∈ a, isControl u = true) →
      (a ++ s).dropWhile isControl = s.dropWhile isControl := by
    intro a s ha
    rw [List.dropWhile_append, List.dropWhile_eq_nil_iff.2 ha]
    rfl
  have hright : ∀ s : JsString, (s ++ b).rdropWhile isControl = s.rdropWhile isControl := fun s => by
    rw [List.rdropWhile, List.reverse_append, hdrop _ _ fun u hu => hb u (List.mem_reverse.1 hu), List.rdropWhile]
  rw [strip, strip, List.append_assoc, hdrop _ _ ha, List.dropWhile_append]
  by_cases hs : s.dropWhile isControl = []
  · rw [hs, List.isEmpty_nil, if_pos rfl, List.dropWhile_eq_nil_iff.2 hb]
  · rw [if_neg (by rwa [List.isEmpty_iff]), hright]

/-- In a URL of ASCII the letter case and the white space do not matter to the parser, so with `http:` the policy is
enforced. -/
theorem http_of_ascii (hascii : ∀ u ∈ url, u < 128)
    (hlower : platform.toLowerCase (trim url) = HeraldGateway.toLowerCase (trim url))
    (hcase : ∀ host, platform.parseHost (host.map lower) = platform.parseHost host)
    (hhttp : js "http:" <+: trimmedUrl platform url) (hhost : webHost? platform.parseHost url = some host) :
    hostname? platform.parseHost (trimmedUrl platform url) = some host := by
  have hspace : ∀ u ∈ url, isSpace u = true → isControl u = true := by
    intro u hu hspace
    have hsmall := hascii u hu
    simp only [isSpace, isControl, Bool.or_eq_true, Bool.and_eq_true, decide_eq_true_eq, beq_iff_eq,
      UInt16.le_iff_toNat_le, UInt16.lt_iff_toNat_lt, ← UInt16.toNat_inj] at hspace hsmall ⊢
    simp only [UInt16.reduceToNat] at hspace hsmall ⊢
    omega
  obtain ⟨a, b, hurl, ha, hb⟩ := exists_trim url
  have hstrip : strip (trim url) = strip url := by
    conv_rhs => rw [hurl]
    refine (strip_blanks (fun u hu => hspace u ?_ (ha u hu)) fun u hu => hspace u ?_ (hb u hu)).symm
    · rw [hurl]
      exact List.mem_append_left _ (List.mem_append_left _ hu)
    · rw [hurl]
      exact List.mem_append_right _ hu
  have hsame : hostname? platform.parseHost (trimmedUrl platform url) = hostname? platform.parseHost url := by
    rw [trimmedUrl, hlower]
    refine (hostname?_lower platform.parseHost (trim url)).trans ?_
    rw [funext hcase, hostname?, hstrip, hostname?]
  rw [hsame, ← hhost, webHost?, if_neg]
  rintro ⟨hnone, hslashes⟩
  rcases schemeOf_of_startsWith (by decide) hhttp with hscheme | ⟨-, hslash⟩
  · cases hscheme.symm.trans hnone
  · rw [hslash] at hslashes
    exact absurd hslashes (by decide)

/-- A platform for hosts of letters, digits, hyphens and dots. -/
def plainPlatform : Platform where
  toLowerCase := HeraldGateway.toLowerCase
  parseHost host :=
    if host.all fun u => isLetter u || (48 ≤ u && u ≤ 57) || u == 45 || u == 46 then some (host.map lower) else none
  startsWith_toLowerCase _ _ _ := Iff.rfl
  parseHost_https := by decide

/-- An allowed host is rejected with `https://`, any host is accepted without a scheme, and a kind of URL that the
options allow is rejected. -/
theorem policy_not_enforced :
    ¬Enforced plainPlatform (js "https://cdn.useherald.xyz/logo.png") {} ∧
      ¬Enforced plainPlatform (js "//evil.example/logo.png") {} ∧
      ¬Enforced plainPlatform (js "mailto:a@b.example") { allowMailto := true } := by
  have hhttps : webHost? plainPlatform.parseHost (js "https://cdn.useherald.xyz/logo.png") =
      some (js "cdn.useherald.xyz") := by decide +kernel
  have hrelative : webHost? plainPlatform.parseHost (js "//evil.example/logo.png") = some (js "evil.example") := by
    decide +kernel
  refine ⟨fun h => absurd (h.web _ hhttps) ?_, fun h => absurd (h.web _ hrelative) ?_,
    fun h => absurd (h.mailto ?_) ?_⟩ <;> decide +kernel

end HeraldGateway.UrlValidator
