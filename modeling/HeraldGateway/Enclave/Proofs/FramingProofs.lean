import HeraldGateway.Enclave.Framing

/-!
# Which responses of the enclave are read

Text that is received in part is no text of JSON, since the brace with which it begins is still open. So the
handler can parse it only behind the last byte of the response, and it does so if a chunk ends there.
-/

namespace HeraldGateway

open Text

namespace EnclaveService

variable {Ω α : Type} {R : JsonRuntime Ω} {reply : Reply R} {settle : EnclaveResponse Ω → Settlement α}
  {chunks pieces : List (List UInt8)}

theorem received_concat (pieces : List (List UInt8)) (piece : List UInt8) :
    received (pieces ++ [piece]) = received pieces ++ Decoder.decode piece := by
  unfold received
  rw [List.flatMap_append, List.flatMap_singleton]

/-- Behind the last byte of a response the text ends as a response does. -/
theorem complete_of_whole (h : pieces.flatten = reply.bytes) : complete (received pieces) = true := by
  rw [Reply.bytes, ← List.cons_append] at h
  obtain ⟨s, hs⟩ := Decoder.pieces_concat_ascii (by decide) h
  have hsuffix : [125] <:+ received pieces := ⟨s, hs.symm⟩
  unfold complete
  rw [List.isSuffixOf_iff_suffix.2 hsuffix, Bool.or_true]

/-- Behind a newline it does not. -/
theorem complete_newline (h : pieces.flatten = reply.bytes ++ [10]) : complete (received pieces) = false := by
  obtain ⟨s, hs⟩ := Decoder.pieces_concat_ascii (by decide) h
  have hends : ∀ t : JsString, ∀ u : UInt16, u ≠ 10 → (t ++ [u]).isSuffixOf (received pieces) = false := by
    intro t u hu
    refine Bool.eq_false_iff.2 fun hsuffix => ?_
    obtain ⟨front, hfront⟩ := List.isSuffixOf_iff_suffix.1 hsuffix
    rw [received, hs, ← List.append_assoc] at hfront
    exact hu (List.cons.inj (List.append_inj_right' hfront rfl)).1
  unfold complete
  rw [show js "\\n" = [92] ++ [110] from rfl, hends [92] 110 (by decide)]
  exact hends [] 125 (by decide)

theorem received_nil (h : pieces.flatten = []) : received pieces = [] := by
  refine List.flatMap_eq_nil_iff.2 fun piece hpiece => ?_
  rw [List.flatten_eq_nil_iff.1 h piece hpiece]
  rfl

/-- What is parsed of a response is all of it. -/
theorem whole_of_isText {rest : List UInt8} (h : pieces.flatten ++ rest = reply.bytes)
    (hcomplete : complete (received pieces) = true) (hjson : Json.IsText (received pieces)) :
    pieces.flatten = reply.bytes := by
  have hreply : Json.IsText (Decoder.decode (123 :: (reply.inner ++ [125]))) :=
    R.isText_of_parse (by rw [reply.parses]; rfl)
  cases hp : pieces.flatten with
  | nil =>
    rw [received_nil hp] at hcomplete
    exact absurd hcomplete (by decide)
  | cons x as =>
    rw [hp, Reply.bytes, List.cons_append] at h
    obtain ⟨rfl, has⟩ := List.cons.inj h
    rcases List.eq_nil_or_concat rest with rfl | ⟨rest, y, rfl⟩
    · rw [List.append_nil] at has
      rw [has, Reply.bytes]
    · rw [List.concat_eq_append, ← List.append_assoc] at has
      have hinner : reply.inner = as ++ rest := (List.append_inj_left' has rfl).symm
      exact absurd hjson (Braces.not_text_of_front hinner hreply hp)

/-- So it is if a newline may follow. -/
theorem whole_of_parse (hcarries : Carries chunks reply) (hpieces : pieces <+: chunks)
    (hcomplete : complete (received pieces) = true) (hparse : (R.parse (received pieces)).isSome) :
    pieces.flatten = reply.bytes := by
  have hjson := R.isText_of_parse hparse
  obtain ⟨rest, rfl⟩ := hpieces
  rcases hcarries.flatten_eq with h | h
  · rw [List.flatten_append] at h
    exact whole_of_isText h hcomplete hjson
  · rw [List.flatten_append] at h
    rcases List.eq_nil_or_concat rest.flatten with hnil | ⟨front, y, hfront⟩
    · rw [hnil, List.append_nil] at h
      rw [complete_newline h] at hcomplete
      cases hcomplete
    · rw [hfront, List.concat_eq_append, ← List.append_assoc] at h
      exact whole_of_isText (List.append_inj_left' h rfl) hcomplete hjson

/-- The handler settles with the first text that it parses behind the last byte of the response, or not at all
before the timer does. -/
theorem onData_spec {before : List (List UInt8)} (hcarries : Carries (before ++ chunks) reply)
    (hbefore : ∀ pieces, Ends before reply pieces → R.parse (received pieces) = none) :
    (∃ pieces response, Ends (before ++ chunks) reply pieces ∧ R.parse (received pieces) = some response ∧
      onData R settle (received before) chunks = settle response) ∨
    ((∀ pieces, Ends (before ++ chunks) reply pieces → R.parse (received pieces) = none) ∧
      onData R settle (received before) chunks = .reject routingUnavailable) := by
  induction chunks generalizing before with
  | nil =>
    rw [List.append_nil]
    exact .inr ⟨hbefore, rfl⟩
  | cons data chunks ih =>
    have hsplit : before ++ data :: chunks = (before ++ [data]) ++ chunks := List.append_cons ..
    have hfront : before ++ [data] <+: before ++ data :: chunks := ⟨chunks, hsplit.symm⟩
    have hnext : (∀ response, complete (received (before ++ [data])) = true →
        R.parse (received (before ++ [data])) ≠ some response) →
        ∀ pieces, Ends (before ++ [data]) reply pieces → R.parse (received pieces) = none := by
      rintro hno pieces ⟨hof, hwhole⟩
      rcases List.prefix_concat_iff.1 hof with rfl | hof
      · exact Option.eq_none_iff_forall_ne_some.2 fun r => hno r (complete_of_whole hwhole)
      · exact hbefore pieces ⟨hof, hwhole⟩
    rw [onData, ← received_concat]
    by_cases hcomplete : complete (received (before ++ [data])) = true
    · rw [if_pos hcomplete]
      cases hparse : R.parse (received (before ++ [data])) with
      | some response =>
        have hwhole := whole_of_parse hcarries hfront hcomplete (by rw [hparse]; rfl)
        exact .inl ⟨before ++ [data], response, ⟨hfront, hwhole⟩, hparse, rfl⟩
      | none =>
        rw [hsplit] at hcarries ⊢
        exact ih hcarries (hnext fun r _ => by rw [hparse]; exact nofun)
    · rw [if_neg hcomplete]
      rw [hsplit] at hcarries ⊢
      exact ih hcarries (hnext fun r h => absurd h hcomplete)

theorem received_of_front {others : List (List UInt8)} (h : pieces <+: others)
    (hwhole : others.flatten = pieces.flatten) : received others = received pieces := by
  obtain ⟨more, rfl⟩ := h
  rw [List.flatten_append, List.append_right_eq_self] at hwhole
  have hnil : received more = [] := received_nil hwhole
  rw [received, List.flatMap_append]
  exact (congrArg (received pieces ++ ·) hnil).trans (List.append_nil _)

/-- However many of the chunks carry a response and no more, their text is the same. -/
theorem received_of_ends {others : List (List UInt8)} (h : Ends chunks reply pieces)
    (h' : Ends chunks reply others) : received pieces = received others := by
  rcases List.prefix_or_prefix_of_prefix h.of_chunks h'.of_chunks with hof | hof
  · exact (received_of_front hof (h'.whole.trans h.whole.symm)).symm
  · exact received_of_front hof (h.whole.trans h'.whole.symm)

theorem not_ends_nil : ¬Ends [] reply pieces := by
  rintro ⟨hof, hwhole⟩
  rw [List.prefix_nil.1 hof, Reply.bytes] at hwhole
  cases hwhole

theorem settlesAs_iff (hcarries : Carries chunks reply) :
    SettlesAs (onData R settle [] chunks) (settle reply.value) ↔ Legible settle chunks reply := by
  have hspec := @onData_spec Ω α R reply settle chunks [] hcarries fun pieces h => absurd h not_ends_nil
  rw [List.nil_append] at hspec
  constructor
  · rintro ⟨heq, hresult⟩
    refine ⟨hresult, ?_⟩
    rcases hspec with ⟨pieces, response, hends, hparse, hdata⟩ | ⟨hnone, hdata⟩
    · exact .inl ⟨pieces, response, hends, hparse, hdata.symm.trans heq⟩
    · exact .inr ⟨heq.symm.trans hdata, hnone⟩
  · rintro ⟨hresult, hreads⟩
    refine ⟨?_, hresult⟩
    rcases hspec with ⟨pieces, response, hends, hparse, hdata⟩ | ⟨hnone, hdata⟩
    · rcases hreads with ⟨others, response', hends', hparse', hsame⟩ | ⟨-, hnone⟩
      · rw [received_of_ends hends' hends, hparse] at hparse'
        obtain rfl := Option.some.inj hparse'
        exact hdata.trans hsame
      · rw [hnone pieces hends] at hparse
        cases hparse
    · rcases hreads with ⟨others, response', hends', hparse', -⟩ | ⟨hresult', -⟩
      · rw [hnone others hends'] at hparse'
        cases hparse'
      · exact hdata.trans hresult'.symm

/-- Where no chunk ends within a character, a response is read if some chunk ends where it does. -/
theorem legible_iff_of_between (hbetween : ∀ front, front <+: chunks →
    (Decoder.run .start front.flatten).2 = .start) : Legible settle chunks reply ↔
      settle reply.value ≠ .pending ∧
        ((∃ pieces, Ends chunks reply pieces) ∨ settle reply.value = .reject routingUnavailable) := by
  have hreads : ∀ pieces, Ends chunks reply pieces → R.parse (received pieces) = some reply.value := by
    rintro pieces ⟨hof, hwhole⟩
    rw [received, Decoder.pieces_eq fun front hfront => hbetween front (hfront.trans hof), hwhole]
    exact reply.parses
  constructor
  · rintro ⟨hresult, ⟨pieces, -, hends, -, -⟩ | ⟨hunavailable, -⟩⟩
    · exact ⟨hresult, .inl ⟨pieces, hends⟩⟩
    · exact ⟨hresult, .inr hunavailable⟩
  · rintro ⟨hresult, hcases⟩
    refine ⟨hresult, ?_⟩
    by_cases hends : ∃ pieces, Ends chunks reply pieces
    · obtain ⟨pieces, hends⟩ := hends
      exact .inl ⟨pieces, reply.value, hends, hreads pieces hends, rfl⟩
    · exact .inr ⟨hcases.resolve_left hends, fun pieces h => absurd ⟨pieces, h⟩ hends⟩

/-- Both ways to ask the enclave read a response exactly if it comes in chunks of which one ends with it, and
which read the same decoded one by one. -/
theorem settles_iff_legible (arrival : Arrival reply) :
    (SettlesAs (enclaveDecrypt R arrival.chunks) (settleEmail R reply.value) ↔
      Legible (settleEmail R) arrival.chunks reply) ∧
    (SettlesAs (enclaveDecryptAll R arrival.chunks) (settleAll R reply.value) ↔
      Legible (settleAll R) arrival.chunks reply) :=
  ⟨settlesAs_iff arrival.carries, settlesAs_iff arrival.carries⟩

/-! ### Two responses that are not read -/

/-- Text of one field, up to its value. -/
def fieldStart (name : JsString) : JsString := 123 :: 34 :: (name ++ [34, 58, 34])

/-- The value of a text of one field, without escapes. -/
def fieldValue? (name s : JsString) : Option JsString :=
  let value := (s.drop (fieldStart name).length).dropLast.dropLast
  if s = fieldStart name ++ value ++ [34, 125] ∧
    value.all (fun u => 32 ≤ u && u != 34 && u != 92) then some value
  else none

/-- A parser of objects whose one field is an email or a phone. -/
def parseField (s : JsString) : Option (EnclaveResponse JsValue) :=
  match fieldValue? (js "email") s, fieldValue? (js "phone") s with
  | some email, _ => some ⟨.undefined, .string email, .undefined, .undefined⟩
  | none, some phone => some ⟨.undefined, .undefined, .undefined, .string phone⟩
  | none, none => none

theorem characters_of_all {s : JsString} (h : s.all (fun u => 32 ≤ u && u != 34 && u != 92) = true) :
    Json.Characters s := by
  induction s with
  | nil => exact .nil
  | cons u s ih =>
    rw [List.all_cons, Bool.and_eq_true, Bool.and_eq_true, Bool.and_eq_true] at h
    obtain ⟨⟨⟨hcontrol, hmark⟩, hback⟩, hs⟩ := h
    exact .plain (of_decide_eq_true hcontrol) (bne_iff_ne.1 hmark) (bne_iff_ne.1 hback) (ih hs)

theorem isText_of_field {name value s : JsString} (hname : Json.Characters name)
    (h : fieldValue? name s = some value) : Json.IsText s := by
  unfold fieldValue? at h
  dsimp only at h
  split at h
  · next hs =>
    obtain ⟨heq, hall⟩ := hs
    rw [Option.some.inj h] at heq hall
    have hblank : Json.Blank [] := fun u hu => absurd hu List.not_mem_nil
    have hvalue : Json.Derives .element ([] ++ 34 :: (value ++ [34]) ++ []) :=
      .element hblank (.string (.intro (characters_of_all hall))) hblank
    have hmember : Json.Derives .member
        ([] ++ 34 :: (name ++ [34]) ++ [] ++ 58 :: ([] ++ 34 :: (value ++ [34]) ++ [])) :=
      .member hblank (.intro hname) hblank hvalue
    have htext : Json.IsText ([] ++ 123 :: (_ ++ [125]) ++ []) :=
      .element hblank (.object (.lastMember hmember)) hblank
    rw [heq]
    simpa [fieldStart] using htext
  · cases h

/-- What the language makes of such objects. -/
def fieldRuntime : JsonRuntime JsValue where
  parse := parseField
  isText_of_parse {s} h := by
    unfold parseField at h
    split at h
    · next hemail => exact isText_of_field (characters_of_all (by decide)) hemail
    · next hphone => exact isText_of_field (characters_of_all (by decide)) hphone
    · cases h
  truthy := JsValue.truthy
  string? v := match v with
    | .string s => some s
    | _ => none
  text? v := match v with
    | .string s => some s
    | .null => some (js "null")
    | .bool b => some (if b then js "true" else js "false")
    | .undefined => some (js "undefined")
    | _ => none

/-- `{"email":"a@b.c"}` -/
def emailReply : Reply fieldRuntime where
  inner := (js "\"email\":\"a@b.c\"").map (·.toUInt8)
  value := ⟨.undefined, .string (js "a@b.c"), .undefined, .undefined⟩
  parses := by decide +kernel

/-- `{"phone":"é"}` -/
def phoneReply : Reply fieldRuntime where
  inner := (js "\"phone\":\"").map (·.toUInt8) ++ [0xC3, 0xA9, 34]
  value := ⟨.undefined, .undefined, .undefined, .string [0xE9]⟩
  parses := by decide +kernel

/-- A response is not read that comes together with its newline, and not as it is if a character is cut. -/
theorem responses_misread :
    (¬∀ (reply : Reply fieldRuntime) (arrival : Arrival reply),
      SettlesAs (enclaveDecrypt fieldRuntime arrival.chunks) (settleEmail fieldRuntime reply.value)) ∧
    (¬∀ (reply : Reply fieldRuntime) (arrival : Arrival reply),
      SettlesAs (enclaveDecryptAll fieldRuntime arrival.chunks) (settleAll fieldRuntime reply.value)) := by
  have hmail : enclaveDecrypt fieldRuntime [emailReply.bytes ++ [10]] = .reject routingUnavailable ∧
      settleEmail fieldRuntime emailReply.value = .resolve (js "a@b.c") := by decide +kernel
  have hphone : enclaveDecryptAll fieldRuntime [phoneReply.bytes.take 11, phoneReply.bytes.drop 11] =
        .resolve { phone := some [0xFFFD, 0xFFFD] } ∧
      settleAll fieldRuntime phoneReply.value = .resolve { phone := some [0xE9] } := by decide +kernel
  refine ⟨fun h => ?_, fun h => ?_⟩
  · obtain ⟨heq, -⟩ := h emailReply ⟨[emailReply.bytes ++ [10]], ⟨.inr (List.append_nil _)⟩⟩
    rw [hmail.1, hmail.2] at heq
    cases heq
  · obtain ⟨heq, -⟩ := h phoneReply ⟨[phoneReply.bytes.take 11, phoneReply.bytes.drop 11], ⟨.inl (by rfl)⟩⟩
    rw [hphone.1, hphone.2] at heq
    exact absurd heq (by decide)

end EnclaveService

end HeraldGateway
