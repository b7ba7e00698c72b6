import HeraldGateway.Tokens.Codec
import HeraldGateway.Text.Proofs.EncodingsProofs
import HeraldGateway.Text.Proofs.JsonProofs

/-!
# Tokens are read as they were made

Both encoders write a payload and its signature, separated by a dot, so that the decoder finds both again.
-/

namespace HeraldGateway

open Async

variable {env : Env} {token : JsString} {time : Millis}

/-! ### The format -/

/-- A payload and its signature, as both encoders write them. -/
def signedToken (env : Env) (payload : UnsubscribePayload) : JsString :=
  env.encodePayload payload ++ js "." ++ env.unsubscribeSign (env.encodePayload payload)

theorem splitOn_signedToken (h : env.TokensRoundTrip) (payload : UnsubscribePayload) :
    splitOn 46 (signedToken env payload) =
      [env.encodePayload payload, env.unsubscribeSign (env.encodePayload payload)] := by
  rw [signedToken, List.append_assoc]
  exact (splitOn_append (h.dot_not_mem_payload payload)).trans
    (congrArg _ (splitOn_of_not_mem (h.dot_not_mem_signature _)))

/-! ### Both readers -/

/-- The payload of a token that has the right format and verifies. -/
def verifiedPayload (env : Env) (token : JsString) : Option JsonPayload :=
  match splitOn 46 token with
  | [payloadStr, signature] =>
    if env.base64url signature = env.base64url (env.unsubscribeSign payloadStr) then
      env.decodePayload payloadStr
    else none
  | _ => none

theorem decodeToken_atTime : atTime time (decodeToken env token) =
    .ret ((verifiedPayload env token).filter fun p => p.expired (time / 1000) == some false) := by
  unfold decodeToken verifiedPayload
  rcases splitOn 46 token with _ | ⟨payloadStr, _ | ⟨signature, _ | ⟨part, parts⟩⟩⟩
  · rfl
  · rfl
  · by_cases hsig : env.base64url signature = env.base64url (env.unsubscribeSign payloadStr)
    · simp only [if_pos hsig]
      cases env.decodePayload payloadStr with
      | none => rfl
      | some payload =>
        dsimp only [call, Prog.perform, Prog.bind_eq_bind, Prog.bind, Prog.andThen, atTime]
        rw [Option.filter_some]
        cases payload.expired (time / 1000) with
        | none => rfl
        | some expired => cases expired <;> rfl
    · simp only [if_neg hsig]
      rfl
  · rfl

/-- A program that has ended calls nothing. -/
theorem not_calls {α : Type} {p : Gateway α} {o : Op} (h : p.next? = none) : ¬ ∃ k, p = .call o k := by
  rintro ⟨k, rfl⟩
  cases h

theorem passesChecks_iff : PassesChecks env time token ↔
    ∃ payload ∈ verifiedPayload env token, payload.expired (time / 1000) = some false := by
  have refused : ∀ error, (∃ k, atTime time (.ret (UnsubscribeResult.refused error)) =
      .call (.unsubscribeTokenFindUnique (env.tokenHash token)) k) ↔
        ∃ payload ∈ (none : Option JsonPayload), payload.expired (time / 1000) = some false := fun _ =>
    ⟨fun h => absurd h (not_calls rfl), fun ⟨_, hmem, _⟩ => absurd hmem (Option.not_mem_none _)⟩
  unfold PassesChecks validateAndExecute verifiedPayload
  rcases splitOn 46 token with _ | ⟨payloadStr, _ | ⟨signature, _ | ⟨part, parts⟩⟩⟩
  · exact refused _
  · exact refused _
  · by_cases hsig : env.base64url signature = env.base64url (env.unsubscribeSign payloadStr)
    · simp only [if_pos hsig]
      cases env.decodePayload payloadStr with
      | none => exact refused _
      | some payload =>
        dsimp only [executeUnexpired, call, Prog.perform, Prog.bind_eq_bind, Prog.bind, Prog.andThen, atTime]
        cases hexp : payload.expired (time / 1000) with
        | none => simp [hexp]
        | some expired =>
          cases expired with
          | true => simp [hexp]
          | false => exact ⟨fun _ => ⟨payload, rfl, hexp⟩, fun _ => ⟨_, rfl⟩⟩
    · simp only [if_neg hsig]
      exact refused _
  · exact refused _

/-- What is decoded passes the checks, and the other way round. -/
theorem decodes_iff_passesChecks :
    (∃ payload, atTime time (decodeToken env token) = .ret (some payload)) ↔ PassesChecks env time token := by
  rw [decodeToken_atTime, passesChecks_iff]
  simp only [Prog.ret.injEq, Option.filter_eq_some_iff, beq_iff_eq, Option.mem_def]

/-! ### Round trips -/

theorem verifiedPayload_signedToken (h : env.TokensRoundTrip) (payload : UnsubscribePayload) :
    verifiedPayload env (signedToken env payload) = some payload.json := by
  unfold verifiedPayload
  rw [splitOn_signedToken h]
  exact (if_pos rfl).trans (h.decode_encode payload)

/-- A signed payload expires after its last second. -/
theorem expired_json (payload : UnsubscribePayload) (seconds : Nat) :
    payload.json.expired seconds = some (decide (payload.expiresAt < seconds)) := by
  simp [UnsubscribePayload.json, JsonPayload.expired, JsNumber.lessThan]

theorem decodesTo_signedToken (h : env.TokensRoundTrip) (payload : UnsubscribePayload) :
    DecodesTo env (signedToken env payload) payload.expiresAt payload.walletHash payload.category := by
  refine ⟨fun time hle => ?_, fun time hlt => ?_⟩
  · refine ⟨(payload.protocolId.map JsValue.string).getD .undefined, some (.finite payload.expiresAt), ?_⟩
    rw [decodeToken_atTime, verifiedPayload_signedToken h, Option.filter_some_pos]
    · rfl
    · rw [expired_json, decide_eq_false (Nat.not_lt.2 hle)]
      rfl
  · rw [decodeToken_atTime, verifiedPayload_signedToken h, Option.filter_some_neg]
    rw [expired_json, decide_eq_true hlt]
    decide

/-- The failure of a call that is swallowed goes unnoticed. -/
theorem exec_swallow {α : Type} {o : Op} {p : Gateway α} {choice : Choice} {s : World} :
    (World.handle env).exec choice ((swallow (call o)).bind fun _ => p) s =
      (World.handle env).exec choice p (World.handle env choice s o).2 := by
  simp only [swallow, call, Prog.perform, Prog.bind, Prog.andThen, Handler.exec]
  cases (World.handle env choice s o).1 <;> rfl

/-- Storing the token may fail; the token is returned all the same. -/
theorem exec_generateToken (walletHash : JsString) (category protocolId : Option JsString) (choice : Choice)
    (s : World) : ((World.handle env).exec choice (generateToken env walletHash category protocolId) s).1 =
      .ok (signedToken env ⟨walletHash, category, protocolId, s.now / 1000 + tokenTtlSeconds⟩) :=
  congrArg Prod.fst exec_swallow

/-- Up to the category that dispatch signs, every token is decoded to what it was made from, and both
readers agree on every string. -/
theorem tokens_decoded (h : env.TokensRoundTrip) :
    OneDecoder env fun category => if truthy category then category else none where
  service _ _ _ _ _ := ⟨_, exec_generateToken _ _ _ _ _, decodesTo_signedToken h _⟩
  dispatch _ _ _ _ := ⟨_, rfl, decodesTo_signedToken h ⟨_, _, none, _⟩⟩
  readers _ _ := decodes_iff_passesChecks

/-! ### A deployment -/

open Text Text.Json

theorem readNullable_nullable {s : Option JsString} {rest : JsString} :
    readNullable (nullable s ++ rest) = some (s, rest) := by
  cases s with
  | none =>
    unfold readNullable nullable
    rw [readText_append]
  | some s =>
    have hread : readText (js "null") (nullable (some s) ++ rest) = none := rfl
    unfold readNullable
    rw [hread]
    exact congrArg (Option.map _) readString_quote

theorem readProtocolId_protocolIdText {id : Option JsString} {rest : JsString}
    (hrest : readText (js ",\"protocolId\":") rest = none) :
    readProtocolId (protocolIdText id ++ rest) = some (id, rest) := by
  unfold readProtocolId protocolIdText
  cases id with
  | none => simp only [List.nil_append, hrest]
  | some id =>
    simp only [List.append_assoc, readText_append]
    exact congrArg (Option.map _) readString_quote

/-- A payload is read as it was written. -/
theorem readPayload_payloadText (p : UnsubscribePayload) : readPayload (payloadText p) = some p := by
  have hnumeral : readNumeral (numeral p.expiresAt ++ js "\x7d") = some (p.expiresAt, js "\x7d") :=
    readNumeral_numeral fun u hu => by
      obtain rfl := Option.some.inj hu
      rfl
  simp only [readPayload, payloadText, readText_append, Option.bind_eq_bind, Option.bind_some,
    readString_quote, readNullable_nullable]
  rw [readProtocolId_protocolIdText rfl]
  simp only [readText_append, Option.bind_some, hnumeral]
  rfl

theorem payloadText_lt (p : UnsubscribePayload) : ∀ u ∈ payloadText p, u < 128 := by
  have hnull : ∀ u ∈ nullable p.category, u < 128 := by
    cases p.category with
    | none => exact lt_of_all (by decide)
    | some c => exact quote_lt
  have hid : ∀ u ∈ protocolIdText p.protocolId, u < 128 := by
    cases p.protocolId with
    | none => exact fun _ hu => absurd hu List.not_mem_nil
    | some id => exact List.forall_mem_append.2 ⟨lt_of_all (by decide), quote_lt⟩
  unfold payloadText
  refine List.forall_mem_append.2 ⟨lt_of_all (by decide), List.forall_mem_append.2 ⟨quote_lt, ?_⟩⟩
  refine List.forall_mem_append.2 ⟨lt_of_all (by decide), List.forall_mem_append.2 ⟨hnull, ?_⟩⟩
  refine List.forall_mem_append.2 ⟨hid, List.forall_mem_append.2 ⟨lt_of_all (by decide), ?_⟩⟩
  exact List.forall_mem_append.2 ⟨numeral_lt, lt_of_all (by decide)⟩

theorem signing_tokensRoundTrip : Env.signing.TokensRoundTrip where
  decode_encode p := by
    change Option.map _ (readPayload ((Base64url.decode (Base64url.encode _)).map _)) = _
    rw [Base64url.decode_encode, ascii_bytes (payloadText_lt p), readPayload_payloadText]
    rfl
  dot_not_mem_payload _ := Base64url.dot_not_mem_encode _
  dot_not_mem_signature _ := Base64url.dot_not_mem_encode _

theorem tokens_decoded_signing :
    OneDecoder Env.signing fun category => if truthy category then category else none :=
  tokens_decoded signing_tokensRoundTrip

/-- Dispatch signs an empty category as none. -/
theorem empty_category_dropped : ¬ OneDecoder Env.signing id := by
  intro h
  obtain ⟨link, hlink, hvalid, -⟩ := h.dispatch (js "w") (some []) {} World.blank
  obtain rfl := Except.ok.inj hlink
  obtain ⟨_, _, hclaimed⟩ := hvalid 0 (Nat.zero_le _)
  obtain ⟨_, _, hactual⟩ := (decodesTo_signedToken signing_tokensRoundTrip
    ⟨js "w", none, none, 0 / 1000 + tokenTtlSeconds⟩).valid 0 (Nat.zero_le _)
  cases hactual.symm.trans hclaimed

end HeraldGateway
