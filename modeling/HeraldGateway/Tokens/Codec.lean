import HeraldGateway.ChannelDispatch
import HeraldGateway.Unsubscribe
import HeraldGateway.Text.Encodings
import HeraldGateway.Text.Json

/-!
# Two encoders, one decoder

Unsubscribe tokens are made in two places, by the unsubscribe service and by channel dispatch, and read in
two, for the confirmation page and to be executed. What is made should be read as what it was made from,
and both readers should agree.
-/

namespace HeraldGateway

open Async

/-- What is left of a program that is about to read the clock, when the clock shows a time. -/
def atTime {α : Type} (time : Millis) : Gateway α → Gateway α
  | .call .now k => k (.ok time)
  | p => p

/-- Until a second, and no longer, a token is decoded to a wallet and a category. -/
structure DecodesTo (env : Env) (token : JsString) (expiresAt : Nat) (walletHash : JsString)
    (category : Option JsString) : Prop where
  valid : ∀ time, time / 1000 ≤ expiresAt → ∃ protocolId number, atTime time (decodeToken env token) =
    .ret (some (.value (.string walletHash) (.ofNullable category) protocolId number))
  expired : ∀ time, expiresAt < time / 1000 → atTime time (decodeToken env token) = .ret none

/-- A token passes the checks of `validateAndExecute` at a time, which then looks the token up. -/
def PassesChecks (env : Env) (time : Millis) (token : JsString) : Prop :=
  ∃ k, atTime time (validateAndExecute env token) =
    .call (.unsubscribeTokenFindUnique (env.tokenHash token)) k

/-- What both encoders make is decoded to what it was made from, where dispatch may sign another category,
and what is decoded is executed. -/
structure OneDecoder (env : Env) (signed : Option JsString → Option JsString) : Prop where
  service : ∀ walletHash category protocolId choice (s : World), ∃ token,
    ((World.handle env).exec choice (generateToken env walletHash category protocolId) s).1 = .ok token ∧
      DecodesTo env token (s.now / 1000 + tokenTtlSeconds) walletHash category
  dispatch : ∀ walletHash category choice (s : World), ∃ link,
    ((World.handle env).exec choice (generateSignedUnsubscribeUrl walletHash category) s).1 = .ok link ∧
      DecodesTo env (link.token env) (s.now / 1000 + tokenTtlSeconds) walletHash (signed category)
  readers : ∀ token time, (∃ payload, atTime time (decodeToken env token) = .ret (some payload)) ↔
    PassesChecks env time token

/-- JSON and base64url: a payload is read as it was written, and the parts of a token contain no dot. -/
structure Env.TokensRoundTrip (env : Env) : Prop where
  decode_encode : ∀ payload, env.decodePayload (env.encodePayload payload) = some payload.json
  dot_not_mem_payload : ∀ payload, 46 ∉ env.encodePayload payload
  dot_not_mem_signature : ∀ payload, 46 ∉ env.unsubscribeSign payload

/-! ### A deployment -/

open Text Text.Json

/-- `null`, or a string literal. -/
def nullable : Option JsString → JsString
  | some s => quote s
  | none => js "null"

/-- The property `protocolId`, if there is one. -/
def protocolIdText : Option JsString → JsString
  | some id => js ",\"protocolId\":" ++ quote id
  | none => []

/-- A payload as JSON. -/
def payloadText (p : UnsubscribePayload) : JsString :=
  js "\x7b\"walletHash\":" ++ (quote p.walletHash ++ (js ",\"category\":" ++ (nullable p.category ++
    (protocolIdText p.protocolId ++ (js ",\"expiresAt\":" ++ (numeral p.expiresAt ++ js "\x7d"))))))

/-- Read what `nullable` wrote. -/
def readNullable (s : JsString) : Option (Option JsString × JsString) :=
  match readText (js "null") s with
  | some rest => some (none, rest)
  | none => (readString s).map fun r => (some r.1, r.2)

/-- Read what `protocolIdText` wrote. -/
def readProtocolId (s : JsString) : Option (Option JsString × JsString) :=
  match readText (js ",\"protocolId\":") s with
  | some rest => (readString rest).map fun r => (some r.1, r.2)
  | none => some (none, s)

/-- Read what `payloadText` wrote. -/
def readPayload (s : JsString) : Option UnsubscribePayload := do
  let s ← readText (js "\x7b\"walletHash\":") s
  let (walletHash, s) ← readString s
  let s ← readText (js ",\"category\":") s
  let (category, s) ← readNullable s
  let (protocolId, s) ← readProtocolId s
  let s ← readText (js ",\"expiresAt\":") s
  let (expiresAt, s) ← readNumeral s
  let s ← readText (js "\x7d") s
  if s.isEmpty then return ⟨walletHash, category, protocolId, expiresAt⟩ else failure

/-- A deployment whose tokens are JSON in base64url, with signatures that can be read. -/
def Env.signing : Env :=
  { Env.transparent with
    unsubscribeSign := fun payload => Base64url.encode (payload.map (·.toUInt8))
    base64url := Base64url.decode
    encodePayload := fun payload => Base64url.encode ((payloadText payload).map (·.toUInt8))
    decodePayload := fun s =>
      (readPayload ((Base64url.decode s).map (·.toUInt16))).map UnsubscribePayload.json }

end HeraldGateway
