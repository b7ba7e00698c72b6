import HeraldGateway.Enclave.NotificationKeys
import HeraldGateway.Text.Braces

/-!
# Responses of the enclave

`enclave.service.ts` with the enclave behind a socket: it answers with one object of JSON, whose bytes come in
chunks. Each chunk is turned into text by itself, and the text so far is parsed whenever it ends as the end of
a response does. The server does not close the connection, so nothing but a timer ends the wait for more.
-/

namespace HeraldGateway

open Text

/-- A response of the enclave, whose fields are any values of JSON, or `undefined`. -/
structure EnclaveResponse (Ω : Type) where
  error : Ω
  email : Ω
  telegram_chat_id : Ω
  phone : Ω
  deriving DecidableEq, Repr

/-- What the language makes of JSON. -/
structure JsonRuntime (Ω : Type) where
  /-- `JSON.parse` of an object, which throws at what is no text of JSON. -/
  parse : JsString → Option (EnclaveResponse Ω)
  isText_of_parse {s : JsString} : (parse s).isSome → Json.IsText s
  truthy : Ω → Bool
  /-- A value whose type is `string`. -/
  string? : Ω → Option JsString
  /-- `String(value)`, which throws at an object without a way to a text. -/
  text? : Ω → Option JsString

/-- What becomes of a promise. -/
inductive Settlement (α : Type) where
  | resolve (a : α)
  | reject (e : Err)
  /-- It is never settled. -/
  | pending
  deriving DecidableEq, Repr

namespace EnclaveService

variable {Ω α : Type}

/-- `/^[^\s@]+@[^\s@]+\.[^\s@]+$/.test(s)`: one `@`, and a dot within what comes behind it. -/
def isAddress (s : JsString) : Bool :=
  match splitOn 64 s with
  | [name, domain] => s.all (!isSpace ·) && !name.isEmpty && (domain.drop 1).dropLast.contains 46
  | _ => false

/-- `isValidEmail` -/
def isValidEmail (R : JsonRuntime Ω) (v : Ω) : Bool :=
  match R.string? v with
  | some s => isAddress s && s.length ≤ 254
  | none => false

/-- `String(value)` of a field that is truthy. -/
def textOf (R : JsonRuntime Ω) (v : Ω) : Option (Option JsString) :=
  if R.truthy v then (R.text? v).map some else some none

/-- `parseEnclaveResponse`, which throws where a field has no text. -/
def parseEnclaveResponse (R : JsonRuntime Ω) (response : EnclaveResponse Ω) : Option DecryptedChannels := do
  let telegramChatId ← textOf R response.telegram_chat_id
  let phone ← textOf R response.phone
  return {
    email :=
      if R.truthy response.email && isValidEmail R response.email then R.string? response.email else none
    telegramChatId
    phone }

/-- What `enclaveDecryptAll` does with a response. What throws here is caught as if the parser had thrown, but
the timer is gone and the socket destroyed. -/
def settleAll (R : JsonRuntime Ω) (response : EnclaveResponse Ω) : Settlement DecryptedChannels :=
  if R.truthy response.error then .reject routingUnavailable
  else match parseEnclaveResponse R response with
    | some channels => .resolve channels
    | none => .pending

/-- What `enclaveDecrypt` does with a response. -/
def settleEmail (R : JsonRuntime Ω) (response : EnclaveResponse Ω) : Settlement JsString :=
  if R.truthy response.error then .reject routingUnavailable
  else match R.string? response.email with
    | some email =>
      if isValidEmail R response.email then .resolve email
      else .reject (.error (js "Enclave returned invalid email"))
    | none => .reject (.error (js "Enclave returned invalid email"))

/-- `buffer.endsWith('\\n') || buffer.endsWith('\x7d')`, where the first is a backslash and a letter. -/
def complete (buffer : JsString) : Bool := (js "\\n").isSuffixOf buffer || [125].isSuffixOf buffer

/-- The handler of `data`, and the timer behind the last chunk. -/
def onData (R : JsonRuntime Ω) (settle : EnclaveResponse Ω → Settlement α) :
    JsString → List (List UInt8) → Settlement α
  | _, [] => .reject routingUnavailable
  | buffer, data :: chunks =>
    if complete (buffer ++ Decoder.decode data) then
      match R.parse (buffer ++ Decoder.decode data) with
      | some response => settle response
      | none => onData R settle (buffer ++ Decoder.decode data) chunks
    else onData R settle (buffer ++ Decoder.decode data) chunks

/-- `enclaveDecryptAll`, by the chunks in which the response comes. -/
def enclaveDecryptAll (R : JsonRuntime Ω) (chunks : List (List UInt8)) : Settlement DecryptedChannels :=
  onData R (settleAll R) [] chunks

/-- `enclaveDecrypt` -/
def enclaveDecrypt (R : JsonRuntime Ω) (chunks : List (List UInt8)) : Settlement JsString :=
  onData R (settleEmail R) [] chunks

/-!
## What should come of a response

Responses are framed as they should be when a promise is settled with what the response says, in whatever
chunks it comes.
-/

/-- A response as the enclave sends it: the bytes of an object. -/
structure Reply (R : JsonRuntime Ω) where
  /-- What stands between the braces. -/
  inner : List UInt8
  value : EnclaveResponse Ω
  parses : R.parse (Decoder.decode (123 :: (inner ++ [125]))) = some value

/-- `JSON.stringify(response)` -/
def Reply.bytes {R : JsonRuntime Ω} (reply : Reply R) : List UInt8 := 123 :: (reply.inner ++ [125])

/-- Chunks that carry a response, with a newline behind it or without. -/
structure Carries {R : JsonRuntime Ω} (chunks : List (List UInt8)) (reply : Reply R) : Prop where
  flatten_eq : chunks.flatten = reply.bytes ∨ chunks.flatten = reply.bytes ++ [10]

/-- A way for the bytes of a response to come. -/
structure Arrival {R : JsonRuntime Ω} (reply : Reply R) where
  chunks : List (List UInt8)
  carries : Carries chunks reply

/-- A promise is settled with the result for a response. -/
def SettlesAs (outcome result : Settlement α) : Prop := outcome = result ∧ result ≠ .pending

/-- Some of the chunks, from the first on, carry a response and not a byte more. -/
structure Ends {R : JsonRuntime Ω} (chunks : List (List UInt8)) (reply : Reply R)
    (pieces : List (List UInt8)) : Prop where
  of_chunks : pieces <+: chunks
  whole : pieces.flatten = reply.bytes

/-- The text of chunks that are decoded one by one. -/
def received (pieces : List (List UInt8)) : JsString := pieces.flatMap Decoder.decode

/-- A chunk ends where the response does, and the chunks decoded one by one read as the response does; or else
the result is the one that the timer gives. -/
structure Legible {R : JsonRuntime Ω} (settle : EnclaveResponse Ω → Settlement α) (chunks : List (List UInt8))
    (reply : Reply R) : Prop where
  has_result : settle reply.value ≠ .pending
  reads : (∃ pieces response, Ends chunks reply pieces ∧ R.parse (received pieces) = some response ∧
      settle response = settle reply.value) ∨
    (settle reply.value = .reject routingUnavailable ∧
      ∀ pieces, Ends chunks reply pieces → R.parse (received pieces) = none)

end EnclaveService

end HeraldGateway
