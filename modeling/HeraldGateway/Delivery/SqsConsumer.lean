import HeraldGateway.Types

/-!
# The consumer of mail events

`sqs.consumer.service.ts`: a poll takes a batch of messages, adds the event of each to the bounce queue, and
then deletes the messages that were handled. What `JSON.parse` makes of a text is a parameter, so everything
holds for every parser.
-/

namespace HeraldGateway

/-- A value of JSON, or `undefined`. -/
inductive JsonBody where
  | undefined
  | null
  | bool (b : Bool)
  | number (numeral : JsString)
  | string (s : JsString)
  | array (items : List JsonBody)
  | object (props : List (JsString × JsonBody))

namespace JsonBody

/-- `v.key`, which throws where there is no object to look at. Other values have none of the properties that
are looked for. -/
def get (v : JsonBody) (key : JsString) : Except Err JsonBody :=
  match v with
  | undefined | null => .error (.error (js "Cannot read properties"))
  | object props => .ok ((props.lookup key).getD undefined)
  | _ => .ok undefined

/-- `v ?? w` -/
def orElse (v w : JsonBody) : JsonBody :=
  match v with
  | undefined | null => w
  | v => v

/-- `v === s` for a string -/
def isString (v : JsonBody) (s : JsString) : Bool :=
  match v with
  | string s' => s' == s
  | _ => false

end JsonBody

/-- `JSON.parse`, if it does not throw. -/
abbrev JsonParser := JsString → Option JsonBody

/-- A message of the queue. -/
structure SqsMessage where
  messageId : Option JsString
  receiptHandle : Option JsString
  body : JsonBody

/-- What becomes of adding a job: it succeeds, or fails with or without having stored it. -/
inductive AddOutcome where
  | added
  | failed (stored : Bool)
  deriving DecidableEq, Repr

/-- What handling a message came to: the events it added to the bounce queue, and whether it threw. -/
structure Handling where
  added : List JsonBody
  result : Except Err Unit

variable (parse : JsonParser)

/-- The body of a message, if it is not a text that is no JSON. -/
def SqsMessage.readBody (msg : SqsMessage) : Option JsonBody :=
  match msg.body with
  | .string s => parse s
  | body => some body

/-- `body.notificationType ?? body.Type` -/
def bodyType (body : JsonBody) : Except Err JsonBody := do
  let notificationType ← body.get (js "notificationType")
  let type ← body.get (js "Type")
  return notificationType.orElse type

/-- The event in a body: what it wraps as `Message`, or itself. -/
def messageData (body : JsonBody) : Except Err JsonBody := do
  match ← body.get (js "Message") with
  | .string s =>
    match parse s with
    | some data => return data
    | none => throw (.error (js "SyntaxError"))
  | message => return message.orElse body

/-- What is logged of an event. -/
def logEvent (data : JsonBody) : Except Err Unit := do
  let _ ← data.get (js "notificationType")
  match ← data.get (js "mail") with
  | .undefined | .null => return ()
  | mail =>
    let _ ← mail.get (js "messageId")
    return ()

/-- `bounceQueue.add`, and the line of the log after it. -/
def addEvent (data : JsonBody) : AddOutcome → Handling
  | .added => ⟨[data], logEvent data⟩
  | .failed stored => ⟨if stored then [data] else [], .error (.error (js "Queue unavailable"))⟩

/-- `processMessage` -/
def processMessage (msg : SqsMessage) (outcome : AddOutcome) : Handling :=
  match msg.readBody parse with
  | none => ⟨[], .ok ()⟩
  | some body =>
    match bodyType body with
    | .error e => ⟨[], .error e⟩
    | .ok type =>
      if type.isString (js "SubscriptionConfirmation") then ⟨[], .ok ()⟩
      else
        match messageData parse body with
        | .error e => ⟨[], .error e⟩
        | .ok data => addEvent data outcome

/-- An entry of `DeleteMessageBatchCommand`. -/
structure DeleteEntry where
  id : JsString
  receiptHandle : JsString
  deriving DecidableEq, Repr

/-- The entry that deletes a message, if it has what that takes. -/
def SqsMessage.entryOf? (msg : SqsMessage) : Option DeleteEntry :=
  if truthy msg.receiptHandle && truthy msg.messageId then
    some ⟨msg.messageId.getD [], msg.receiptHandle.getD []⟩
  else none

/-- What a poll has done so far: how it handled messages, and the entries of those it is to delete. -/
structure PollReport where
  handled : List (SqsMessage × Handling)
  entries : List DeleteEntry

/-- One round of the loop over the messages. -/
def handleNext (report : PollReport) (m : SqsMessage × AddOutcome) : PollReport :=
  let handling := processMessage parse m.1 m.2
  match handling.result with
  | .ok _ => ⟨report.handled ++ [(m.1, handling)], report.entries ++ m.1.entryOf?.toList⟩
  | .error _ => ⟨report.handled ++ [(m.1, handling)], report.entries⟩

/-- What a poll meets: the messages it is given, with what becomes of adding their events, unless it fails,
and whether the deletion fails. -/
structure SqsPoll where
  received : Except Err (List (SqsMessage × AddOutcome))
  deletes : Except Err Unit

/-- The messages of a poll. -/
def SqsPoll.messages (p : SqsPoll) : List (SqsMessage × AddOutcome) :=
  match p.received with
  | .ok messages => messages
  | .error _ => []

/-- `poll`: the report, whose entries are submitted in one command, if there are any. Whether that fails makes
no difference. -/
def poll (p : SqsPoll) : PollReport := p.messages.foldl (handleNext parse) ⟨[], []⟩

/-- The events that a poll adds to the bounce queue. -/
def PollReport.added (report : PollReport) : List JsonBody := report.handled.flatMap (·.2.added)

/-- Polls one after another, from a bounce queue on. -/
def consume (queue : List JsonBody) : List SqsPoll → List JsonBody × List PollReport
  | [] => (queue, [])
  | p :: polls =>
    let rest := consume (queue ++ (poll parse p).added) polls
    (rest.1, poll parse p :: rest.2)

/-- A message is dealt with: its event was added, or its body is no JSON, or it confirms a subscription. -/
def DealtWith (msg : SqsMessage) (handling : Handling) : Prop :=
  (∃ body data, msg.readBody parse = some body ∧ messageData parse body = .ok data ∧ handling.added = [data]) ∨
    msg.readBody parse = none ∨
    ∃ body type, msg.readBody parse = some body ∧ bodyType body = .ok type ∧
      type.isString (js "SubscriptionConfirmation") = true

/-- The entries of the messages whose handling did not throw. -/
def entriesOfHandled (handled : List (SqsMessage × Handling)) : List DeleteEntry :=
  (handled.filter (·.2.result.isOk)).filterMap (·.1.entryOf?)

/-- A poll handles each of its messages, whatever comes of the others. It submits for deletion those whose
handling did not throw, and they are dealt with. -/
structure LosesNothing (p : SqsPoll) (report : PollReport) : Prop where
  handled : report.handled = p.messages.map fun m => (m.1, processMessage parse m.1 m.2)
  submitted : report.entries = entriesOfHandled report.handled
  dealtWith : ∀ h ∈ report.handled, h.2.result.isOk = true → DealtWith parse h.1 h.2

end HeraldGateway
