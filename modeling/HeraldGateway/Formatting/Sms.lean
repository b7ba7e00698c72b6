import HeraldGateway.Formatting.Markdown

/-!
# Texts of SMS

`sns.provider.ts`: the body of a notification without its Markdown, cut to what is left of one segment.
-/

namespace HeraldGateway.SnsService

open LinkParser

def GSM_7_MAX_LENGTH : Nat := 160

def GSM_7_MULTI_MAX_LENGTH : Nat := 153

def UCS_2_MAX_LENGTH : Nat := 70

def UCS_2_MULTI_MAX_LENGTH : Nat := 67

/-- What `buildSmsBody` reads of `SmsMessageParams`. -/
structure SmsMessageParams where
  protocolName : JsString
  subject : JsString
  body : JsString
  deriving DecidableEq, Repr

inductive SmsEncoding where
  | gsm7
  | ucs2
  deriving DecidableEq, Repr

/-- `SmsMessageResult` -/
structure SmsMessageResult where
  body : JsString
  segments : Nat
  encoding : SmsEncoding
  deriving DecidableEq, Repr

/-- Whether all units are in `[\x00-\x7F]`. -/
def isAscii (text : JsString) : Bool := text.all (· < 128)

/-- `isGsm7Encoding`, which is `/^[\x00-\x7F\n\r\t ]+$/.test(text)` -/
def isGsm7Encoding (text : JsString) : Bool := !text.isEmpty && isAscii text

/-- `s.lastIndexOf(c)` for a single code unit `c` -/
def lastIndexOf (c : UInt16) (s : JsString) : Int := s.length - 1 - s.reverse.idxOf c

/-- `truncateToCharLimit` -/
def truncateToCharLimit (text : JsString) (maxLength : Nat) : JsString :=
  if text.length ≤ maxLength then text else text.take (maxLength - 1) ++ js "…"

/-- `truncateToWordBoundary` -/
def truncateToWordBoundary (text : JsString) (maxLength : Nat) : JsString :=
  if text.length ≤ maxLength then text
  else
    let truncated := text.take maxLength
    let lastSpace := lastIndexOf 32 truncated
    if 2 * lastSpace > maxLength then truncated.take lastSpace.toNat
    else
      let lastPunctuation := max (lastIndexOf 46 truncated) (max (lastIndexOf 33 truncated) (lastIndexOf 63 truncated))
      if 2 * lastPunctuation > maxLength then truncated.take (lastPunctuation + 1).toNat
      else truncateToCharLimit text maxLength

/-- `Math.ceil(message.length / maxPerSegment)` -/
def calculateSegments (message : JsString) (isGsm7 : Bool) : Nat :=
  let maxPerSegment := if isGsm7 then GSM_7_MULTI_MAX_LENGTH else UCS_2_MULTI_MAX_LENGTH
  (message.length + maxPerSegment - 1) / maxPerSegment

/-- `[name] ` -/
def namePrefix (params : SmsMessageParams) : JsString := js "[" ++ params.protocolName ++ js "] "

def subjectLine (params : SmsMessageParams) : JsString := params.subject ++ js ": "

/-- ` (via Herald)` -/
def viaSuffix : JsString := js " (via Herald)"

def overhead (params : SmsMessageParams) : Nat :=
  (namePrefix params).length + (subjectLine params).length + viaSuffix.length

/-- `buildSmsBody` -/
def buildSmsBody (params : SmsMessageParams) : SmsMessageResult :=
  let cleanText := stripMarkdown params.body
  let isGsm7 := isGsm7Encoding cleanText
  let maxSingle := if isGsm7 then GSM_7_MAX_LENGTH else UCS_2_MAX_LENGTH
  let bodyBudget := maxSingle - overhead params
  let truncatedBody := truncateToWordBoundary cleanText bodyBudget
  let truncatedBody :=
    if truncatedBody.length = 0 then truncateToCharLimit cleanText bodyBudget else truncatedBody
  let body := namePrefix params ++ subjectLine params ++ truncatedBody ++ viaSuffix
  { body := body, segments := calculateSegments body isGsm7, encoding := if isGsm7 then .gsm7 else .ucs2 }

/-! ## Sizes -/

/-- The single-segment length. -/
def SmsEncoding.single : SmsEncoding → Nat
  | gsm7 => GSM_7_MAX_LENGTH
  | ucs2 => UCS_2_MAX_LENGTH

/-- The multi-segment length. -/
def SmsEncoding.multi : SmsEncoding → Nat
  | gsm7 => GSM_7_MULTI_MAX_LENGTH
  | ucs2 => UCS_2_MULTI_MAX_LENGTH

/-- What the result for a message promises. -/
structure SizedRight (params : SmsMessageParams) (r : SmsMessageResult) : Prop where
  alphabet : r.encoding = .gsm7 → isGsm7Encoding r.body = true
  single_fits : overhead params ≤ r.encoding.single → r.body.length ≤ r.encoding.single
  one_segment : r.segments = 1 ↔ r.body.length ≤ r.encoding.single
  /-- The ceiling of the length over the multi-segment length. -/
  more_segments : r.encoding.single < r.body.length →
    r.encoding.multi * (r.segments - 1) < r.body.length ∧ r.body.length ≤ r.encoding.multi * r.segments

/-- The encoding that a text alone calls for. -/
def encodingOf (text : JsString) : SmsEncoding := if isGsm7Encoding text then .gsm7 else .ucs2

/-- A mark behind which a text may be cut. -/
def isPunctuation (u : UInt16) : Bool := u == 46 || u == 33 || u == 63

/-- A text that is longer than its budget has a space in the second half of it, or else such a mark, and each of them
leaves a message of `limit` units at most. -/
def BreaksEarly (text : JsString) (budget overhead limit : Nat) : Prop :=
  if ∃ i < budget, budget < 2 * i ∧ text[i]? = some 32 then
    ∀ i < budget, text[i]? = some 32 → overhead + i ≤ limit
  else
    (∃ i < budget, budget < 2 * i ∧ ∃ u ∈ text[i]?, isPunctuation u = true) ∧
      ∀ i < budget, ∀ u ∈ text[i]?, isPunctuation u = true → overhead + (i + 1) ≤ limit

/-- When the sizes of a message are right. -/
def SizesWell (params : SmsMessageParams) : Prop :=
  let cleanText := stripMarkdown params.body
  let encoding := encodingOf cleanText
  let budget := encoding.single - overhead params
  (encoding = .gsm7 → isAscii params.protocolName = true ∧ isAscii params.subject = true) ∧
    (encoding = .ucs2 ∧ encoding.single < overhead params ∨
      overhead params < encoding.single ∧
        if cleanText.length ≤ budget then overhead params + cleanText.length ≤ encoding.multi
        else BreaksEarly cleanText budget (overhead params) encoding.multi)

end HeraldGateway.SnsService
