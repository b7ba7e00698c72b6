import HeraldGateway.Domains.Dkim
import HeraldGateway.Text.Patterns

/-!
# Policies and logos in DNS

`dns-verification.service.ts` looks up the DMARC policy of a domain and its BIMI record, which
`generateDnsRecord` of `bimi.service.ts` writes. Both records are lists of tags between semicolons.
-/

namespace HeraldGateway

open Text

/-- `resolveTxt`, where `none` is a lookup that failed. -/
def resolveTxt (answer : Option TxtRecords) : List JsString := (answer.getD []).map List.flatten

/-- The text that a tag of a record is found by, and what is captured of it. -/
def tagText (tag record : JsString) : Option JsString := (captured? tag 59 record).map trim

/-! ### DMARC -/

/-- What `checkDmarcPolicy` returns. -/
structure DmarcStatus where
  valid : Bool
  policy : Option JsString := none
  record : Option JsString := none
  error : Option JsString := none
  deriving DecidableEq, Repr

def dmarcVersion : JsString := js "v=DMARC1"

/-- The policies that BIMI asks for. -/
def strictPolicies : List JsString := [js "quarantine", js "reject"]

/-- `checkDmarcPolicy` -/
def checkDmarcPolicy (answer : Option TxtRecords) : DmarcStatus :=
  let records := resolveTxt answer
  if records.isEmpty then { valid := false, error := some (js "No DMARC record found") }
  else match records.find? (dmarcVersion.isPrefixOf ·) with
    | none => { valid := false, error := some (js "Invalid DMARC record format") }
    | some record =>
      let policy := tagText (js "p=") record
      if policy.any strictPolicies.contains then { valid := true, policy := policy, record := some record }
      else
        { valid := false
          policy := if truthy policy then policy else some (js "none")
          record := some record
          error := some (js "DMARC policy must be quarantine or reject") }

/-! ### BIMI -/

/-- What `checkBimiRecord` returns. -/
structure BimiStatus where
  published : Bool
  record : Option JsString := none
  logoUrl : Option JsString := none
  vmcUrl : Option JsString := none
  isMatch : Bool
  deriving DecidableEq, Repr

def bimiVersion : JsString := js "v=BIMI1"

/-- `checkBimiRecord` -/
def checkBimiRecord (answer : Option TxtRecords) (expectedLogoUrl : Option JsString) : BimiStatus :=
  let records := resolveTxt answer
  if records.isEmpty then { published := false, isMatch := false }
  else match records.find? (bimiVersion.isPrefixOf ·) with
    | none => { published := false, isMatch := false }
    | some record =>
      let logoUrl := tagText (js "l=") record
      { published := true
        record := some record
        logoUrl := logoUrl
        vmcUrl := tagText (js "a=") record
        isMatch := if truthy expectedLogoUrl then logoUrl == expectedLogoUrl else true }

/-- `generateDnsRecord` -/
def generateDnsRecord (logoUrl : JsString) (vmcUrl : Option JsString) : JsString :=
  js "v=BIMI1; l=" ++ logoUrl ++ js ";" ++
    (if truthy vmcUrl then js " a=" ++ vmcUrl.getD [] ++ js ";" else js " a=;")

/-! ### What is published -/

/-- A lookup answers with a text, split anywhere, among records that do not begin with a mark. -/
def PublishedAs (mark text : JsString) (answer : TxtRecords) : Prop :=
  ∃ before record after, answer = before ++ record :: after ∧ record.flatten = text ∧
    ∀ other ∈ before ++ after, ¬ mark <+: other.flatten

/-- A tag of a DMARC record, with the white space around its name and its value. -/
structure DmarcTag where
  name : JsString
  value : JsString
  beforeName : JsString := []
  afterName : JsString := []
  beforeValue : JsString := []
  afterValue : JsString := []
  name_ok : name ≠ [] ∧ ∀ u ∈ name, u ≠ 59 ∧ u ≠ 61 ∧ isSpace u = false
  value_ok : 59 ∉ value ∧ trim value = value
  spaces_ok : ∀ u ∈ beforeName ++ afterName ++ beforeValue ++ afterValue, isSpace u = true

/-- The text of a tag. -/
def DmarcTag.text (t : DmarcTag) : JsString :=
  t.beforeName ++ t.name ++ t.afterName ++ js "=" ++ t.beforeValue ++ t.value ++ t.afterValue

/-- A DMARC record: the version, and other tags in any order, one of which has the policy. -/
structure DmarcRecord where
  version : DmarcTag
  before : List DmarcTag
  policyTag : DmarcTag
  after : List DmarcTag
  /-- A semicolon and white space after the last tag, or nothing. -/
  ending : JsString := []
  version_ok : version.beforeName = [] ∧ version.name = js "v" ∧ version.value = js "DMARC1"
  policy_ok : policyTag.name = js "p" ∧ policyTag.value ≠ []
  others_ok : ∀ t ∈ before ++ after, t.name ≠ js "p"
  ending_ok : ending = [] ∨ ∃ spaces, ending = 59 :: spaces ∧ ∀ u ∈ spaces, isSpace u = true

namespace DmarcRecord

/-- The text of a record. -/
def text (r : DmarcRecord) : JsString :=
  join (js ";") ((r.version :: r.before ++ r.policyTag :: r.after).map DmarcTag.text) ++ r.ending

/-- The policy, in the case of letters in which it is written. -/
def policy (r : DmarcRecord) : JsString := r.policyTag.value

/-- What is returned is about the policy of a record. -/
structure IsRead (r : DmarcRecord) (status : DmarcStatus) : Prop where
  reported : status.policy = some r.policy
  valid : status.valid = true ↔ toLowerCase r.policy ∈ strictPolicies

/-- A text goes on with white space and the policy, and then white space up to a semicolon or the end. -/
def GoesOnWith (value after : JsString) : Prop :=
  ∃ a b rest, after = a ++ value ++ b ++ rest ∧ (∀ u ∈ a ++ b, isSpace u = true) ∧
    (rest = [] ∨ ∃ tail, rest = 59 :: tail)

/-- A record begins with its version, the first mark `p=` with something behind it stands before the policy,
and a policy to be accepted is in lower case. Where no mark has anything but white space behind it, the policy
is `none`. -/
structure Plain (r : DmarcRecord) : Prop where
  begins : dmarcVersion <+: r.text
  marked : ∀ before after, FirstMarked (js "p=") 59 r.text before after →
    GoesOnWith r.policy after ∨ GoesOnWith [] after ∧ r.policy = js "none"
  unmarked : (∀ before after, ¬ Marked (js "p=") 59 r.text before after) → r.policy = js "none"
  lower : toLowerCase r.policy ∈ strictPolicies → r.policy ∈ strictPolicies

end DmarcRecord

/-! ### Round trips of BIMI records -/

/-- The certificate that is given, where an empty text is none. -/
def givenCertificate (vmcUrl : Option JsString) : Option JsString := if truthy vmcUrl then vmcUrl else none

/-- What is returned is about the URLs of a record. -/
structure BimiRead (logoUrl : JsString) (vmcUrl : Option JsString) (status : BimiStatus) : Prop where
  published : status.published = true
  logo : status.logoUrl = some logoUrl
  certificate : status.vmcUrl = givenCertificate vmcUrl
  isMatch : status.isMatch = true

/-- URLs have no semicolons and no white space around them, and what stands behind the first mark `a=` inside
of the logo's is the certificate's. -/
structure BimiPlain (logoUrl : JsString) (vmcUrl : Option JsString) : Prop where
  logo : 59 ∉ logoUrl ∧ trim logoUrl = logoUrl
  certificate : ∀ u ∈ givenCertificate vmcUrl, 59 ∉ u ∧ trim u = u
  apart : ∀ before after, FirstMarked (js "a=") 59 logoUrl before after →
    givenCertificate vmcUrl = some (trim after)

end HeraldGateway
