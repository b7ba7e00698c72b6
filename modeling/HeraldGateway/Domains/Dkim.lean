import HeraldGateway.Js
import HeraldGateway.Text.Encodings

/-!
# Custom sender domains

`dkim.service.ts` and the choice of the sender domain in `deliverEmail`. A protocol's domain may be used for
its emails once the key that was provisioned for it was found in the domain's TXT records.
-/

namespace HeraldGateway

open Text

/-- A row of `dkim_keys`. -/
structure DkimKey where
  id : Nat
  protocolId : JsString
  domain : JsString
  selector : JsString
  publicKey : JsString
  /-- The public key that KMS holds under `kmsKeyId`, in DER. -/
  der : List UInt8
  isActive : Bool := true
  dnsVerified : Bool := false
  deriving DecidableEq, Repr

/-- The table, in the order of creation. -/
structure DkimStore where
  keys : List DkimKey := []
  /-- How many rows were ever created. -/
  created : Nat := 0
  deriving DecidableEq, Repr

/-- The answer of a TXT lookup: records, each as the strings it is split into. -/
abbrev TxtRecords := List (List JsString)

/-! ### Provisioning -/

/-- How the DER of every RSA key of 2048 bits begins: the length, the algorithm and the length of the key. -/
def rsaHeader : List UInt8 :=
  [0x30, 0x82, 0x01, 0x22, 0x30, 0x0D, 0x06, 0x09, 0x2A, 0x86, 0x48, 0x86, 0xF7, 0x0D,
  0x01, 0x01, 0x01, 0x05, 0x00, 0x03, 0x82, 0x01, 0x0F, 0x00]

/-- `s.match(/.{1,64}/g).join('\n')`, where `room` more code units fit into the line. -/
def wrapLines : Nat → JsString → JsString
  | _, [] => []
  | 0, a :: s => 10 :: a :: wrapLines 63 s
  | room + 1, a :: s => a :: wrapLines room s

def pemHeader : JsString := js "-----BEGIN PUBLIC KEY-----"

def pemFooter : JsString := js "-----END PUBLIC KEY-----"

/-- A key in PEM. -/
def pem (base64Pub : JsString) : JsString :=
  pemHeader ++ js "\n" ++ wrapLines 64 base64Pub ++ js "\n" ++ pemFooter

/-- The selector under which a key is published. -/
def recordName (key : DkimKey) : JsString := key.selector ++ js "._domainkey." ++ key.domain

/-- The TXT record that the owner of the domain is asked to publish. -/
def dnsRecordValue (key : DkimKey) : JsString := js "v=DKIM1; k=rsa; p=" ++ Base64url.encodeStandard key.der

/-- How many domains a tier may have. -/
def maxDomains (tier : Nat) : Nat := if tier = 0 then 1 else 20

/-- `provisionDomainKey`, with the key that KMS makes, which is given by what follows its header. It throws
where the protocol has all its domains, and where the name is taken. -/
def DkimStore.provision (s : DkimStore) (protocolId domain selector : JsString) (tier : Nat)
    (modulus : List UInt8) : DkimStore :=
  if (s.keys.filter fun k => k.protocolId == protocolId && k.isActive).length ≥ maxDomains tier then s
  else if s.keys.any fun k => k.domain == domain && k.selector == selector then s
  else
    let der := rsaHeader ++ modulus
    { keys := s.keys ++ [{
        id := s.created
        protocolId := protocolId
        domain := domain
        selector := selector
        publicKey := pem (Base64url.encodeStandard der)
        der := der }]
      created := s.created + 1 }

/-! ### Verification -/

/-- `s.replace(/-----BEGIN PUBLIC KEY-----|-----END PUBLIC KEY-----/g, '')`, where `skip` code units of a
match are left. -/
def removeMarks : Nat → JsString → JsString
  | _, [] => []
  | skip + 1, _ :: s => removeMarks skip s
  | 0, a :: s =>
    if pemHeader.isPrefixOf (a :: s) then removeMarks (pemHeader.length - 1) s
    else if pemFooter.isPrefixOf (a :: s) then removeMarks (pemFooter.length - 1) s
    else a :: removeMarks 0 s

/-- `pubKeyB64` -/
def pubKeyB64 (publicKey : JsString) : JsString := (removeMarks 0 publicKey).filter fun u => !isSpace u

/-- What `verifyDomain` finds for a key and the answer of the lookup. -/
def dnsMatches (key : DkimKey) (records : TxtRecords) : Bool :=
  includes ((pubKeyB64 key.publicKey).take 32) (records.map List.flatten).flatten

/-- `verifyDomain`, where `none` is a lookup that failed. The row it reads is the one it updates, since keys
are never changed. -/
def DkimStore.verify (s : DkimStore) (id : Nat) (protocolId : JsString)
    (answer : Option TxtRecords) : DkimStore :=
  match s.keys.find? fun k => k.id == id && k.protocolId == protocolId, answer with
  | some key, some records =>
    if dnsMatches key records then
      { s with keys := s.keys.map fun k => if k.id = id then { k with dnsVerified := true } else k }
    else s
  | _, _ => s

/-- `deleteDomainKey` -/
def DkimStore.delete (s : DkimStore) (id : Nat) (protocolId : JsString) : DkimStore :=
  { s with keys := s.keys.filter fun k => !(k.id == id && k.protocolId == protocolId) }

/-- The key whose domain `deliverEmail` sends from, if the protocol has one. -/
def DkimStore.senderKey (s : DkimStore) (protocolId : JsString) : Option DkimKey :=
  s.keys.find? fun k => k.protocolId == protocolId && k.isActive && k.dnsVerified

/-- `senderDomain` -/
def DkimStore.senderDomain (s : DkimStore) (protocolId : JsString) : JsString :=
  ((s.senderKey protocolId).map (·.domain)).getD (js "useherald.xyz")

/-! ### The list of domains -/

/-- `[A-Za-z0-9+/=\n]` -/
def isPemLetter (u : UInt16) : Bool :=
  (65 ≤ u && u ≤ 90) || (97 ≤ u && u ≤ 122) || (48 ≤ u && u ≤ 57) || u == 43 || u == 47 || u == 61 || u == 10

/-- What `/-----BEGIN PUBLIC KEY-----([A-Za-z0-9+/=\n]+)-----END PUBLIC KEY-----/` finds between the marks.
The letters end where the hyphens begin. -/
def base64Match : JsString → Option JsString
  | [] => none
  | a :: s =>
    let behind := (a :: s).drop pemHeader.length
    let letters := behind.takeWhile isPemLetter
    if pemHeader.isPrefixOf (a :: s) && !letters.isEmpty &&
      pemFooter.isPrefixOf (behind.drop letters.length) then
      some letters
    else base64Match s

/-- `base64Key` of `list` -/
def base64Key (publicKey : JsString) : JsString :=
  match base64Match publicKey with
  | some letters => letters.filter (· != 10)
  | none => (removeMarks 0 publicKey).filter (· != 10)

/-- `dnsRecordValue` of `list` -/
def listedRecordValue (key : DkimKey) : JsString :=
  let base64Key := base64Key key.publicKey
  if base64Key.isEmpty then [] else js "v=DKIM1; k=rsa; p=" ++ base64Key

/-! ### Runs -/

/-- A call of the service. -/
inductive DkimOp where
  | provision (protocolId domain selector : JsString) (tier : Nat) (modulus : List UInt8)
  | verify (id : Nat) (protocolId : JsString) (answer : Option TxtRecords)
  | delete (id : Nat) (protocolId : JsString)
  deriving DecidableEq, Repr

/-- What a call makes of the table. -/
def DkimStore.apply (s : DkimStore) : DkimOp → DkimStore
  | .provision protocolId domain selector tier modulus => s.provision protocolId domain selector tier modulus
  | .verify id protocolId answer => s.verify id protocolId answer
  | .delete id protocolId => s.delete id protocolId

/-- A key that is looked for in what was looked up. -/
structure Verification where
  key : DkimKey
  records : TxtRecords

/-- The verification that a call makes. -/
def DkimStore.verification? (s : DkimStore) : DkimOp → Option Verification
  | .verify id protocolId (some records) =>
    (s.keys.find? fun k => k.id == id && k.protocolId == protocolId).map (⟨·, records⟩)
  | _ => none

/-- The verifications of a run. -/
def DkimStore.verifications (s : DkimStore) : List DkimOp → List Verification
  | [] => []
  | op :: ops => (s.verification? op).toList ++ (s.apply op).verifications ops

/-- Some record carries the entire public key. -/
def Verification.IsCarried (v : Verification) : Prop :=
  ∃ record ∈ v.records, includes (Base64url.encodeStandard v.key.der) record.flatten = true

instance (v : Verification) : Decidable v.IsCarried := by
  unfold Verification.IsCarried; infer_instance

/-- In a run, a key is found only where a record carries all of it, and every domain that is sent from had
its key found so. -/
structure BoundToKeys (ops : List DkimOp) : Prop where
  found : ∀ v ∈ DkimStore.verifications {} ops, dnsMatches v.key v.records = true → v.IsCarried
  used : ∀ protocolId, ∀ key ∈ (ops.foldl DkimStore.apply {}).senderKey protocolId,
    ∃ v ∈ DkimStore.verifications {} ops, v.key.domain = key.domain ∧ v.key.der = key.der ∧ v.IsCarried

/-- A lookup answers with the record that the owner of the domain was asked to publish, split anywhere, among
any others. -/
def DkimKey.PublishedIn (key : DkimKey) (records : TxtRecords) : Prop :=
  ∃ record ∈ records, record.flatten = dnsRecordValue key

instance (key : DkimKey) (records : TxtRecords) : Decidable (key.PublishedIn records) := by
  unfold DkimKey.PublishedIn; infer_instance

/-- What every public key begins with. -/
def rsaHeaderB64 : JsString := Base64url.encodeStandard rsaHeader

end HeraldGateway
