import HeraldGateway.Async.Totals
import HeraldGateway.Domains.Dkim
import HeraldGateway.Operations

/-!
# Provisioning, step by step

`provisionDomainKey` and `deleteDomainKey` of `dkim.service.ts`, call by call: the keys of a protocol are
counted, a key is made at KMS, and then its row is stored. A plan limits how many keys a protocol has.
-/

namespace HeraldGateway

open Async Text

/-! ### Operations -/

/-- A row of `dkim_keys`, with the id of its domain at Resend. -/
abbrev RegisteredKey := DkimKey × Option JsString

/-- The calls of the service. -/
inductive DomainOp where
  | findTier (protocolId : JsString)
  | countActive (protocolId : JsString)
  | createKmsKey (description : JsString)
  | getPublicKey (kmsKeyId : JsString)
  | createKey (row : Nat → DkimKey)
  | findKey (id : Nat) (protocolId : JsString)
  | removeResendDomain (resendDomainId : JsString)
  | deleteKeys (id : Nat) (protocolId : JsString)

/-- What these calls give. -/
def DomainOp.Res : DomainOp → Type
  | findTier _ => Option Nat
  | countActive _ => Nat
  | createKmsKey _ => Option JsString
  | getPublicKey _ => Option (List UInt8)
  | createKey _ => DkimKey
  | findKey .. => Option RegisteredKey
  | removeResendDomain _ | deleteKeys .. => Unit

/-- The calls of the service. -/
abbrev DomainCalls : Signature := ⟨DomainOp, DomainOp.Res⟩

/-- A function of the service. -/
abbrev Domains (α : Type) := Prog DomainCalls Err α

/-- Make a call. -/
def DomainOp.call (o : DomainOp) : Domains o.Res := @Prog.perform DomainCalls Err o

/-- What the surroundings decide about a call: its fate, and what KMS answers. -/
structure DomainChoice where
  fault : Fault := .none
  kmsKeyId : Option JsString := none
  der : Option (List UInt8) := none
  deriving DecidableEq, Repr

/-- The tables of the service. -/
structure DomainStore where
  tier : JsString → Option Nat
  keys : DkimStore
  resendDomain : Nat → Option JsString

namespace DomainStore

/-- The active keys of a protocol. -/
def active (s : DomainStore) (protocolId : JsString) : Nat :=
  s.keys.keys.countP fun k => k.protocolId == protocolId && k.isActive

/-- `dkimKey.create`. The pair of domain and selector is unique. -/
def createKey (s : DomainStore) (row : Nat → DkimKey) : Except Err DkimKey × DomainStore :=
  let key := row s.keys.created
  if s.keys.keys.any fun k => k.domain == key.domain &&
    k.selector == key.selector then (.error .uniqueViolation, s)
  else (.ok key, { s with keys := { keys := s.keys.keys ++ [key], created := s.keys.created + 1 } })

/-- A call that is answered. -/
def serve (c : DomainChoice) (s : DomainStore) : (o : DomainOp) → Except Err o.Res × DomainStore
  | .findTier id => (.ok (s.tier id), s)
  | .countActive id => (.ok (s.active id), s)
  | .createKmsKey _ => (.ok c.kmsKeyId, s)
  | .getPublicKey _ => (.ok c.der, s)
  | .createKey row => s.createKey row
  | .findKey id protocolId =>
    (.ok ((s.keys.keys.find? fun k => k.id == id && k.protocolId == protocolId).map fun k => (k, s.resendDomain k.id)), s)
  | .removeResendDomain _ => (.ok (), s)
  | .deleteKeys id protocolId => (.ok (), { s with keys := s.keys.delete id protocolId })

/-- A call under a fault. -/
def handle : Handler DomainCalls Err DomainStore DomainChoice := fun c s o => c.fault.meet s (s.serve c o)

example {c : DomainChoice} {s : DomainStore} {id : JsString} (h : c.fault = .none) :
    handle c s (.findTier id) = (.ok (s.tier id), s) := by
  rw [handle, serve, h]
  rfl

end DomainStore

/-! ### The service -/

/-- What `provisionDomainKey` returns. -/
structure ProvisionedDomain where
  id : Nat
  domain : JsString
  selector : JsString
  dnsRecordName : JsString
  dnsRecordValue : JsString
  kmsKeyId : JsString
  instructions : JsString
  deriving DecidableEq, Repr

/-- `pemPublicKey`: where there is nothing to wrap, nothing is joined. -/
def pemPublicKey (base64Pub : JsString) : JsString :=
  if base64Pub = [] then pemHeader ++ js "\nundefined\n" ++ pemFooter else pem base64Pub

/-- The row of a key that was made. -/
def newKey (protocolId domain selector : JsString) (der : List UInt8) (id : Nat) : DkimKey where
  id := id
  protocolId := protocolId
  domain := domain
  selector := selector
  publicKey := pemPublicKey (Base64url.encodeStandard der)
  der := der

/-- The answer for a key that was stored. -/
def provisioned (key : DkimKey) (kmsKeyId : JsString) : ProvisionedDomain where
  id := key.id
  domain := key.domain
  selector := key.selector
  dnsRecordName := recordName key
  dnsRecordValue := dnsRecordValue key
  kmsKeyId := kmsKeyId
  instructions := js "Add a TXT record to your DNS provider. Name/Host: " ++ recordName key ++
    js " (Tip: If your DNS provider like Namecheap or GoDaddy auto-appends your root domain, omit it from the " ++
    js "Name/Host field). Value: " ++ dnsRecordValue key

/-- The error where a protocol has all its domains. -/
def domainLimitReached (tier : Nat) : Err :=
  .http 403 (js "Domain limit reached. Your current plan (" ++ (if tier = 0 then js "Free" else js "Paid") ++
    js ") allows up to " ++ decimal (maxDomains tier) ++ js " custom domains.")

/-- Make a key and store it. -/
def makeKey (protocolId domain selector : JsString) : Domains ProvisionedDomain := do
  let created ← (DomainOp.createKmsKey (js "DKIM key for " ++ domain ++ js " (" ++ protocolId ++ js ")")).call
  match (created : Option JsString) with
  | none | some [] => .throw (.error (js "Failed to create KMS key"))
  | some kmsKeyId => do
    let answer ← (DomainOp.getPublicKey kmsKeyId).call
    match (answer : Option (List UInt8)) with
    | none => .throw (.error (js "Failed to get KMS public key"))
    | some der => do
      let key ← (DomainOp.createKey (newKey protocolId domain selector der)).call
      return provisioned key kmsKeyId

/-- Make a key where the plan has room for it. -/
def checkLimit (protocolId domain selector : JsString) (tier currentCount : Nat) :
    Domains ProvisionedDomain :=
  if currentCount ≥ maxDomains tier then .throw (domainLimitReached tier) else makeKey protocolId domain selector

/-- What `provisionDomainKey` tries. -/
def tryProvision (protocolId domain selector : JsString) : Domains ProvisionedDomain := do
  let found ← (DomainOp.findTier protocolId).call
  match (found : Option Nat) with
  | none => .throw (.error (js "Protocol not found"))
  | some tier => do
    let currentCount ← (DomainOp.countActive protocolId).call
    checkLimit protocolId domain selector tier currentCount

/-- `provisionDomainKey` -/
def provisionDomainKey (protocolId domain selector : JsString) : Domains ProvisionedDomain :=
  Prog.tryCatch (tryProvision protocolId domain selector)
    fun _ => .throw (.error (js "Failed to provision DKIM key"))

/-- Remove a domain at Resend, if that succeeds. -/
def cleanUp : Option RegisteredKey → Domains Unit
  | some (_, some (a :: id)) => Prog.tryCatch (DomainOp.removeResendDomain (a :: id)).call fun _ => .ret ()
  | _ => .ret ()

/-- `deleteDomainKey` -/
def deleteDomainKey (id : Nat) (protocolId : JsString) : Domains Unit := do
  let key ← (DomainOp.findKey id protocolId).call
  cleanUp key
  (DomainOp.deleteKeys id protocolId).call

/-! ### Runs -/

/-- A request to the service. -/
inductive DomainRequest where
  | provision (protocolId domain selector : JsString)
  | delete (id : Nat) (protocolId : JsString)
  deriving DecidableEq, Repr

/-- The program of a request, and the key that it provisions. -/
def DomainRequest.code : DomainRequest → Domains (Option ProvisionedDomain)
  | provision protocolId domain selector =>
    (provisionDomainKey protocolId domain selector).bind fun d => .ret (some d)
  | delete id protocolId => (deleteDomainKey id protocolId).bind fun _ => .ret none

/-- What happens to the tables between the calls of these requests. -/
inductive DomainChange where
  | verify (id : Nat) (protocolId : JsString) (answer : Option TxtRecords)
  | register (id : Nat) (resendDomainId : Option JsString)
  deriving DecidableEq, Repr

/-- A change of the tables. -/
def DomainChange.apply (s : DomainStore) : DomainChange → DomainStore
  | verify id protocolId answer => { s with keys := s.keys.verify id protocolId answer }
  | register id resendDomainId =>
    { s with resendDomain := fun k => if k = id then resendDomainId else s.resendDomain k }

/-- Any number of requests over the tables. -/
def domains :
    System DomainCalls Err (Option ProvisionedDomain) DomainRequest DomainStore DomainChoice DomainChange where
  handler := DomainStore.handle
  code r _ := r.code
  outside e s := some (e.apply s)

/-- A pool of requests. -/
abbrev DomainPool := Pool DomainCalls Err (Option ProvisionedDomain) DomainRequest DomainStore DomainChoice

/-- A call that was answered. -/
abbrev DomainEvent := Event DomainCalls Err DomainStore DomainChoice

/-- A step of a pool. -/
abbrev DomainLabel := Label DomainRequest DomainChoice DomainChange

/-! ### The limit -/

/-- A protocol has no more active keys than its plan allows. -/
def WithinPlan (s : DomainStore) (protocolId : JsString) : Prop :=
  ∀ tier ∈ s.tier protocolId, s.active protocolId ≤ maxDomains tier

instance (s : DomainStore) (protocolId : JsString) : Decidable (WithinPlan s protocolId) := by
  unfold WithinPlan; infer_instance

/-- A count lets a request of a protocol go on. -/
def DomainOp.admits (protocolId : JsString) (limit : Nat) : (o : DomainOp) → Except Err o.Res → Bool
  | countActive id, .ok count => id == protocolId && Nat.blt count limit
  | _, _ => false

/-- The keys that a request may yet store, after a call: one from its count on, until it stored a key or
failed. -/
def DomainOp.pending (protocolId : JsString) (limit n : Nat) : (o : DomainOp) → Except Err o.Res → Nat
  | countActive id, r => if (countActive id).admits protocolId limit r then 1 else n
  | createKmsKey _, .ok (some (_ :: _)) | getPublicKey _, .ok (some _) => n
  | createKmsKey _, _ | getPublicKey _, _ | createKey _, _ => 0
  | _, _ => n

/-- The keys that a request may yet store for a protocol. -/
def pendingKeys (protocolId : JsString) (limit : Nat) (tr : List DomainEvent) : Nat :=
  tr.foldl (fun n e => e.op.pending protocolId limit n e.reply) 0

/-- A request goes on only where there is room for its key besides those that others may yet store. -/
def LeavesRoom (protocolId : JsString) (p : DomainPool) : DomainLabel → Prop
  | .pick i c => ∀ t ∈ p.threads[i]?, ∀ o ∈ t.prog.next?, ∀ tier ∈ p.store.tier protocolId,
      o.admits protocolId (maxDomains tier) (DomainStore.handle c.2 p.store o).1 = true →
        p.store.active protocolId + p.total (pendingKeys protocolId (maxDomains tier)) < maxDomains tier
  | _ => True

instance (protocolId : JsString) (p : DomainPool) (l : DomainLabel) :
    Decidable (LeavesRoom protocolId p l) := by
  unfold LeavesRoom; split <;> infer_instance

end HeraldGateway
