import HeraldGateway.Async.Chain
import HeraldGateway.Operations

/-!
# Receipts

`receipt.service.ts` looks every five minutes for delivered notifications without a receipt and queues them
as a batch; `receipt.worker.ts` writes their receipts to the chain and notes the outcome. Batches may overlap,
jobs may be retried, and a process may die between any two calls.

The program on the chain lets the receipt of a notification be written once. A transaction is identified by
its signature, which depends on what it writes and on the block it refers to.
-/

namespace HeraldGateway

open Async

/-- `ReceiptNotification` -/
structure ReceiptNotification where
  id : JsString
  protocolId : JsString
  walletHash : JsString
  category : JsString
  deriving DecidableEq, Repr

/-- The instruction that writes a receipt. -/
structure ReceiptInstruction where
  protocolOwner : JsString
  recipientHash : JsString
  notificationId : JsString
  category : Nat
  deriving DecidableEq, Repr

/-- A signed transaction that writes a receipt. -/
structure ReceiptTransaction where
  instruction : ReceiptInstruction
  blockhash : Nat
  deriving DecidableEq, Repr

/-- The notification whose receipt a transaction writes. -/
def ReceiptTransaction.notificationId (tx : ReceiptTransaction) : JsString := tx.instruction.notificationId

/-- A row of `notifications`, as far as receipts look at it. -/
structure ReceiptRow extends ReceiptNotification where
  status : NotificationStatus
  deliveredAt : Option Millis
  writeReceipt : Bool
  receiptTx : Option ReceiptTransaction := none
  receiptFailureReason : Option JsString := none
  lastReceiptAttemptAt : Option Millis := none
  deriving DecidableEq, Repr

/-- A job on the queue of receipts. -/
structure ReceiptJob where
  /-- The window in `receipt-batch-<window>`. -/
  windowId : Nat
  notifications : List ReceiptNotification
  deriving DecidableEq, Repr

/-- The stores, the chain, and the workers whose process died. -/
structure ReceiptStore where
  now : Millis := 0
  notifications : List ReceiptRow := []
  /-- The id and `protocolPubkey` of each protocol. -/
  protocols : List (JsString × JsString) := []
  /-- When the lock of a window expires. -/
  locks : List (Nat × Millis) := []
  jobs : List ReceiptJob := []
  blockhash : Nat := 0
  /-- Transactions that were sent. -/
  sent : List ReceiptTransaction := []
  /-- Transactions that landed on the chain, and whether they succeeded. -/
  landed : List (ReceiptTransaction × Bool) := []
  crashed : List Nat := []
  deriving DecidableEq, Repr

/-- The operations. -/
inductive ReceiptOp where
  | now
  | lockSetNx (windowId seconds : Nat)
  | findPending (take : Nat)
  | receiptQueueAdd (job : ReceiptJob)
  | findProtocol (n : ReceiptNotification)
  | disableReceipt (id : JsString)
  | getValidityProof (id walletHash : JsString)
  /-- Build the instruction, fetch the latest blockhash and sign. -/
  | signTransaction (ix : ReceiptInstruction)
  | sendTransaction (tx : ReceiptTransaction)
  | confirmTransaction (tx : ReceiptTransaction)
  | saveReceiptTx (id : JsString) (tx : ReceiptTransaction)
  | saveReceiptFailure (id reason : JsString)
  deriving DecidableEq, Repr

/-- What they give: of a confirmation, whether it comes with an error value. -/
def ReceiptOp.Res : ReceiptOp → Type
  | now => Millis
  | lockSetNx .. => Bool
  | findPending _ => List ReceiptNotification
  | findProtocol _ => Option JsString
  | signTransaction _ => Nat
  | confirmTransaction _ => Bool
  | receiptQueueAdd _ | disableReceipt _ | getValidityProof .. | sendTransaction _ | saveReceiptTx ..
  | saveReceiptFailure .. => Unit

/-- The calls of receipts. -/
abbrev ReceiptCalls : Signature := ⟨ReceiptOp, ReceiptOp.Res⟩

/-- A function that handles receipts. -/
abbrev Receipts (α : Type) := Prog ReceiptCalls Err α

/-- Make a call. -/
def ReceiptOp.call (o : ReceiptOp) : Receipts o.Res := @Prog.perform ReceiptCalls Err o

/-! ### Answers -/

namespace ReceiptStore

/-- A transaction landed and did what it says. -/
def wrote (s : ReceiptStore) (tx : ReceiptTransaction) : Bool := s.landed.contains (tx, true)

/-- A transaction landed and failed. -/
def rejected (s : ReceiptStore) (tx : ReceiptTransaction) : Bool := s.landed.contains (tx, false)

/-- The receipt of a notification is on the chain. -/
def written (s : ReceiptStore) (id : JsString) : Bool := s.landed.any fun l => l.2 && l.1.notificationId == id

/-- `notification.findMany` of those that lack a receipt, the oldest first. -/
def pending (s : ReceiptStore) : List ReceiptNotification :=
  ((s.notifications.filter fun r =>
    r.writeReceipt && r.receiptTx.isNone && r.receiptFailureReason.isNone && r.status = .delivered).mergeSort
      fun a b => a.deliveredAt.getD 0 ≤ b.deliveredAt.getD 0).map (·.toReceiptNotification)

/-- `notification.update` of the row with an id. -/
def updateNotification (s : ReceiptStore) (id : JsString) (f : ReceiptRow → ReceiptRow) :
    Except Err Unit × ReceiptStore :=
  if s.notifications.any (·.id == id) then
    (.ok (), { s with notifications := s.notifications.map fun r => if r.id = id then f r else r })
  else (.error .recordNotFound, s)

/-- A call that is answered. -/
def serve (s : ReceiptStore) : (o : ReceiptOp) → Except Err o.Res × ReceiptStore
  | .now => (.ok s.now, s)
  | .lockSetNx windowId seconds =>
    if s.locks.any fun l => l.1 == windowId && s.now < l.2 then (.ok false, s)
    else (.ok true, { s with locks := (windowId, s.now + 1000 * seconds) :: s.locks })
  | .findPending take => (.ok (s.pending.take take), s)
  | .receiptQueueAdd job =>
    if s.jobs.any (·.windowId == job.windowId) then (.ok (), s) else (.ok (), { s with jobs := s.jobs ++ [job] })
  | .findProtocol n => (.ok ((s.protocols.find? (·.1 == n.protocolId)).map (·.2)), s)
  | .disableReceipt id => s.updateNotification id fun r => { r with writeReceipt := false }
  | .getValidityProof id _ =>
    if s.written id then (.error (.error (js "address already exists")), s) else (.ok (), s)
  | .signTransaction _ => (.ok s.blockhash, s)
  | .sendTransaction tx => (.ok (), { s with sent := tx :: s.sent })
  | .confirmTransaction tx =>
    if s.wrote tx then (.ok false, s)
    else if s.rejected tx then (.ok true, s)
    else (.error (.error (js "block height exceeded")), s)
  | .saveReceiptTx id tx => s.updateNotification id fun r => { r with receiptTx := some tx }
  | .saveReceiptFailure id reason => s.updateNotification id fun r =>
    { r with receiptFailureReason := some reason, lastReceiptAttemptAt := some s.now }

/-- A call under a fault. The clock does not fail. -/
def handle : Handler ReceiptCalls Err ReceiptStore Fault := fun f s o =>
  match o with
  | .now => s.serve .now
  | o => f.meet s (s.serve o)

example {f : Fault} {s : ReceiptStore} : handle f s .now = (.ok s.now, s) := by rw [handle, serve]

end ReceiptStore

/-! ### The service -/

/-- What the service and the worker are configured with. -/
structure ReceiptConfig where
  batchSize : Nat := 20
  authorityClient : Bool := true
  authorityPubkey : Bool := true
  kmsMode : Bool := false
  authorityKeypair : Bool := true
  /-- `new PublicKey` accepts a string. -/
  validPubkey : JsString → Bool

variable (config : ReceiptConfig)

/-- `enqueueReceiptBatches` -/
def enqueueReceiptBatches : Receipts Unit := do
  let now : Nat ← ReceiptOp.now.call
  let windowId := now / 300000
  let acquired : Bool ← (ReceiptOp.lockSetNx windowId 290).call
  if !acquired then return ()
  else
    let pendingNotifications : List ReceiptNotification ← (ReceiptOp.findPending config.batchSize).call
    if pendingNotifications.isEmpty then return ()
    else (ReceiptOp.receiptQueueAdd ⟨windowId, pendingNotifications⟩).call

/-! ### The worker -/

/-- `CATEGORY_MAP`, where other categories are those of DeFi. -/
def categoryInt (category : JsString) : Nat :=
  if category = js "defi" then 0
  else if category = js "governance" then 1
  else if category = js "marketing" then 2
  else if category = js "system" ∨ category = js "security" then 3
  else 0

/-- Send a transaction, confirm it and save it. -/
def sendReceipt (id : JsString) (tx : ReceiptTransaction) : Receipts Unit := do
  (ReceiptOp.sendTransaction tx).call
  -- the error value, if there is one, is not looked at
  let _ ← (ReceiptOp.confirmTransaction tx).call
  (ReceiptOp.saveReceiptTx id tx).call

/-- Write no receipt for a notification. -/
def disableReceipt (id : JsString) : Receipts Unit := (ReceiptOp.disableReceipt id).call

/-- Write the receipt of a notification whose protocol was looked up. -/
def writeReceiptFor (n : ReceiptNotification) (protocolOwner : Option JsString) : Receipts Unit :=
  if !truthy protocolOwner then return ()
  else if !config.validPubkey (protocolOwner.getD []) then disableReceipt n.id
  else do
    (ReceiptOp.getValidityProof n.id n.walletHash).call
    let ix : ReceiptInstruction := ⟨protocolOwner.getD [], n.walletHash, n.id, categoryInt n.category⟩
    let blockhash ← (ReceiptOp.signTransaction ix).call
    sendReceipt n.id ⟨ix, blockhash⟩

/-- Write the receipt of a notification. -/
def writeReceipt (n : ReceiptNotification) : Receipts Unit := do
  let protocolOwner ← (ReceiptOp.findProtocol n).call
  writeReceiptFor config n protocolOwner

/-- What is noted when a receipt could not be written. -/
def failureReason (e : Err) : JsString :=
  if includes (js "AccountNotInitialized") e.message then
    js "Protocol account not initialised on-chain. Call POST /protocols/me/sync-onchain from " ++
      js "the dashboard to register the protocol PDA, then clear this field to retry."
  else e.message

/-- One round of the loop. -/
def flushReceipt (n : ReceiptNotification) : Receipts Unit :=
  (writeReceipt config n).tryCatch fun e => (ReceiptOp.saveReceiptFailure n.id (failureReason e)).call

/-- `process` of a job `flush-receipts`. -/
def flushReceipts (notifications : List ReceiptNotification) : Receipts Unit :=
  if notifications.isEmpty then .ret ()
  else if !config.authorityClient then .throw (.error (js "AuthorityClient missing"))
  else if !config.authorityPubkey then .throw (.error (js "Authority pubkey missing"))
  else if !config.kmsMode && !config.authorityKeypair then .throw (.error (js "Authority keypair missing"))
  else Prog.forEach (flushReceipt config) notifications

/-! ### Runs -/

/-- What is run. -/
inductive ReceiptTask where
  | scan
  /-- A worker takes a job, for the first time or again. -/
  | flush (job : ReceiptJob)
  deriving DecidableEq, Repr

/-- The program of a task. -/
def ReceiptTask.code : ReceiptTask → Receipts Unit
  | scan => enqueueReceiptBatches config
  | flush job => flushReceipts config job.notifications

/-- What happens besides. -/
inductive ReceiptChange where
  /-- Time passes, and blocks are made. -/
  | tick (ms blocks : Nat)
  /-- A notification is created, and delivered. -/
  | deliver (n : ReceiptNotification) (writeReceipt : Bool)
  | register (protocolId protocolPubkey : JsString)
  /-- The failure of a notification is cleared by hand, to have its receipt tried again. -/
  | clearFailure (id : JsString)
  /-- A transaction lands on the chain. -/
  | land (tx : ReceiptTransaction) (succeeds : Bool)
  /-- The process of a worker dies. -/
  | crash (i : Nat)
  deriving DecidableEq, Repr

/-- A change. New notifications have new ids. A transaction lands after it was sent, once, and does not
succeed where the receipt is on the chain already. -/
def ReceiptChange.apply (s : ReceiptStore) : ReceiptChange → Option ReceiptStore
  | tick ms blocks => some { s with now := s.now + ms, blockhash := s.blockhash + blocks }
  | deliver n writeReceipt =>
    if s.notifications.any (·.id == n.id) || s.landed.any (·.1.notificationId == n.id) then none
    else some { s with notifications := s.notifications ++ [⟨n, .delivered, some s.now, writeReceipt, none, none, none⟩] }
  | register protocolId protocolPubkey =>
    some { s with protocols := (protocolId, protocolPubkey) :: s.protocols }
  | clearFailure id => some { s with
      notifications :=
        s.notifications.map fun r => if r.id = id then { r with receiptFailureReason := none } else r }
  | land tx succeeds =>
    if s.sent.contains tx && !s.wrote tx && !s.rejected tx then
      some { s with landed := (tx, succeeds && !s.written tx.notificationId) :: s.landed }
    else none
  | crash i => some { s with crashed := i :: s.crashed }

/-- Scans and workers over the stores and the chain. -/
def receipts : System ReceiptCalls Err Unit ReceiptTask ReceiptStore Fault ReceiptChange where
  handler := ReceiptStore.handle
  code task _ := task.code config
  outside e s := e.apply s

/-- A pool of scans and workers. -/
abbrev ReceiptPool := Pool ReceiptCalls Err Unit ReceiptTask ReceiptStore Fault

/-- A step. -/
abbrev ReceiptLabel := Label ReceiptTask Fault ReceiptChange

end HeraldGateway
