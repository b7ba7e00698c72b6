import HeraldGateway.Receipts.Batches

/-!
# Receipts over runs

Whether what is noted about receipts is true, and whether the scans get on.
-/

namespace HeraldGateway

open Async

/-!
## What is noted about receipts, and what is true

Whether the transaction that is noted for a notification wrote its receipt, and whether a receipt that was
written is noted.
-/

/-- The notification that a worker is busy with when it makes a call. -/
def ReceiptOp.subject? : ReceiptOp → Option JsString
  | disableReceipt id | getValidityProof id _ | saveReceiptTx id _ | saveReceiptFailure id _ => some id
  | signTransaction ix => some ix.notificationId
  | sendTransaction tx | confirmTransaction tx => some tx.notificationId
  | now | lockSetNx .. | findPending _ | receiptQueueAdd _ | findProtocol _ => none

/-- A worker that makes the call confirms or saves the transaction that wrote the receipt. -/
def ReceiptOp.Records (s : ReceiptStore) (id : JsString) : ReceiptOp → Prop
  | confirmTransaction tx => s.wrote tx = true ∧ tx.notificationId = id
  | saveReceiptTx id' tx => s.wrote tx = true ∧ tx.notificationId = id ∧ id' = id
  | _ => False

instance (s : ReceiptStore) (id : JsString) (o : ReceiptOp) : Decidable (o.Records s id) := by
  unfold ReceiptOp.Records; split <;> infer_instance

/-- The next call of a worker that is alive. -/
def liveNext? (p : ReceiptPool) (i : Nat) : Option ReceiptOp :=
  if p.store.crashed.contains i then none else System.next? p i

/-- No failure is noted for a notification. -/
def ReceiptStore.Unfailed (s : ReceiptStore) (id : JsString) : Prop :=
  ∀ row ∈ s.notifications, row.id = id → row.receiptFailureReason = none

instance (s : ReceiptStore) (id : JsString) : Decidable (s.Unfailed id) := by
  unfold ReceiptStore.Unfailed; infer_instance

/-- Only a transaction that wrote its receipt is noted for a notification. If its receipt is written it is not
marked failed, and the transaction is noted, or a worker that is alive is about to note it. -/
structure TruthfulAbout (p : ReceiptPool) (id : JsString) : Prop where
  recorded : ∀ row ∈ p.store.notifications, row.id = id → ∀ tx ∈ row.receiptTx,
    p.store.wrote tx = true ∧ tx.notificationId = id
  unfailed : p.store.written id = true → p.store.Unfailed id
  kept : p.store.written id = true → ∀ row ∈ p.store.notifications, row.id = id →
    row.receiptTx.isSome = true ∨ ∃ i, ∃ o ∈ liveNext? p i, o.Records p.store id

/-- What is noted about every notification is true. -/
def Truthful (p : ReceiptPool) : Prop := ∀ id, TruthfulAbout p id

/-! ### Steps -/

/-- Workers take jobs that were queued, and do nothing once they died. -/
def PossibleReceiptStep (p : ReceiptPool) : ReceiptLabel → Prop
  | .arrive (.flush job) => job ∈ p.store.jobs
  | .pick i _ => i ∉ p.store.crashed
  | _ => True

instance (p : ReceiptPool) (l : ReceiptLabel) : Decidable (PossibleReceiptStep p l) := by
  unfold PossibleReceiptStep; split <;> infer_instance

/-- A worker may make a call: it begins only with a notification that has no receipt and no failure, and that
no other worker is busy with, it hears of a transaction what happened to it, but not that it failed, and what
it saves is saved. -/
def TimelyCall (p : ReceiptPool) (i : Nat) (fault : Fault) : ReceiptOp → Prop
  | .findProtocol n => p.store.written n.id = false ∧ p.store.Unfailed n.id ∧
      ∀ j ∈ List.range p.threads.length, j ≠ i → ∀ o ∈ liveNext? p j, o.subject? ≠ some n.id
  | .confirmTransaction tx =>
      (p.store.wrote tx = true → fault = .none) ∧ (p.store.rejected tx = true → fault ≠ .none)
  | .saveReceiptTx .. => fault = .none
  | _ => True

instance (p : ReceiptPool) (i : Nat) (fault : Fault) (o : ReceiptOp) :
    Decidable (TimelyCall p i fault o) := by
  unfold TimelyCall; split <;> infer_instance

/-- A step in which workers only make calls that they may make, receipts are only written while a worker waits
for it, and no worker dies between that and the saving. -/
def Timely (p : ReceiptPool) : ReceiptLabel → Prop
  | .pick i c => ∀ o ∈ System.next? p i, TimelyCall p i c.2 o
  | .outside (.land tx true) =>
      ∃ i ∈ List.range p.threads.length, liveNext? p i = some (.confirmTransaction tx)
  | .outside (.crash i) => ∀ o ∈ liveNext? p i, ∀ id ∈ o.subject?, ¬ o.Records p.store id
  | _ => True

instance (p : ReceiptPool) (l : ReceiptLabel) : Decidable (Timely p l) := by
  unfold Timely; split <;> infer_instance

/-!
## Progress of the scans

A scan takes the oldest notifications that pass its filter, so it gets to others only if those that a job is
done with no longer do.
-/

/-- A notification passes the filter of the scans. -/
def ReceiptStore.Eligible (s : ReceiptStore) (id : JsString) : Prop := ∃ n ∈ s.pending, n.id = id

instance (s : ReceiptStore) (id : JsString) : Decidable (s.Eligible id) := by
  unfold ReceiptStore.Eligible; infer_instance

/-- The public key that the look-up of a notification's protocol finds. -/
def ReceiptStore.owner? (s : ReceiptStore) (n : ReceiptNotification) : Option JsString :=
  (s.protocols.find? (·.1 == n.protocolId)).map (·.2)

/-- A look-up of a protocol for a notification that is eligible fails, or finds a public key. -/
def ReceiptOp.FindsOwner (s : ReceiptStore) (f : Fault) : ReceiptOp → Prop
  | findProtocol n => f = .none → s.Eligible n.id → truthy (s.owner? n) = true
  | _ => True

instance (s : ReceiptStore) (f : Fault) (o : ReceiptOp) : Decidable (o.FindsOwner s f) := by
  unfold ReceiptOp.FindsOwner; split <;> infer_instance

/-! ### Runs -/

/-- A step in which no look-up of a protocol comes back without a public key. -/
def OwnerFound (p : ReceiptPool) : ReceiptLabel → Prop
  | .pick i c => ∀ o ∈ System.next? p i, o.FindsOwner p.store c.2
  | _ => True

instance (p : ReceiptPool) (l : ReceiptLabel) : Decidable (OwnerFound p l) := by
  unfold OwnerFound; split <;> infer_instance

/-- Of a batch that is picked in `p`, no notification is eligible after a job that came later and finished,
except those whose failure was cleared in between. -/
def MakesProgress (p : ReceiptPool) (ls : List ReceiptLabel) (p' : ReceiptPool) : Prop :=
  ∀ take i t job, p.threads.length ≤ i → p'.threads[i]? = some t → t.request = .flush job →
    job.notifications = p.store.pending.take take → t.answer? = some () →
      ∀ n ∈ job.notifications, .outside (.clearFailure n.id) ∉ ls → ¬ p'.store.Eligible n.id

/-! ### One job -/

/-- What becomes of the calls and the transactions of a job. -/
structure ReceiptFates where
  fault : ReceiptOp → Fault
  /-- Whether a transaction lands before it is confirmed, and whether it succeeds. -/
  lands : ReceiptTransaction → Option Bool

/-- The stores when a job makes a call. -/
def ReceiptFates.before (fates : ReceiptFates) (s : ReceiptStore) : ReceiptOp → ReceiptStore
  | .confirmTransaction tx =>
    ((fates.lands tx).bind fun succeeds => (ReceiptChange.land tx succeeds).apply s).getD s
  | _ => s

/-- The calls of a job during which nothing else happens. -/
def ReceiptFates.handle : Handler ReceiptCalls Err ReceiptStore ReceiptFates := fun fates s o =>
  ReceiptStore.handle (fates.fault o) (fates.before s o) o

end HeraldGateway
