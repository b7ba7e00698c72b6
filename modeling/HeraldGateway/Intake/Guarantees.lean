import HeraldGateway.Intake.System
import HeraldGateway.Operations

/-!
# What notify requests are promised

The properties of a pool of notify requests that the proofs are about. All are decidable, so that a run
can be checked against them.
-/

namespace HeraldGateway

open Async Intake

/-- Nobody has sent anything yet. -/
structure World.Unused (s : World) : Prop where
  /-- No idempotency key is held. -/
  idempotency : ∀ k, s.idempotency k = none
  /-- No notification is stored. -/
  notifications : s.notifications = []
  /-- No job was ever added. -/
  notificationQueue : s.notificationQueue = []
  /-- No add was abandoned. -/
  pendingAdds : s.pendingAdds = []

theorem World.unused_blank : World.blank.Unused := ⟨fun _ => rfl, rfl, rfl, rfl⟩

/-- The key of the request that drew an identifier. -/
def keyOf (p : IntakePool) : NotificationId → Option JsString
  | .uuid n => (p.threads[n]?).bind (·.request.dto.idempotencyKey)
  | .digest .. => none

/-- The jobs ever added for a key. -/
def jobsOf (p : IntakePool) (k : JsString) : List QueuedJob :=
  p.store.notificationQueue.filter fun j => keyOf p j.data.notificationId = some k

/-- The rows stored under a key. -/
def rowsOf (p : IntakePool) (k : JsString) : List Notification :=
  p.store.notifications.filter fun n => n.idempotencyKey = some k

/-- Every answer that a request is a duplicate names a stored notification of the asker's, of the
request's key, that was put on the queue. -/
def DuplicatesSound (p : IntakePool) : Prop :=
  ∀ t ∈ p.threads, ∀ resp ∈ t.answer?, resp.status = .duplicate →
    ∃ n ∈ p.store.notifications, resp.notificationId = some n.id ∧
      n.protocolId = t.request.protocol.protocolId ∧
      n.idempotencyKey = t.request.dto.idempotencyKey ∧
      ∃ j ∈ p.store.notificationQueue, j.data.notificationId = n.id

instance (p : IntakePool) : Decidable (DuplicatesSound p) := by
  unfold DuplicatesSound; infer_instance

/-- The documented idempotency window. -/
def window : Environment → Millis
  | .production => 24 * 60 * 60 * 1000
  | .sandbox => 60 * 60 * 1000

/-- A notification of the key was put on the queue within the window. -/
def EnqueuedWithin (s : World) (k : JsString) (e : Environment) : Prop :=
  ∃ n ∈ s.notifications, n.idempotencyKey = some k ∧
    ∃ j ∈ s.notificationQueue, j.data.notificationId = n.id ∧ s.now < j.addedAt + window e

instance (s : World) (k : JsString) (e : Environment) : Decidable (EnqueuedWithin s k e) := by
  unfold EnqueuedWithin; infer_instance

/-- Every request whose key had no enqueued send within the window when it arrived is neither answered
as a duplicate nor rejected because of the key. -/
def KeysNotBurned (p : IntakePool) : Prop :=
  ∀ t ∈ p.threads, ∀ k ∈ t.request.dto.idempotencyKey,
    EnqueuedWithin t.birth k t.request.protocol.environment ∨
      (∀ resp ∈ t.answer?, resp.status ≠ .duplicate) ∧
        t.prog.result? ≠ some (.error .uniqueViolation)

instance (p : IntakePool) : Decidable (KeysNotBurned p) := by
  unfold KeysNotBurned; infer_instance

/-- A request may arrive with its key if an enqueued send within the window has it, or if no stored
notification, no hold it would meet and no unfinished request has it. -/
def KeyFree (p : IntakePool) (r : NotifyRequest) : Prop :=
  ∀ k ∈ r.dto.idempotencyKey, EnqueuedWithin p.store k r.protocol.environment ∨
    (∀ n ∈ p.store.notifications, n.idempotencyKey ≠ some k) ∧
      (r.protocol.environment = .production → p.store.holder k = none) ∧
        ∀ t ∈ p.threads, t.prog.running = true → t.request.dto.idempotencyKey ≠ some k

instance (p : IntakePool) (r : NotifyRequest) : Decidable (KeyFree p r) := by
  unfold KeyFree; infer_instance

/-- No request that was answered as failed at the queue has a job there, nor has its key two. -/
def FailuresFinal (p : IntakePool) : Prop :=
  ∀ t ∈ p.threads, ∀ resp ∈ t.answer?, resp.errorCode = some (js "ENQUEUE_FAILED") →
    (∀ j ∈ p.store.notificationQueue, resp.notificationId ≠ some j.data.notificationId) ∧
      ∀ k ∈ t.request.dto.idempotencyKey, (jobsOf p k).length ≤ 1

instance (p : IntakePool) : Decidable (FailuresFinal p) := by
  unfold FailuresFinal; infer_instance

/-! ### Premises -/

/-- No premise. -/
def Premises.any : Premises where
  arrives _ _ := True
  owns _ _ := True
  owns_of_arrives _ _ := trivial
  late := True
  settled := False

/-- Each key is used by one protocol, and requests that look up who has their key find an enqueued
notification. -/
def Premises.ownKeys (owner : JsString → JsString) : Premises where
  arrives _ r := ∀ k ∈ r.dto.idempotencyKey, r.protocol.protocolId = owner k
  owns k protocolId := protocolId = owner k
  owns_of_arrives h hk := h _ hk
  late := True
  settled := True

/-- Requests arrive with a key that is free, or taken by an enqueued send within the window. -/
def Premises.freeKeys : Premises where
  arrives := KeyFree
  owns _ _ := True
  owns_of_arrives _ _ := trivial
  late := True
  settled := False

/-- No add that was given up on completes. -/
def Premises.noLateAdds : Premises where
  arrives _ _ := True
  owns _ _ := True
  owns_of_arrives _ _ := trivial
  late := False
  settled := False

section decidable

variable (owner : JsString → JsString) (p : IntakePool) (l : IntakeLabel)

instance (r : NotifyRequest) : Decidable ((Premises.ownKeys owner).arrives p r) :=
  inferInstanceAs (Decidable (∀ k ∈ r.dto.idempotencyKey, r.protocol.protocolId = owner k))

instance : Decidable (Premises.ownKeys owner).late := isTrue trivial

instance : Decidable (Premises.ownKeys owner).settled := isTrue trivial

instance (r : NotifyRequest) : Decidable (Premises.freeKeys.arrives p r) :=
  inferInstanceAs (Decidable (KeyFree p r))

instance : Decidable Premises.freeKeys.late := isTrue trivial

instance : Decidable Premises.freeKeys.settled := isFalse id

instance (r : NotifyRequest) : Decidable (Premises.noLateAdds.arrives p r) := isTrue trivial

instance : Decidable Premises.noLateAdds.late := isFalse id

instance : Decidable Premises.noLateAdds.settled := isFalse id

end decidable

/-! ### Runs of one client -/

/-- A production request of a protocol under the key `k`. -/
def keyedRequest (protocolId : String) : NotifyRequest where
  dto :=
    { wallet := js "wallet"
      subject := js "Margin"
      body := js "Add collateral."
      idempotencyKey := some (js "k") }
  protocol :=
    { protocolId := js protocolId
      protocolPubkey := js protocolId
      apiKeyId := js "key"
      tier := 1
      environment := .production }

/-- A replay from a fresh installation. -/
def replay (ls : List IntakeLabel) : Option IntakePool :=
  (intake Env.transparent).run (Pool.empty World.blank) ls

end HeraldGateway
