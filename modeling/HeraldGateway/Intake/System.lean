import HeraldGateway.Notify
import HeraldGateway.Async.Refinement
import HeraldGateway.Intake.Claim

/-!
# Notify requests running concurrently

The system of all notify requests of both environments, interleaved at their calls, and its reading as
an instance of the idempotency protocol: a Redis hold is a hold, a notification row a slot, a job on the
notification queue a job. Between the calls of requests the clock moves, abandoned queue adds complete,
workers update rows, and whatever the requests only read may change.
-/

namespace HeraldGateway

open Async Intake

/-- A notify request: the body and who it comes from. -/
structure NotifyRequest where
  dto : NotifyDto
  protocol : AuthenticatedProtocol
  deriving DecidableEq, Repr

/-- What happens to the stores between the calls of requests. -/
inductive IntakeEvent where
  /-- Time passes. -/
  | tick (ms : Nat)
  /-- The `i`-th pending add completes. -/
  | completeAdd (i : Nat)
  /-- Somebody updates a notification. -/
  | update (id : NotificationId) (u : NotificationUpdate)
  /-- Templates, settings, API keys and the devnet registry change. -/
  | configure (templates : List NotificationTemplate)
      (protocolSettings : JsString → Option ProtocolSettings) (apiKeys : JsString → Option ApiKey)
      (devnet : JsString → Option IdentityAccount)

/-- An event of the surroundings. -/
def IntakeEvent.apply (e : IntakeEvent) (s : World) : Option World :=
  match e with
  | tick ms => some { s with now := s.now + ms }
  | completeAdd i => s.completeAdd i
  | update id u => some (s.updateNotification id u).2
  | configure templates settings keys devnet =>
    some { s with templates := templates, protocolSettings := settings, apiKeys := keys, devnet := devnet }

/-- Notify requests over one world. The `n`-th request draws the `n`-th UUID. -/
def intake (env : Env) : System Calls Err NotifyResponseDto NotifyRequest World Choice IntakeEvent where
  handler := World.handle env
  code r n := queueNotificationAs env (.uuid n) r.dto r.protocol
  outside := IntakeEvent.apply

/-- A pool of notify requests. -/
abbrev IntakePool := Pool Calls Err NotifyResponseDto NotifyRequest World Choice

/-- A step of such a pool. -/
abbrev IntakeLabel := Label NotifyRequest Choice IntakeEvent

/-- What the idempotency protocol sees of the stores. -/
def ledgerOf (s : World) : Ledger NotificationId JsString JsString where
  held := s.holder
  slots := s.notifications.map fun n => ⟨n.id, n.idempotencyKey, n.protocolId⟩
  queued := s.notificationQueue.map (·.data.notificationId)
  pending := s.pendingAdds.map (·.data.notificationId)

/-- The calls that may change what the protocol sees, or break a unique column. -/
def touchesLedger : Op → Bool
  | .idempotencySetNx .. | .idempotencyDel _ | .notificationCreate _ | .notificationCreateMany _
  | .notificationAdd .. | .unsubscribeTokenCreate _ => true
  | _ => false

/-- The protocol's view of a request with the stores at its arrival. -/
def intakeReading : Reading NotificationId JsString JsString (NotifyRequest × World) where
  ident := .uuid
  ident_inj h := NotificationId.uuid.inj h
  key r := r.1.dto.idempotencyKey
  owner r := r.1.protocol.protocolId
  guards r := r.1.protocol.environment = .production

/-- If the call looks up who has a key, somebody has it or, in the sandbox, may have it, whose job is on
the queue. -/
def holderEnqueued (s : World) : Op → Bool
  | .idempotencyGet k => (s.holder k).any fun id => (ledgerOf s).queued.contains id
  | .notificationFindByKey k since =>
    (s.notifications.find? (matchesKey k since)).all fun n => (ledgerOf s).queued.contains n.id
  | _ => true

/-- A call that is answered and looks up who has a key finds an enqueued notification. -/
def FindsEnqueued (c : Choice) (s : World) (o : Op) : Prop :=
  c.fault = .none → holderEnqueued s o = true

instance (c : Choice) (s : World) (o : Op) : Decidable (FindsEnqueued c s o) :=
  inferInstanceAs (Decidable (_ → _))

/-- What a statement about intake runs assumes of their steps. -/
structure Premises where
  /-- Which requests arrive in which pool. -/
  arrives : IntakePool → NotifyRequest → Prop
  /-- Which protocols use a key. -/
  owns : JsString → JsString → Prop
  /-- No others do. -/
  owns_of_arrives : ∀ {p r k}, arrives p r → r.dto.idempotencyKey = some k →
    owns k r.protocol.protocolId
  /-- Whether abandoned adds complete. -/
  late : Prop
  /-- Whether requests that look up who has their key find an enqueued notification. -/
  settled : Prop

/-- The premises hold of a step. -/
def Premises.Allow (A : Premises) (p : IntakePool) : IntakeLabel → Prop
  | .arrive r => A.arrives p r
  | .pick i c => A.settled → ∀ t ∈ p.threads[i]?, ∀ o ∈ t.prog.next?, FindsEnqueued c.2 p.store o
  | .outside (.completeAdd _) => A.late
  | .outside _ => True

instance (A : Premises) [∀ p r, Decidable (A.arrives p r)] [Decidable A.late] [Decidable A.settled]
    (p : IntakePool) (l : IntakeLabel) : Decidable (A.Allow p l) :=
  match l with
  | .arrive r => inferInstanceAs (Decidable (A.arrives p r))
  | .pick i c => inferInstanceAs (Decidable
      (A.settled → ∀ t ∈ p.threads[i]?, ∀ o ∈ t.prog.next?, FindsEnqueued c.2 p.store o))
  | .outside (.completeAdd _) => inferInstanceAs (Decidable A.late)
  | .outside (.tick _) | .outside (.update ..) | .outside (.configure ..) => isTrue trivial

/-- The rules of the idempotency protocol under the premises. -/
def Premises.rules (A : Premises) : Rules NotificationId JsString JsString (NotifyRequest × World) :=
  { intakeReading with
    arrives := fun c r => ∃ p, A.arrives p r.1 ∧ p.store = r.2 ∧ c.ledger = ledgerOf r.2 ∧
      ∀ q ∈ c.parties, ∃ t ∈ p.threads, q.request = (t.request, t.birth) ∧ q.live = t.prog.running
    owns := A.owns
    owns_of_arrives := fun ⟨_, h, _⟩ hk => A.owns_of_arrives h hk
    late := A.late
    settled := A.settled }

/-- What the answer of a request says about the phase it ended in. -/
def Concludes (id : NotificationId) (x : Phase NotificationId) :
    Except Err NotifyResponseDto → Prop
  | .ok resp =>
    (resp.status = .duplicate → ∃ j, x = .answered j ∧ resp.notificationId = some j) ∧
    (resp.errorCode = some (js "ENQUEUE_FAILED") → x = .failing ∧ resp.notificationId = some id)
  | .error e => e = .uniqueViolation → x = .rejected

end HeraldGateway
