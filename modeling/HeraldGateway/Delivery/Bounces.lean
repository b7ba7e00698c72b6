import HeraldGateway.Async.History
import HeraldGateway.Bounce
import HeraldGateway.Gateway.Consent

/-!
# Bounces

What the events of mail providers should lead to.
-/

namespace HeraldGateway

open Async

/-!
## Hard bounces

The events of mail providers, taken from the queue or from webhooks in any order, again where an attempt
failed or its process died. One might expect that a hard bounce suppresses the wallet once it is dealt with.
-/

/-- An event that is handled. -/
inductive BounceTask where
  | resendEvent (e : ResendEvent)
  | sesMessage (m : SesMessage)
  deriving DecidableEq, Repr

/-- The program of an event. -/
def BounceTask.code : BounceTask → Gateway Unit
  | resendEvent e => processResendEvent e
  | sesMessage m => processSesBounce m

/-- What happens to the stores between the calls: anything, but nobody else records bounces, or suppresses
wallets or stops to. -/
inductive BounceChange where
  | tick (ms : Nat)
  | configure (w : World)

/-- A change of the stores. -/
def BounceChange.apply (s : World) : BounceChange → World
  | tick ms => { s with now := s.now + ms }
  | configure w => { w with now := s.now, bounces := s.bounces, suppressions := s.suppressions }

/-- Any number of attempts at any events. One whose process died makes no further step. -/
def bounceHandling (env : Env) : System Calls Err Unit BounceTask World Choice BounceChange where
  handler := World.handle env
  code task _ := task.code
  outside e s := some (e.apply s)

/-- A pool of attempts. -/
abbrev BouncePool := Pool Calls Err Unit BounceTask World Choice

/-- A step of a pool. -/
abbrev BounceLabel := Label BounceTask Choice BounceChange

/-- The message that an event reports as bounced for good. -/
def BounceTask.hardBounce? : BounceTask → Option JsString
  | resendEvent e => if e.eventType = js "email.bounced" then e.emailId <|> e.id else none
  | sesMessage m =>
    if m.notificationType = js "Bounce" ∧ m.bounceType = some (js "Permanent") then m.messageId else none

/-- The notification that a call found for a message. -/
def foundNotification? (e : GatewayEvent) : Option Notification :=
  match e with
  | ⟨_, _, .notificationFindBySesMessageId _, .ok n, _⟩ => n
  | _ => none

/-- Where a hard bounce is done, the wallet of the notification that was found for it is suppressed. -/
def HardBouncesSuppress (p : BouncePool) : Prop :=
  ∀ t ∈ p.threads, t.request.hardBounce?.isSome = true → t.answer? = some () →
    ∀ n ∈ t.trace.filterMap foundNotification?, p.store.suppressed n.walletHash = true

instance (p : BouncePool) : Decidable (HardBouncesSuppress p) := by unfold HardBouncesSuppress; infer_instance

/-- The call looks for a bounce of any type that is recorded for a message. -/
def Op.looksForBounce? : Op → Option JsString
  | .bounceFindFirst m none => some m
  | _ => none

/-- A step in which no attempt at a hard bounce finds a bounce of its message while the wallet is not
suppressed: none of another type, and none that an attempt recorded which did not come to the suppression. -/
def FindsNoBounce (p : BouncePool) : BounceLabel → Prop
  | .pick i _ => ∀ t ∈ p.threads[i]?, t.request.hardBounce?.isSome = true → ∀ o ∈ t.prog.next?,
      ∀ m ∈ o.looksForBounce?, (∃ b ∈ p.store.bounces, b.sesMessageId = m) →
        ∀ n ∈ t.trace.filterMap foundNotification?, p.store.suppressed n.walletHash = true
  | _ => True

instance (p : BouncePool) (l : BounceLabel) : Decidable (FindsNoBounce p l) := by
  unfold FindsNoBounce; split <;> infer_instance

/-!
## Soft bounces

The events of the mail provider, handled one after another. Three soft bounces in a row are to suppress a
wallet, where a hard bounce, a complaint or a delivery begins a new row.
-/

/-- An event of the mail provider: how much later than the one before, what else the stores hold by then, and
its message. -/
structure SesArrival where
  elapsed : Nat
  others : World
  message : SesMessage

/-- The stores when an event arrives. Nobody else writes the tables of bounces. -/
def SesArrival.finds (a : SesArrival) (s : World) : World :=
  { a.others with
    now := s.now + a.elapsed + 1
    bounces := s.bounces
    deliveries := s.deliveries
    suppressions := s.suppressions }

/-- The stores after an event that is handled to completion. -/
def handleSes (env : Env) (s : World) (a : SesArrival) : World :=
  ((World.handle env).exec {} (processSesBounce a.message) (a.finds s)).2

/-- The stores after some events, from empty tables of bounces on. -/
def afterSes (env : Env) (start : Millis) (events : List SesArrival) : World :=
  events.foldl (handleSes env) { World.blank with now := start }

/-- A delivery was of a notification to a wallet. -/
def World.deliveredTo (s : World) (walletHash : JsString) (d : EmailDelivery) : Bool :=
  s.notifications.any fun n => n.id == d.notificationId && n.walletHash == walletHash

/-- When the hard bounces, complaints and deliveries of a wallet were recorded. -/
def World.resetTimes (s : World) (walletHash : JsString) : List Millis :=
  (s.bounces.filter fun b => b.walletHash == walletHash && b.bounceType != .soft).map (·.bouncedAt) ++
    (s.deliveries.filter (s.deliveredTo walletHash)).map (·.deliveredAt)

/-- The soft bounces of a wallet that were recorded after all of these. -/
def World.softRow (s : World) (walletHash : JsString) : List EmailBounce :=
  s.bounces.filter fun b => b.walletHash == walletHash && b.bounceType == .soft &&
    (s.resetTimes walletHash).all fun t => decide (t < b.bouncedAt)

/-- A message reports a soft bounce of a notification, for which there is no bounce yet. -/
structure NewSoftBounce (s : World) (m : SesMessage) (n : Notification) : Prop where
  bounce : m.notificationType = js "Bounce"
  soft : m.bounceType ≠ some (js "Permanent")
  message : truthy m.messageId = true
  found : s.notifications.find? (fun n => n.sesMessageId == some (m.messageId.getD [])) = some n
  first : s.bounces.any (·.sesMessageId == m.messageId.getD []) = false

instance (s : World) (m : SesMessage) (n : Notification) : Decidable (NewSoftBounce s m n) :=
  decidable_of_iff (m.notificationType = js "Bounce" ∧ m.bounceType ≠ some (js "Permanent") ∧
    truthy m.messageId = true ∧
    s.notifications.find? (fun n => n.sesMessageId == some (m.messageId.getD [])) = some n ∧
    s.bounces.any (·.sesMessageId == m.messageId.getD []) = false)
    ⟨fun ⟨h₁, h₂, h₃, h₄, h₅⟩ => ⟨h₁, h₂, h₃, h₄, h₅⟩, fun ⟨h₁, h₂, h₃, h₄, h₅⟩ => ⟨h₁, h₂, h₃, h₄, h₅⟩⟩

/-- A suppression for soft bounces was written now. -/
def World.softSuppressed (s : World) (walletHash : JsString) : Bool :=
  s.suppressions.any fun r => r.walletHash == walletHash && r.reason == .softBounce && r.suppressedAt == s.now

end HeraldGateway
