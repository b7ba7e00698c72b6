import HeraldGateway.Async.Alone
import HeraldGateway.Delivery.Attempts
import HeraldGateway.Gateway.Consent
import HeraldGateway.Gateway.Footprint

/-!
# Digests and posts to groups

What should become of notifications that wait for a digest, and of posts to the group of a protocol.
-/

namespace HeraldGateway

open Async

/-!
## Digests of entries

Each buffered notification should reach its recipient in one digest. A flush enqueues every entry that is
not marked as sent, and a worker marks the entries of a digest only once it has sent it.
-/

/-- The entries that a task sends in one digest. -/
def Task.digested : Task → List Nat
  | .deliverDigest data => data.entries.map (·.id)
  | _ => []

/-- The call hands a message over to its recipient. -/
def Op.delivers (o : Op) : Bool := [Channel.email, .telegram, .sms].any fun c => o.handsTo (.channel c)

/-- A message was handed over to its recipient. -/
def dispatched (tr : List GatewayEvent) : Bool := tr.any fun e => e.op.delivers && e.choice.fault.applies

/-- No entry is listed in two digests that were both dispatched. -/
def DigestedOnce (p : GatewayPool) : Prop :=
  p.threads.Pairwise fun t t' => dispatched t.trace = true → dispatched t'.trace = true →
    ∀ id ∈ t.request.digested, id ∉ t'.request.digested

instance (p : GatewayPool) : Decidable (DigestedOnce p) := by unfold DigestedOnce; infer_instance

/-- An entry is stored and not marked as sent. -/
def World.Unsent (s : World) (id : Nat) : Prop := ∃ r ∈ s.digestRows[id]?, r.sentAt = none

/-- An entry is marked as sent. -/
def World.MarkedSent (s : World) (id : Nat) : Prop := ∃ r ∈ s.digestRows[id]?, r.sentAt.isSome = true

instance (s : World) (id : Nat) : Decidable (s.Unsent id) := by unfold World.Unsent; infer_instance

/-- The identifier of an entry is its place. -/
def World.EntriesNumbered (s : World) : Prop := ∀ (i : Nat) r, s.digestRows[i]? = some r → r.id = i

/-- The call marks entries as sent. -/
def Op.marksSent : Op → Bool
  | .digestMarkSent .. => true
  | _ => false

/-- A digest is attempted only while its entries are not marked as sent and no other attempt that is under
way lists one of them, and the mark of what was dispatched is not lost. -/
def EntriesOwned (p : GatewayPool) : GatewayLabel → Prop
  | .arrive task => ∀ id ∈ task.digested, p.store.Unsent id ∧
      ∀ t ∈ p.threads, t.prog.running = true → id ∉ t.request.digested
  | .pick i c => ∀ t ∈ p.threads[i]?, ∀ o ∈ t.prog.next?,
      o.marksSent = true → dispatched t.trace = true → c.2.fault = .none
  | .outside _ => True

instance (p : GatewayPool) (l : GatewayLabel) : Decidable (EntriesOwned p l) :=
  match l with
  | .arrive _ | .pick .. => by unfold EntriesOwned; infer_instance
  | .outside _ => .isTrue trivial

/-!
## Digest mode

A recipient says on chain that notifications should wait for a digest. The worker looks at what the job says
instead, which a producer wrote that had not resolved the recipient.
-/

/-- The call puts a notification into the digest buffer. -/
def Op.buffers : Op → Bool
  | .digestCreate .. => true
  | _ => false

/-- Some contact was decrypted. -/
def decryptsContact (e : GatewayEvent) : Bool :=
  match e with
  | ⟨_, _, .decryptAllChannels _, .ok channels, _⟩ => channels.hasAny
  | _ => false

/-- The notification of an attempt waits for a digest. -/
structure WaitsForDigest (t : GatewayThread) : Prop where
  buffered : t.answer? = some .done → ∃ e ∈ t.trace, e.op.buffers = true
  withheld : ∀ e ∈ t.trace, e.op.dispatches = false

/-- The notification of an attempt is dispatched at once. -/
structure GoesOutAtOnce (t : GatewayThread) : Prop where
  dispatched : t.answer? = some .done → (∃ e ∈ t.trace, decryptsContact e = true) →
    ∃ e ∈ t.trace, e.op.dispatches = true
  unbuffered : ∀ e ∈ t.trace, e.op.buffers = false

instance (t : GatewayThread) : Decidable (WaitsForDigest t) :=
  decidable_of_iff ((t.answer? = some .done → ∃ e ∈ t.trace, e.op.buffers = true) ∧
    ∀ e ∈ t.trace, e.op.dispatches = false) ⟨fun h => ⟨h.1, h.2⟩, fun h => ⟨h.1, h.2⟩⟩

instance (t : GatewayThread) : Decidable (GoesOutAtOnce t) :=
  decidable_of_iff ((t.answer? = some .done → (∃ e ∈ t.trace, decryptsContact e = true) →
    ∃ e ∈ t.trace, e.op.dispatches = true) ∧ ∀ e ∈ t.trace, e.op.buffers = false)
      ⟨fun h => ⟨h.1, h.2⟩, fun h => ⟨h.1, h.2⟩⟩

/-- Every attempt of a production job treats the notification as the identity says that it resolved. -/
def DigestModeHonoured (p : GatewayPool) : Prop :=
  ∀ t ∈ p.threads, ∀ job ∈ t.request.job?, job.production = true →
    ∀ e ∈ t.trace, ∀ identity ∈ e.op.resolved?,
      (identity.digestMode = true → WaitsForDigest t) ∧ (identity.digestMode = false → GoesOutAtOnce t)

instance (p : GatewayPool) : Decidable (DigestModeHonoured p) := by unfold DigestModeHonoured; infer_instance

/-- A step in which no attempt of a production job resolves an identity that is in digest mode. -/
def ResolvesUndigested (p : GatewayPool) : GatewayLabel → Prop
  | .pick i _ => ∀ t ∈ p.threads[i]?, ∀ job ∈ t.request.job?, job.production = true →
      ∀ o ∈ t.prog.next?, ∀ identity ∈ o.resolved?, identity.digestMode = false
  | _ => True

instance (p : GatewayPool) (l : GatewayLabel) : Decidable (ResolvesUndigested p l) :=
  match l with
  | .pick .. => by unfold ResolvesUndigested; infer_instance
  | .arrive _ | .outside _ => .isTrue trivial

/-!
## Posts of a broadcast to a group

A broadcast has a job for each subscriber, and each job posts to the group of the protocol as well, unless it
finds a mark that its own notification was posted there. One message of the broadcast should reach the group,
whatever its jobs and however often and in which order they are attempted.
-/

/-- The attempts of the jobs of a broadcast, over a world in which everything else may change at any time. A
job is given by the notification and the subscriber that it is for. -/
def broadcastAttempts (env : Env) (dto : BroadcastDto) (protocol : AuthenticatedProtocol) :
    System Calls Err Unit (NotificationId × ProtocolSubscription) World Choice World where
  handler := World.handle env
  code r _ := processNotification env (broadcastJob dto protocol r.1 r.2)
  outside w _ := some w

/-- A pool of attempts of the jobs of a broadcast. -/
abbrev BroadcastAttemptPool := Pool Calls Err Unit (NotificationId × ProtocolSubscription) World Choice

/-- A step of a pool of attempts of the jobs of a broadcast. -/
abbrev BroadcastAttemptLabel := Label (NotificationId × ProtocolSubscription) Choice World

/-- The group that a call would post to. -/
def Op.postsTo? : Op → Option JsString
  | .sendTelegram p => if p.target = .group then some p.chatId else none
  | _ => none

/-- The group that a call asks for the mark of a notification. -/
def Op.asksMarkOf? : Op → Option JsString
  | .redisGet (.groupSent _ chatId) => some chatId
  | _ => none

/-- A message was posted to a group, whether or not the attempt heard of it. -/
def postedTo (chatId : JsString) (e : Event Calls Err World Choice) : Bool :=
  e.op.postsTo? == some chatId && e.choice.fault.applies

/-- The reply is no mark that a notification was posted to a group. -/
def findsNoMark (chatId : JsString) : (o : Op) → Except Err o.Res → Bool
  | .redisGet (.groupSent _ chatId'), r => chatId' == chatId && !truthy (heard r)
  | _, _ => false

/-- An attempt goes on to post to a group. -/
def goesOnTo (chatId : JsString) (e : Event Calls Err World Choice) : Bool := findsNoMark chatId e.op e.reply

/-- At most one message is posted to each group. -/
def OnePost (p : BroadcastAttemptPool) : Prop := ∀ chatId, p.weight (fun e => (postedTo chatId e).toNat) ≤ 1

/-- An attempt finds no mark for a group only once those that found none before have ended, and posted
nothing. -/
def PostsAlone (env : Env) (p : BroadcastAttemptPool) : BroadcastAttemptLabel → Prop
  | .pick i c => ∀ t ∈ p.threads[i]?, ∀ o ∈ t.prog.next?, ∀ chatId ∈ o.asksMarkOf?,
      goesOnTo chatId ((World.handle env).event c.2 p.store o) = true →
        p.Unengaged (goesOnTo chatId) (postedTo chatId)
  | _ => True

instance (env : Env) (p : BroadcastAttemptPool) (l : BroadcastAttemptLabel) :
    Decidable (PostsAlone env p l) := by
  unfold PostsAlone; split <;> infer_instance

/-!
## Digests in private

A digest holds what any protocols wrote to one wallet. It is dispatched like a notification of the protocol of
its first entry, but its messages should reach nobody but the owner of the wallet.
-/

/-- Where a call sends a message. -/
def Op.destination? : Op → Option (Channel × JsString)
  | .sendEmail m => some (.email, m.recipient)
  | .sendTelegram p => some (.telegram, p.chatId)
  | .sendSms p => some (.sms, p.phone)
  | _ => none

/-- The contact of a channel. -/
def DecryptedChannels.contact (channels : DecryptedChannels) : Channel → Option JsString
  | .email => channels.email
  | .telegram => channels.telegramChatId
  | .sms => channels.phone
  | .other _ => none

/-- The contacts that a call decrypted. -/
def decrypted? : (o : Op) → Except Err o.Res → Option DecryptedChannels
  | .decryptAllChannels _, .ok channels => some channels
  | _, _ => none

/-- The contacts that were decrypted for the wallet of a digest. -/
def ownContacts (tr : List GatewayEvent) : List DecryptedChannels :=
  tr.filterMap fun e => decrypted? e.op e.reply

/-- Every message goes to a channel of the wallet itself. -/
def KeepsToOwner (tr : List GatewayEvent) : Prop :=
  ∀ e ∈ tr, ∀ d ∈ e.op.destination?, ∃ channels ∈ ownContacts tr, channels.contact d.1 = some d.2

instance (tr : List GatewayEvent) : Decidable (KeepsToOwner tr) := by unfold KeepsToOwner; infer_instance

/-- The task sends a digest. -/
def Task.sendsDigest : Task → Bool
  | .deliverDigest _ => true
  | _ => false

/-- Every message of a digest goes to a channel of its wallet. -/
def DigestsPrivate (p : GatewayPool) : Prop :=
  ∀ t ∈ p.threads, t.request.sendsDigest = true → KeepsToOwner t.trace

instance (p : GatewayPool) : Decidable (DigestsPrivate p) := by unfold DigestsPrivate; infer_instance

/-- A digest that comes to the group of a protocol finds that it was posted there, or the group is the
wallet's own chat. -/
def GroupsAvoided (env : Env) (p : GatewayPool) : GatewayLabel → Prop
  | .pick i c =>
    ∀ t ∈ p.threads[i]?, t.request.sendsDigest = true → ∀ o ∈ t.prog.next?, ∀ chatId ∈ o.asksMarkOf?,
      goesOnTo chatId ((World.handle env).event c.2 p.store o) = true →
        ∃ channels ∈ ownContacts t.trace, channels.telegramChatId = some chatId
  | _ => True

instance (env : Env) (p : GatewayPool) (l : GatewayLabel) : Decidable (GroupsAvoided env p l) :=
  match l with
  | .pick .. => by unfold GroupsAvoided; infer_instance
  | .arrive _ | .outside _ => .isTrue trivial

end HeraldGateway
