import HeraldGateway.Async.Log
import HeraldGateway.Operations

/-!
# The audience of a protocol

The functions of `subscriptions.service.ts`, and the requests of the three controllers that reach them. A wallet
joins a protocol through its API key or the join flow, with its address and its channels; from the portal, where
only the hash of the address is known, it may join without them, leave and return.
-/

namespace HeraldGateway.Audience

open Async

/-! ### The table -/

/-- A row of `protocol_subscriptions`, with its id, its source and when it was last written. -/
structure Subscription extends ProtocolSubscription where
  id : Nat
  source : JsString := js "join_link"
  updatedAt : Millis
  deriving DecidableEq, Repr

/-- The row belongs to a wallet and a protocol. -/
def Subscription.isOf (r : Subscription) (walletHash protocolId : JsString) : Bool :=
  r.walletHash == walletHash && r.protocolId == protocolId

/-- The unique key of a row. -/
def Subscription.key (r : Subscription) : JsString × JsString := (r.walletHash, r.protocolId)

/-- The row counts as a subscriber of a protocol. -/
def Subscription.subscribes (r : Subscription) (protocolId : JsString) : Bool :=
  r.protocolId == protocolId && r.active

/-- The row is one that a broadcast of a protocol addresses. -/
def Subscription.addressed (r : Subscription) (protocolId : JsString) : Bool :=
  r.protocolId == protocolId && r.active && r.walletPubkey.isSome

/-- The tables. The pair of wallet and protocol is unique, and a protocol must exist. -/
structure Store where
  rows : List Subscription := []
  /-- The rows ever created. -/
  created : Nat := 0
  protocols : List JsString := []
  now : Millis := 0
  deriving DecidableEq, Repr

/-! ### Statements -/

/-- The calls of the service. -/
inductive AudienceOp where
  | upsertSubscriber (walletPubkey walletHash protocolId : JsString) (channels : List JsString)
      (source : JsString)
  | upsertFromPortal (walletHash protocolId : JsString)
  | deactivate (walletHash protocolId : JsString)
  | reactivate (walletHash protocolId : JsString)
  | findUnique (walletHash protocolId : JsString)
  | countActive (protocolId : JsString)
  | findTargets (protocolId : JsString)
  | findByWallet (walletHash : JsString)
  deriving DecidableEq, Repr

/-- What these calls give. -/
def AudienceOp.Res : AudienceOp → Type
  | upsertSubscriber .. | upsertFromPortal .. => Subscription
  | deactivate .. | reactivate .. => Unit
  | findUnique .. => Option Subscription
  | countActive _ => Nat
  | findTargets _ | findByWallet _ => List Subscription

/-- The calls of the service. -/
abbrev AudienceCalls : Signature := ⟨AudienceOp, AudienceOp.Res⟩

/-- A function of the service. -/
abbrev Subscriptions (α : Type) := Prog AudienceCalls Err α

/-- Make a call. -/
def AudienceOp.call (o : AudienceOp) : Subscriptions o.Res := @Prog.perform AudienceCalls Err o

/-- The error of a row whose protocol does not exist (Prisma `P2003`). -/
def foreignKeyViolation : Err :=
  .external { message := js "Foreign key constraint violated", code := some (js "P2003") }

/-- What the surroundings decide about a call: its fate. -/
structure AudienceChoice where
  fault : Fault := .none
  deriving DecidableEq, Repr

namespace Store

/-- The row of a wallet and a protocol. -/
def find (s : Store) (walletHash protocolId : JsString) : Option Subscription :=
  s.rows.find? (·.isOf walletHash protocolId)

/-- The tables after some rows are changed. -/
def change (s : Store) (walletHash protocolId : JsString) (u : Subscription → Subscription) : Store :=
  { s with rows := updateWhere (·.isOf walletHash protocolId) u s.rows }

/-- `protocolSubscription.upsert` -/
def upsert (s : Store) (create : Subscription) (update : Subscription → Subscription) :
    Except Err Subscription × Store :=
  match s.find create.walletHash create.protocolId with
  | some row => (.ok (update row), s.change create.walletHash create.protocolId update)
  | none =>
    if s.protocols.contains create.protocolId then
      (.ok create, { s with rows := s.rows ++ [create], created := s.created + 1 })
    else (.error foreignKeyViolation, s)

/-- The rows in the order of `orderBy: { subscribedAt: 'desc' }`. -/
def byWallet (s : Store) (walletHash : JsString) : List Subscription :=
  (s.rows.filter (·.walletHash == walletHash)).mergeSort fun r r' => decide (r'.subscribedAt ≤ r.subscribedAt)

/-- A call that is answered. -/
def serve (s : Store) : (o : AudienceOp) → Except Err o.Res × Store
  | .upsertSubscriber walletPubkey walletHash protocolId channels source =>
    s.upsert
      { id := s.created
        walletPubkey := some walletPubkey
        walletHash := walletHash
        protocolId := protocolId
        channels := channels
        active := true
        source := source
        subscribedAt := s.now
        updatedAt := s.now }
      fun r => { r with
        active := true
        channels := channels
        walletPubkey := some walletPubkey
        updatedAt := s.now }
  | .upsertFromPortal walletHash protocolId =>
    s.upsert
      { id := s.created
        walletPubkey := none
        walletHash := walletHash
        protocolId := protocolId
        channels := []
        active := true
        subscribedAt := s.now
        updatedAt := s.now }
      fun r => { r with active := true, updatedAt := s.now }
  | .deactivate walletHash protocolId =>
    (.ok (), s.change walletHash protocolId fun r => { r with active := false, updatedAt := s.now })
  | .reactivate walletHash protocolId =>
    (.ok (), s.change walletHash protocolId fun r => { r with active := true, updatedAt := s.now })
  | .findUnique walletHash protocolId => (.ok (s.find walletHash protocolId), s)
  | .countActive protocolId => (.ok (s.rows.filter (·.subscribes protocolId)).length, s)
  | .findTargets protocolId => (.ok (s.rows.filter (·.addressed protocolId)), s)
  | .findByWallet walletHash => (.ok (s.byWallet walletHash), s)

/-- A call under a fault. -/
def handle : Handler AudienceCalls Err Store AudienceChoice := fun c s o => c.fault.meet s (s.serve o)

end Store

/-! ### The service -/

/-- `subscribe` -/
def subscribe (env : Env) (walletPubkey protocolId : JsString) (channels : List JsString) (source : JsString) :
    Subscriptions Subscription :=
  (AudienceOp.upsertSubscriber walletPubkey (env.sha256 walletPubkey) protocolId channels source).call

/-- `unsubscribe` -/
def unsubscribe (walletHash protocolId : JsString) : Subscriptions Unit :=
  (AudienceOp.deactivate walletHash protocolId).call

/-- `resubscribe` -/
def resubscribe (walletHash protocolId : JsString) : Subscriptions Unit :=
  (AudienceOp.reactivate walletHash protocolId).call

/-- What `checkSubscription` returns. -/
structure SubscriptionStatus where
  isSubscribed : Bool
  channels : List JsString
  subscribedAt : Option Millis
  deriving DecidableEq, Repr

/-- The status that a row stands for, or the lack of one. -/
def statusOf (sub : Option Subscription) : SubscriptionStatus where
  isSubscribed := (sub.map (·.active)).getD false
  channels := (sub.map (·.channels)).getD []
  subscribedAt := sub.map (·.subscribedAt)

/-- `checkSubscription` -/
def checkSubscription (walletHash protocolId : JsString) : Subscriptions SubscriptionStatus := do
  let sub ← (AudienceOp.findUnique walletHash protocolId).call
  return statusOf sub

/-- `getSubscriberCount` -/
def getSubscriberCount (protocolId : JsString) : Subscriptions Nat := (AudienceOp.countActive protocolId).call

/-- A subscriber whose address is known. -/
structure BroadcastTarget where
  walletPubkey : JsString
  walletHash : JsString
  channels : List JsString
  deriving DecidableEq, Repr

/-- The target that a row stands for, where it has an address. -/
def Subscription.target? (r : Subscription) : Option BroadcastTarget :=
  r.walletPubkey.map fun walletPubkey => ⟨walletPubkey, r.walletHash, r.channels⟩

/-- `getBroadcastTargets` -/
def getBroadcastTargets (protocolId : JsString) : Subscriptions (List BroadcastTarget) := do
  let rows ← (AudienceOp.findTargets protocolId).call
  return List.filterMap Subscription.target? rows

/-- An entry of the list that a portal user sees. -/
structure UserSubscription where
  protocolId : JsString
  active : Bool
  channels : List JsString
  subscribedAt : Millis
  updatedAt : Millis
  deriving DecidableEq, Repr

/-- `getUserSubscriptions` -/
def getUserSubscriptions (walletHash : JsString) : Subscriptions (List UserSubscription) := do
  let rows ← (AudienceOp.findByWallet walletHash).call
  return List.map (fun r : Subscription =>
    ⟨r.protocolId, r.active, r.channels, r.subscribedAt, r.updatedAt⟩) rows

/-! ### The controllers -/

/-- `SUBSCRIBE_CHANNELS` -/
def subscribeChannels : List JsString := [js "email", js "telegram", js "sms"]

/-- `SubscribeDto` -/
structure SubscribeDto where
  walletAddress : JsString
  channels : Option (List JsString) := none
  deriving DecidableEq, Repr

/-- The channels of a request are at most three of the known ones, if it names any. -/
def SubscribeDto.valid (dto : SubscribeDto) : Bool :=
  dto.channels.all fun channels => channels.length ≤ 3 && channels.all subscribeChannels.contains

/-- `InternalSubscribeDto` -/
structure InternalSubscribeDto where
  walletPubkey : JsString
  protocolId : JsString
  channels : Option (List JsString) := none
  source : Option JsString := none
  deriving DecidableEq, Repr

/-- A request, with the protocol or the wallet that its guard found. The last two are what a broadcast asks. -/
inductive Request where
  | subscribe (dto : SubscribeDto) (protocolId : JsString)
  | unsubscribe (walletAddress protocolId : JsString)
  | check (walletAddress protocolId : JsString)
  | subscribeInternal (dto : InternalSubscribeDto)
  | list (walletHash : JsString)
  | portalSubscribe (walletHash protocolId : JsString)
  | portalUnsubscribe (walletHash protocolId : JsString)
  | portalResubscribe (walletHash protocolId : JsString)
  | targets (protocolId : JsString)
  | subscriberCount (protocolId : JsString)
  deriving DecidableEq, Repr

/-- What a request is answered with. -/
inductive Response where
  | subscription (sub : Subscription)
  | success
  | status (status : SubscriptionStatus)
  | total (count : Nat)
  | list (subs : List UserSubscription)
  | targets (targets : List BroadcastTarget)
  deriving DecidableEq, Repr

/-- The program of a request. -/
def Request.code (env : Env) : Request → Subscriptions Response
  | subscribe dto protocolId =>
    if dto.valid then do
      let sub ← Audience.subscribe env dto.walletAddress protocolId (dto.channels.getD [js "email"]) (js "api")
      return .subscription sub
    else .throw (.http 400 (js "Bad Request"))
  | unsubscribe walletAddress protocolId => do
    Audience.unsubscribe (env.sha256 walletAddress) protocolId
    return .success
  | check walletAddress protocolId =>
    if walletAddress.isEmpty then .throw (.http 400 (js "walletAddress is required"))
    else do
      let status ← checkSubscription (env.sha256 walletAddress) protocolId
      return .status status
  | subscribeInternal dto => do
    let sub ← Audience.subscribe env dto.walletPubkey dto.protocolId (dto.channels.getD [js "email"])
      (dto.source.getD (js "join_link"))
    return .subscription sub
  | list walletHash => do
    let subs ← getUserSubscriptions walletHash
    return .list subs
  | portalSubscribe walletHash protocolId => do
    let _ ← (AudienceOp.upsertFromPortal walletHash protocolId).call
    return .success
  | portalUnsubscribe walletHash protocolId => do
    Audience.unsubscribe walletHash protocolId
    return .success
  | portalResubscribe walletHash protocolId => do
    resubscribe walletHash protocolId
    return .success
  | targets protocolId => do
    let targets ← getBroadcastTargets protocolId
    return .targets targets
  | subscriberCount protocolId => do
    let total ← getSubscriberCount protocolId
    return .total total

/-- What happens to the tables between the calls: a protocol registers, or time passes. -/
inductive Change where
  | register (protocolId : JsString)
  | tick (ms : Nat)
  deriving DecidableEq, Repr

/-- The tables after a change. -/
def Change.apply (s : Store) : Change → Store
  | register protocolId => { s with protocols := s.protocols ++ [protocolId] }
  | tick ms => { s with now := s.now + ms }

/-- Any number of requests over the tables. -/
def audience (env : Env) : System AudienceCalls Err Response Request Store AudienceChoice Change where
  handler := Store.handle
  code r _ := r.code env
  outside e s := some (e.apply s)

/-- A pool of requests. -/
abbrev AudiencePool := Pool AudienceCalls Err Response Request Store AudienceChoice

/-- A call that was answered. -/
abbrev AudienceEvent := Event AudienceCalls Err Store AudienceChoice

/-- A step of a pool. -/
abbrev AudienceLabel := Label Request AudienceChoice Change

/-! ### Decisions -/

/-- What was decided about a wallet and a protocol. -/
inductive Decision where
  | join (walletPubkey : JsString) (channels : List JsString)
  | enter
  | leave
  | resume
  deriving DecidableEq, Repr

/-- What the decisions about a wallet and a protocol amount to. -/
structure Standing where
  walletPubkey : Option JsString
  channels : List JsString
  active : Bool
  deriving DecidableEq, Repr

/-- The standing after a decision. Who was never in neither leaves nor resumes; who leaves keeps address and
channels. -/
def Decision.apply : Option Standing → Decision → Option Standing
  | _, join walletPubkey channels => some ⟨some walletPubkey, channels, true⟩
  | none, enter => some ⟨none, [], true⟩
  | some st, enter | some st, resume => some { st with active := true }
  | some st, leave => some { st with active := false }
  | none, leave | none, resume => none

/-- The standing after some decisions, of a wallet that had none before. -/
def standingAfter (ds : List Decision) : Option Standing := ds.foldl Decision.apply none

/-- The decision that a statement carries out, and about which wallet and protocol. -/
def AudienceOp.decision? : AudienceOp → Option ((JsString × JsString) × Decision)
  | upsertSubscriber walletPubkey walletHash protocolId channels _ =>
    some ((walletHash, protocolId), .join walletPubkey channels)
  | upsertFromPortal walletHash protocolId => some ((walletHash, protocolId), .enter)
  | deactivate walletHash protocolId => some ((walletHash, protocolId), .leave)
  | reactivate walletHash protocolId => some ((walletHash, protocolId), .resume)
  | _ => none

/-- The statement is not refused for want of its protocol. -/
def AudienceOp.lands (s : Store) : AudienceOp → Bool
  | upsertSubscriber _ _ protocolId _ _ | upsertFromPortal _ protocolId => s.protocols.contains protocolId
  | _ => true

/-- The decision that a call carried out. -/
def recorded? (e : AudienceEvent) : Option ((JsString × JsString) × Decision) :=
  if e.choice.fault.applies && AudienceOp.lands e.before e.op then AudienceOp.decision? e.op else none

/-- The decision, if it is about a wallet and a protocol. -/
def about (walletHash protocolId : JsString) (x : (JsString × JsString) × Decision) : Option Decision :=
  if x.1 = (walletHash, protocolId) then some x.2 else none

/-- The decisions about a wallet and a protocol in a log, in their order. -/
def decisions (walletHash protocolId : JsString) (log : List (Nat × AudienceEvent)) : List Decision :=
  log.filterMap fun x => (recorded? x.2).bind (about walletHash protocolId)

/-- The address and the channels of a decision to join. -/
def Decision.joined? : Decision → Option (JsString × List JsString)
  | join walletPubkey channels => some (walletPubkey, channels)
  | _ => none

/-- The decision brings a wallet in that was never in. -/
def Decision.brings : Decision → Bool
  | join .. | enter => true
  | leave | resume => false

/-- The address and the channels of the last decision to join. -/
def lastJoined? (ds : List Decision) : Option (JsString × List JsString) := ds.reverse.findSome? Decision.joined?

/-- The wallet came in at some time, from wherever, and the last decision was not to leave. -/
def Subscribed (ds : List Decision) : Prop := ds.any Decision.brings = true ∧ ds.getLast? ≠ some .leave

instance (ds : List Decision) : Decidable (Subscribed ds) := by unfold Subscribed; infer_instance

/-- The wallet is subscribed, and joined last with this address and these channels. -/
def Targeted (ds : List Decision) (walletPubkey : JsString) (channels : List JsString) : Prop :=
  Subscribed ds ∧ lastJoined? ds = some (walletPubkey, channels)

instance (ds : List Decision) (walletPubkey : JsString) (channels : List JsString) :
    Decidable (Targeted ds walletPubkey channels) := by unfold Targeted; infer_instance

/-- The decision that a request asks for. -/
def Request.decision? (env : Env) : Request → Option ((JsString × JsString) × Decision)
  | subscribe dto protocolId =>
    some ((env.sha256 dto.walletAddress, protocolId), .join dto.walletAddress (dto.channels.getD [js "email"]))
  | subscribeInternal dto =>
    some ((env.sha256 dto.walletPubkey, dto.protocolId), .join dto.walletPubkey (dto.channels.getD [js "email"]))
  | unsubscribe walletAddress protocolId => some ((env.sha256 walletAddress, protocolId), .leave)
  | portalSubscribe walletHash protocolId => some ((walletHash, protocolId), .enter)
  | portalUnsubscribe walletHash protocolId => some ((walletHash, protocolId), .leave)
  | portalResubscribe walletHash protocolId => some ((walletHash, protocolId), .resume)
  | _ => none

/-- What an answer says is what the decisions of a log amount to: whether a wallet is subscribed and with which
channels, how many are, and which of them a broadcast reaches, each once. -/
def Tells (env : Env) (log : List (Nat × AudienceEvent)) : Request → Response → Prop
  | .check walletAddress protocolId, .status status =>
    (status.isSubscribed = true ↔ Subscribed (decisions (env.sha256 walletAddress) protocolId log)) ∧
      status.channels = ((lastJoined? (decisions (env.sha256 walletAddress) protocolId log)).map (·.2)).getD []
  | .subscriberCount protocolId, .total count =>
    ∃ wallets : List JsString, wallets.Nodup ∧ wallets.length = count ∧
      ∀ h, h ∈ wallets ↔ Subscribed (decisions h protocolId log)
  | .targets protocolId, .targets targets =>
    (targets.map (·.walletHash)).Nodup ∧
      ∀ w h cs, ⟨w, h, cs⟩ ∈ targets ↔ Targeted (decisions h protocolId log) w cs
  | .check .., _ | .subscriberCount _, _ | .targets _, _ => False
  | _, _ => True

end HeraldGateway.Audience
