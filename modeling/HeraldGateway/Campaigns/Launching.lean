import HeraldGateway.Async.Alone
import HeraldGateway.Delivery.Fanout

/-!
# Launching a campaign

Requests to launch and to cancel a campaign look at its status, act, and write the status last; the internal
request that enqueues a campaign does not look. Each target of the campaign should be sent to at most once,
and nothing should come of a campaign that was cancelled.
-/

namespace HeraldGateway

open Async

/-- A request on a campaign. -/
inductive CampaignRequest where
  | launch (protocol : AuthenticatedProtocol)
  | cancel (protocol : AuthenticatedProtocol)
  | enqueue
  deriving DecidableEq, Repr

/-- The program of a request. -/
def CampaignRequest.code (env : Env) (id : JsString) : CampaignRequest → Gateway Unit
  | launch protocol => (launchCampaign env id protocol).bind fun _ => .ret ()
  | cancel protocol => cancelCampaign id protocol
  | enqueue => (enqueueCampaign env id).bind fun _ => .ret ()

/-- The rows of a campaign: identifiers are unique, so there is at most one. -/
def World.campaignRows (s : World) (id : JsString) : List Campaign := s.campaigns.filter (·.id == id)

/-- The status of a campaign. -/
def World.campaignStatus (s : World) (id : JsString) : Option CampaignStatus :=
  (s.campaignRows id).head?.map (·.status)

/-- The wallets of a campaign. -/
def World.campaignWallets (s : World) (id : JsString) : List JsString :=
  (s.campaignRows id).head?.elim [] (·.wallets)

/-- The requests on a campaign, over a world in which everything but the campaign may change at any time. -/
def campaignRequests (env : Env) (id : JsString) :
    System Calls Err Unit CampaignRequest World Choice World where
  handler := World.handle env
  code r _ := r.code env id
  outside w s := if w.campaignRows id = s.campaignRows id then some w else none

/-- A pool of requests on a campaign. -/
abbrev CampaignPool := Pool Calls Err Unit CampaignRequest World Choice

/-- A request on a campaign that runs, or has run. -/
abbrev CampaignThread := Thread Calls Err Unit CampaignRequest World Choice

/-- A call that such a request made. -/
abbrev CampaignEvent := Event Calls Err World Choice

/-- A step of a pool of requests on a campaign. -/
abbrev CampaignLabel := Label CampaignRequest Choice World

/-- Whether a campaign may be launched or cancelled. -/
def CampaignStatus.isOpen : CampaignStatus → Bool
  | .draft | .scheduled => true
  | _ => false

/-- The campaign may be launched or cancelled. -/
def World.campaignOpen (s : World) (id : JsString) : Bool := (s.campaignStatus id).any (·.isOpen)

/-- A call upon whose answer a request acts: it gave a campaign that is open, or one to enqueue. -/
def takesUp : (o : Op) → Except Err o.Res → Bool
  | .campaignFindFirst .., .ok (some campaign) => campaign.status.isOpen
  | .campaignFindUnique _, .ok (some _) => true
  | _, _ => false

/-- A job reaches the queue, now or once an add that was given up on completes. -/
def reachesQueue (e : CampaignEvent) : Bool :=
  e.op.adds && match e.choice.fault with
    | .refused _ => false
    | _ => true

/-- A job for a wallet reaches the queue. -/
def enqueuesFor (wallet : JsString) (e : CampaignEvent) : Bool :=
  reachesQueue e && match e.op with
    | .notificationAdd data .. => data.wallet == wallet
    | _ => false

/-- The call adds a job or writes a campaign. -/
def Op.acts : Op → Bool
  | .notificationAdd .. | .campaignUpdate .. => true
  | _ => false

/-- Each target is sent to at most once, and once the campaign was cancelled it stays so and nothing is
added. -/
structure LaunchedOnce (id : JsString) (wallets : List JsString) (p : CampaignPool) : Prop where
  once : ∀ wallet, p.weight (fun e => (enqueuesFor wallet e).toNat) ≤ wallets.count wallet
  final : ∀ t ∈ p.threads, ∀ e ∈ t.trace, e.before.campaignStatus id = some .cancelled →
    e.op.adds = false ∧ e.after.campaignStatus id = some .cancelled

/-- A request takes the campaign up. -/
def takingUp (e : CampaignEvent) : Bool := takesUp e.op e.reply

/-- A request takes the campaign up only while it is open, and once those that took it up before have ended
and enqueued nothing. -/
def TakesUpAlone (env : Env) (id : JsString) (p : CampaignPool) : CampaignLabel → Prop
  | .pick i c => ∀ t ∈ p.threads[i]?, ¬ t.Started takingUp → ∀ o ∈ t.prog.next?,
      takingUp ((World.handle env).event c.2 p.store o) = true →
        p.store.campaignOpen id = true ∧ p.Unengaged takingUp reachesQueue
  | _ => True

instance (env : Env) (id : JsString) (p : CampaignPool) (l : CampaignLabel) :
    Decidable (TakesUpAlone env id p l) := by
  unfold TakesUpAlone; split <;> infer_instance

end HeraldGateway
