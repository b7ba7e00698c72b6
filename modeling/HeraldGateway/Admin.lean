import HeraldGateway.Notify

/-!
# Administration and campaigns

`admin.service.ts` and `campaign.controller.ts`: messages to all registered wallets, and the launch of a
campaign to the wallets of its audience. The limits on how many of these sends run at once only exclude
some of the interleavings considered here.
-/

namespace HeraldGateway

open Async

variable (env : Env)

/-- The body of a broadcast to all registered wallets. -/
structure SystemBroadcastDto where
  subject : JsString
  body : JsString
  category : JsString
  deriving DecidableEq, Repr

/-- What `broadcast` answers. -/
structure SystemBroadcastResult where
  totalUsers : Nat
  enqueuedSuccess : Nat
  enqueuedFailed : Nat
  deriving DecidableEq, Repr

/-- `broadcast` -/
def systemBroadcast (dto : SystemBroadcastDto) (protocol : AuthenticatedProtocol) :
    Gateway SystemBroadcastResult := do
  let wallets ← call .fetchAllIdentities
  let results ← Prog.allSettled (wallets.map fun wallet => queueNotification env
    { wallet := wallet, category := some dto.category, subject := dto.subject, body := dto.body } protocol)
  return {
    totalUsers := wallets.length
    enqueuedSuccess := (results.filter (·.isOk)).length
    enqueuedFailed := (results.filter (!·.isOk)).length }

/-- The row of a campaign for one wallet. -/
def campaignRow (campaign : Campaign) (id : NotificationId) (wallet : JsString) (now : Millis) :
    NewNotification where
  id := id
  protocolId := campaign.protocolId
  walletHash := env.sha256 wallet
  subjectHash := env.sha256 campaign.subject
  status := .queued
  category := campaign.category
  writeReceipt := false
  queuedAt := some now

/-- The job of a campaign for one wallet. -/
def campaignJob (campaign : Campaign) (id : NotificationId) (wallet : JsString) :
    NotificationJobData where
  notificationId := id
  protocolId := campaign.protocolId
  protocolPubkey := []
  protocolName := []
  wallet := wallet
  walletHash := some (env.sha256 wallet)
  subject := campaign.subject
  body := campaign.body
  category := campaign.category
  writeReceipt := false
  digestMode := false
  isSandbox := some false

/-- Store and enqueue the campaign's notification for one wallet. -/
def enqueueCampaignWallet (campaign : Campaign) (now : Millis) (wallet : JsString) : Gateway Unit := do
  let id ← call .uuid
  call (.notificationCreate (campaignRow env campaign id wallet now))
  enqueueNotification (campaignJob env campaign id wallet)

/-- Enqueue a campaign that was found; the number of wallets it was enqueued for. -/
def enqueueAudience (campaign : Campaign) : Gateway Nat := do
  let now ← call .now
  let results ← Prog.allSettled (campaign.wallets.map (enqueueCampaignWallet env campaign now))
  call (.campaignUpdate campaign.id fun c =>
    { c with status := .running, startedAt := some now, totalTargets := campaign.wallets.length })
  return (results.filter (·.isOk)).length

/-- `enqueueCampaign` -/
def enqueueCampaign (campaignId : JsString) : Gateway Nat := do
  match ← call (.campaignFindUnique campaignId) with
  | none => .throw (.http 404 (js "CAMPAIGN_NOT_FOUND"))
  | some campaign => enqueueAudience env campaign

/-- `launchCampaign` -/
def launchCampaign (id : JsString) (protocol : AuthenticatedProtocol) : Gateway Nat := do
  match ← call (.campaignFindFirst id protocol.protocolId) with
  | none => .throw (.http 404 (js "Campaign not found"))
  | some campaign =>
    if campaign.status ≠ .draft ∧ campaign.status ≠ .scheduled then
      .throw (.http 400 (js "Cannot launch a campaign with status \"" ++ campaign.status.text ++ js "\""))
    else
      enqueueCampaign env id

/-- `cancelCampaign` -/
def cancelCampaign (id : JsString) (protocol : AuthenticatedProtocol) : Gateway Unit := do
  match ← call (.campaignFindFirst id protocol.protocolId) with
  | none => .throw (.http 404 (js "Campaign not found"))
  | some campaign =>
    if campaign.status ≠ .draft ∧ campaign.status ≠ .scheduled then
      .throw (.http 400 (js "Cannot cancel a campaign with status \"" ++ campaign.status.text ++ js "\""))
    else
      call (.campaignUpdate id fun c => { c with status := .cancelled })

end HeraldGateway
