import HeraldGateway.Operations

/-!
# Bounces and complaints

`bounce.service.ts`: what providers report about a sent email, and the suppression of wallets whose email
bounces hard, is complained about, or bounces softly three times in a row.
-/

namespace HeraldGateway

open Async

/-- The data of a Resend event. -/
structure ResendEvent where
  eventType : JsString
  emailId : Option JsString
  id : Option JsString := none
  deriving DecidableEq, Repr

/-- An SES notification. -/
structure SesMessage where
  notificationType : JsString
  messageId : Option JsString
  /-- `bounce.bounceType` -/
  bounceType : Option JsString := none
  /-- `bounce.bouncedRecipients[0].diagnosticCode` -/
  diagnosticCode : Option JsString := none
  /-- `delivery.smtpResponse` -/
  smtpResponse : Option JsString := none
  /-- `delivery.processingTimeMillis` -/
  processingTime : Option Nat := none
  deriving DecidableEq, Repr

/-- A bounce: record it and mark the notification, once for a message. -/
def recordBounce (n : Notification) (bounceType : BounceType) (messageId : JsString)
    (diagnosticCode : Option JsString) (suppress : Gateway Unit) : Gateway Unit := do
  if ← call (.bounceFindFirst messageId none) then
    return ()
  else
    call (.bounceCreate n.id n.walletHash bounceType messageId diagnosticCode)
    call (.notificationUpdate n.id { bounce := some true, bounceType := some bounceType.text })
    suppress

/-- A complaint: record it once for a message, and suppress the wallet every time. -/
def recordComplaint (n : Notification) (messageId : JsString) : Gateway Unit := do
  if ← call (.bounceFindFirst messageId (some .complaint)) then
    call (.suppressionUpsert n.walletHash .complaint n.id)
  else
    call (.bounceCreate n.id n.walletHash .complaint messageId none)
    call (.suppressionUpsert n.walletHash .complaint n.id)

/-- Suppress the wallet if it bounced softly three times since its latest other bounce or delivery. -/
def suppressAfterSoft (n : Notification) : Gateway Unit := do
  let latestHardBounce ← call (.bounceFindLatestHard n.walletHash)
  let latestDelivery ← call (.deliveryFindLatest n.walletHash)
  let cutoff := max (latestHardBounce.getD 0) (latestDelivery.getD 0)
  let consecutiveSofts ← call (.bounceCountSoft n.walletHash cutoff)
  if consecutiveSofts ≥ 3 then
    call (.suppressionUpsert n.walletHash .softBounce n.id)
  else
    return ()

/-- What an event of Resend does to the notification it is about. -/
def applyResendEvent (eventType emailId : JsString) (n : Notification) : Gateway Unit :=
  if eventType = js "email.bounced" then
    recordBounce n .hard emailId none (call (.suppressionUpsert n.walletHash .hardBounce n.id))
  else if eventType = js "email.complained" then
    recordComplaint n emailId
  else if eventType = js "email.delivered" then
    call (.deliveryCreate n.id emailId none none)
  else
    return ()

/-- `processResendEvent` -/
def processResendEvent (e : ResendEvent) : Gateway Unit := do
  let emailId := e.emailId <|> e.id
  if truthy emailId then
    match ← call (.notificationFindBySesMessageId (emailId.getD [])) with
    | none => return ()
    | some n => applyResendEvent e.eventType (emailId.getD []) n
  else
    return ()

/-- What an SES notification does to the notification it is about. -/
def applySesMessage (m : SesMessage) (messageId : JsString) (n : Notification) : Gateway Unit :=
  if m.notificationType = js "Bounce" then
    if m.bounceType = some (js "Permanent") then
      recordBounce n .hard messageId m.diagnosticCode
        (call (.suppressionUpsert n.walletHash .hardBounce n.id))
    else
      recordBounce n .soft messageId m.diagnosticCode (suppressAfterSoft n)
  else if m.notificationType = js "Complaint" then
    recordComplaint n messageId
  else if m.notificationType = js "Delivery" then
    call (.deliveryCreate n.id messageId m.smtpResponse m.processingTime)
  else
    return ()

/-- `processSesBounce` -/
def processSesBounce (m : SesMessage) : Gateway Unit := do
  if truthy m.messageId then
    match ← call (.notificationFindBySesMessageId (m.messageId.getD [])) with
    | none => return ()
    | some n => applySesMessage m (m.messageId.getD []) n
  else
    return ()

end HeraldGateway
