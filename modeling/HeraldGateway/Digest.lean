import HeraldGateway.ChannelDispatch

/-!
# Digests

`digest.service.ts` and `digest.worker.ts`: notifications are buffered for the next full hour, the due
entries of each wallet become one digest job, and the worker sends them as one notification.
-/

namespace HeraldGateway

open Async

variable (env : Env)

/-! ### The digest service -/

/-- `getNextHourlyFlush`, in a time zone whose offset is a number of hours. -/
def nextHourlyFlush (now : Millis) : Millis := now - now % 3600000 + 3600000

/-- `bufferForDigest` -/
def bufferForDigest (walletHash protocolId subject category : JsString) : Gateway Unit := do
  let now ← call .now
  call (.digestCreate walletHash protocolId subject category (nextHourlyFlush now))

/-- The entry of a buffered row in a digest job. -/
def DigestRow.entry (r : DigestRow) : DigestEntry := ⟨r.id, r.protocolId, r.subject, r.category, r.queuedAt⟩

/-- The digest jobs of some due rows, one for each wallet. -/
def digestJobs (due : List DigestRow) : List DigestJobData :=
  (groupBy (·.walletHash) due).map fun g => ⟨g.1, g.2.map DigestRow.entry⟩

/-- `flushDueDigests` -/
def flushDueDigests : Gateway Unit := do
  let now ← call .now
  let due ← call (.digestFindDue now)
  Prog.forEach (fun job => do
    let addedAt ← call .now
    call (.digestAdd job addedAt)) (digestJobs due)

/-- `markAsSent` -/
def markAsSent (entries : List DigestEntry) : Gateway Unit := do
  let now ← call .now
  call (.digestMarkSent (entries.map (·.id)) now)

/-! ### The digest worker -/

/-- The text of what every object inherits under a name. -/
def inheritedText (name : JsString) : Option JsString :=
  if name = js "__proto__" then some (js "[object Object]")
  else if name = js "constructor" then some (js "function Object() \x7b [native code] \x7d")
  else if name ∈ [js "hasOwnProperty", js "isPrototypeOf", js "propertyIsEnumerable", js "toLocaleString",
      js "toString", js "valueOf", js "__defineGetter__", js "__defineSetter__", js "__lookupGetter__",
      js "__lookupSetter__"] then
    some (js "function " ++ name ++ js "() \x7b [native code] \x7d")
  else none

/-- The icon of a category. The icons are the properties of an object. -/
def categoryIcon (category : JsString) : JsString :=
  if category = js "defi" then js "💰"
  else if category = js "governance" then js "🗳️"
  else if category = js "system" then js "⚙️"
  else if category = js "marketing" then js "📢"
  else (inheritedText category).getD (js "🔔")

/-- The lines of the entries of one category. -/
def categoryLines (category : JsString) (entries : List DigestEntry) : List JsString :=
  (categoryIcon category ++ js " **" ++ capitalize category ++ js "** (" ++ decimal entries.length ++
      js ")") ::
    entries.map (fun e => js "  • " ++ e.subject ++ js " _(" ++ env.localeTime e.queuedAt ++ js ")_") ++
      [[]]

/-- `buildDigestBody` -/
def buildDigestBody (entries : List DigestEntry) : JsString :=
  let plural := if entries.length > 1 then js "s" else []
  let byCategory := groupBy (fun e => if e.category.isEmpty then js "general" else e.category) entries
  join (js "\n") (
    [js "Here's a summary of your " ++ decimal entries.length ++ js " notification" ++ plural ++
      js " since your last digest:\n"] ++
    byCategory.flatMap (fun g => categoryLines env g.1 g.2) ++
    [js "---",
      js "You can adjust your digest preferences at [app.useherald.xyz](https://app.useherald.xyz)"])

/-- The job that stands for the digest. It names no wallet, neither in the clear nor by its hash. -/
def digestNotification (data : DigestJobData) (protocolId : JsString) (protocol : Option ProtocolRow)
    (now : Millis) : NotificationJobData where
  notificationId := .digest (data.walletHash.take 8) now
  protocolId := protocolId
  protocolPubkey := (protocol.map (·.protocolPubkey)).getD []
  protocolName := js "Herald Digest"
  wallet := []
  subject := js "Your notification digest (" ++ decimal data.entries.length ++ js " updates)"
  body := buildDigestBody env data.entries
  category := js "system"
  writeReceipt := false
  digestMode := false
  priority := some .normal
  tier := some ((protocol.map (·.tier)).getD 0)

/-- Resolve the subscriber's wallet and send the digest to all its channels. -/
def sendDigest (data : DigestJobData) (job : NotificationJobData) (wallet : JsString) :
    Gateway Unit := do
  match ← resolveIdentity wallet with
  | none => markAsSent data.entries
  | some identity =>
    let channels ← decryptAllChannelsInEnclave identity
    let _ ← dispatch env channels job
    markAsSent data.entries

/-- Send the digest of a wallet that has notifications, to the wallet of its latest subscription. -/
def deliverDigest (data : DigestJobData) (protocolId : JsString) : Gateway Unit := do
  let protocol ← call (.protocolFindUnique protocolId)
  let now ← call .now
  let wallet ← call (.subscriptionFindByWalletHash data.walletHash)
  if truthy wallet then
    sendDigest env data (digestNotification env data protocolId protocol now) (wallet.getD [])
  else
    markAsSent data.entries

/-- `process` of the digest worker. -/
def processDigest (data : DigestJobData) : Gateway Unit :=
  match data.entries with
  | [] => return ()
  | entry :: _ => do
    if ← call (.notificationFindByWalletHash data.walletHash) then
      deliverDigest env data entry.protocolId
    else
      markAsSent data.entries

end HeraldGateway
