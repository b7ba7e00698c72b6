import HeraldGateway.Async.Pool
import HeraldGateway.Operations
import Mathlib.Data.Fintype.Basic

/-!
# Groups that are linked by a nonce

The branch of `handleCustomBotMessageText` in `telegram-migration.service.ts` that serves `/start
setup_<nonce>`. The portal issues the nonce, which is not in this repository: it stores data under the nonce
for a while, once, and may remove them.
-/

namespace HeraldGateway.TelegramMigrationService

open Async

/-! ### Calls -/

/-- What is stored under a nonce. -/
structure NonceData where
  botType : Option JsString := none
  protocolId : Option JsString := none
  status : Option JsString := none
  chatId : Option JsString := none
  deriving DecidableEq, Repr

/-- The calls of the branch. -/
inductive SetupOp where
  | getChatMember (chatId : JsString) (userId : Nat)
  | sendMessage (chatId text : JsString)
  | redisGet (nonce : JsString)
  | settingsUpdate (protocolId telegramGroupChatId : JsString)
  | redisSetex (nonce : JsString) (seconds : Nat) (data : NonceData)
  deriving DecidableEq, Repr

/-- What they give; the data of a nonce are `none` where `JSON.parse` throws, or gives `null`. -/
def SetupOp.Res : SetupOp → Type
  | getChatMember .. => JsString
  | redisGet _ => Option (Option NonceData)
  | _ => Unit

/-- The calls of the branch. -/
abbrev SetupCalls : Signature := ⟨SetupOp, SetupOp.Res⟩

/-- A function of the branch. -/
abbrev Setup (α : Type) := Prog SetupCalls Err α

/-- Make a call. -/
def SetupOp.call (o : SetupOp) : Setup o.Res := @Prog.perform SetupCalls Err o

/-- `tg.getChatMember`, of which the status is read -/
def getChatMember (chatId : JsString) (userId : Nat) : Setup JsString :=
  (SetupOp.getChatMember chatId userId).call

/-- `this.redis.get` of a nonce -/
def nonceGet (nonce : JsString) : Setup (Option (Option NonceData)) := (SetupOp.redisGet nonce).call

/-- `this.redis.setex` of a nonce -/
def nonceSetex (nonce : JsString) (seconds : Nat) (data : NonceData) : Setup Unit :=
  (SetupOp.redisSetex nonce seconds data).call

/-- `prisma.protocolSettings.update` -/
def settingsUpdate (protocolId chatId : JsString) : Setup Unit :=
  (SetupOp.settingsUpdate protocolId chatId).call

/-- `tg.sendMessage`, of which a failure is ignored -/
def notify (chatId text : JsString) : Setup Unit :=
  (SetupOp.sendMessage chatId text).call.tryCatch fun _ => .ret ()

/-- A nonce in Redis: its data, and when it expires. -/
structure NonceEntry where
  data : Option NonceData
  expiresAt : Millis
  deriving DecidableEq, Repr

/-- What the calls act on: Redis, the group of each protocol that has settings, and the clock. `issued` says
until when a nonce was issued. -/
structure SetupStore where
  now : Millis := 0
  redis : JsString → Option NonceEntry := fun _ => none
  settings : JsString → Option (Option JsString) := fun _ => none
  issued : JsString → Option Millis := fun _ => none

/-- What the surroundings decide about a call: its fate, and the status of a member of a chat. -/
structure SetupChoice where
  fault : Fault := .none
  status : JsString := []
  deriving DecidableEq, Repr

namespace SetupStore

/-- The entry of a nonce that has not expired. -/
def live (s : SetupStore) (nonce : JsString) : Option NonceEntry :=
  (s.redis nonce).filter fun e => s.now < e.expiresAt

/-- Store an entry. -/
def put (s : SetupStore) (nonce : JsString) (e : NonceEntry) : SetupStore :=
  { s with redis := fun n => if n = nonce then some e else s.redis n }

/-- A call that is answered. -/
def serve (c : SetupChoice) (s : SetupStore) : (o : SetupOp) → Except Err o.Res × SetupStore
  | .getChatMember .. => (.ok c.status, s)
  | .sendMessage .. => (.ok (), s)
  | .redisGet nonce => (.ok ((s.live nonce).map (·.data)), s)
  | .settingsUpdate protocolId chatId =>
    match s.settings protocolId with
    | none => (.error .recordNotFound, s)
    | some _ =>
      (.ok (), { s with settings := fun p => if p = protocolId then some (some chatId) else s.settings p })
  | .redisSetex nonce seconds data => (.ok (), s.put nonce ⟨some data, s.now + seconds * 1000⟩)

/-- A call under a fault. -/
def handle : Handler SetupCalls Err SetupStore SetupChoice := fun c s o => c.fault.meet s (s.serve c o)

end SetupStore

/-! ### The branch -/

/-- A text that a protocol's bot received, from whom and where. -/
structure BotMessage where
  protocolId : JsString
  chatId : JsString
  userId : Option Nat
  text : JsString
  deriving DecidableEq, Repr

/-- The nonce of a text that is a setup command. -/
def BotMessage.nonce? (m : BotMessage) : Option JsString :=
  let cleanCmd := toLowerCase ((splitOn 64 ((splitOn 32 m.text).headD [])).headD [])
  if cleanCmd = js "/start" then
    match ((splitOn 32 m.text)[1]?).map trim with
    | none => none
    | some arg => if (js "setup_").isPrefixOf arg then some (arg.drop 6) else none
  else none

/-- `checkIsAdmin` -/
def checkIsAdmin (chatId : JsString) (userId : Nat) : Setup Bool :=
  Prog.tryCatch (do
    let status ← getChatMember chatId userId
    return [js "creator", js "administrator"].contains status) fun _ => .ret false

/-- The data of a nonce are for a custom bot, and for the protocol of the bot. -/
def NonceData.isFor (data : NonceData) (protocolId : JsString) : Bool :=
  !(truthy data.botType && data.botType != some (js "custom")) && data.protocolId == some protocolId

/-- Link the group, and complete the nonce. -/
def linkGroup (m : BotMessage) (nonce : JsString) (data : NonceData) : Setup Unit := do
  settingsUpdate m.protocolId m.chatId
  nonceSetex nonce 60 { data with status := some (js "completed"), chatId := some m.chatId }
  notify m.chatId (js "✅ <b>Group Linked Successfully!</b>\n\nThis group chat is now linked to your Herald " ++
    js "protocol dashboard.\n\nMake sure this bot is promoted to <b>Administrator</b> with permission to post " ++
    js "messages so alerts are delivered properly.")

/-- The error that reading a property of `null` throws, or `JSON.parse`. -/
def badNonce : Err := .error (js "Invalid nonce data")

/-- What is done with the data of a nonce. -/
def completeNonce (m : BotMessage) (nonce : JsString) : Option (Option NonceData) → Setup Unit
  | none => notify m.chatId
      (js "⏰ This setup link has expired. Please generate a new one from the Herald Portal.")
  | some none => .throw badNonce
  | some (some data) =>
    if truthy data.botType && data.botType != some (js "custom") then
      notify m.chatId (js "⚠️ This setup link is for a different bot. Please use the correct bot to complete " ++
        js "group setup.")
    else if data.protocolId != some m.protocolId then
      notify m.chatId (js "⚠️ This setup link is not valid for this bot.")
    else linkGroup m nonce data

/-- The branch of `handleCustomBotMessageText`. Other texts link no group, and are left out. -/
def setupGroup (m : BotMessage) : Setup Unit :=
  match m.nonce?, m.userId.filter (· ≠ 0) with
  | some nonce, some senderId => do
    if ← checkIsAdmin m.chatId senderId then
      let data ← nonceGet nonce
      completeNonce m nonce data
    else notify m.chatId (js "⚠️ Only group creators or administrators can link this bot.")
  | _, _ => return ()

/-! ### Runs -/

/-- What others do: the portal issues a nonce, for some seconds, or removes one; the group of a protocol is
set otherwise; and time passes. -/
inductive SetupEvent where
  | issue (nonce : JsString) (seconds : Nat) (data : Option NonceData)
  | remove (nonce : JsString)
  | relink (protocolId : JsString) (group : Option (Option JsString))
  | elapse (ms : Nat)
  deriving DecidableEq, Repr

/-- The store after it. No nonce is issued twice. -/
def SetupEvent.apply (s : SetupStore) : SetupEvent → Option SetupStore
  | issue nonce seconds data =>
    match s.issued nonce with
    | some _ => none
    | none => some { s.put nonce ⟨data, s.now + seconds * 1000⟩ with
        issued := fun n => if n = nonce then some (s.now + seconds * 1000) else s.issued n }
  | remove nonce => some { s with redis := fun n => if n = nonce then none else s.redis n }
  | relink protocolId group =>
    some { s with settings := fun p => if p = protocolId then group else s.settings p }
  | elapse ms => some { s with now := s.now + ms }

/-- Any number of messages to the bots of protocols. -/
def setups : System SetupCalls Err Unit BotMessage SetupStore SetupChoice SetupEvent where
  handler := SetupStore.handle
  code m _ := setupGroup m
  outside e s := e.apply s

/-- A pool of messages. -/
abbrev SetupPool := Pool SetupCalls Err Unit BotMessage SetupStore SetupChoice

/-- A message that is handled. -/
abbrev SetupThread := Thread SetupCalls Err Unit BotMessage SetupStore SetupChoice

/-- A call that was answered. -/
abbrev SetupCall := Event SetupCalls Err SetupStore SetupChoice

/-- A step of a pool. -/
abbrev SetupLabel := Label BotMessage SetupChoice SetupEvent

/-- The pool in which no nonce has been issued. -/
def noNonces (settings : JsString → Option (Option JsString)) (now : Millis) : SetupPool :=
  Pool.empty { settings := settings, now := now }

/-! ### Nonces that are used once -/

/-- A call that linked a group. -/
def linksGroup (e : SetupCall) : Bool :=
  match (e.op : SetupOp) with
  | .settingsUpdate protocolId _ => e.choice.fault.applies && (e.before.settings protocolId).isSome
  | _ => false

/-- The data that a call found under a nonce. -/
def found? : (o : SetupOp) → Except Err o.Res → Option NonceData
  | .redisGet _, .ok data => data.join
  | _, _ => none

/-- A message's call found data that are for its bot. -/
def Finds (m : BotMessage) (e : SetupCall) : Prop :=
  ∃ data ∈ found? e.op e.reply, data.isFor m.protocolId = true

instance (m : BotMessage) (e : SetupCall) : Decidable (Finds m e) := by unfold Finds; infer_instance

/-- A message's group was linked. -/
def Linked (t : SetupThread) : Prop := ∃ e ∈ t.trace, linksGroup e = true

instance (t : SetupThread) : Decidable (Linked t) := by unfold Linked; infer_instance

/-- A nonce was found while it was neither completed nor past its lifetime. -/
def Fresh (nonce : JsString) (e : SetupCall) : Prop :=
  (∀ data ∈ found? e.op e.reply, data.status ≠ some (js "completed")) ∧
    ∃ end_ ∈ e.before.issued nonce, e.before.now < end_

instance (nonce : JsString) (e : SetupCall) : Decidable (Fresh nonce e) := by unfold Fresh; infer_instance

/-- All groups that were linked through a nonce are one, and each found the nonce while it was fresh. -/
def SingleUse (p : SetupPool) : Prop :=
  ∀ t ∈ p.threads, Linked t → ∀ nonce ∈ t.request.nonce?,
    (∀ u ∈ p.threads, Linked u → u.request.nonce? = some nonce → u.request.chatId = t.request.chatId) ∧
      ∀ e ∈ t.trace, Finds t.request e → Fresh nonce e

instance (p : SetupPool) : Decidable (SingleUse p) := by unfold SingleUse; infer_instance

/-- A message that found its nonce will link its group, or has. -/
def Pending (t : SetupThread) : Prop :=
  (∃ e ∈ t.trace, Finds t.request e) ∧ (t.prog.running = true ∨ Linked t)

instance (t : SetupThread) : Decidable (Pending t) := by unfold Pending; infer_instance

/-- A nonce is found only before it was completed, and while no message of another group that found it will
link that group, or has. -/
def FoundOnce (p : SetupPool) : SetupLabel → Prop
  | .pick i c => ∀ t ∈ p.threads[i]?, ∀ o ∈ t.prog.next?,
      Finds t.request (SetupStore.handle.event c.2 p.store o) →
        (∀ data ∈ found? o (SetupStore.handle c.2 p.store o).1, data.status ≠ some (js "completed")) ∧
          ∀ u ∈ p.threads, Pending u → u.request.nonce? = t.request.nonce? →
            u.request.chatId = t.request.chatId
  | _ => True

instance (p : SetupPool) (l : SetupLabel) : Decidable (FoundOnce p l) := by
  unfold FoundOnce; split <;> infer_instance

end HeraldGateway.TelegramMigrationService
