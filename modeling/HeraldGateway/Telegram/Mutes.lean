import HeraldGateway.Async.Log
import HeraldGateway.Async.Pool
import HeraldGateway.Gateway.Footprint
import HeraldGateway.Telegram.Webhook

/-!
# Chats that want to hear nothing

Chats that blocked a bot, and chats that muted a protocol or a category.
-/

namespace HeraldGateway

open Async

/-!
## Blocked bots

A bot that a chat has blocked is answered *Forbidden*, and for a week the chat is not sent to. A chat may hear
from several bots, that of the gateway and those of protocols; which of them it has blocked the marker does
not say.
-/

/-- How long a chat is not sent to, in milliseconds. -/
def BLOCK_MS : Nat := 7 * 24 * 60 * 60 * 1000

/-- Sends of any bots to any chats. Others may clear markers, and change everything else; the clock goes
on. -/
def telegramSends (env : Env) : System Calls Err Unit TelegramParams World Choice World where
  handler := World.handle env
  code p _ := (sendNotification env p).bind fun _ => .ret ()
  outside w s := some { w with
    now := max s.now w.now
    redis := fun
      | .blocked chatId => if (w.redis (.blocked chatId)).isSome then s.redis (.blocked chatId) else none
      | key => w.redis key }

/-- A pool of sends. -/
abbrev SendPool := Pool Calls Err Unit TelegramParams World Choice

/-- A send that runs, or has run. -/
abbrev SendThread := Thread Calls Err Unit TelegramParams World Choice

/-- A call that a send made. -/
abbrev SendEvent := Event Calls Err World Choice

/-- A step of a pool of sends. -/
abbrev SendLabel := Label TelegramParams Choice World

/-- The bot that sends: a custom one, by its token, or that of the gateway. -/
def TelegramParams.bot (p : TelegramParams) : Option JsString :=
  if truthy p.customBotToken then p.customBotToken else none

/-- A bot is answered that the chat has blocked it. -/
def answersForbidden : (o : Op) → Except Err o.Res → Bool
  | .sendTelegram _, .error e => isForbidden e
  | _, _ => false

/-- The reply is a marker of a blocked chat. -/
def findsMarker : (o : Op) → Except Err o.Res → Bool
  | .redisGet (.blocked _), r => truthy (heard r)
  | _, _ => false

/-- The call writes the marker of a chat. -/
def Op.marks (chatId : JsString) : Op → Bool
  | .redisSetex (.blocked chatId') _ _ => chatId' == chatId
  | _ => false

/-- A marker was written that is in force at a time. -/
def marksUntil (chatId : JsString) (now : Millis) (e : SendEvent) : Bool :=
  e.op.marks chatId && e.choice.fault.applies && e.before.now ≤ now && now < e.before.now + BLOCK_MS

/-- The marker that a send wrote for its chat is in force at a time. -/
def MarksUntil (t : SendThread) (now : Millis) : Prop :=
  ∃ e ∈ t.trace, marksUntil t.request.chatId now e = true

instance (t : SendThread) (now : Millis) : Decidable (MarksUntil t now) := by
  unfold MarksUntil; infer_instance

/-- A send was answered that its chat has blocked its bot. -/
def WasForbidden (t : SendThread) : Prop := ∃ e ∈ t.trace, answersForbidden e.op e.reply = true

instance (t : SendThread) : Decidable (WasForbidden t) := by unfold WasForbidden; infer_instance

/-- Two sends are of the same bot to the same chat. -/
def SameBot (p q : TelegramParams) : Prop := p.chatId = q.chatId ∧ p.bot = q.bot

instance (p q : TelegramParams) : Decidable (SameBot p q) := by unfold SameBot; infer_instance

/-- A send is suppressed only if its own bot was answered that the chat has blocked it, within a week. -/
def BlocksPerBot (p : SendPool) : Prop :=
  ∀ t ∈ p.threads, ∀ e ∈ t.trace, findsMarker e.op e.reply = true →
    ∃ u ∈ p.threads, SameBot u.request t.request ∧ WasForbidden u ∧ MarksUntil u e.before.now

instance (p : SendPool) : Decidable (BlocksPerBot p) := by unfold BlocksPerBot; infer_instance

/-- A send finds a marker only while no marker of another bot is in force for its chat. -/
def FindsOwnMarker (env : Env) (p : SendPool) : SendLabel → Prop
  | .pick i c =>
    ∀ t ∈ p.threads[i]?, ∀ o ∈ t.prog.next?, findsMarker o (World.handle env c.2 p.store o).1 = true →
      ∀ u ∈ p.threads, u.request.chatId = t.request.chatId → MarksUntil u p.store.now →
        u.request.bot = t.request.bot
  | _ => True

instance (env : Env) (p : SendPool) (l : SendLabel) : Decidable (FindsOwnMarker env p l) := by
  unfold FindsOwnMarker; split <;> infer_instance

/-!
## Mutes

A chat that mutes a protocol or a category is told so, and should hear nothing of it for thirty days, unless
it takes the mute back. What mutes it and what sends to it run at the same time.
-/

/-- What concerns a chat. -/
inductive ChatTask where
  /-- A job is delivered to a subscriber's chat, and to the group of its protocol. -/
  | deliver (chatId : JsString) (job : NotificationJobData) (assets : List ProtocolAsset)
  /-- The bot of the gateway receives an update. -/
  | update (u : Update)
  /-- The bot of a protocol receives an update. -/
  | customUpdate (protocolId : JsString) (u : Update)
  deriving DecidableEq, Repr

/-- A mark that a chat has muted something. -/
def RedisKey.isMute : RedisKey → Bool
  | .protocolMute .. | .categoryMute .. => true
  | _ => false

/-- The code of a task. -/
def ChatTask.code (env : Env) : ChatTask → Gateway Unit
  | deliver chatId job assets => (deliverTelegram env chatId job assets).bind fun _ => .ret ()
  | update u => handleUpdate env u
  | customUpdate protocolId u => handleCustomBotUpdate env protocolId u

/-- Deliveries and updates, over a world in which all but the mutes may change at any time; the clock goes
on. -/
def chatTasks (env : Env) : System Calls Err Unit ChatTask World Choice World where
  handler := World.handle env
  code task _ := task.code env
  outside w s := some { w with
    now := max s.now w.now
    redis := fun key => if key.isMute then s.redis key else w.redis key }

/-- A pool of deliveries and updates. -/
abbrev ChatPool := Pool Calls Err Unit ChatTask World Choice

/-- A delivery or an update that runs, or has run. -/
abbrev ChatThread := Thread Calls Err Unit ChatTask World Choice

/-- A call of a delivery or an update. -/
abbrev ChatEvent := Event Calls Err World Choice

/-- A step of a pool of deliveries and updates. -/
abbrev ChatLabel := Label ChatTask Choice World

/-- How long a mute lasts, in milliseconds. -/
def MUTE_MS : Nat := MUTE_TTL_SECONDS * 1000

/-- The messages that a mute is about. -/
def RedisKey.silences : RedisKey → TelegramParams → Bool
  | .protocolMute chatId protocolId, m => m.chatId == chatId && m.protocolId == protocolId
  | .categoryMute chatId category, m => m.chatId == chatId && m.category == category
  | _, _ => false

/-- The mute that a call sets. -/
def Op.mutes? : Op → Option RedisKey
  | .redisSetex key _ _ => if key.isMute then some key else none
  | _ => none

/-- The call tells a chat that it muted something. -/
def Op.acknowledges : Op → Bool
  | .answerCbQuery _ text => text == some MUTED
  | .sendMessage _ text => VALID_CATEGORIES.any fun cat => text == mutedText cat
  | _ => false

/-- The call sends a message that a mute is about. -/
def Op.breaks (key : RedisKey) : Op → Bool
  | .sendTelegram m => key.silences m
  | _ => false

/-- The call sets a mute. -/
def setsMute (key : RedisKey) (e : ChatEvent) : Bool := e.op.mutes? == some key && e.choice.fault.applies

/-- A chat is told that it muted something. -/
def tellsMuted (e : ChatEvent) : Bool := e.op.acknowledges && e.choice.fault.applies

/-- The call takes a mute back. -/
def clearsMute (key : RedisKey) (e : ChatEvent) : Bool :=
  match e.op with
  | .redisDel key' => key' == key && e.choice.fault.applies
  | _ => false

/-- A message is sent in spite of a mute. -/
def breaksMute (key : RedisKey) (e : ChatEvent) : Bool := e.op.breaks key && e.choice.fault.applies

/-- Once an update has set a mute and acknowledged it, no message that it is about is sent while it lasts,
unless it was taken back since. -/
def MutesHonoured (log : List (Nat × ChatEvent)) : Prop :=
  ∀ pre set mid ack post e rest key, log = pre ++ set :: (mid ++ ack :: (post ++ e :: rest)) →
    setsMute key set.2 = true → ack.1 = set.1 → tellsMuted ack.2 = true → breaksMute key e.2 = true →
      e.2.before.now < set.2.before.now + MUTE_MS → ∃ c ∈ mid ++ post, clearsMute key c.2 = true

/-! ### The condition -/

/-- The mutes that a task takes for absent if a read of it finds nothing: of a chat, and of a group that it
goes on to post to. -/
def ChatTask.guards : ChatTask → Op → List RedisKey
  | .deliver _ job _, .redisGet (.groupSent _ chatId) =>
    [.protocolMute chatId job.protocolId, .categoryMute chatId job.category]
  | .deliver .., .redisGet key => [key]
  | _, _ => []

/-- The reply is no mark. -/
def findsNothing : (o : Op) → Except Err o.Res → Bool
  | .redisGet _, r => !truthy (heard r)
  | _, _ => false

/-- A task took a mute for absent. -/
def Ignores (key : RedisKey) (t : ChatThread) : Prop :=
  ∃ e ∈ t.trace, key ∈ t.request.guards e.op ∧ findsNothing e.op e.reply = true

instance (key : RedisKey) (t : ChatThread) : Decidable (Ignores key t) := by unfold Ignores; infer_instance

/-- A delivery takes a mute for absent only where none is in force, and a mute is acknowledged only once no
delivery runs that took it for absent. -/
def HeedsMutes (env : Env) (p : ChatPool) : ChatLabel → Prop
  | .pick i c => ∀ t ∈ p.threads[i]?, ∀ o ∈ t.prog.next?,
      (findsNothing o (World.handle env c.2 p.store o).1 = true →
        ∀ key ∈ t.request.guards o, key.isMute = true → Timed.live p.store.now (p.store.redis key) = none) ∧
      (o.acknowledges = true → ∀ e ∈ t.trace, ∀ key ∈ e.op.mutes?,
        ∀ u ∈ p.threads, u.prog.running = true → ¬ Ignores key u)
  | _ => True

instance (env : Env) (p : ChatPool) (l : ChatLabel) : Decidable (HeedsMutes env p l) := by
  unfold HeedsMutes; split <;> infer_instance

end HeraldGateway
