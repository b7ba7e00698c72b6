import HeraldGateway.Operations
import HeraldGateway.Js

/-!
# Updates from Telegram

`TelegramWebhookService` and `TelegramMigrationService`: what the bot of the gateway and that of a protocol do
with a tap on the button that mutes a protocol, and with the commands that mute a category, unmute it and list
them all. Updates that touch no mutes are left out.
-/

namespace HeraldGateway

open Async

variable (env : Env)

/-- An update. -/
inductive Update where
  /-- A tap on a button. -/
  | callback (chatId : Option JsString) (data queryId : JsString)
  /-- A text, with who sent it and the kind of the chat. -/
  | message (chatId userId chatType : Option JsString) (text : JsString)
  deriving DecidableEq, Repr

/-- `MUTE_TTL_SECONDS` -/
def MUTE_TTL_SECONDS : Nat := 30 * 24 * 60 * 60

/-- `CATEGORY_EMOJI` -/
def CATEGORY_EMOJI : List (JsString × JsString) :=
  [(js "defi", js "💰"), (js "governance", js "🗳️"), (js "system", js "⚙️"), (js "marketing", js "📢")]

/-- `VALID_CATEGORIES` -/
def VALID_CATEGORIES : List JsString := CATEGORY_EMOJI.map (·.1)

/-- `CATEGORY_EMOJI[cat] ?? '🔔'` -/
def categoryEmoji (cat : JsString) : JsString := ((CATEGORY_EMOJI.find? (·.1 == cat)).map (·.2)).getD (js "🔔")

/-- `escapeHtml` of these services, which leaves quotes as they are. -/
def Update.escapeHtml (text : JsString) : JsString :=
  text.flatMap fun u =>
    if u = 38 then js "&amp;"
    else if u = 60 then js "&lt;"
    else if u = 62 then js "&gt;"
    else [u]

/-- The bot sends a text; that it fails is ignored. -/
def say (chatId text : JsString) : Gateway Unit := swallow (call (.sendMessage chatId text))

/-- The bot answers a tap; that it fails is ignored. -/
def answer (queryId text : JsString) : Gateway Unit := swallow (call (.answerCbQuery queryId (some text)))

/-- The bot acknowledges a tap without a text. -/
def clearSpinner (queryId : JsString) : Gateway Unit :=
  if queryId.isEmpty then return () else swallow (call (.answerCbQuery queryId none))

/-! ### The button -/

/-- What a chat is told that has muted a protocol. -/
def MUTED : JsString := js "🔇 Muted. You won't receive Telegram notifications from this protocol."

/-- What a chat is told whose notification is not stored. -/
def NOT_FOUND : JsString := js "⚠️ Notification not found."

/-- `handleMuteCallback` -/
def handleMuteCallback (chatId notifId queryId : JsString) : Gateway Unit := do
  match ← call (.notificationFindUnique notifId) with
  | none => answer queryId NOT_FOUND
  | some protocolId =>
    call (.redisSetex (.protocolMute chatId protocolId) MUTE_TTL_SECONDS (js "1"))
    answer queryId MUTED

/-- `handleCallbackQuery` -/
def handleCallbackQuery (chatId data queryId : JsString) : Gateway Unit :=
  if (js "mute_").isPrefixOf data then
    (handleMuteCallback chatId (data.drop 5) queryId).tryCatch fun _ => clearSpinner queryId
  else clearSpinner queryId

/-- The branch of `handleCustomBotCallbackQuery` for the button that mutes. Unlike the bot of the gateway,
that of a protocol takes a notification without a protocol for none. -/
def customMuteCallback (chatId notifId queryId : JsString) : Gateway Unit := do
  let protocolId ← call (.notificationFindUnique notifId)
  if truthy protocolId then
    call (.redisSetex (.protocolMute chatId (protocolId.getD [])) (30 * 24 * 60 * 60) (js "1"))
    answer queryId MUTED
  else answer queryId NOT_FOUND

/-- `handleCustomBotCallbackQuery` -/
def handleCustomBotCallbackQuery (chatId data queryId : JsString) : Gateway Unit :=
  if chatId.isEmpty then clearSpinner queryId
  else if (js "mute_").isPrefixOf data then
    (customMuteCallback chatId (data.drop 5) queryId).tryCatch fun _ => clearSpinner queryId
  else clearSpinner queryId

/-! ### The commands -/

/-- How a command is used, which the bots say in their own words. -/
def usage (command categories : JsString) : JsString :=
  js "Usage: " ++ command ++ js " &lt;category&gt;\n\n" ++ categories ++ js " categories: " ++
    join (js ", ") VALID_CATEGORIES

/-- What a chat is told that names a category which does not exist. -/
def unknownCategory (cat : JsString) : JsString :=
  js "❌ Unknown category <b>" ++ Update.escapeHtml cat ++ js "</b>."

/-- What a chat is told that has muted a category. -/
def mutedText (cat : JsString) : JsString :=
  js "🔇 " ++ categoryEmoji cat ++ js " <b>" ++ cat ++
    js "</b> notifications muted for 30 days.\n\nUse /unmute " ++
    cat ++ js " to re-enable."

/-- What a chat is told that has unmuted a category. -/
def unmutedText (cat : JsString) : JsString :=
  js "🔔 " ++ categoryEmoji cat ++ js " <b>" ++ cat ++ js "</b> notifications re-enabled."

/-- Mute a category, given in lower case. -/
def muteCategory (categories chatId : JsString) (category : Option JsString) : Gateway Unit :=
  let cat := category.getD []
  if cat.isEmpty then say chatId (usage (js "/mute") categories)
  else if !VALID_CATEGORIES.contains cat then
    say chatId (unknownCategory cat ++ js "\n\nValid categories: " ++ join (js ", ") VALID_CATEGORIES)
  else do
    call (.redisSetex (.categoryMute chatId cat) MUTE_TTL_SECONDS (js "1"))
    say chatId (mutedText cat)

/-- Unmute a category, given in lower case. -/
def unmuteCategory (categories chatId : JsString) (category : Option JsString) : Gateway Unit :=
  let cat := category.getD []
  if cat.isEmpty then say chatId (usage (js "/unmute") categories)
  else if !VALID_CATEGORIES.contains cat then say chatId (unknownCategory cat)
  else do
    call (.redisDel (.categoryMute chatId cat))
    say chatId (unmutedText cat)

/-- The line of a category in the list of all. -/
def categoryLine (chatId : JsString) (entry : JsString × JsString) : Gateway JsString := do
  let muted ← orNull (call (.redisGet (.categoryMute chatId entry.1)))
  return entry.2 ++ js " <b>" ++ entry.1 ++ js "</b> — " ++
    if truthy muted then js "🔇 muted" else js "✅ active"

/-- `handleCategoriesCommand` -/
def handleCategoriesCommand (chatId : JsString) : Gateway Unit := do
  let lines ← Prog.mapEach (categoryLine chatId) CATEGORY_EMOJI
  say chatId (join (js "\n") (js "<b>Notification categories:</b>\n" :: lines ++
    [js "\nUse /mute &lt;category&gt; or /unmute &lt;category&gt; to change."]))

/-- `handleMuteCommand` -/
def handleMuteCommand (chatId : JsString) (category : Option JsString) : Gateway Unit :=
  muteCategory (js "Available") chatId (category.map toLowerCase)

/-- `handleUnmuteCommand` -/
def handleUnmuteCommand (chatId : JsString) (category : Option JsString) : Gateway Unit :=
  unmuteCategory (js "Available") chatId (category.map toLowerCase)

/-! ### The bot of the gateway -/

/-- `text.split(' ')[1]?.trim()` -/
def namedCategory (text : JsString) : Option JsString := ((splitOn 32 text)[1]?).map trim

/-- `handleUpdate` -/
def handleUpdate : Update → Gateway Unit
  | .callback chatId data queryId =>
    if env.telegramReady then handleCallbackQuery (chatId.getD []) data queryId else return ()
  | .message chatId _ _ text =>
    if !env.telegramReady || text.isEmpty then return ()
    else
      let chatId := chatId.getD (js "undefined")
      let command := toLowerCase ((splitOn 32 (trim text)).headD [])
      if command = js "/mute" then handleMuteCommand chatId (namedCategory (trim text))
      else if command = js "/unmute" then handleUnmuteCommand chatId (namedCategory (trim text))
      else if command = js "/categories" then handleCategoriesCommand chatId
      else return ()

/-! ### The bot of a protocol -/

/-- `getCustomBotToken` -/
def getCustomBotToken (protocolId : JsString) : Gateway (Option JsString) :=
  match env.decryptBotToken with
  | none => return none
  | some decrypt => do
    let settings ← call (.protocolSettingsFindUnique protocolId)
    match settings.bind (·.telegramBotTokenEncrypted) with
    | none => return none
    | some encrypted => match decrypt encrypted with
      | .ok token => return some token
      | .error _ => return none

/-- `checkIsAdmin` -/
def checkIsAdmin (chatId userId : JsString) : Gateway Bool :=
  Prog.tryCatch (do
    let status ← call (.getChatMember chatId userId)
    return [js "creator", js "administrator"].contains status) fun _ => .ret false

/-- `verifyGroupAdmin` -/
def verifyGroupAdmin (chatId : JsString) (userId chatType : Option JsString) : Gateway Bool :=
  if !([js "group", js "supergroup"].contains (chatType.getD [])) then return true
  else match userId with
    | none => return false
    | some userId => checkIsAdmin chatId userId

/-- `handleCustomBotMessageText` -/
def handleCustomBotMessageText (chatId : JsString) (userId chatType : Option JsString) (text : JsString) :
    Gateway Unit :=
  let command := toLowerCase ((splitOn 64 ((splitOn 32 text).headD [])).headD [])
  let category := (namedCategory text).map toLowerCase
  let whenAdmin (p : Gateway Unit) : Gateway Unit := do
    if ← verifyGroupAdmin chatId userId chatType then p else return ()
  if command = js "/mute" then whenAdmin (muteCategory (js "Valid") chatId category)
  else if command = js "/unmute" then whenAdmin (unmuteCategory (js "Valid") chatId category)
  else if command = js "/categories" then whenAdmin (handleCategoriesCommand chatId)
  else return ()

/-- `handleCustomBotUpdate` -/
def handleCustomBotUpdate (protocolId : JsString) (update : Update) : Gateway Unit := do
  let token ← getCustomBotToken env protocolId
  if !truthy token then
    return ()
  else match update with
    | .callback chatId data queryId => handleCustomBotCallbackQuery (chatId.getD []) data queryId
    | .message chatId userId chatType text =>
      if !truthy chatId || text.isEmpty then return ()
      else handleCustomBotMessageText (chatId.getD []) userId chatType (trim text)

end HeraldGateway
