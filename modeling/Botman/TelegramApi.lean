import Botman.AnalyticsTask

/-!
The Telegram integration: the background task that answers a message of a
Telegram chat.
-/

namespace Botman.TelegramApi

open Botman.Library.KeyedTable
open Botman.Library.PythonValue
open Botman.DataModel
open Botman.TenantContext
open Botman.ChatService
open Botman.AnalyticsTask

/-- The call of a worker, where no tenant is set. -/
def telegramCall (repr : Json → String) (bot : Chatbot) (telegramUserId text : Json) :
    ChatCall where
  tenant := clearTenantContext
  bot := bot
  visitorId := "telegram_" ++ str repr telegramUserId
  message := text
  stream := false
  previewMode := false

/-- `TelegramService.process_telegram_message`. -/
def processTelegramMessage (repr : Json → String) (env : ChatEnv) (db : Database)
    (bot : Chatbot) (telegramUserId text : Json) : Database × ChatResult :=
  processChatMessage repr env db (telegramCall repr bot telegramUserId text)

/-- The text that `send_telegram_message` is called with, if it is. -/
def telegramReply : ChatResult → Option String
  | .answered text _ => if text = "" then none else some text
  | _ => none

/-- `chatbot.telegram_integration`; the field is unique. -/
def integrationOf (store : Store) (chatbot : Nat) : Option TelegramIntegration :=
  store.telegramIntegrations.rows.find? fun r => r.chatbot = chatbot

/-- `process_telegram_message_task`.  What it raises is printed. -/
def processTelegramMessageTask (repr : Json → String) (env : ChatEnv) (store : Store)
    (botId : Nat) (chatId text : Json) : Store × Option String :=
  match store.chatbots.get? botId with
  | none => (store, none)
  | some bot =>
      if (integrationOf store bot.id).any TelegramIntegration.isActive then
        let out := processTelegramMessage repr env store.toDatabase bot chatId text
        ({ store with toDatabase := out.1 }, telegramReply out.2)
      else (store, none)

end Botman.TelegramApi
