import Botman.Library.KeyedTable
import Botman.Library.PythonValue

/-!
The rows of the application's main tables and the database that holds them.

Columns keep the names of the models.  Times are microseconds since the epoch;
a date is the number of whole days of a time.
-/

namespace Botman.DataModel

open Botman.Library.KeyedTable
open Botman.Library.PythonValue

inductive Role where
  | user
  | admin
  deriving DecidableEq, Repr

/-- An account.  Automatic keys start at one, so the identifier of a stored
user is never falsy. -/
structure User where
  id : Nat
  isSuperuser : Bool
  role : Role
  id_pos : 0 < id
  deriving DecidableEq

abbrev Uuid := BitVec 128

def hexDigit (n : Nat) : Char :=
  if n < 10 then Char.ofNat (48 + n) else Char.ofNat (87 + n)

/-- The last digits of a number, so many of them. -/
def hexText : Nat → Nat → List Char
  | 0, _ => []
  | count + 1, n => hexText count (n / 16) ++ [hexDigit (n % 16)]

/-- `str(uuid)`: groups of 8, 4, 4, 4 and 12 digits. -/
def uuidText (u : Uuid) : String :=
  let digits := hexText 32 u.toNat
  let group := fun start count => String.ofList ((digits.drop start).take count)
  join "-" [group 0 8, group 8 4, group 12 4, group 16 4, group 20 12]

/-- A row of `Chatbot`. -/
structure Chatbot where
  id : Nat
  name : String
  description : String
  systemPrompt : String
  selectedLlm : String
  providerConfig : Option Nat
  botType : String
  personality : String
  tone : String
  fallbackBehavior : String
  widgetToken : Uuid
  allowedDomains : String
  isActive : Bool
  isPublished : Bool
  publishedConfig : Dict
  botPromptConfig : Json
  formattingConfig : Json
  owner : Nat

/-- `Chatbot.LLM_CHOICES`, the stored values. -/
def llmChoices : List String := ["openai", "gemini"]

/-- `Chatbot.BOT_TYPE_CHOICES`, the stored values. -/
def botTypeChoices : List String := ["sales", "support", "marketing", "faq", "custom"]

/-- A row of `Visitor`. -/
structure Visitor where
  id : Nat
  externalId : String
  deriving DecidableEq

/-- A row of `Conversation`; the foreign keys are the keys of the rows they name. -/
structure Conversation where
  id : Nat
  chatbot : Nat
  visitorIdentifier : String
  visitor : Option Nat
  session : Option Nat
  isPreview : Bool
  startedAt : Nat
  deriving DecidableEq

inductive Sender where
  | user
  | bot
  deriving DecidableEq, Repr

/-- A row of `Message`.  Times are in microseconds. -/
structure Message where
  id : Nat
  conversation : Nat
  sender : Sender
  content : String
  createdAt : Nat
  latency : Option ℚ
  tokenUsage : Int
  source : Option String
  confidenceScore : Option ℚ
  deriving DecidableEq

/-- A row of `TokenUsage`. -/
structure TokenUsage where
  id : Nat
  chatbot : Nat
  provider : String
  tokensInput : Int
  tokensOutput : Int
  totalTokens : Int
  deriving DecidableEq

instance : HasKey Chatbot where
  key := Chatbot.id
  withKey := fun n r => { r with id := n }
  key_withKey := fun _ _ => rfl

instance : HasKey Visitor where
  key := Visitor.id
  withKey := fun n r => { r with id := n }
  key_withKey := fun _ _ => rfl

instance : HasKey Conversation where
  key := Conversation.id
  withKey := fun n r => { r with id := n }
  key_withKey := fun _ _ => rfl

instance : HasKey Message where
  key := Message.id
  withKey := fun n r => { r with id := n }
  key_withKey := fun _ _ => rfl

instance : HasKey TokenUsage where
  key := TokenUsage.id
  withKey := fun n r => { r with id := n }
  key_withKey := fun _ _ => rfl

/-- The tables that a conversation reads and writes. -/
structure Database where
  chatbots : Table Chatbot
  visitors : Table Visitor
  conversations : Table Conversation
  messages : Table Message
  tokenUsages : Table TokenUsage

def Database.empty : Database where
  chatbots := .empty
  visitors := .empty
  conversations := .empty
  messages := .empty
  tokenUsages := .empty

/-- The day of a time. -/
def dateOf (time : Nat) : Nat :=
  time / 86400000000

/-- The owner of a stored chatbot. -/
def ownerOfChatbot (db : Database) (chatbot : Nat) : Option Nat :=
  (db.chatbots.get? chatbot).map Chatbot.owner

theorem ownerOfChatbot_of_mem {db : Database} {bot : Chatbot} (hbot : bot ∈ db.chatbots.rows) :
    ownerOfChatbot db bot.id = some bot.owner := by
  have hget : db.chatbots.get? bot.id = some bot := (db.chatbots.get?_eq_some_iff).mpr ⟨hbot, rfl⟩
  rw [ownerOfChatbot, hget]
  rfl

/-- The owner of the chatbot a conversation belongs to, by the conversation's
key. -/
def ownerOfConversation (db : Database) (conversation : Nat) : Option Nat :=
  (db.conversations.get? conversation).bind fun c => ownerOfChatbot db c.chatbot

end Botman.DataModel
